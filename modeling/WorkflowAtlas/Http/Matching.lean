import WorkflowAtlas.Regex.Reader
import WorkflowAtlas.Http.Verb

/-!
# Matching requests with routes

A request **matches** a route when their verbs agree and the request's path is the route's, or is
one that the route's path with its parameters stands for. A parameter is a segment `:name` or
`{name}` and stands for one segment that is not empty.
-/

namespace WorkflowAtlas.Http

open WorkflowAtlas.Text

/-- **How sure a match is**: the paths are equal, or equal up to parameters. -/
inductive Confidence where
  | exact
  | fuzzy
  deriving DecidableEq, Repr, Inhabited

/-- The word for a confidence. -/
def Confidence.name : Confidence → String
  | .exact => "exact"
  | .fuzzy => "fuzzy"

/-- A path without its trailing slashes; nothing is left of `/` but itself. -/
def trimSlashes (path : String) : List Char :=
  match dropEndWhile (· == '/') path.toList with
  | [] => ['/']
  | cs => cs

/-- **A parameter**: a segment that starts with `:` or stands in braces. -/
def isParameter (segment : List Char) : Bool :=
  segment.head? == some ':' || (segment.head? == some '\x7b' && segment.getLast? == some '\x7d')

/-- The pattern of a segment of a route: itself, or for a parameter any segment that is not empty. -/
def segmentPattern (segment : List Char) : List Char :=
  if isParameter segment then "[^/]+".toList else Regex.escape segment

/-- **The pattern of a route**: its segments, from the start of a path to its end. -/
def routePattern (segments : List (List Char)) : String :=
  String.ofList ('^' :: (joinWith ['/'] (segments.map segmentPattern) ++ ['$']))

/-- **Whether a request matches a route**, and how surely. -/
def matchPaths (route request routeVerb requestVerb : String) : Option Confidence :=
  if !sameButCase routeVerb requestVerb then none
  else
    let route := trimSlashes route
    let request := trimSlashes request
    if route = request then some .exact
    else
      let segments := pieces (· == '/') route
      if segments.any isParameter then
        match Regex.parse? (routePattern segments) with
        | some pattern => if pattern.isFoundIn (String.ofList request) then some .fuzzy else none
        | none => none
      else none

end WorkflowAtlas.Http
