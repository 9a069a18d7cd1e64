import WorkflowAtlas.Yaml.Token

/-!
# YAML nodes

The nodes that tokens build: scalars, sequences, mappings, and aliases for nodes with an anchor. A node
that is left out is an empty plain scalar. Nodes are not copied where an alias stands, since a node may
hold an alias of itself; an alias is a number that is looked up among the anchored nodes.
-/

namespace WorkflowAtlas

/-- **A YAML node.** -/
inductive YamlNode where
  | scalar (anchor : Option Nat) (style : YamlStyle) (tag : Option String) (text : String)
  | sequence (anchor : Option Nat) (items : List YamlNode)
  | mapping (anchor : Option Nat) (members : List (YamlNode × YamlNode))
  | reference (number : Nat)
  deriving Repr, Inhabited

namespace YamlNode

/-- The node that stands where nothing is written. -/
def empty : YamlNode := .scalar none .plain none ""

mutual

/-- The anchored nodes of a node with their numbers, outer ones first. -/
def anchored : YamlNode → List (Nat × YamlNode)
  | .scalar anchor style tag text => (anchor.map (·, .scalar anchor style tag text)).toList
  | .sequence anchor items => (anchor.map (·, .sequence anchor items)).toList ++ anchoredItems items
  | .mapping anchor members => (anchor.map (·, .mapping anchor members)).toList ++ anchoredMembers members
  | .reference _ => []

def anchoredItems : List YamlNode → List (Nat × YamlNode)
  | [] => []
  | item :: rest => anchored item ++ anchoredItems rest

def anchoredMembers : List (YamlNode × YamlNode) → List (Nat × YamlNode)
  | [] => []
  | (key, value) :: rest => anchored key ++ anchored value ++ anchoredMembers rest

end

end YamlNode

namespace Yaml

/-! ## Reading nodes -/

/-- What is left of the tokens, and the numbers of the anchors so far. -/
structure Reading where
  tokens : List YamlToken
  anchors : List (String × Nat) := []

namespace Reading

def next (r : Reading) : YamlToken := r.tokens.head?.getD .streamEnd

def skip (r : Reading) : Reading := { r with tokens := r.tokens.drop 1 }

/-- The number of a new anchor is how many names there are so far. -/
def number (r : Reading) (name : String) : Nat × Reading :=
  let number := r.anchors.length
  (number, { r with anchors := (name, number) :: r.anchors.filter (·.1 ≠ name) })

end Reading

/-- What may stand in front of a node: an anchor and a tag, each at most once. -/
structure Properties where
  anchor : Option String := none
  tag : Option (String × String) := none

/-- The properties in front of a node. -/
def properties (r : Reading) : Properties × Reading :=
  match r.tokens with
  | .anchor name :: .tag front suffix :: rest => ({ anchor := some name, tag := some (front, suffix) }, { r with tokens := rest })
  | .tag front suffix :: .anchor name :: rest => ({ anchor := some name, tag := some (front, suffix) }, { r with tokens := rest })
  | .anchor name :: rest => ({ anchor := some name }, { r with tokens := rest })
  | .tag front suffix :: rest => ({ tag := some (front, suffix) }, { r with tokens := rest })
  | _ => ({}, r)

/-- A tag in full: what its handle stands for and the rest. A tag without a handle is in full already. -/
def fullTag? (handles : List (String × String)) : String × String → Option String
  | ("", suffix) => some suffix
  | (handle, suffix) => (handles.lookup handle).map (· ++ suffix)

mutual

/-- A node. A dash starts a sequence of its own collection only in a block, and one without indentation
only as the key or value of a mapping. Of any three calls in a row one consumes a token, so three times
their number is enough fuel. -/
def nodeFrom? (handles : List (String × String)) (fuel : Nat) (inBlock inMapping : Bool) (r : Reading) :
    Option (YamlNode × Reading) :=
  match fuel with
  | 0 => none
  | fuel + 1 =>
    match r.next with
    | .reference name => (r.anchors.lookup name).map fun number => (.reference number, r.skip)
    | _ => do
      let (props, r) := properties r
      let tag ← match props.tag with
        | none => some none
        | some tag => (fullTag? handles tag).map some
      let (anchor, r) := match props.anchor with
        | none => (none, r)
        | some name => let (n, r) := r.number name; (some n, r)
      match r.next with
      | .entry =>
        if inBlock && inMapping then do
          let (items, r) ← looseItemsFrom? handles fuel [] r
          some (.sequence anchor items, r)
        else if props.anchor.isSome || tag.isSome then some (.scalar anchor .plain tag "", r)
        else none
      | .scalar style text => some (.scalar anchor style (tag.filter (· ≠ "!")) text, r.skip)
      | .flowSequence => do
        let (items, r) ← flowItemsFrom? handles fuel true [] r.skip
        some (.sequence anchor items, r)
      | .flowMapping => do
        let (members, r) ← flowMembersFrom? handles fuel true [] r.skip
        some (.mapping anchor members, r)
      | token =>
        if inBlock && token = .blockSequence then do
          let (items, r) ← blockItemsFrom? handles fuel [] r.skip
          some (.sequence anchor items, r)
        else if inBlock && token = .blockMapping then do
          let (members, r) ← blockMembersFrom? handles fuel [] r.skip
          some (.mapping anchor members, r)
        else if props.anchor.isSome || tag.isSome then some (.scalar anchor .plain tag "", r)
        else none

/-- A node, or the empty one in front of some tokens. -/
def nodeUnless? (handles : List (String × String)) (fuel : Nat) (inBlock inMapping : Bool) (stops : List YamlToken)
    (r : Reading) : Option (YamlNode × Reading) :=
  match fuel with
  | 0 => none
  | fuel + 1 =>
    if stops.contains r.next then some (.empty, r) else nodeFrom? handles fuel inBlock inMapping r

/-- The items of a sequence of dashes up to its end. -/
def blockItemsFrom? (handles : List (String × String)) (fuel : Nat) (items : List YamlNode) (r : Reading) :
    Option (List YamlNode × Reading) :=
  match fuel with
  | 0 => none
  | fuel + 1 =>
    match r.next with
    | .entry => do
      let (item, r) ← nodeUnless? handles fuel true false [.entry, .blockEnd] r.skip
      blockItemsFrom? handles fuel (items ++ [item]) r
    | .blockEnd => some (items, r.skip)
    | _ => none

/-- The items of a sequence of dashes that are not indented; it ends with its last dash. -/
def looseItemsFrom? (handles : List (String × String)) (fuel : Nat) (items : List YamlNode) (r : Reading) :
    Option (List YamlNode × Reading) :=
  match fuel with
  | 0 => none
  | fuel + 1 =>
    match r.next with
    | .entry => do
      let (item, r) ← nodeUnless? handles fuel true false [.entry, .key, .value, .blockEnd] r.skip
      looseItemsFrom? handles fuel (items ++ [item]) r
    | _ => some (items, r)

/-- The members of a mapping in a block; a key or value may be left out. -/
def blockMembersFrom? (handles : List (String × String)) (fuel : Nat) (members : List (YamlNode × YamlNode))
    (r : Reading) : Option (List (YamlNode × YamlNode) × Reading) :=
  match fuel with
  | 0 => none
  | fuel + 1 =>
    match r.next with
    | .key => do
      let (key, r) ← nodeUnless? handles fuel true true [.key, .value, .blockEnd] r.skip
      let (value, r) ← match r.next with
        | .value => nodeUnless? handles fuel true true [.key, .value, .blockEnd] r.skip
        | _ => some (.empty, r)
      blockMembersFrom? handles fuel (members ++ [(key, value)]) r
    | .blockEnd => some (members, r.skip)
    | _ => none

/-- The items in brackets from one item on, `first` without a comma before it. A key makes an item a
mapping of one member; a key that is left out takes the next token with it. -/
def flowItemsFrom? (handles : List (String × String)) (fuel : Nat) (first : Bool) (items : List YamlNode) (r : Reading) :
    Option (List YamlNode × Reading) :=
  match fuel with
  | 0 => none
  | fuel + 1 =>
    if r.next = .flowSequenceEnd then some (items, r.skip)
    else if !first && r.next ≠ .comma then none
    else
      let r := if first then r else r.skip
      match r.next with
      | .flowSequenceEnd => some (items, r.skip)
      | .key => do
        let r := r.skip
        let (key, r) ←
          if [YamlToken.value, .comma, .flowSequenceEnd].contains r.next then some (.empty, r.skip)
          else nodeFrom? handles fuel false false r
        let (value, r) ← match r.next with
          | .value => nodeUnless? handles fuel false false [.comma, .flowSequenceEnd] r.skip
          | _ => some (.empty, r)
        flowItemsFrom? handles fuel false (items ++ [.mapping none [(key, value)]]) r
      | _ => do
        let (item, r) ← nodeFrom? handles fuel false false r
        flowItemsFrom? handles fuel false (items ++ [item]) r

/-- The members in braces from one member on, `first` without a comma before it. -/
def flowMembersFrom? (handles : List (String × String)) (fuel : Nat) (first : Bool)
    (members : List (YamlNode × YamlNode)) (r : Reading) : Option (List (YamlNode × YamlNode) × Reading) :=
  match fuel with
  | 0 => none
  | fuel + 1 =>
    if r.next = .flowMappingEnd then some (members, r.skip)
    else if !first && r.next ≠ .comma then none
    else
      let r := if first then r else r.skip
      match r.next with
      | .flowMappingEnd => some (members, r.skip)
      | .key => do
        let (key, r) ← nodeUnless? handles fuel false false [.value, .comma, .flowMappingEnd] r.skip
        let (value, r) ← match r.next with
          | .value => nodeUnless? handles fuel false false [.comma, .flowMappingEnd] r.skip
          | _ => some (.empty, r)
        flowMembersFrom? handles fuel false (members ++ [(key, value)]) r
      | _ => do
        let (key, r) ← nodeFrom? handles fuel false false r
        flowMembersFrom? handles fuel false (members ++ [(key, .empty)]) r

end

/-! ## Documents -/

/-- The directives in front of a document: one version at most, 1.1 or 1.2, and one meaning a handle. -/
def directivesFrom? : (versioned : Bool) → (handles : List (String × String)) → List YamlToken →
    Option (List (String × String) × List YamlToken)
  | versioned, handles, .version major minor :: rest =>
    if versioned ∨ major ≠ 1 ∨ (minor ≠ 1 ∧ minor ≠ 2) then none else directivesFrom? true handles rest
  | versioned, handles, .tagHandle handle expansion :: rest =>
    if (handles.lookup handle).isSome then none else directivesFrom? versioned (handles ++ [(handle, expansion)]) rest
  | _, handles, tokens => some (handles, tokens)

/-- What handles stand for when no directive says otherwise. -/
def standardHandles : List (String × String) :=
  [("!", "!"), ("!!", "tag:yaml.org,2002:")]

/-- Whether a token starts or ends a document. -/
def isBoundary : YamlToken → Bool
  | .version _ _ => true
  | .tagHandle _ _ => true
  | .documentStart => true
  | .documentEnd => true
  | .streamEnd => true
  | _ => false

/-- The root of the only document of a stream. A stream without a document has the empty node. -/
def ofTokens? (tokens : List YamlToken) : Option YamlNode := do
  let fuel := 3 * tokens.length + 4
  let root := fun (handles : List (String × String)) (tokens : List YamlToken) =>
    nodeFrom? (handles ++ standardHandles) fuel true false { tokens }
  let (node, rest) ← match tokens with
    | [] => none
    | .streamEnd :: _ => some (YamlNode.empty, tokens)
    | first :: _ =>
      if isBoundary first && first ≠ .documentEnd then do
        match ← directivesFrom? false [] tokens with
        | (handles, .documentStart :: rest) =>
          if rest.head?.any isBoundary then some (.empty, rest)
          else (root handles rest).map fun (node, r) => (node, r.tokens)
        | _ => none
      else (root [] tokens).map fun (node, r) => (node, r.tokens)
  if rest.dropWhile (· = .documentEnd) = [.streamEnd] then some node else none

end Yaml

/-- **A YAML value**: a node among the anchored nodes of its document. -/
structure YamlValue where
  anchored : List (Nat × YamlNode)
  node : YamlNode
  deriving Repr, Inhabited

namespace YamlValue

/-- The node itself, or the last node with the number that an alias gives. -/
def target? (value : YamlValue) : Option YamlNode :=
  match value.node with
  | .reference number => value.anchored.reverse.lookup number
  | node => some node

/-- Another node of the same document. -/
def withNode (value : YamlValue) (node : YamlNode) : YamlValue :=
  { value with node }

/-- **The value that a YAML text spells.** -/
def parse? (text : String) : Option YamlValue := do
  let root ← Yaml.ofTokens? (← Yaml.tokens? text)
  return ⟨root.anchored, root⟩

end YamlValue

end WorkflowAtlas
