import WorkflowAtlas.FileSet
import WorkflowAtlas.Glob

/-!
# Ignore rules

An ignore file has one rule a line. A rule is a glob for paths below the directory of the file; `!` in
front makes it a rule to keep, and a slash at the end a rule for directories. A glob without a slash may
match at any depth. Of the rules of a file the last that matches decides; of the files, the one in the
innermost directory that decides.
-/

namespace WorkflowAtlas

/-- What rules say of a path. -/
inductive Verdict where
  | ignore
  | keep
  deriving DecidableEq, Repr

/-- **A rule of an ignore file.** -/
structure IgnoreRule where
  glob : Glob
  verdict : Verdict
  directoriesOnly : Bool
  deriving Repr

namespace IgnoreRule

/-- The line without blanks at its end, unless the last of them is escaped. -/
def trimLine (cs : List Char) : List Char :=
  if (Text.before? ['\\', ' '] cs).isSome then cs else Text.dropEndWhile Text.isBlank cs

/-- What a line says apart from its glob: the verdict, whether a slash in front ties the glob to the
directory of the file, and the glob. -/
def marks : List Char → Verdict × Bool × List Char
  | '\\' :: '!' :: rest => (.ignore, false, '!' :: rest)
  | '\\' :: '#' :: rest => (.ignore, false, '#' :: rest)
  | '!' :: '/' :: rest => (.keep, true, rest)
  | '!' :: rest => (.keep, false, rest)
  | '/' :: rest => (.ignore, true, rest)
  | cs => (.ignore, false, cs)

/-- A glob without the slash at its end, and whether there was one; a backslash before it goes too. -/
def directoryMark (cs : List Char) : Bool × List Char :=
  match cs.reverse with
  | '/' :: '\\' :: rest => (true, rest.reverse)
  | '/' :: rest => (true, rest.reverse)
  | _ => (false, cs)

/-- The glob for whole paths: one without a slash matches at any depth, and one that ends in `/**`
matches what is inside and not the directory. -/
def wholeGlob (tied : Bool) (cs : List Char) : List Char :=
  let cs :=
    if tied || cs.contains '/' || cs = ['*', '*'] then cs
    else "**/".toList ++ cs
  if (Text.before? "/**".toList cs).isSome then cs ++ "/*".toList else cs

/-- **The rule of a line**; comments, empty lines and globs that cannot be read give none. -/
def ofLine? (line : String) : Option IgnoreRule :=
  match line.toList with
  | '#' :: _ => none
  | cs =>
    match trimLine cs with
    | [] => none
    | cs =>
      let (verdict, tied, cs) := marks cs
      let (directoriesOnly, cs) := directoryMark cs
      match Glob.parseLine (String.ofList (wholeGlob tied cs)) with
      | .ok glob => some { glob, verdict, directoriesOnly }
      | .error _ => none

/-- The lines of a text; a carriage return at the end of one goes with the line break, and byte order
marks in front of the first do not count. -/
def lines (text : String) : List String :=
  let all := Text.pieces (· == '\n') (text.toList.dropWhile (· == '\ufeff'))
  all.map fun cs => String.ofList ((Text.before? ['\r'] cs).getD cs)

/-- **The rules of an ignore file.** -/
def ofText (text : String) : List IgnoreRule :=
  (lines text).filterMap ofLine?

/-- **What rules say of a path**: the last one that matches decides. -/
def decide? (rules : List IgnoreRule) (path : String) (isDirectory : Bool) : Option Verdict :=
  (rules.reverse.find? fun rule => (!rule.directoriesOnly || isDirectory) && rule.glob.isMatch path).map (·.verdict)

end IgnoreRule

end WorkflowAtlas
