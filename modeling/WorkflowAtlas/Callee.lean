import WorkflowAtlas.Text.Blank
import WorkflowAtlas.Text.Cut

/-!
# Callees

A **callee** is the text of the expression in front of a call's arguments: `client.chat.create`,
`std::fs::read`, `obj->run`. Its **simple name** is the last segment and its **receiver** is what
comes before it. Two spellings of one callee that differ in blanks or in optional chaining are
brought together by `normalize`.
-/

namespace WorkflowAtlas.Callee

open WorkflowAtlas.Text

/-- A character that ends a segment of a callee: the `.` of a member, the `:` of a path, the `>` of
an arrow. -/
def isJoint (c : Char) : Bool :=
  c == '.' || c == ':' || c == '>'

/-- A reversed callee without the empty argument lists `()` at its end. -/
def dropEmptyCalls : List Char → List Char
  | ')' :: '(' :: r => dropEmptyCalls r
  | r => r

/-- **The simple name**: the last segment, empty argument lists at the end set aside. -/
def simpleName (callee : String) : String :=
  String.ofList ((dropEmptyCalls callee.toList.reverse).takeWhile fun c => !isJoint c).reverse

/-- **The receiver**: everything before the last joint, without the marks `:` and `-` that belong to
the joint. A callee of one segment has none. -/
def receiver? (callee : String) : Option String :=
  match callee.toList.reverse.dropWhile fun c => !isJoint c with
  | [] => none
  | _ :: before =>
    match before.dropWhile fun c => c == ':' || c == '-' with
    | [] => none
    | head => some (String.ofList head.reverse)

/-- **The normal spelling** of a callee: no blanks, and `?.` and then `!.` folded to `.`, each in one
pass from left to right. -/
def normalize (text : String) : String :=
  let bare := text.toList.filter fun c => !isBlank c
  String.ofList (replacePair '!' '.' ['.'] (replacePair '?' '.' ['.'] bare))

/-- Whether `text` is `name` with a member after it: `v.x`, `v::x` or `v->x`. -/
def isMemberOf (text name : String) : Bool :=
  match after? name.toList text.toList with
  | some ('.' :: _) => true
  | some (':' :: ':' :: _) => true
  | some ('-' :: '>' :: _) => true
  | _ => false

end WorkflowAtlas.Callee
