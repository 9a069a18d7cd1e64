import Mathlib.Data.List.DropRight
import WorkflowAtlas.Http.Endpoint

/-!
# Endpoints are in normal form

An endpoint is cut out of a literal: interpolations are filled, the host of a URL is dropped, then the query,
then trailing slashes. Whatever the literal was, what is left is a **normal path**
(`isNormalPath_of_endpoint?`): a slash in front, neither query nor fragment, and no slash at the end but that
one. A literal with a slash in front always has an endpoint (`endpoint?_isSome`).
-/

namespace WorkflowAtlas.Http

open WorkflowAtlas.Text

/-- **A path in normal form.** -/
structure IsNormalPath (path : String) : Prop where
  slash : startsWith path "/"
  noQuery : '?' ∉ path.toList
  noFragment : '#' ∉ path.toList
  noTrailing : path ≠ "/" → ¬ endsWith path "/"

/-! ## Trailing slashes -/

theorem dropEndWhile_eq (p : Char → Bool) (cs : List Char) : dropEndWhile p cs = cs.rdropWhile p :=
  rfl

/-- Dropping characters at the end leaves the front as it is. -/
theorem dropEndWhile_isPrefix (p : Char → Bool) (cs : List Char) : dropEndWhile p cs <+: cs :=
  List.rdropWhile_prefix p cs

/-- What is left of a text starts with its first character. -/
theorem eq_of_dropEndWhile {p : Char → Bool} {c first : Char} {cs rest : List Char}
    (left : dropEndWhile p (c :: cs) = first :: rest) : first = c :=
  (List.cons_prefix_cons.mp (left ▸ dropEndWhile_isPrefix p (c :: cs))).1

/-- A path with a slash in front keeps it, and has no other one at its end. -/
theorem dropSlashes_cons (cs : List Char) : dropSlashes ('/' :: cs) = ['/'] ∨
    ∃ rest, dropSlashes ('/' :: cs) = '/' :: rest ∧ ('/' :: rest).getLast? ≠ some '/' := by
  unfold dropSlashes
  cases left : dropEndWhile (· == '/') ('/' :: cs) with
  | nil => exact .inl rfl
  | cons first rest =>
    obtain rfl := eq_of_dropEndWhile left
    refine .inr ⟨rest, rfl, ?_⟩
    rw [dropEndWhile_eq] at left
    have last := List.rdropWhile_last_not (· == '/') ('/' :: cs) (by simp [left])
    simp only [left] at last
    rw [List.getLast?_eq_some_getLast (List.cons_ne_nil _ _)]
    simpa using last

/-- Dropping slashes adds no character. -/
theorem mem_of_mem_dropSlashes {c : Char} {cs : List Char} (member : c ∈ dropSlashes ('/' :: cs)) : c ∈ '/' :: cs := by
  unfold dropSlashes at member
  split at member
  · rw [List.mem_singleton.mp member]
    exact List.mem_cons_self
  · exact (dropEndWhile_isPrefix _ _).subset member

theorem withSlash_eq (cs : List Char) : ∃ rest, withSlash cs = '/' :: rest ∧ ∀ c ∈ rest, c ∈ cs := by
  unfold withSlash
  split
  · next rest => exact ⟨rest, rfl, fun c member => List.mem_cons_of_mem _ member⟩
  · exact ⟨cs, rfl, fun c member => member⟩

/-! ## Every endpoint -/

/-- The literal that an endpoint is read off. -/
def literalOf (raw : String) : List Char :=
  trimChars (Literal.content raw).toList

/-- The path of a text, behind the host of a URL. -/
def pathPart? (cs : List Char) : Option (List Char) :=
  if isUrl cs then urlPath? cs else some cs

/-- A path as an endpoint, its query and fragment left out. -/
def ofPath? (path : List Char) : Option String :=
  let path := path.takeWhile fun c => c != '?' && c != '#'
  if '/' ∈ path then some (String.ofList (dropSlashes (withSlash path))) else none

/-- An endpoint is read in three steps, of a literal that is a path or a URL. -/
theorem endpoint?_eq (raw : String) : endpoint? raw =
    if (literalOf raw).head? == some '/' || isUrl (literalOf raw) then
      (pathPart? (fillHoles 0 (literalOf raw))).bind ofPath?
    else none := by
  unfold endpoint? literalOf
  generalize trimChars (Literal.content raw).toList = literal
  cases isPath : literal.head? == some '/' || isUrl literal with
  | false => simp [isPath]
  | true =>
    simp only [isPath, Bool.not_true, Bool.false_eq_true, if_false, if_true, pathPart?]
    split <;> rfl

theorem isNormalPath_of_endpoint? {raw path : String} (found : endpoint? raw = some path) : IsNormalPath path := by
  rw [endpoint?_eq, Option.ite_none_right_eq_some] at found
  obtain ⟨cs, _, found⟩ := Option.bind_eq_some_iff.mp found.2
  obtain ⟨_, isPath⟩ := Option.ite_none_right_eq_some.mp found
  cases isPath
  obtain ⟨rest, slashed, among⟩ := withSlash_eq (cs.takeWhile fun c => c != '?' && c != '#')
  have plain : ∀ c ∈ dropSlashes ('/' :: rest), c ≠ '?' ∧ c ≠ '#' := by
    intro c member
    rcases List.mem_cons.mp (mem_of_mem_dropSlashes member) with rfl | member
    · decide
    · simpa using List.mem_takeWhile_imp (among c member)
  rw [slashed]
  constructor
  case slash =>
    rcases dropSlashes_cons rest with only | ⟨tail, left, _⟩
    · simp [startsWith, only]
    · simp [startsWith, left]
  case noQuery =>
    intro member
    rw [String.toList_ofList] at member
    exact (plain _ member).1 rfl
  case noFragment =>
    intro member
    rw [String.toList_ofList] at member
    exact (plain _ member).2 rfl
  case noTrailing =>
    intro other ends
    rcases dropSlashes_cons rest with only | ⟨tail, left, last⟩
    · exact other (by rw [only])
    · simp only [endsWith, left, String.toList_ofList] at ends
      obtain ⟨front, split⟩ := List.isSuffixOf_iff_suffix.mp ends
      refine last ?_
      rw [← split]
      exact List.getLast?_concat

/-! ## Literals with a slash in front -/

theorem trimChars_slash (cs : List Char) : ∃ rest, trimChars ('/' :: cs) = '/' :: rest := by
  have shown : isBlank '/' = false := by decide
  rw [trimChars, List.dropWhile_cons_of_neg (by simp [shown])]
  cases left : dropEndWhile isBlank ('/' :: cs) with
  | nil =>
    have dropped := List.rdropWhile_eq_nil_iff.mp left '/' List.mem_cons_self
    rw [shown] at dropped
    cases dropped
  | cons first rest => exact ⟨rest, by rw [eq_of_dropEndWhile left]⟩

/-- A text with a slash in front has no quotes and no letter prefix to lose. -/
theorem content_slash {raw : String} (slash : startsWith raw "/") :
    ∃ rest, (Literal.content raw).toList = '/' :: rest := by
  obtain ⟨tail, split⟩ := List.isPrefixOf_iff_prefix.mp slash
  obtain ⟨rest, trimmed⟩ := trimChars_slash tail
  refine ⟨rest, ?_⟩
  rw [Literal.content, String.toList_ofList, ← split]
  show Literal.unquote (Literal.dropLetters (trimChars ('/' :: tail))) = _
  rw [trimmed]
  rfl

/-- **A literal with a slash in front has an endpoint.** -/
theorem endpoint?_isSome {raw : String} (slash : startsWith raw "/") : (endpoint? raw).isSome := by
  obtain ⟨tail, content⟩ := content_slash slash
  obtain ⟨rest, trimmed⟩ := trimChars_slash tail
  have isLiteral : literalOf raw = '/' :: rest := by rw [literalOf, content, trimmed]
  have filled : fillHoles 0 ('/' :: rest) = '/' :: fillHoles 0 rest := rfl
  rw [endpoint?_eq, isLiteral, filled]
  rfl

end WorkflowAtlas.Http
