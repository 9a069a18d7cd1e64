import Mathlib.Data.List.TakeWhile
import WorkflowAtlas.Proofs.EndpointForm
import WorkflowAtlas.Proofs.TextCuts

/-!
# Endpoints are stable

Where `isNormalPath_of_endpoint?` tells how an endpoint looks, this module tells that reading it again changes
nothing. Three steps of the reading have to be quiet for that.

* **Filling.** A text whose interpolations are filled has none (`isFilled_fillHoles`), also not across a hole: an
  opening that is kept has no end behind it, and a hole neither opens nor closes one.
* **Cutting.** What is cut out of a text without interpolations has none either, for it stands in that text in one
  piece.
* **The slash in front.** What is left behind the host is empty or starts with a slash, so there is never one to add
  (`head?_pathPart?`).
-/

namespace WorkflowAtlas.Http

open WorkflowAtlas.Text

/-! ## Interpolations -/

/-- **A complete interpolation**, with any text inside. -/
inductive IsInterpolation : List Char → Prop where
  | braces (inside : List Char) : IsInterpolation ('\x7b' :: (inside ++ ['\x7d']))
  | dollar (inside : List Char) : IsInterpolation ('$' :: '\x7b' :: (inside ++ ['\x7d']))
  | parentheses (inside : List Char) : IsInterpolation ('\\' :: '(' :: (inside ++ [')']))

/-- **A filled text** has no complete interpolation anywhere. -/
def IsFilled (cs : List Char) : Prop :=
  ∀ part, IsInterpolation part → ¬ part <:+: cs

theorem lengthTo?_eq_none {mark : Char} {cs : List Char} : lengthTo? mark cs = none ↔ mark ∉ cs := by
  have whole := congrArg List.length (List.takeWhile_append_dropWhile (p := (· != mark)) (l := cs))
  rw [List.length_append] at whole
  have isWhole : (cs.dropWhile (· != mark)).length = 0 ↔ mark ∉ cs := by
    rw [List.length_eq_zero_iff, List.dropWhile_eq_nil_iff]
    exact ⟨fun all isChar => by simpa using all mark isChar, fun absent c isChar => bne_iff_ne.mpr fun isMark =>
      absent (isMark ▸ isChar)⟩
  rw [← isWhole, lengthTo?]
  split
  · next isShort => exact iff_of_false nofun (by omega)
  · exact iff_of_true rfl (by omega)

theorem exists_of_lengthTo? {mark : Char} {cs : List Char} (found : lengthTo? mark cs ≠ none) :
    ∃ inside rest, cs = inside ++ mark :: rest :=
  List.append_of_mem (Decidable.of_not_not (mt lengthTo?_eq_none.mpr found))

/-- **An interpolation is seen** exactly where a complete one stands at the front. -/
theorem interpolation?_eq_none {cs : List Char} :
    interpolation? cs = none ↔ ∀ part, IsInterpolation part → ¬ part <+: cs := by
  constructor
  · rintro isNone part isPart ⟨rest, rfl⟩
    cases isPart <;> simp [interpolation?, lengthTo?_eq_none] at isNone
  · intro noPart
    by_contra found
    unfold interpolation? at found
    split at found
    · obtain ⟨inside, rest, rfl⟩ := exists_of_lengthTo? (mt Option.map_eq_none_iff.mpr found)
      exact noPart _ (.dollar inside) ⟨rest, by simp⟩
    · obtain ⟨inside, rest, rfl⟩ := exists_of_lengthTo? (mt Option.map_eq_none_iff.mpr found)
      exact noPart _ (.braces inside) ⟨rest, by simp⟩
    · obtain ⟨inside, rest, rfl⟩ := exists_of_lengthTo? (mt Option.map_eq_none_iff.mpr found)
      exact noPart _ (.parentheses inside) ⟨rest, by simp⟩
    · exact found rfl

theorem isFilled_nil : IsFilled [] := by
  intro part isPart isInside
  cases isPart <;> cases List.infix_nil.mp isInside

theorem isFilled_cons {c : Char} {cs : List Char} :
    IsFilled (c :: cs) ↔ interpolation? (c :: cs) = none ∧ IsFilled cs := by
  simp only [IsFilled, interpolation?_eq_none, List.infix_cons_iff, not_or, forall_and]

theorem IsFilled.part {cs part : List Char} (isFilled : IsFilled cs) (isPart : part <:+: cs) : IsFilled part :=
  fun other isOther isInside => isFilled other isOther (isInside.trans isPart)

/-- A filled text stays as it is. -/
theorem IsFilled.fillHoles_eq {cs : List Char} (isFilled : IsFilled cs) : fillHoles 0 cs = cs := by
  induction cs with
  | nil => rfl
  | cons c cs ih =>
    obtain ⟨isNone, isFilled⟩ := isFilled_cons.mp isFilled
    simp only [fillHoles, isNone, ih isFilled]

/-! ## Filling -/

theorem mem_of_mem_fillHoles {skip : Nat} {cs : List Char} {c : Char} (isChar : c ∈ fillHoles skip cs) :
    c ∈ hole ∨ c ∈ cs := by
  fun_induction fillHoles skip cs with
  | case1 => exact .inr isChar
  | case2 skip d cs ih => exact (ih isChar).imp_right (List.mem_cons_of_mem d)
  | case3 d cs more _ ih =>
    rcases List.mem_append.mp isChar with inHole | isChar
    · exact .inl inHole
    · exact (ih isChar).imp_right (List.mem_cons_of_mem d)
  | case4 d cs _ ih =>
    rcases List.mem_cons.mp isChar with rfl | isChar
    · exact .inr List.mem_cons_self
    · exact (ih isChar).imp_right (List.mem_cons_of_mem d)

/-- The first character of a filled text comes from a hole, or is kept. -/
theorem fillHoles_eq_cons {cs rest : List Char} {c : Char} (isFilling : fillHoles 0 cs = c :: rest) :
    c = ':' ∨ ∃ left, cs = c :: left ∧ rest = fillHoles 0 left := by
  cases cs with
  | nil => cases isFilling
  | cons d cs =>
    rw [fillHoles] at isFilling
    split at isFilling
    · exact .inl (List.cons.inj isFilling).1.symm
    · obtain ⟨rfl, rfl⟩ := List.cons.inj isFilling
      exact .inr ⟨cs, rfl, rfl⟩

theorem lengthTo?_fillHoles {mark : Char} {cs : List Char} (notHole : mark ∉ hole) (noEnd : lengthTo? mark cs = none) :
    lengthTo? mark (fillHoles 0 cs) = none := by
  rw [lengthTo?_eq_none] at noEnd ⊢
  exact fun isChar => (mem_of_mem_fillHoles isChar).elim notHole noEnd

/-- An opening that is kept has no end behind it after the filling either. -/
theorem interpolation?_fillHoles {c : Char} {cs : List Char} (isNone : interpolation? (c :: cs) = none) :
    interpolation? (c :: fillHoles 0 cs) = none := by
  unfold interpolation?
  split
  · next rest isText =>
    obtain ⟨rfl, isFilling⟩ := List.cons.inj isText
    obtain isColon | ⟨left, rfl, rfl⟩ := fillHoles_eq_cons isFilling
    · cases isColon
    · simp only [interpolation?, Option.map_eq_none_iff] at isNone ⊢
      exact lengthTo?_fillHoles (by decide) isNone
  · next rest isText =>
    obtain ⟨rfl, rfl⟩ := List.cons.inj isText
    simp only [interpolation?, Option.map_eq_none_iff] at isNone ⊢
    exact lengthTo?_fillHoles (by decide) isNone
  · next rest isText =>
    obtain ⟨rfl, isFilling⟩ := List.cons.inj isText
    obtain isColon | ⟨left, rfl, rfl⟩ := fillHoles_eq_cons isFilling
    · cases isColon
    · simp only [interpolation?, Option.map_eq_none_iff] at isNone ⊢
      exact lengthTo?_fillHoles (by decide) isNone
  · rfl

theorem isFilled_hole {cs : List Char} (isFilled : IsFilled cs) : IsFilled (hole ++ cs) := by
  show IsFilled (':' :: 'p' :: 'a' :: 'r' :: 'a' :: 'm' :: cs)
  iterate 6 refine isFilled_cons.mpr ⟨rfl, ?_⟩
  exact isFilled

/-- **What is filled has no interpolation left.** -/
theorem isFilled_fillHoles (skip : Nat) (cs : List Char) : IsFilled (fillHoles skip cs) := by
  fun_induction fillHoles skip cs with
  | case1 => exact isFilled_nil
  | case2 skip c cs ih => exact ih
  | case3 c cs more _ ih => exact isFilled_hole ih
  | case4 c cs isNone ih => exact isFilled_cons.mpr ⟨interpolation?_fillHoles isNone, ih⟩

/-! ## Cutting -/

/-- From its first slash on a text starts with it, or is empty if there is none. -/
theorem head?_fromSlash (cs : List Char) :
    (cs.dropWhile (· != '/')).head? = if '/' ∈ cs then some '/' else none := by
  induction cs with
  | nil => rfl
  | cons c cs ih =>
    by_cases isSlash : c = '/'
    · subst isSlash
      simp
    · have skipped : (c :: cs).dropWhile (· != '/') = cs.dropWhile (· != '/') :=
        List.dropWhile_cons_of_pos (bne_iff_ne.mpr isSlash)
      rw [skipped, ih]
      simp [Ne.symm isSlash]

/-- The path of a URL is the end of it, and starts with a slash if there is one left. -/
theorem urlPath?_eq_some {cs path : List Char} (isPath : urlPath? cs = some path) :
    path <:+ cs ∧ ∀ c ∈ path.head?, c = '/' := by
  obtain ⟨⟨host, rest⟩, isCut, rfl⟩ := Option.map_eq_some_iff.mp isPath
  refine ⟨(List.dropWhile_suffix _).trans (suffix_of_cutAt isCut), fun c isFirst => ?_⟩
  rw [head?_fromSlash, Option.mem_def, Option.ite_none_right_eq_some] at isFirst
  exact (Option.some.inj isFirst.2).symm

theorem pathPart?_suffix {cs path : List Char} (isPath : pathPart? cs = some path) : path <:+ cs := by
  unfold pathPart? at isPath
  split at isPath
  · exact (urlPath?_eq_some isPath).1
  · cases isPath
    exact List.suffix_rfl

/-- **No slash is added**: the path of a literal that has an endpoint starts with its own. -/
theorem head?_pathPart? {literal path : List Char} (isPlace : (literal.head? == some '/' || isUrl literal) = true)
    (isPath : pathPart? (fillHoles 0 literal) = some path) : ∀ c ∈ path.head?, c = '/' := by
  unfold pathPart? at isPath
  split at isPath
  · exact (urlPath?_eq_some isPath).2
  · next noUrl =>
    cases isPath
    rcases Bool.or_eq_true_iff.mp isPlace with isSlash | isUrl
    · cases literal with
      | nil => cases isSlash
      | cons c rest =>
        obtain rfl : c = '/' := by simpa using isSlash
        exact fun d isFirst => (Option.some.inj isFirst).symm
    · obtain ⟨rest, rfl⟩ := List.isPrefixOf_iff_prefix.mp isUrl
      exact absurd rfl noUrl

/-- The path before its query and its fragment. -/
def beforeQuery (path : List Char) : List Char :=
  path.takeWhile fun c => c != '?' && c != '#'

theorem ofPath?_eq (path : List Char) : ofPath? path =
    if '/' ∈ beforeQuery path then some (String.ofList (dropSlashes (withSlash (beforeQuery path)))) else none :=
  rfl

theorem dropSlashes_isPrefix (cs : List Char) : dropSlashes ('/' :: cs) <+: '/' :: cs := by
  unfold dropSlashes
  split
  · exact ⟨cs, rfl⟩
  · exact dropEndWhile_isPrefix _ _

/-- **How an endpoint comes about**: it is the path before its query, without trailing slashes. -/
theorem endpoint?_eq_some {raw path : String} (found : endpoint? raw = some path) :
    ∃ whole rest, pathPart? (fillHoles 0 (literalOf raw)) = some whole ∧ beforeQuery whole = '/' :: rest ∧
      path = String.ofList (dropSlashes ('/' :: rest)) := by
  rw [endpoint?_eq, Option.ite_none_right_eq_some] at found
  obtain ⟨isPlace, found⟩ := found
  obtain ⟨whole, isWhole, found⟩ := Option.bind_eq_some_iff.mp found
  obtain ⟨hasSlash, isPath⟩ := Option.ite_none_right_eq_some.mp found
  have startsSo := head?_pathPart? isPlace isWhole
  cases whole with
  | nil => cases hasSlash
  | cons c whole =>
    obtain rfl := startsSo c rfl
    exact ⟨_, _, isWhole, rfl, (Option.some.inj isPath).symm⟩

theorem isFilled_of_endpoint? {raw path : String} (found : endpoint? raw = some path) : IsFilled path.toList := by
  obtain ⟨whole, rest, isWhole, isRest, rfl⟩ := endpoint?_eq_some found
  have isPart : dropSlashes ('/' :: rest) <:+: fillHoles 0 (literalOf raw) :=
    calc dropSlashes ('/' :: rest)
      _ <:+: '/' :: rest := (dropSlashes_isPrefix rest).isInfix
      _ <:+: whole := isRest ▸ (List.takeWhile_prefix _).isInfix
      _ <:+: fillHoles 0 (literalOf raw) := (pathPart?_suffix isWhole).isInfix
  rw [String.toList_ofList]
  exact (isFilled_fillHoles 0 (literalOf raw)).part isPart

/-! ## Reading again -/

theorem dropEndWhile_of_last {p : Char → Bool} {cs : List Char} (last : ∀ c ∈ cs.getLast?, p c = false) :
    dropEndWhile p cs = cs := by
  rw [dropEndWhile_eq, List.rdropWhile_eq_self_iff]
  intro nonempty
  rw [last _ (List.getLast?_eq_some_getLast nonempty)]
  exact Bool.false_ne_true

/-- A text without blanks at its ends that starts like a path or a URL is a literal as it stands. -/
theorem literalOf_eq {c : Char} {cs : List Char} (first : c = '/' ∨ c = 'h')
    (last : ∀ d ∈ (c :: cs).getLast?, isBlank d = false) : literalOf (String.ofList (c :: cs)) = c :: cs := by
  have shown : isBlank c = false := by rcases first with rfl | rfl <;> decide
  have trimmed : trimChars (c :: cs) = c :: cs := by
    rw [trimChars, List.dropWhile_cons_of_neg (by simp [shown]), dropEndWhile_of_last last]
  have unquoted : Literal.unquote (Literal.dropLetters (c :: cs)) = c :: cs := by
    rcases first with rfl | rfl <;> rfl
  rw [literalOf, Literal.content, String.toList_ofList, String.toList_ofList, trimmed, unquoted, trimmed]

/-- A filled path is read without its query and its trailing slashes. -/
theorem endpoint?_of_isFilled {cs : List Char} (isFilled : IsFilled ('/' :: cs))
    (last : ∀ c ∈ ('/' :: cs).getLast?, isBlank c = false) :
    endpoint? (String.ofList ('/' :: cs)) = some (String.ofList (dropSlashes (beforeQuery ('/' :: cs)))) := by
  rw [endpoint?_eq, literalOf_eq (.inl rfl) last, isFilled.fillHoles_eq]
  rfl

theorem IsNormalPath.dropSlashes_eq {cs : List Char} (isNormal : IsNormalPath (String.ofList ('/' :: cs))) :
    dropSlashes ('/' :: cs) = '/' :: cs := by
  cases cs with
  | nil => rfl
  | cons c cs =>
    have noSlash : ∀ d ∈ ('/' :: c :: cs).getLast?, (d == '/') = false := by
      intro d isLast
      refine beq_eq_false_iff_ne.mpr fun isSlash => isNormal.noTrailing (by simp [String.ext_iff]) ?_
      obtain ⟨front, split⟩ := List.getLast?_eq_some_iff.mp (isSlash ▸ isLast)
      show ['/'].isSuffixOf (String.ofList ('/' :: c :: cs)).toList = true
      rw [String.toList_ofList, split]
      exact List.isSuffixOf_iff_suffix.mpr ⟨front, rfl⟩
    rw [dropSlashes, dropEndWhile_of_last noSlash]

theorem IsNormalPath.beforeQuery_eq {path : String} (isNormal : IsNormalPath path) :
    beforeQuery path.toList = path.toList := by
  rw [beforeQuery, List.takeWhile_eq_self_iff]
  intro c isChar
  have noQuery : c ≠ '?' := fun isMark => isNormal.noQuery (isMark ▸ isChar)
  have noFragment : c ≠ '#' := fun isMark => isNormal.noFragment (isMark ▸ isChar)
  simp [noQuery, noFragment]

/-- **A normal path without interpolations is its own endpoint**, if it does not end in a blank. -/
theorem IsNormalPath.endpoint?_self {path : String} (isNormal : IsNormalPath path) (isFilled : IsFilled path.toList)
    (last : ∀ c ∈ path.toList.getLast?, isBlank c = false) : endpoint? path = some path := by
  obtain ⟨cs, split⟩ := List.isPrefixOf_iff_prefix.mp isNormal.slash
  obtain rfl : path = String.ofList ('/' :: cs) := by rw [← String.ofList_toList (s := path), ← split]; rfl
  have isPath := isNormal.beforeQuery_eq
  rw [String.toList_ofList] at isFilled last isPath
  rw [endpoint?_of_isFilled isFilled last, isPath, isNormal.dropSlashes_eq]

/-- **An endpoint is stable**: a normal path that no interpolation is left in, cut out of the filled literal without
a slash put in front, and its own endpoint unless it ends in a blank. -/
theorem endpoint?_stable {raw path : String} (found : endpoint? raw = some path) :
    IsNormalPath path ∧ IsFilled path.toList ∧
      ((∀ c ∈ path.toList.getLast?, isBlank c = false) → endpoint? path = some path) ∧
      ∃ whole, pathPart? (fillHoles 0 (literalOf raw)) = some whole ∧
        withSlash (beforeQuery whole) = beforeQuery whole ∧ path = String.ofList (dropSlashes (beforeQuery whole)) := by
  have isNormal := isNormalPath_of_endpoint? found
  have isFilled := isFilled_of_endpoint? found
  obtain ⟨whole, rest, isWhole, isRest, isPath⟩ := endpoint?_eq_some found
  refine ⟨isNormal, isFilled, isNormal.endpoint?_self isFilled, whole, isWhole, ?_, by rw [isRest, isPath]⟩
  rw [isRest]
  rfl

/-- An opening brace that is not closed stays, and so does a space in the middle. -/
theorem endpoint?_stable_users :
    endpoint? "f'https://example.com/users/$\x7bid\x7d/\\(name)/a b\x7b/?page=/1'" =
        some "/users/:param/:param/a b\x7b" ∧
      IsNormalPath "/users/:param/:param/a b\x7b" ∧ IsFilled "/users/:param/:param/a b\x7b".toList ∧
      endpoint? "/users/:param/:param/a b\x7b" = some "/users/:param/:param/a b\x7b" := by
  have found : endpoint? "f'https://example.com/users/$\x7bid\x7d/\\(name)/a b\x7b/?page=/1'" =
      some "/users/:param/:param/a b\x7b" := by decide +kernel
  have last : "/users/:param/:param/a b\x7b".toList.getLast? = some '\x7b' := by decide +kernel
  obtain ⟨isNormal, isFilled, again, _⟩ := endpoint?_stable found
  refine ⟨found, isNormal, isFilled, again fun c isLast => ?_⟩
  rw [last, Option.mem_some] at isLast
  rw [← isLast]
  decide

end WorkflowAtlas.Http
