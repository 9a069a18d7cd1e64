import WorkflowAtlas.Http.Verb

/-!
# A verb and a path make a label

**The law** (`isLabel_append`): a method that is a verb in any ASCII case, a space, and a path with a slash
in front are the label of an edge that crosses an HTTP boundary. The label reader takes more case variants
than a verb has, so the law rests on each ASCII variant of an upper case letter being among them
(`mem_caseVariants`).
-/

namespace WorkflowAtlas.Http

open WorkflowAtlas.Text

theorem toNat_toLower (c : Char) :
    c.toLower.toNat = if 65 ≤ c.toNat ∧ c.toNat ≤ 90 then c.toNat + 32 else c.toNat := by
  have upper : (c.val ≥ 'A'.val ∧ c.val ≤ 'Z'.val) ↔ (65 ≤ c.toNat ∧ c.toNat ≤ 90) := Iff.rfl
  unfold Char.toLower
  split
  · next isUpper =>
    rw [if_pos (upper.mp isUpper)]
    have bound : c.val.toNat ≤ 90 := isUpper.2
    show (c.val + 32).toNat = c.val.toNat + 32
    rw [UInt32.toNat_add]
    exact Nat.mod_eq_of_lt (Nat.lt_of_le_of_lt (Nat.add_le_add_right bound 32) (by decide))
  · next notUpper => rw [if_neg (mt upper.mpr notUpper)]

/-- A character with the lower case of an upper case letter is that letter or its lower case. -/
theorem toNat_of_toLower_eq {w c : Char} (upper : 65 ≤ w.toNat ∧ w.toNat ≤ 90) (same : w.toLower = c.toLower) :
    c.toNat = w.toNat ∨ c.toNat = w.toNat + 32 := by
  have codes := congrArg Char.toNat same
  rw [toNat_toLower, toNat_toLower, if_pos upper] at codes
  split at codes <;> omega

theorem mem_caseVariants {w c : Char} (upper : 65 ≤ w.toNat ∧ w.toNat ≤ 90) (same : w.toLower = c.toLower) :
    w ∈ caseVariants c := by
  have codes := toNat_of_toLower_eq upper same
  rw [caseVariants, if_pos (by omega)]
  rcases codes with isUpper | isLower
  · rw [Char.toNat_inj.mp isUpper]
    split
    · exact List.mem_cons_self
    · split <;> exact List.mem_cons_self
  · have inRange : 97 ≤ c.toNat ∧ c.toNat ≤ 122 := by omega
    have isLetter : 'a' ≤ c ∧ c ≤ 'z' := inRange
    rw [if_pos isLetter, isLower, Nat.add_sub_cancel, Char.ofNat_toNat]
    exact List.mem_cons_of_mem _ List.mem_cons_self

theorem not_isBlank {w c : Char} (upper : 65 ≤ w.toNat ∧ w.toNat ≤ 90) (same : w.toLower = c.toLower) :
    isBlank c = false := by
  have codes := toNat_of_toLower_eq upper same
  simp only [isBlank, Bool.or_eq_false_iff, Bool.and_eq_false_iff, decide_eq_false_iff_not, beq_eq_false_iff_ne]
  omega

/-- A word in upper case is read off a text that starts with it in any case. -/
theorem afterWord?_append {word cs rest : List Char} (upper : ∀ w ∈ word, 65 ≤ w.toNat ∧ w.toNat ≤ 90)
    (same : word.map Char.toLower = cs.map Char.toLower) : afterWord? word (cs ++ rest) = some rest := by
  induction word generalizing cs with
  | nil =>
    rw [List.map_eq_nil_iff.mp same.symm]
    rfl
  | cons w word ih =>
    obtain ⟨c, tail, rfl, first, more⟩ := List.map_eq_cons_iff.mp same.symm
    have isUpper := upper w List.mem_cons_self
    rw [List.cons_append, afterWord?, if_pos (mem_caseVariants isUpper first.symm)]
    exact ih (fun w member => upper w (List.mem_cons_of_mem _ member)) more.symm

theorem verbs_upper : ∀ verb ∈ verbs, verb.toList ≠ [] ∧ ∀ w ∈ verb.toList, 65 ≤ w.toNat ∧ w.toNat ≤ 90 := by
  simp [verbs]

/-- **A verb and a path make a label.** -/
theorem isLabel_append {method path : String} (isVerb : (verb? method).isSome) (slash : startsWith path "/") :
    isLabel (method ++ " " ++ path) := by
  obtain ⟨verb, found⟩ := Option.isSome_iff_exists.mp isVerb
  have member := List.mem_of_find?_eq_some found
  have same : verb.toList.map Char.toLower = method.toList.map Char.toLower := by
    simpa [sameButCase] using List.find?_some found
  obtain ⟨notEmpty, upper⟩ := verbs_upper verb member
  have unblanked : (method ++ " " ++ path).toList.dropWhile isBlank = method.toList ++ ' ' :: path.toList := by
    obtain ⟨w, word, isWord⟩ := List.exists_cons_of_ne_nil notEmpty
    rw [isWord] at same upper
    obtain ⟨c, tail, isText, first, _⟩ := List.map_eq_cons_iff.mp same.symm
    have shown : isBlank c = false := not_isBlank (upper w List.mem_cons_self) first.symm
    simp [String.toList_append, isText, shown]
  obtain ⟨tail, isPath⟩ := List.isPrefixOf_iff_prefix.mp slash
  have blanks : blanksThenSlash (' ' :: path.toList) = true := by
    rw [← isPath]
    rfl
  refine List.any_eq_true.mpr ⟨verb, member, ?_⟩
  rw [unblanked, afterWord?_append upper same]
  exact blanks

end WorkflowAtlas.Http
