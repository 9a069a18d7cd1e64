import Mathlib.Data.Set.Basic
import Mathlib.Order.Bounds.Basic
import WorkflowAtlas.Proofs.Listing
import WorkflowAtlas.Scan.Binding

/-!
# The names that hold clients

A set of names is **closed** under bindings when it has the name of each binding whose value is a recognised
construction, or starts from one of the names (`IsClosed`).

**The law** (`clientNames_least`): whatever is recognised, `clientNames` is the least closed set in order, and
some number of passes, one for each binding at most, ends there. The bindings only count as a set: neither
their order nor how often one stands in the list makes a difference.

A pass lets a binding see the names that were added before it, so two orders of the bindings differ in what a
pass returns and in how many passes there are. Every name that a pass adds is in each closed set around the
names it started from (`pass_subset`), and names to which a pass adds nothing are closed (`isClosed_of_settled`);
neither fact looks at the order.
-/

namespace WorkflowAtlas

open WorkflowAtlas.Text

/-- A text is a member of a name when the name and a joint stand in front of it. -/
theorem Callee.isMemberOf_iff {text name : String} :
    Callee.isMemberOf text name = true ↔ ∃ joint ∈ [".", "::", "->"], name.toList ++ joint.toList <+: text.toList := by
  have front : ∀ mark : List Char, name.toList ++ mark <+: text.toList ↔
      ∃ rest, after? name.toList text.toList = some (mark ++ rest) := by
    intro mark
    unfold after?
    simp only [List.isPrefixOf?_eq_some_iff_append_eq, ← List.append_assoc]
    rfl
  have joints : (∃ joint ∈ [".", "::", "->"], name.toList ++ joint.toList <+: text.toList) ↔
      ∃ mark ∈ [['.'], [':', ':'], ['-', '>']], ∃ rest, after? name.toList text.toList = some (mark ++ rest) := by
    simp [front]
  rw [joints]
  unfold isMemberOf
  split <;> simp_all

namespace Binding

variable {isClient : String → Bool} {bindings : List Binding} {names : List String} {closed : Set String}

/-- **A value starts from a name**: its head is the name, or the name with a joint behind it is in front. -/
def StartsFrom (head name : String) : Prop :=
  head = name ∨ ∃ joint ∈ [".", "::", "->"], name.toList ++ joint.toList <+: head.toList

/-- **A set of names that is closed under bindings.** -/
def IsClosed (isClient : String → Bool) (bindings : List Binding) (names : Set String) : Prop :=
  ∀ binding ∈ bindings, binding.head ≠ "" →
    (binding.isCall = true ∧ isClient binding.head = true) ∨ (∃ name ∈ names, StartsFrom binding.head name) →
    binding.name ∈ names

/-- When a binding that is looked at has its name added, unless it is there. -/
theorem holds_iff {binding : Binding} : (binding.constructs isClient || binding.derives names) = true ↔
    binding.head ≠ "" ∧ ((binding.isCall = true ∧ isClient binding.head = true) ∨
      ∃ name ∈ names, StartsFrom binding.head name) := by
  simp only [constructs, derives, StartsFrom, ← Callee.isMemberOf_iff, Bool.or_eq_true, Bool.and_eq_true,
    List.any_eq_true, Bool.not_eq_true', String.isEmpty_eq_false_iff, beq_iff_eq, and_assoc, and_or_left]

/-! ## Passes -/

/-- **A look** stays in a closed set. -/
theorem look_subset (isClosed : IsClosed isClient bindings closed) {binding : Binding} (isBinding : binding ∈ bindings)
    (within : ∀ name ∈ names, name ∈ closed) : ∀ name ∈ look isClient names binding, name ∈ closed := by
  intro name member
  unfold look at member
  split at member
  · next joins =>
    rcases List.mem_append.mp member with before | isNew
    · exact within name before
    · obtain rfl := List.mem_singleton.mp isNew
      obtain ⟨hasHead, holds⟩ := holds_iff.mp (Bool.and_eq_true_iff.mp joins).2
      refine isClosed binding isBinding hasHead (holds.imp_right ?_)
      rintro ⟨start, isStart, starts⟩
      exact ⟨start, within start isStart, starts⟩
  · exact within name member

/-- **A pass** stays in a closed set. -/
theorem pass_subset (isClosed : IsClosed isClient bindings closed) (within : ∀ name ∈ names, name ∈ closed) :
    ∀ name ∈ pass isClient bindings names, name ∈ closed := by
  -- The bindings that are left are bindings of the file, by which the set is closed.
  suffices run : ∀ left : List Binding, (∀ binding ∈ left, binding ∈ bindings) → ∀ names : List String,
      (∀ name ∈ names, name ∈ closed) → ∀ name ∈ left.foldl (look isClient) names, name ∈ closed from
    run bindings (fun _ isBinding => isBinding) names within
  intro left
  induction left with
  | nil => exact fun _ _ within => within
  | cons binding rest ih =>
    intro among names within
    refine ih (fun other isOther => among other (List.mem_cons_of_mem _ isOther)) _ ?_
    exact look_subset isClosed (among binding List.mem_cons_self) within

theorem settle_subset (isClosed : IsClosed isClient bindings closed) (within : ∀ name ∈ names, name ∈ closed) :
    ∀ name ∈ settle isClient bindings names, name ∈ closed := by
  fun_induction settle isClient bindings names with
  | case1 names => exact within
  | case2 names _ ih => exact ih (pass_subset isClosed within)

/-- A pass that keeps the number of names keeps the names. -/
theorem pass_eq_of_length (settled : (pass isClient bindings names).length = names.length) :
    pass isClient bindings names = names := by
  obtain ⟨added, isPass, _⟩ := exists_pass_eq isClient bindings names
  have isEmpty : added = [] := by
    rw [isPass, List.length_append] at settled
    exact List.eq_nil_of_length_eq_zero (by omega)
  rw [isPass, isEmpty, List.append_nil]

/-- A pass that adds nothing adds nothing at any of its bindings. -/
theorem look_eq_of_settled (settled : pass isClient bindings names = names) :
    ∀ binding ∈ bindings, look isClient names binding = names := by
  induction bindings with
  | nil => simp
  | cons first rest ih =>
    have onRest : pass isClient rest (look isClient names first) = names := settled
    have atFirst : look isClient names first = names := by
      obtain ⟨added, isPass, _⟩ := exists_pass_eq isClient rest (look isClient names first)
      have length := congrArg List.length (onRest.symm.trans isPass)
      unfold look at length ⊢
      split
      · next joins =>
        rw [if_pos joins] at length
        simp only [List.length_append, List.length_singleton] at length
        omega
      · rfl
    rw [atFirst] at onRest
    intro binding isBinding
    rcases List.mem_cons.mp isBinding with rfl | isLater
    · exact atFirst
    · exact ih onRest binding isLater

/-- **Names to which a pass adds nothing are closed.** -/
theorem isClosed_of_settled (settled : pass isClient bindings names = names) :
    IsClosed isClient bindings {name | name ∈ names} := by
  intro binding isBinding hasHead holds
  have stays := look_eq_of_settled settled binding isBinding
  have holds : (binding.constructs isClient || binding.derives names) = true := holds_iff.mpr ⟨hasHead, holds⟩
  by_contra absent
  have absent : binding.name ∉ names := absent
  rw [look, if_pos (by simp [absent, holds])] at stays
  simp at stays

/-- **Some passes settle**, at most one for each binding whose name is not there at first. -/
theorem exists_passes (isClient : String → Bool) (bindings : List Binding) (names : List String) :
    ∃ passes ≤ (unseen bindings names).length, settle isClient bindings names = (pass isClient bindings)^[passes] names ∧
      pass isClient bindings (settle isClient bindings names) = settle isClient bindings names := by
  fun_induction settle isClient bindings names with
  | case1 names settled => exact ⟨0, Nat.zero_le _, rfl, pass_eq_of_length settled⟩
  | case2 names grows ih =>
    obtain ⟨passes, bound, isIterate, isSettled⟩ := ih
    refine ⟨passes + 1, ?_, isIterate, isSettled⟩
    have fewer := unseen_pass_lt grows
    omega

-- A pass finds the name of a member where it comes behind that of its client; before it, the next pass does.
example : pass (· == "OpenAI") [⟨"client", "OpenAI", true⟩, ⟨"chat", "client.chat", false⟩] [] = ["client", "chat"] ∧
    pass (· == "OpenAI") [⟨"chat", "client.chat", false⟩, ⟨"client", "OpenAI", true⟩] [] = ["client"] := by
  decide

/-! ## The least closed set -/

/-- The names that hold clients are the least closed set. -/
theorem isLeast_clientNames (isClient : String → Bool) (bindings : List Binding) :
    IsLeast {names | IsClosed isClient bindings names} {name | name ∈ clientNames isClient bindings} := by
  have same : {name | name ∈ clientNames isClient bindings} = {name | name ∈ settle isClient bindings []} := by
    ext name
    exact mem_sortedTexts
  obtain ⟨_, _, _, isSettled⟩ := exists_passes isClient bindings []
  rw [same]
  refine ⟨isClosed_of_settled isSettled, fun closed isClosed => ?_⟩
  exact settle_subset isClosed (by simp)

/-- **The names that hold clients** are the least closed set, in order; passes settle there, and only which bindings there
are counts. -/
theorem clientNames_least (isClient : String → Bool) (bindings : List Binding) :
    (clientNames isClient bindings).Pairwise (· < ·) ∧
    IsLeast {names | IsClosed isClient bindings names} {name | name ∈ clientNames isClient bindings} ∧
    (∃ passes ≤ bindings.length,
      pass isClient bindings ((pass isClient bindings)^[passes] []) = (pass isClient bindings)^[passes] [] ∧
      clientNames isClient bindings = sortedTexts ((pass isClient bindings)^[passes] [])) ∧
    ∀ others : List Binding, (∀ binding, binding ∈ others ↔ binding ∈ bindings) →
      clientNames isClient others = clientNames isClient bindings := by
  refine ⟨sortedTexts_sorted _, isLeast_clientNames isClient bindings, ?_, fun others same => ?_⟩
  · obtain ⟨passes, bound, isIterate, isSettled⟩ := exists_passes isClient bindings []
    have few : (unseen bindings []).length ≤ bindings.length := List.length_filter_le _ _
    exact ⟨passes, by omega, isIterate ▸ isSettled, by rw [clientNames, isIterate]⟩
  · have closed : {names | IsClosed isClient others names} = {names | IsClosed isClient bindings names} := by
      simp only [IsClosed, same]
    have least := isLeast_clientNames isClient others
    rw [closed] at least
    refine eq_of_sorted (sortedTexts_sorted _) (sortedTexts_sorted _) fun name => ?_
    exact Set.ext_iff.mp (least.unique (isLeast_clientNames isClient bindings)) name

end Binding

end WorkflowAtlas
