import WorkflowAtlas.Callee
import WorkflowAtlas.SortedMap

/-!
# Variables that hold clients

A **binding** gives a name to a value. A name holds a client when its value is a call whose head is
recognised, or when the head of its value is such a name or a member of one. `clientNames` is the
smallest set of names closed under that. It is found by passes over the bindings: a pass that changes
anything adds a name of a binding, so there are at most as many such passes as bindings.
-/

namespace WorkflowAtlas

/-- **A binding**: a name, the text of its value up to the first parenthesis, and whether there is
one. -/
structure Binding where
  name : String
  head : String
  isCall : Bool
  deriving DecidableEq, Repr, Inhabited

namespace Binding

/-- The binding of a name to the text of a value. -/
def ofText (name value : String) : Binding where
  name := name
  head := String.ofList (value.toList.takeWhile (· != '('))
  isCall := value.toList.any (· == '(')

/-- Whether the value is a recognised construction. -/
def constructs (isClient : String → Bool) (binding : Binding) : Bool :=
  !binding.head.isEmpty && binding.isCall && isClient binding.head

/-- Whether the value is one of some names or a member of one. -/
def derives (names : List String) (binding : Binding) : Bool :=
  !binding.head.isEmpty &&
    names.any fun name => binding.head == name || Callee.isMemberOf binding.head name

/-- The names after a binding is looked at: its own joins them when its value holds a client. -/
def look (isClient : String → Bool) (names : List String) (binding : Binding) : List String :=
  if binding.name ∉ names && (binding.constructs isClient || binding.derives names) then names ++ [binding.name]
  else names

/-- **One pass** over bindings, each of which sees the names that those before it added. -/
def pass (isClient : String → Bool) (bindings : List Binding) (names : List String) : List String :=
  bindings.foldl (look isClient) names

/-- A pass adds names of bindings that were not there. -/
theorem exists_pass_eq (isClient : String → Bool) (bindings : List Binding) (names : List String) :
    ∃ added, pass isClient bindings names = names ++ added ∧
      ∀ name ∈ added, name ∉ names ∧ ∃ binding ∈ bindings, binding.name = name := by
  induction bindings generalizing names with
  | nil => exact ⟨[], by simp [pass], by simp⟩
  | cons binding rest ih =>
    obtain ⟨added, isPass, fresh⟩ := ih (look isClient names binding)
    have onRest : pass isClient (binding :: rest) names = pass isClient rest (look isClient names binding) := rfl
    rw [onRest, isPass]
    unfold look at fresh ⊢
    split at fresh
    · next joins =>
      rw [if_pos joins]
      refine ⟨binding.name :: added, by simp, fun name isAdded => ?_⟩
      rcases List.mem_cons.mp isAdded with rfl | later
      · exact ⟨by simp_all, binding, List.mem_cons_self, rfl⟩
      · obtain ⟨absent, other, isOther, same⟩ := fresh name later
        exact ⟨fun before => absent (List.mem_append_left _ before), other, List.mem_cons_of_mem _ isOther, same⟩
    · next stays =>
      rw [if_neg stays]
      refine ⟨added, rfl, fun name isAdded => ?_⟩
      obtain ⟨absent, other, isOther, same⟩ := fresh name isAdded
      exact ⟨absent, other, List.mem_cons_of_mem _ isOther, same⟩

/-- The bindings whose name is not there. -/
def unseen (bindings : List Binding) (names : List String) : List Binding :=
  bindings.filter (·.name ∉ names)

/-- A pass that adds a name leaves fewer bindings unseen. -/
theorem unseen_pass_lt {isClient : String → Bool} {bindings : List Binding} {names : List String}
    (grows : (pass isClient bindings names).length ≠ names.length) :
    (unseen bindings (pass isClient bindings names)).length < (unseen bindings names).length := by
  obtain ⟨added, isPass, fresh⟩ := exists_pass_eq isClient bindings names
  rw [isPass] at grows ⊢
  cases added with
  | nil => simp at grows
  | cons name others =>
    obtain ⟨absent, binding, isBinding, rfl⟩ := fresh name List.mem_cons_self
    have again : unseen bindings (names ++ binding.name :: others) =
        (unseen bindings names).filter (·.name ∉ binding.name :: others) := by
      simp [unseen, List.filter_filter, Bool.and_comm]
    rw [again, List.length_filter_lt_length_iff_exists]
    exact ⟨binding, List.mem_filter.mpr ⟨isBinding, by simpa using absent⟩, by simp⟩

/-- **Passes until one adds nothing.** -/
def settle (isClient : String → Bool) (bindings : List Binding) (names : List String) : List String :=
  if (pass isClient bindings names).length = names.length then names
  else settle isClient bindings (pass isClient bindings names)
termination_by (unseen bindings names).length
decreasing_by exact unseen_pass_lt ‹_›

/-- **The names that hold clients**, in order. -/
def clientNames (isClient : String → Bool) (bindings : List Binding) : List String :=
  sortedTexts (settle isClient bindings [])

end Binding

end WorkflowAtlas
