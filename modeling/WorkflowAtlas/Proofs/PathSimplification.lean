import Mathlib.Logic.Relation
import WorkflowAtlas.Proofs.PathForm

/-!
# Lexical simplification of paths

A path is **simplified** by rules that look at its components only: a `.` goes, a name goes together with the `..`
behind it, and a `..` goes that has nothing to drop because it stands at the root or at the start. No order of the rules
is given.

**The law** (`normalize_canonical`): of all normal paths, simplification of a path ends in its normal form and in no
other one. Its text has neither `.` nor `..`, is its own normal form, and may stand in for the path in front of any
other: a climb above the start ends at the start, so what comes behind goes on from the same place.

A walk takes one simplification at most with each step (`simplifies_step`), so a whole walk is a chain of them
(`simplifies_walk`); and no simplification changes where a walk ends (`Simplifies.walk_eq`), so no chain ends elsewhere.
-/

namespace WorkflowAtlas

open Relation (ReflTransGen)

/-- **One simplification** of the components of a path. -/
inductive Simplifies : List Component → List Component → Prop where
  /-- A `.` goes. -/
  | here (front back : List Component) : Simplifies (front ++ .here :: back) (front ++ back)
  /-- A name goes with the `..` behind it. -/
  | name (front : List Component) (text : String) (back : List Component) :
    Simplifies (front ++ .name text :: .up :: back) (front ++ back)
  /-- Nothing lies above the root. -/
  | atRoot (back : List Component) : Simplifies (.root :: .up :: back) (.root :: back)
  /-- Nothing lies above the start. -/
  | atStart (back : List Component) : Simplifies (.up :: back) back

/-- **No simplification changes where a walk ends.** -/
theorem Simplifies.walk_eq {before after : List Component} (simplifies : Simplifies before after) :
    before.foldl NormalPath.step .empty = after.foldl NormalPath.step .empty := by
  cases simplifies with
  | here front back => simp [NormalPath.step]
  | name front text back => simp [NormalPath.step]
  | atRoot back => rfl
  | atStart back => rfl

theorem walk_eq_of_simplified {before after : List Component} (chain : ReflTransGen Simplifies before after) :
    before.foldl NormalPath.step .empty = after.foldl NormalPath.step .empty := by
  induction chain with
  | refl => rfl
  | tail _ last ih => exact ih.trans last.walk_eq

namespace NormalPath

theorem components_concat (rooted : Bool) (names : List String) (last : String) :
    components ⟨rooted, names ++ [last]⟩ = components ⟨rooted, names⟩ ++ [.name last] := by
  rw [components, components, List.map_append, List.append_assoc]
  rfl

/-- **A step simplifies** what has been walked and the component that comes next. -/
theorem simplifies_step (path : NormalPath) {component : Component} (notRoot : component ≠ .root)
    (rest : List Component) :
    ReflTransGen Simplifies (path.components ++ component :: rest) ((path.step component).components ++ rest) := by
  cases component with
  | root => exact absurd rfl notRoot
  | here => exact .single (.here path.components rest)
  | name text =>
    rw [step, components_concat, List.append_assoc]
    exact .refl
  | up =>
    obtain ⟨rooted, names⟩ := path
    rcases names.eq_nil_or_concat' with rfl | ⟨front, last, rfl⟩
    · cases rooted with
      | true => exact .single (.atRoot rest)
      | false => exact .single (.atStart rest)
    · rw [step, List.dropLast_concat, components_concat, List.append_assoc]
      exact .single (.name _ last rest)

/-- **A walk simplifies** what has been walked and the way that lies ahead. -/
theorem simplifies_walk (path : NormalPath) {way : List Component} (noRoot : .root ∉ way) :
    ReflTransGen Simplifies (path.components ++ way) (way.foldl step path).components := by
  induction way generalizing path with
  | nil =>
    rw [List.append_nil]
    exact .refl
  | cons component rest ih =>
    obtain ⟨notRoot, noRoot⟩ := List.ne_and_not_mem_of_not_mem_cons noRoot
    exact (path.simplifies_step notRoot.symm rest).trans (ih (path.step component) noRoot)

/-- Neither `.` nor `..` is left in a normal path. -/
theorem components_resolved (path : NormalPath) : .here ∉ path.components ∧ .up ∉ path.components := by
  simp [components]

end NormalPath

namespace SourcePath

theorem root_notMem_steps (cs : List Char) : .root ∉ steps cs := by
  intro isStep
  obtain ⟨piece, -, made⟩ := List.mem_filterMap.mp isStep
  unfold component? at made
  split at made
  · cases made
  · split at made <;> cases made

/-- A path is simplified to its normal form. -/
theorem simplifies_normalize (path : SourcePath) :
    ReflTransGen Simplifies path.components path.normalize.components := by
  obtain ⟨front, isFront, isPath⟩ := path.components_eq
  have noRoot : .root ∉ front ++ steps path.text.toList := by
    rcases isFront with rfl | rfl <;> simpa using root_notMem_steps path.text.toList
  rw [normalize, isPath, List.foldl_append, NormalPath.foldl_step_components]
  exact path.start.simplifies_walk noRoot

/-- **Simplification ends in the normal form** and in no other normal path. -/
theorem simplified_iff {path : SourcePath} {result : NormalPath} :
    ReflTransGen Simplifies path.components result.components ↔ result = path.normalize := by
  constructor
  · intro chain
    rw [normalize, walk_eq_of_simplified chain, NormalPath.foldl_step_components]
  · rintro rfl
    exact path.simplifies_normalize

/-- A path from the root stands alone behind any other. -/
theorem join_of_isRooted (a : SourcePath) {b : SourcePath} (rooted : b.isRooted = true) : a.join b = b := by
  obtain ⟨rest, isText⟩ := List.head?_eq_some_iff.mp (beq_iff_eq.mp rooted)
  rw [join, isText]
  rfl

/-- The normal form of a path may stand in for it in front of another path. -/
theorem normalize_join_normalize (a b : SourcePath) :
    (a.normalize.toPath.join b).normalize = (a.join b).normalize := by
  cases rooted : b.isRooted with
  | true => rw [join_of_isRooted _ rooted, join_of_isRooted _ rooted]
  | false =>
    rw [normalize_join _ rooted, normalize_join _ rooted,
      NormalPath.normalize_toPath (NormalPath.isNormal_normalize a)]

/-- **Normal forms of paths are canonical**: without `.` and `..`, their own normal forms, good in front of every
other path, and the one normal path that simplification ends in. -/
theorem normalize_canonical (a b : SourcePath) :
    (.here ∉ a.normalize.toPath.components ∧ .up ∉ a.normalize.toPath.components) ∧
    a.normalize.toPath.normalize = a.normalize ∧
    (a.join b).normalize = (a.normalize.toPath.join b).normalize ∧
    ∀ path : NormalPath, ReflTransGen Simplifies a.components path.components ↔ path = a.normalize := by
  have isNormal := NormalPath.isNormal_normalize a
  refine ⟨?_, NormalPath.normalize_toPath isNormal, (normalize_join_normalize a b).symm, fun _ => simplified_iff⟩
  rw [NormalPath.components_toPath isNormal]
  exact a.normalize.components_resolved

example : (join ⟨"web/../.."⟩ ⟨"./lib//llm/../api.ts"⟩).normalize.text = "lib/api.ts" := by decide +kernel

end SourcePath

end WorkflowAtlas
