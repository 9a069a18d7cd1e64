import WorkflowAtlas.Proofs.TextCuts
import WorkflowAtlas.Repository.ModuleIndex

/-!
# Normal forms of paths

A path is walked from its start: the **steps** of its text, one for each piece between slashes that is not
empty or `.`, are taken one after another. So a normal form depends on the start and the steps only
(`normalize_eq`), and what is known of one step is known of every walk.

**The laws.** A normal form holds proper names only (`isNormal_normalize`), its text reads back as itself
(`components_toPath`, `normalize_toPath`), and a joined path is walked from where the first one ends, unless
the second starts at the root (`normalize_join`). A walk over names adds them, a walk upwards drops as many
names as there are (`foldl_step_up`): a path never leaves its start.
-/

namespace WorkflowAtlas

open WorkflowAtlas.Text

/-! ## Names -/

/-- **The name of a file or directory**: what stands between two slashes and leads somewhere. -/
structure IsName (name : String) : Prop where
  nonempty : name ≠ ""
  notHere : name ≠ "."
  notUp : name ≠ ".."
  noSlash : '/' ∉ name.toList

instance (name : String) : Decidable (IsName name) :=
  decidable_of_iff (name ≠ "" ∧ name ≠ "." ∧ name ≠ ".." ∧ '/' ∉ name.toList)
    ⟨fun ⟨nonempty, notHere, notUp, noSlash⟩ => ⟨nonempty, notHere, notUp, noSlash⟩,
      fun isName => ⟨isName.nonempty, isName.notHere, isName.notUp, isName.noSlash⟩⟩

theorem IsName.ne_of_toList {name : String} {cs : List Char} (differs : name ≠ String.ofList cs) : name.toList ≠ cs :=
  fun same => differs (same ▸ String.ofList_toList.symm)

namespace SourcePath

/-- The component of a piece that is a name. -/
theorem component?_name {name : String} (isName : IsName name) : component? name.toList = some (.name name) := by
  have nonempty : name.toList ≠ [] := IsName.ne_of_toList isName.nonempty
  have notHere : name.toList ≠ ['.'] := IsName.ne_of_toList isName.notHere
  have notUp : name.toList ≠ ['.', '.'] := IsName.ne_of_toList isName.notUp
  simp [component?, nonempty, notHere, notUp]

/-- **The steps of a text**, its start left aside. -/
def steps (cs : List Char) : List Component :=
  (pieces (· == '/') cs).filterMap component?

@[simp] theorem steps_nil : steps [] = [] := rfl

@[simp] theorem steps_append_slash (front back : List Char) :
    steps (front ++ '/' :: back) = steps front ++ steps back := by
  rw [steps, pieces_append_mark (by rfl), List.filterMap_append, steps, steps]

@[simp] theorem steps_slash (cs : List Char) : steps ('/' :: cs) = steps cs :=
  steps_append_slash [] cs

theorem steps_name {name : String} (isName : IsName name) : steps name.toList = [.name name] := by
  have unmarked : ∀ c ∈ name.toList, (c == '/') = false := by
    intro c isChar
    exact beq_eq_false_iff_ne.mpr fun isSlash => isName.noSlash (isSlash ▸ isChar)
  rw [steps, pieces_of_unmarked unmarked, List.filterMap_cons, component?_name isName]
  rfl

/-- The names among the steps of a text are proper ones. -/
theorem isName_of_mem_steps {cs : List Char} {name : String} (isStep : .name name ∈ steps cs) : IsName name := by
  obtain ⟨piece, isPiece, made⟩ := List.mem_filterMap.mp isStep
  unfold component? at made
  split at made
  · cases made
  · next notEmpty =>
    split at made
    · cases made
    · next notUp =>
      obtain ⟨nonempty, notHere⟩ := not_or.mp notEmpty
      cases made
      refine ⟨fun same => nonempty ?_, fun same => notHere ?_, fun same => notUp ?_, ?_⟩
      · simpa using congrArg String.toList same
      · simpa using congrArg String.toList same
      · simpa using congrArg String.toList same
      · intro isSlash
        simpa using unmarked_of_mem_pieces isPiece '/' (by simpa using isSlash)

theorem toList_intercalate_cons_cons (name second : String) (rest : List String) :
    ("/".intercalate (name :: second :: rest)).toList =
      name.toList ++ '/' :: ("/".intercalate (second :: rest)).toList := by
  rw [String.intercalate_cons_cons, String.toList_append, String.toList_append, List.append_assoc]
  rfl

/-- The names among the components of a path are proper ones. -/
theorem isName_of_mem_components {path : SourcePath} {name : String} (isComponent : .name name ∈ path.components) :
    IsName name := by
  rcases List.mem_append.mp isComponent with inFront | isStep
  · split at inFront
    · simp at inFront
    · split at inFront <;> simp at inFront
  · exact isName_of_mem_steps isStep

/-- Names with slashes between them are steps. -/
theorem steps_intercalate {names : List String} (areNames : ∀ name ∈ names, IsName name) :
    steps ("/".intercalate names).toList = names.map .name := by
  induction names with
  | nil => rfl
  | cons name names ih =>
    have first := steps_name (areNames name List.mem_cons_self)
    have others := ih fun other isOther => areNames other (List.mem_cons_of_mem name isOther)
    cases names with
    | nil => simpa using first
    | cons second rest =>
      rw [toList_intercalate_cons_cons, steps_append_slash, first, others]
      rfl

/-! ## Walks -/

/-- Whether a path starts at the root. -/
def isRooted (path : SourcePath) : Bool :=
  path.text.toList.head? == some '/'

/-- Where the steps of a path start. -/
def start (path : SourcePath) : NormalPath :=
  ⟨path.isRooted, []⟩

/-- **The components of a path** are its start and its steps, with a `.` between them where the text starts so. -/
theorem components_eq (path : SourcePath) : ∃ front, (front = [] ∨ front = [.here]) ∧
    path.components = path.start.components ++ (front ++ steps path.text.toList) := by
  rw [components, start, isRooted]
  split
  · next rest isText =>
    refine ⟨[], .inl rfl, ?_⟩
    rw [isText]
    rfl
  · next notRooted =>
    have notSlash : (path.text.toList.head? == some '/') = false := by
      cases isText : path.text.toList with
      | nil => rfl
      | cons c cs =>
        refine beq_eq_false_iff_ne.mpr fun same => notRooted cs ?_
        rw [isText, Option.some.inj same]
    rw [notSlash]
    split
    · exact ⟨[.here], .inr rfl, rfl⟩
    · exact ⟨[], .inl rfl, rfl⟩

/-- **A normal form is a walk** from the start of a path along its steps. -/
theorem normalize_eq (path : SourcePath) :
    path.normalize = (steps path.text.toList).foldl NormalPath.step path.start := by
  obtain ⟨front, isFront, isPath⟩ := path.components_eq
  have toStart : path.start.components.foldl NormalPath.step NormalPath.empty = path.start := by
    cases rooted : path.isRooted <;> simp [start, rooted, NormalPath.components, NormalPath.step, NormalPath.empty]
  rw [normalize, isPath, List.foldl_append, toStart, List.foldl_append]
  -- a `.` in front is a step that stays
  rcases isFront with rfl | rfl <;> rfl

end SourcePath

namespace NormalPath

open SourcePath

variable {path : NormalPath}

/-- **A path in normal form**: all its names are names. -/
def IsNormal (path : NormalPath) : Prop :=
  ∀ name ∈ path.names, IsName name

instance (path : NormalPath) : Decidable path.IsNormal :=
  inferInstanceAs (Decidable (∀ name ∈ path.names, IsName name))

theorem isNormal_empty : empty.IsNormal := by
  simp [IsNormal, empty]

/-- What lies above a normal path is normal. -/
theorem IsNormal.directory (isNormal : path.IsNormal) : path.directory.IsNormal := by
  unfold NormalPath.directory parent?
  split
  · exact isNormal_empty
  · exact fun name isName => isNormal name ((List.dropLast_sublist _).subset isName)

/-- A step keeps the form when a name that it adds is one. -/
theorem IsNormal.step {component : Component} (isNormal : path.IsNormal)
    (isName : ∀ name, component = .name name → IsName name) : (path.step component).IsNormal := by
  cases component with
  | here => exact isNormal
  | up => exact fun name isName => isNormal name ((List.dropLast_sublist _).subset isName)
  | root => simp [NormalPath.step, IsNormal]
  | name added =>
    intro name member
    rcases List.mem_append.mp member with known | new
    · exact isNormal name known
    · rw [List.mem_singleton.mp new]
      exact isName added rfl

/-- A walk keeps the form when the names on its way are names. -/
theorem IsNormal.walk (isNormal : path.IsNormal) {way : List Component}
    (areNames : ∀ name, .name name ∈ way → IsName name) : (way.foldl NormalPath.step path).IsNormal := by
  refine List.foldlRecOn (motive := IsNormal) _ _ isNormal ?_
  intro reached before component isStep
  exact before.step fun name isThat => areNames name (isThat ▸ isStep)

/-- **A normal form holds names only.** -/
theorem isNormal_normalize (path : SourcePath) : path.normalize.IsNormal :=
  isNormal_empty.walk fun _ => isName_of_mem_components

/-- A walk along names adds them. -/
theorem foldl_step_names (path : NormalPath) (names : List String) :
    (names.map Component.name).foldl step path = { path with names := path.names ++ names } := by
  induction names generalizing path with
  | nil => simp
  | cons name names ih =>
    rw [List.map_cons, List.foldl_cons, ih]
    simp [step]

/-- **A walk upwards** drops one name for each step while there is one. -/
theorem foldl_step_up (path : NormalPath) (levels : Nat) :
    (List.replicate levels Component.up).foldl step path = ModuleIndex.climb path levels := by
  induction levels generalizing path with
  | zero => simp [ModuleIndex.climb]
  | succ levels ih =>
    rw [List.replicate_succ, List.foldl_cons, ih]
    simp only [ModuleIndex.climb, step, List.dropLast_eq_take, List.take_take, List.length_take]
    congr 2
    omega

/-! ## Texts of normal paths -/

theorem toList_text (path : NormalPath) :
    path.text.toList = (if path.rooted then ['/'] else []) ++ ("/".intercalate path.names).toList := by
  rw [text, String.toList_append]
  split <;> rfl

theorem steps_text (isNormal : path.IsNormal) : steps path.text.toList = path.names.map .name := by
  rw [toList_text]
  split
  · exact (steps_slash _).trans (steps_intercalate isNormal)
  · exact steps_intercalate isNormal

/-- The first piece of a text of names is the first name. -/
theorem head?_intercalate {name : String} (names : List String) (isName : IsName name) :
    ("/".intercalate (name :: names)).toList.head? ≠ some '/' ∧
      (pieces (· == '/') ("/".intercalate (name :: names)).toList).head? = some name.toList := by
  have unmarked : ∀ c ∈ name.toList, (c == '/') = false := by
    intro c isChar
    exact beq_eq_false_iff_ne.mpr fun isSlash => isName.noSlash (isSlash ▸ isChar)
  obtain ⟨first, rest, isText⟩ := List.exists_cons_of_ne_nil (IsName.ne_of_toList isName.nonempty)
  have notSlash : first ≠ '/' := fun isSlash => isName.noSlash (by simp [isText, isSlash])
  cases names with
  | nil =>
    rw [String.intercalate_singleton, pieces_of_unmarked unmarked]
    exact ⟨by simpa [isText] using notSlash, rfl⟩
  | cons second others =>
    rw [toList_intercalate_cons_cons, pieces_append_mark rfl, pieces_of_unmarked unmarked]
    exact ⟨by simpa [isText] using notSlash, rfl⟩

/-- **The text of a normal path has its components.** -/
theorem components_toPath (isNormal : path.IsNormal) : path.toPath.components = path.components := by
  have isSteps : (pieces (· == '/') path.toPath.text.toList).filterMap component? = path.names.map .name :=
    steps_text isNormal
  rw [SourcePath.components, NormalPath.components, isSteps]
  congr 1
  obtain ⟨rooted, names⟩ := path
  cases rooted with
  | true =>
    have isText := toList_text ⟨true, names⟩
    rw [toPath, isText]
    rfl
  | false =>
    have isText := toList_text ⟨false, names⟩
    rw [toPath, isText]
    cases names with
    | nil => rfl
    | cons name names =>
      have isName : IsName name := isNormal name List.mem_cons_self
      obtain ⟨notSlash, isFirst⟩ := head?_intercalate names isName
      have notHere : name.toList ≠ ['.'] := IsName.ne_of_toList isName.notHere
      simp only [Bool.false_eq_true, if_false, List.nil_append, isFirst]
      split
      · next rest isSlash => exact absurd (congrArg List.head? isSlash) notSlash
      · simp [notHere]

/-- A walk along the components of a normal path ends there. -/
theorem foldl_step_components (path : NormalPath) : path.components.foldl step empty = path := by
  rw [NormalPath.components]
  obtain ⟨rooted, names⟩ := path
  cases rooted <;> rw [List.foldl_append, foldl_step_names] <;> rfl

/-- **The text of a normal path reads back as itself.** -/
theorem normalize_toPath (isNormal : path.IsNormal) : path.toPath.normalize = path := by
  rw [SourcePath.normalize, components_toPath isNormal, foldl_step_components]

end NormalPath

namespace SourcePath

/-! ## Joined paths -/

theorem toList_join {a b : SourcePath} (relative : b.isRooted = false) :
    (a.join b).text.toList =
      if a.text.toList = [] ∨ a.text.toList.getLast? = some '/' then a.text.toList ++ b.text.toList
      else a.text.toList ++ '/' :: b.text.toList := by
  unfold join
  split
  · next rest isText => simp [isRooted, isText] at relative
  · have isEmpty : a.text.isEmpty = true ↔ a.text.toList = [] := by simp
    simp only [isEmpty]
    split <;> simp

/-- **A joined path is walked from where its first part ends**, unless the second starts at the root. -/
theorem normalize_join (a : SourcePath) {b : SourcePath} (relative : b.isRooted = false) :
    (a.join b).normalize = (steps b.text.toList).foldl NormalPath.step a.normalize := by
  rw [normalize_eq, normalize_eq a, ← List.foldl_append, start, isRooted, start, isRooted, toList_join relative]
  split
  · next alone =>
    rcases alone with isEmpty | ends
    · have notSlash : (b.text.toList.head? == some '/') = false := relative
      simp [isEmpty, notSlash]
    · obtain ⟨front, isText⟩ := List.getLast?_eq_some_iff.mp ends
      rw [isText, List.append_assoc, List.singleton_append, steps_append_slash, steps_append_slash, steps_nil,
        List.append_nil]
      cases front <;> rfl
  · next apart =>
    rw [steps_append_slash]
    cases isText : a.text.toList with
    | nil => exact absurd (.inl isText) apart
    | cons c cs => rfl

end SourcePath

/-- **A path below a directory** is walked from there. -/
theorem ModuleIndex.normalize_below {directory : NormalPath} (isNormal : directory.IsNormal) {cs : List Char}
    (relative : cs.head? ≠ some '/') :
    (below directory cs).normalize = (SourcePath.steps cs).foldl NormalPath.step directory := by
  have notRooted : SourcePath.isRooted ⟨String.ofList cs⟩ = false := by
    simpa [SourcePath.isRooted] using relative
  rw [below, SourcePath.normalize_join _ notRooted, NormalPath.normalize_toPath isNormal, String.toList_ofList]

end WorkflowAtlas
