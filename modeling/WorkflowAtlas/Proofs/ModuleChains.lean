import WorkflowAtlas.Proofs.RelativeImports

/-!
# Chains of modules

`super` in front of a path of modules leads to the module above. A chain of them should lead one module up
for each.

**The law** (`resolve_super`): only the first `super` climbs. The others are looked for as directories of that
name below, so a longer chain refers to nothing in a repository without such directories, and not to what
lies above (`chain_unresolved`).
-/

namespace WorkflowAtlas

open WorkflowAtlas.Text

/-- **The name of a module**: a name without the mark that joins modules. -/
structure IsModuleName (name : String) : Prop extends IsName name where
  noJoint : ':' ∉ name.toList

/-- The directory so many levels above a path, as it is written. -/
def SourcePath.ancestor (path : SourcePath) (levels : Nat) : NormalPath :=
  (path.components.take (path.components.length - levels)).foldl NormalPath.step .empty

namespace ModuleIndex

open NormalPath SourcePath

variable {index : ModuleIndex} {paths : List SourcePath} {importer : SourcePath} {names : List String}

/-- A path of modules with slashes for its joints. -/
theorem slashPath_intercalate (areNames : ∀ name ∈ names, IsModuleName name) :
    slashPath ("::".intercalate names).toList = ("/".intercalate names).toList := by
  induction names with
  | nil => rfl
  | cons name names ih =>
    have noJoint := (areNames name List.mem_cons_self).noJoint
    have others := ih fun other isOther => areNames other (List.mem_cons_of_mem name isOther)
    cases names with
    | nil => simpa [slashPath] using replacePair_of_notMem noJoint
    | cons second rest =>
      have isText : ("::".intercalate (name :: second :: rest)).toList =
          name.toList ++ ':' :: ':' :: ("::".intercalate (second :: rest)).toList := by
        rw [String.intercalate_cons_cons, String.toList_append, String.toList_append, List.append_assoc]
        rfl
      rw [isText, slashPath, replacePair_append noJoint, toList_intercalate_cons_cons]
      exact (List.append_assoc ..).trans (congrArg (name.toList ++ '/' :: ·) others)

theorem dropJoints_of_head {cs : List Char} (plain : cs.head? ≠ some ':') : dropJoints cs = cs := by
  unfold dropJoints
  split
  · simp at plain
  · rfl

/-- The files of a source in front of which `super` stands. -/
theorem named_super {source : String} {tail : List Char} (isSource : source.toList = "super::".toList ++ tail)
    (importer : NormalPath) : index.named importer source =
      index.locate (below (moduleDirectory importer).parent (slashPath (dropJoints tail))) := by
  have isText : source.toList = 's' :: 'u' :: 'p' :: 'e' :: 'r' :: ':' :: ':' :: tail := isSource
  have notPath : (startsWith source "./" || startsWith source "../") = false := by
    simp [startsWith, isText, List.isPrefixOf]
  have notDotted : startsWith source "." = false := by simp [startsWith, isText, List.isPrefixOf]
  have notBelowCrate : after? "crate::".toList source.toList = none := isText ▸ rfl
  have notCrate : source ≠ "crate" := by
    rintro rfl
    cases isText
  have isSuper : (source = "super" || startsWith source "super::") = true := by simp [startsWith, isSource]
  unfold named
  simp only [notPath, notDotted, notBelowCrate, notCrate, isSuper, Bool.and_false, Bool.false_eq_true, if_false, if_true]
  rw [isText]
  rfl

theorem ancestor_one (path : SourcePath) : path.ancestor 1 = path.parent := by
  rw [ancestor, SourcePath.parent, parentComponents, List.dropLast_eq_take]

theorem isNormal_ancestor (path : SourcePath) (levels : Nat) : (path.ancestor levels).IsNormal :=
  isNormal_empty.walk fun _ isStep => isName_of_mem_components (List.mem_of_mem_take isStep)

/-- Names below a directory are its names with theirs behind them. -/
theorem normalize_below_intercalate {directory : NormalPath} (isNormal : directory.IsNormal)
    (areNames : ∀ name ∈ names, IsName name) :
    (below directory ("/".intercalate names).toList).normalize = { directory with names := directory.names ++ names } := by
  have notRooted : ("/".intercalate names).toList.head? ≠ some '/' := by
    cases names with
    | nil => simp
    | cons name names => exact (head?_intercalate names (areNames name List.mem_cons_self)).1
  rw [normalize_below isNormal notRooted, steps_intercalate areNames, foldl_step_names]

/-- Names behind `super` so many times. -/
def chain (levels : Nat) (names : List String) : List String :=
  List.replicate levels "super" ++ names

theorem areNames_chain (levels : Nat) (areNames : ∀ name ∈ names, IsModuleName name) :
    ∀ name ∈ chain levels names, IsModuleName name := by
  intro name isName
  rcases List.mem_append.mp isName with isSuper | isName
  · rw [(List.mem_replicate.mp isSuper).2]
    exact ⟨by decide, by decide⟩
  · exact areNames name isName

theorem toList_chain_succ (levels : Nat) (nonempty : names ≠ []) :
    ("::".intercalate (chain (levels + 1) names)).toList =
      "super::".toList ++ ("::".intercalate (chain levels names)).toList := by
  rw [chain, chain, List.replicate_succ, List.cons_append, String.intercalate_cons_of_ne_nil (by simp [nonempty]),
    String.toList_append, String.toList_append]
  rfl

/-- A path of modules does not start with a joint. -/
theorem head?_joined (areNames : ∀ name ∈ names, IsModuleName name) :
    ("::".intercalate names).toList.head? ≠ some ':' := by
  cases names with
  | nil => simp
  | cons name names =>
    have isName := areNames name List.mem_cons_self
    obtain ⟨first, rest, isText⟩ := List.exists_cons_of_ne_nil (IsName.ne_of_toList isName.nonempty)
    have notJoint : first ≠ ':' := fun isJoint => isName.noJoint (by simp [isText, isJoint])
    cases names <;> simpa [isText] using notJoint

/-- Of a chain of `super` the first one climbs. -/
theorem resolve_chain (index : ModuleIndex) (importer : SourcePath) (levels : Nat) (nonempty : names ≠ [])
    (areNames : ∀ name ∈ names, IsModuleName name) :
    index.resolve importer ("::".intercalate (chain (levels + 1) names)) =
      index.filesAt (below ((moduleDirectory importer.normalize).ancestor 1)
        ("/".intercalate (chain levels names)).toList) := by
  have areBelow := areNames_chain levels areNames
  rw [resolve, named_super (toList_chain_succ levels nonempty), dropJoints_of_head (head?_joined areBelow),
    slashPath_intercalate areBelow, ancestor_one]
  rfl

/-- A chain is no path to a file where no directory is called `super`. -/
theorem not_offers_chain {directory : NormalPath} (isNormal : directory.IsNormal) {levels : Nat} (several : 0 < levels)
    (nonempty : names ≠ []) (areNames : ∀ name ∈ names, IsModuleName name)
    (noDirectory : ∀ path ∈ paths, "super" ∉ path.normalize.names) :
    ¬ (ofPaths paths).Offers (below directory ("/".intercalate (chain levels names)).toList) := by
  rintro ⟨_, file, isCandidate, known⟩
  obtain ⟨path, isPath, rfl⟩ := mem_ofPaths.mp known
  have areBelow : ∀ name ∈ chain levels names, IsName name :=
    fun name isName => (areNames_chain levels areNames name isName).toIsName
  rw [normalize_below_intercalate isNormal areBelow] at isCandidate
  refine noDirectory path isPath (dropLast_subset_candidates isCandidate ?_)
  have isSuper : "super" ∈ List.replicate levels "super" := List.mem_replicate.mpr ⟨Nat.ne_of_gt several, rfl⟩
  rw [chain, ← List.append_assoc, List.dropLast_append_of_ne_nil nonempty]
  exact List.mem_append_left _ (List.mem_append_right _ isSuper)

/-- **Of a chain of `super` the first one climbs.** The others are looked for as directories below, and where
the repository has none of that name they lead to nothing. -/
theorem resolve_super (paths : List SourcePath) (importer : SourcePath) (levels : Nat) (names : List String)
    (nonempty : names ≠ []) (areNames : ∀ name ∈ names, IsModuleName name) :
    (ofPaths paths).resolve importer ("::".intercalate (List.replicate (levels + 1) "super" ++ names)) =
        (ofPaths paths).filesAt (below ((moduleDirectory importer.normalize).ancestor 1)
          ("/".intercalate (List.replicate levels "super" ++ names)).toList) ∧
      (0 < levels → (∀ path ∈ paths, "super" ∉ path.normalize.names) →
        (ofPaths paths).resolve importer ("::".intercalate (List.replicate (levels + 1) "super" ++ names)) = []) := by
  have files := resolve_chain (ofPaths paths) importer levels nonempty areNames
  refine ⟨files, fun several noDirectory => files.trans (filesAt_eq_nil_iff.mpr ?_)⟩
  exact not_offers_chain (isNormal_ancestor _ 1) several nonempty areNames noDirectory

/-- A module at the root of a crate, and one two levels below it. -/
def cratePaths : List SourcePath :=
  [⟨"src/agent.rs"⟩, ⟨"src/llm/chat.rs"⟩]

theorem ofPaths_cratePaths :
    ofPaths cratePaths = ⟨[⟨false, ["src", "agent.rs"]⟩, ⟨false, ["src", "llm", "chat.rs"]⟩]⟩ :=
  ofPaths_of_sorted (by decide +kernel) (by decide +kernel) (by decide +kernel)

theorem resolve_super_agent : IsModuleName "agent" ∧ (∀ path ∈ cratePaths, "super" ∉ path.normalize.names) ∧
    (ofPaths cratePaths).resolve ⟨"src/llm.rs"⟩ "super::agent" = [⟨false, ["src", "agent.rs"]⟩] ∧
    (ofPaths cratePaths).resolve ⟨"src/llm/chat.rs"⟩ "super::super::agent" = [] := by
  have isName : IsModuleName "agent" := ⟨by decide, by decide⟩
  have areNames : ∀ name ∈ ["agent"], IsModuleName name := by simpa using isName
  have noDirectory : ∀ path ∈ cratePaths, "super" ∉ path.normalize.names := by decide +kernel
  refine ⟨isName, noDirectory, ?_, ?_⟩
  · refine (resolve_super cratePaths ⟨"src/llm.rs"⟩ 0 ["agent"] (by decide) areNames).1.trans ?_
    rw [ofPaths_cratePaths]
    decide +kernel
  · exact (resolve_super cratePaths ⟨"src/llm/chat.rs"⟩ 1 ["agent"] (by decide) areNames).2 Nat.one_pos noDirectory

/-- A chain of two leads to nothing where the module two levels up has a file for the rest. -/
theorem chain_unresolved :
    2 ≤ (moduleDirectory (SourcePath.normalize ⟨"src/llm/chat.rs"⟩)).components.length ∧
      (ofPaths cratePaths).resolve ⟨"src/llm/chat.rs"⟩ "super::super::agent" = [] ∧
      (ofPaths cratePaths).filesAt
          (below ((moduleDirectory (SourcePath.normalize ⟨"src/llm/chat.rs"⟩)).ancestor 2) "agent".toList) =
        [⟨false, ["src", "agent.rs"]⟩] := by
  rw [ofPaths_cratePaths]
  decide +kernel

end ModuleIndex

end WorkflowAtlas
