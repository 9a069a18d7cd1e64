import WorkflowAtlas.Proofs.ImportResolution

/-!
# Imports that climb

Two notations lead upwards from the directory of a file: `../` in front of a path, and further dots in front of
a dotted name. Both climb one directory for each mark and stop at the top of the repository.

**One notation for the other** (`resolve_dotted_path`): a dotted source refers to what the path refers to that
has `../` for each further dot and slashes for the dots behind, wherever the file lies and whatever the rest of
the source names. Both are walked from the same directory (`normalize_below_pathFront`).

**Beyond the top** (`resolve_beyond_top`): a source that climbs further than there are directories is read
from the top, as if the marks that are too many were not there. So an import of something outside the
repository refers to nothing exactly where the repository has no file for the rest of the source, and not in
general (`outside_resolved`).
-/

namespace WorkflowAtlas

open WorkflowAtlas.Text

namespace NormalPath

variable {path : NormalPath}

theorem rooted_directory (relative : path.rooted = false) : path.directory.rooted = false := by
  unfold directory parent?
  split
  · rfl
  · exact relative

/-- Whoever climbs as far as there are names is at the top. -/
theorem climb_eq_empty {levels : Nat} (relative : path.rooted = false) (far : path.names.length ≤ levels) :
    ModuleIndex.climb path levels = empty := by
  obtain ⟨rooted, names⟩ := path
  cases relative
  simp only [ModuleIndex.climb, Nat.sub_eq_zero_of_le far, List.take_zero]
  rfl

/-- What lies above a normal path is normal. -/
theorem IsNormal.climb (isNormal : path.IsNormal) (levels : Nat) : (ModuleIndex.climb path levels).IsNormal :=
  fun name isName => isNormal name (List.mem_of_mem_take isName)

/-- The text of a normal path has its extension. -/
theorem extension?_toPath (isNormal : path.IsNormal) : path.toPath.extension? = path.extension? := by
  have isFile : path.toPath.fileName? = path.fileName? := by
    rw [SourcePath.fileName?, components_toPath isNormal, components, fileName?, List.getLast?_append, List.getLast?_map]
    cases path.names.getLast? with
    | none => cases path.rooted <;> rfl
    | some name => rfl
  rw [SourcePath.extension?, isFile, extension?]

/-- A change of the last name keeps the others. -/
theorem dropLast_mapFileName (path : NormalPath) (change : String → String) :
    (path.mapFileName change).names.dropLast = path.names.dropLast := by
  unfold mapFileName
  split <;> simp

theorem dropLast_addExtension_subset (path : NormalPath) (extension : String) :
    path.names.dropLast ⊆ (path.addExtension extension).names := by
  unfold addExtension
  split
  · next isEmpty => simp [List.isEmpty_iff.mp isEmpty]
  · exact dropLast_mapFileName path _ ▸ List.dropLast_subset _

end NormalPath

namespace ModuleIndex

open NormalPath SourcePath

variable {index : ModuleIndex} {paths : List SourcePath} {importer path other : SourcePath} {source : String}

/-! ## Files for a path -/

/-- **The files that a path from the top refers to.** -/
def filesAt (index : ModuleIndex) (path : SourcePath) : List NormalPath :=
  index.withImplementations (index.locate path)

/-- **The repository has a file for a path**: one of the paths that it may stand for is known. -/
def Offers (index : ModuleIndex) (path : SourcePath) : Prop :=
  path.normalize.isEmpty = false ∧ ∃ file ∈ candidates path.normalize, file ∈ index.files

theorem locate_congr (index : ModuleIndex) (same : path.normalize = other.normalize) :
    index.locate path = index.locate other := by
  rw [locate, same, locate]

theorem prefix_withImplementations (index : ModuleIndex) (found : List NormalPath) :
    found <+: index.withImplementations found := by
  refine List.foldlRecOn (motive := (found <+: ·)) _ _ (List.prefix_refl found) ?_
  intro all before _ _
  exact before.trans (List.prefix_append ..)

theorem locate_eq_nil_iff : index.locate path = [] ↔ ¬ index.Offers path := by
  unfold locate Offers
  simp only
  split
  · next isEmpty => simp [isEmpty]
  · next nonempty => simp [nonempty]

/-- A path refers to nothing exactly where the repository has no file for it. -/
theorem filesAt_eq_nil_iff : index.filesAt path = [] ↔ ¬ index.Offers path := by
  rw [← locate_eq_nil_iff]
  constructor
  · intro nothing
    exact List.prefix_nil.mp (nothing ▸ prefix_withImplementations index _)
  · intro nothing
    rw [filesAt, nothing]
    rfl

/-- The paths that a path may stand for lie in the same directory or below it. -/
theorem dropLast_subset_candidates {path file : NormalPath} (isCandidate : file ∈ candidates path) :
    path.names.dropLast ⊆ file.names := by
  have isStem : (scriptStem path).names.dropLast = path.names.dropLast := by
    unfold scriptStem dropExtension
    split
    · split
      · exact dropLast_mapFileName path _
      · rfl
    · rfl
  rcases List.mem_append.mp isCandidate with named | isIndex
  · rcases List.mem_cons.mp named with rfl | extended
    · exact List.dropLast_subset _
    · obtain ⟨extension, _, rfl⟩ := List.mem_map.mp extended
      exact isStem ▸ dropLast_addExtension_subset _ extension
  · obtain ⟨name, _, rfl⟩ := List.mem_map.mp isIndex
    exact fun _ isName => List.mem_append_left _ (List.dropLast_subset _ isName)

/-! ## Two notations -/

/-- `../` so many times. -/
def climbText (levels : Nat) : List Char :=
  (List.replicate levels ['.', '.', '/']).flatten

/-- What a relative path starts with that climbs so many levels: `./` where it stays. -/
def pathFront (levels : Nat) : List Char :=
  if levels = 0 then ['.', '/'] else climbText levels

/-- A dotted name with slashes for its dots. -/
def undotted (cs : List Char) : List Char :=
  cs.map fun c => if c = '.' then '/' else c

theorem climbText_succ (levels : Nat) : climbText (levels + 1) = ['.', '.'] ++ '/' :: climbText levels := by
  simp [climbText, List.replicate_succ]

theorem steps_climbText (levels : Nat) (rest : List Char) :
    steps (climbText levels ++ rest) = List.replicate levels .up ++ steps rest := by
  induction levels with
  | zero => rfl
  | succ levels ih =>
    have first : climbText (levels + 1) ++ rest = ['.', '.'] ++ '/' :: (climbText levels ++ rest) := by
      simp [climbText_succ]
    rw [first, steps_append_slash, ih]
    rfl

/-- **A relative path is walked from the directory that it climbs to.** -/
theorem normalize_below_pathFront {directory : NormalPath} (isNormal : directory.IsNormal) (levels : Nat)
    (rest : List Char) : (below directory (pathFront levels ++ rest)).normalize =
      (steps rest).foldl step (climb directory levels) := by
  cases levels with
  | zero =>
    have isStay : steps (pathFront 0 ++ rest) = steps rest := steps_append_slash ['.'] rest
    rw [normalize_below isNormal (by simp [pathFront]), isStay, ← foldl_step_up]
    rfl
  | succ levels =>
    have isClimb : pathFront (levels + 1) = climbText (levels + 1) := if_neg (Nat.succ_ne_zero levels)
    rw [isClimb, normalize_below isNormal (by simp [climbText_succ]), steps_climbText, List.foldl_append, foldl_step_up]

/-- A relative path is looked for below the directory of the file. -/
theorem named_pathFront (index : ModuleIndex) (importer : NormalPath) (levels : Nat) (rest : List Char) :
    index.named importer (String.ofList (pathFront levels ++ rest)) =
      index.locate (below importer.directory (pathFront levels ++ rest)) := by
  have isPath : (startsWith (String.ofList (pathFront levels ++ rest)) "./" ||
      startsWith (String.ofList (pathFront levels ++ rest)) "../") = true := by
    cases levels with
    | zero => simp [startsWith, pathFront]
    | succ levels => simp [startsWith, pathFront, climbText_succ]
  rw [named, if_pos isPath, String.toList_ofList]

/-- A dotted name is looked for below the directory that its dots climb to. -/
theorem dottedRelative_dots {directory : NormalPath} (isNormal : directory.IsNormal) (levels : Nat) {rest : List Char}
    (named : rest.head? ≠ some '.') : index.dottedRelative directory (List.replicate (levels + 1) '.' ++ rest) =
      index.locate (below (climb directory levels) (undotted rest)) := by
  have front : (List.replicate (levels + 1) '.' ++ rest).takeWhile (· == '.') = List.replicate (levels + 1) '.' := by
    rw [List.takeWhile_append_of_pos (by simp)]
    cases rest with
    | nil => simp
    | cons c cs =>
      have notDot : c ≠ '.' := by simpa using named
      simp [notDot]
  unfold dottedRelative
  simp only [front, List.length_replicate, List.drop_left', Nat.add_sub_cancel]
  split
  · next isEmpty =>
    -- without a name the directory itself is meant, in another writing
    refine locate_congr index ?_
    have isDirectory : (below (climb directory levels) []).normalize = climb directory levels :=
      normalize_below (isNormal.climb levels) (by simp)
    rw [List.isEmpty_iff.mp isEmpty, normalize_toPath (isNormal.climb levels)]
    exact isDirectory.symm
  · rfl

/-- **A Python source with dots in front is a dotted name**, unless it is written as a path. -/
theorem named_dots (index : ModuleIndex) {importer : NormalPath}
    (isPython : Language.ofPath? importer.toPath = some .python) (isNormal : importer.IsNormal) (levels : Nat)
    {rest : List Char} (named : rest.head? ≠ some '.') (noPath : levels ≤ 1 → rest.head? ≠ some '/') :
    index.named importer (String.ofList (List.replicate (levels + 1) '.' ++ rest)) =
      index.locate (below (climb importer.directory levels) (undotted rest)) := by
  have notPath : (startsWith (String.ofList (List.replicate (levels + 1) '.' ++ rest)) "./" ||
      startsWith (String.ofList (List.replicate (levels + 1) '.' ++ rest)) "../") = false := by
    match levels, rest with
    | 0, [] => rfl
    | 1, [] => rfl
    | 0, c :: cs | 1, c :: cs =>
      have notSlash : c ≠ '/' := by simpa using noPath (by omega)
      have notDot : c ≠ '.' := by simpa using named
      simp [startsWith, List.replicate_succ, List.isPrefixOf, notSlash.symm, notDot.symm]
    | more + 2, rest => simp [startsWith, List.replicate_succ, List.isPrefixOf]
  have isDotted : (Language.ofPath? importer.toPath = some .python &&
      startsWith (String.ofList (List.replicate (levels + 1) '.' ++ rest)) ".") = true := by
    simp [isPython, startsWith, List.replicate_succ]
  unfold ModuleIndex.named
  simp only
  rw [notPath, if_neg Bool.false_ne_true, if_pos isDotted, String.toList_ofList]
  exact dottedRelative_dots isNormal.directory levels named

/-- **A dotted source and a path refer to the same files**: those below the directory that both climb to. -/
theorem resolve_dotted_path (paths : List SourcePath) (importer : SourcePath)
    (isPython : importer.normalize.extension? = some "py") (levels : Nat) (rest : List Char) (noSlash : '/' ∉ rest)
    (named : rest.head? ≠ some '.') :
    (ofPaths paths).resolve importer (String.ofList (List.replicate (levels + 1) '.' ++ rest)) =
        (ofPaths paths).resolve importer (String.ofList (pathFront levels ++ undotted rest)) ∧
      (ofPaths paths).resolve importer (String.ofList (pathFront levels ++ undotted rest)) =
        (ofPaths paths).filesAt (below (climb importer.normalize.directory levels) (undotted rest)) := by
  have isNormal := isNormal_normalize importer
  have isLanguage : Language.ofPath? importer.normalize.toPath = some .python := by
    rw [Language.ofPath?, extension?_toPath isNormal, isPython]
    rfl
  have notRooted : (undotted rest).head? ≠ some '/' := by
    cases rest with
    | nil => simp [undotted]
    | cons c cs =>
      have notDot : c ≠ '.' := by simpa using named
      have notSlash : c ≠ '/' := fun isSlash => noSlash (by simp [isSlash])
      simpa [undotted, notDot] using notSlash
  have dotted := named_dots (ofPaths paths) isLanguage isNormal levels named
    fun _ isSlash => noSlash (List.mem_of_mem_head? isSlash)
  have written := named_pathFront (ofPaths paths) importer.normalize levels (undotted rest)
  have sameWalk : (below importer.normalize.directory (pathFront levels ++ undotted rest)).normalize =
      (below (climb importer.normalize.directory levels) (undotted rest)).normalize := by
    rw [normalize_below_pathFront isNormal.directory, normalize_below (isNormal.directory.climb levels) notRooted]
  have sameFiles := locate_congr (ofPaths paths) sameWalk
  simp only [resolve, filesAt, dotted, written, sameFiles, and_self]

/-- A package with a module in it and one a directory below. -/
def agentPaths : List SourcePath :=
  [⟨"agents/__init__.py"⟩, ⟨"agents/tools/search.py"⟩, ⟨"agents/writer.py"⟩]

theorem ofPaths_agentPaths : ofPaths agentPaths = ⟨[⟨false, ["agents", "__init__.py"]⟩,
    ⟨false, ["agents", "tools", "search.py"]⟩, ⟨false, ["agents", "writer.py"]⟩]⟩ :=
  ofPaths_of_sorted (by decide +kernel) (by decide +kernel) (by decide +kernel)

theorem resolve_dotted_path_agents :
    (SourcePath.normalize ⟨"agents/tools/search.py"⟩).extension? = some "py" ∧
      '/' ∉ "writer".toList ∧ "writer".toList.head? ≠ some '.' ∧
      (ofPaths agentPaths).resolve ⟨"agents/tools/search.py"⟩ "..writer" =
        (ofPaths agentPaths).resolve ⟨"agents/tools/search.py"⟩ "../writer" ∧
      (ofPaths agentPaths).resolve ⟨"agents/tools/search.py"⟩ "../writer" = [⟨false, ["agents", "writer.py"]⟩] ∧
      (ofPaths agentPaths).resolve ⟨"agents/tools/search.py"⟩ ".." =
        (ofPaths agentPaths).resolve ⟨"agents/tools/search.py"⟩ "../" ∧
      (ofPaths agentPaths).resolve ⟨"agents/tools/search.py"⟩ "../" = [⟨false, ["agents", "__init__.py"]⟩] := by
  have isPython : (SourcePath.normalize ⟨"agents/tools/search.py"⟩).extension? = some "py" := by decide +kernel
  obtain ⟨sameNamed, named⟩ := resolve_dotted_path agentPaths ⟨"agents/tools/search.py"⟩ isPython 1 "writer".toList
    (by decide) (by decide)
  obtain ⟨sameAlone, alone⟩ := resolve_dotted_path agentPaths ⟨"agents/tools/search.py"⟩ isPython 1 [] (by decide)
    (by decide)
  refine ⟨isPython, by decide, by decide, sameNamed, named.trans ?_, sameAlone, alone.trans ?_⟩
  · rw [ofPaths_agentPaths]
    decide +kernel
  · rw [ofPaths_agentPaths]
    decide +kernel

/-! ## Beyond the top -/

/-- How many directories a file lies below the top. -/
def depth (importer : SourcePath) : Nat :=
  importer.normalize.directory.names.length

/-- **An import that is read from the top**: it refers to what a path refers to there, and so to nothing
exactly where the repository has no file for that path. -/
structure ReadFromTop (index : ModuleIndex) (importer : SourcePath) (source : String) (path : SourcePath) : Prop where
  files : index.resolve importer source = index.filesAt path
  nothing : index.resolve importer source = [] ↔ ¬ index.Offers path

theorem readFromTop_of_named (located : index.named importer.normalize source = index.locate path) :
    index.ReadFromTop importer source path := by
  have files : index.resolve importer source = index.filesAt path := congrArg index.withImplementations located
  exact ⟨files, files ▸ filesAt_eq_nil_iff⟩

theorem readFromTop_climbing (relative : importer.normalize.rooted = false) {levels : Nat}
    (beyond : depth importer < levels) (rest : List Char) :
    index.ReadFromTop importer (String.ofList (climbText levels ++ rest)) ⟨String.ofList ('.' :: '/' :: rest)⟩ := by
  have isFront : climbText levels = pathFront levels := (if_neg (Nat.ne_of_gt (Nat.zero_lt_of_lt beyond))).symm
  have top : climb importer.normalize.directory levels = empty :=
    climb_eq_empty (rooted_directory relative) (Nat.le_of_lt beyond)
  have isStay : steps ('.' :: '/' :: rest) = steps rest := steps_append_slash ['.'] rest
  have isStart : start ⟨String.ofList ('.' :: '/' :: rest)⟩ = empty := by simp [start, isRooted, empty]
  refine readFromTop_of_named ?_
  rw [isFront, named_pathFront]
  refine locate_congr index ?_
  rw [normalize_below_pathFront (isNormal_normalize importer).directory, top, normalize_eq, String.toList_ofList, isStay,
    isStart]

/-- Below the top a path is as it is written. -/
theorem below_empty (cs : List Char) : below empty cs = ⟨String.ofList cs⟩ := by
  unfold below join
  split
  · rfl
  · rw [if_pos (.inl rfl)]
    exact congrArg SourcePath.mk String.empty_append

theorem readFromTop_dotted (relative : importer.normalize.rooted = false)
    (isPython : Language.ofPath? importer.normalize.toPath = some .python) {dots : Nat}
    (beyond : depth importer + 1 < dots) {rest : List Char} (named : rest.head? ≠ some '.')
    (noPath : dots = 2 → rest.head? ≠ some '/') :
    index.ReadFromTop importer (String.ofList (List.replicate dots '.' ++ rest))
      ⟨String.ofList (undotted rest)⟩ := by
  obtain ⟨levels, rfl⟩ : ∃ levels, dots = levels + 1 := ⟨dots - 1, by omega⟩
  have top : climb importer.normalize.directory levels = empty :=
    climb_eq_empty (rooted_directory relative) (Nat.le_of_lt (Nat.lt_of_succ_lt_succ beyond))
  have noPath : levels ≤ 1 → rest.head? ≠ some '/' := fun few => noPath (by omega)
  refine readFromTop_of_named ?_
  rw [named_dots index isPython (isNormal_normalize importer) levels named noPath, top, below_empty]

/-- **A source that climbs beyond the top is read from there**, by `../` and by dots. -/
theorem resolve_beyond_top (paths : List SourcePath) (importer : SourcePath)
    (relative : importer.normalize.rooted = false) :
    (∀ (levels : Nat) (rest : List Char), depth importer < levels →
      (ofPaths paths).ReadFromTop importer (String.ofList (climbText levels ++ rest))
        ⟨String.ofList ('.' :: '/' :: rest)⟩) ∧
      (Language.ofPath? importer.normalize.toPath = some .python → ∀ (dots : Nat) (rest : List Char),
        depth importer + 1 < dots → rest.head? ≠ some '.' → (dots = 2 → rest.head? ≠ some '/') →
        (ofPaths paths).ReadFromTop importer (String.ofList (List.replicate dots '.' ++ rest))
          ⟨String.ofList (undotted rest)⟩) :=
  ⟨fun _ rest beyond => readFromTop_climbing relative beyond rest,
    fun isPython _ _ beyond named noPath => readFromTop_dotted relative isPython beyond named noPath⟩

/-- A module at the top and one in a directory. -/
def outsidePaths : List SourcePath :=
  [⟨"llm.py"⟩, ⟨"web/app.py"⟩]

theorem ofPaths_outsidePaths : ofPaths outsidePaths = ⟨[⟨false, ["llm.py"]⟩, ⟨false, ["web", "app.py"]⟩]⟩ :=
  ofPaths_of_sorted (by decide +kernel) (by decide +kernel) (by decide +kernel)

theorem resolve_beyond_top_sample :
    SourcePath.normalize ⟨"web/app.py"⟩ = ⟨false, ["web", "app.py"]⟩ ∧ depth ⟨"web/app.py"⟩ < 2 ∧
      (ofPaths outsidePaths).ReadFromTop ⟨"web/app.py"⟩ "../../llm" ⟨"./llm"⟩ ∧
      (ofPaths outsidePaths).ReadFromTop ⟨"web/app.py"⟩ "...llm" ⟨"llm"⟩ := by
  have isNormal : SourcePath.normalize ⟨"web/app.py"⟩ = ⟨false, ["web", "app.py"]⟩ := by decide +kernel
  have shallow : depth ⟨"web/app.py"⟩ < 2 := by decide +kernel
  obtain ⟨climbing, dotted⟩ := resolve_beyond_top outsidePaths ⟨"web/app.py"⟩ (by rw [isNormal])
  refine ⟨isNormal, shallow, climbing 2 "llm".toList shallow, ?_⟩
  exact dotted (by decide +kernel) 3 "llm".toList (Nat.succ_lt_succ shallow) (by decide) (by decide)

/-- Sources that climb out of the repository may refer to a file inside it. -/
theorem outside_resolved :
    (SourcePath.normalize ⟨"web/app.py"⟩).rooted = false ∧ depth ⟨"web/app.py"⟩ = 1 ∧
      (ofPaths outsidePaths).resolve ⟨"web/app.py"⟩ "../../llm" = [⟨false, ["llm.py"]⟩] ∧
      Language.ofPath? ⟨"web/app.py"⟩ = some .python ∧
      (ofPaths outsidePaths).resolve ⟨"web/app.py"⟩ "...llm" = [⟨false, ["llm.py"]⟩] := by
  rw [ofPaths_outsidePaths]
  decide +kernel

end ModuleIndex

end WorkflowAtlas
