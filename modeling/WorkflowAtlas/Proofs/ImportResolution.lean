import WorkflowAtlas.Proofs.Listing
import WorkflowAtlas.Proofs.PathForm

/-!
# What an import can refer to

Each notation of a source builds its paths in its own way, and all of them end in the same few places: one
file that the index has, the files of a package, or nothing (`named_refers`). Implementations are then added
to a header and to nothing else.

**The law** (`resolve_known`): an import refers to files of the repository only, in normal form and each
once. It refers to several files in two cases: a Go package is all `.go` files directly in one directory
that the repository knows, and a header comes with the files of its stem that end in `c`, `cc` and `cpp`.
-/

namespace WorkflowAtlas

open WorkflowAtlas.Text

/-! ## Names with extensions -/

/-- **A name with an extension** is its stem, a dot and the extension. -/
theorem splitExtension_eq_some {file stem extension : String} (split : splitExtension file = (stem, some extension)) :
    file = stem ++ "." ++ extension := by
  unfold splitExtension at split
  split at split
  · cases split
  · cases split
  · next cutStem cutExtension _ cut =>
    cases split
    obtain ⟨mark, isMark, whole⟩ := cutAtLast_eq_some cut
    rw [← String.toList_inj, whole, eq_of_beq isMark]
    simp

namespace NormalPath

/-- **The file of a directory** with a stem and an extension. -/
def file (directory : NormalPath) (stem extension : String) : NormalPath :=
  directory.child (stem ++ "." ++ extension)

theorem file_inj {directory : NormalPath} {stem first second : String}
    (same : directory.file stem first = directory.file stem second) : first = second := by
  have names := congrArg NormalPath.names same
  simpa [file, child] using names

/-- A path with an extension is a file of its directory, and another extension gives the file of that one,
unless the stem is `.`. -/
theorem exists_file {path : NormalPath} {extension : String} (isExtension : path.extension? = some extension) :
    ∃ (directory : NormalPath) (stem : String), path = directory.file stem extension ∧
      ∀ other, path.withExtension other = if stem = "." then directory.child ".." else directory.file stem other := by
  obtain ⟨name, isName, isSplit⟩ := Option.bind_eq_some_iff.mp isExtension
  obtain ⟨stem, isStem⟩ : ∃ stem, splitExtension name = (stem, some extension) :=
    ⟨(splitExtension name).1, Prod.ext rfl isSplit⟩
  obtain ⟨names, isLast⟩ := List.getLast?_eq_some_iff.mp isName
  refine ⟨{ path with names }, stem, ?_, fun other => ?_⟩
  · rw [file, ← splitExtension_eq_some isStem, child, ← isLast]
  · have isLastName : path.names.getLast? = some name := isName
    simp only [withExtension, mapFileName, isLastName, changeEnding, isStem]
    by_cases isDot : stem = "."
    · simp [isDot, child, isLast]
    · simp [isDot, file, child, isLast, String.append_assoc]

end NormalPath

namespace ModuleIndex

open NormalPath

variable {index : ModuleIndex} {importer : SourcePath} {source : String} {file : NormalPath} {found : List NormalPath}

/-! ## The files of an index -/

@[simp] theorem has_iff : index.has file = true ↔ file ∈ index.files :=
  decide_eq_true_iff

/-- **A proper index** has paths in normal form, each once. -/
structure IsProper (index : ModuleIndex) : Prop where
  normal : ∀ file ∈ index.files, file.IsNormal
  nodup : index.files.Nodup

theorem mem_ofPaths {paths : List SourcePath} : file ∈ (ofPaths paths).files ↔ ∃ path ∈ paths, path.normalize = file := by
  rw [ofPaths, (List.mergeSort_perm _ _).mem_iff, List.mem_eraseDups, List.mem_map]

theorem isProper_ofPaths (paths : List SourcePath) : (ofPaths paths).IsProper where
  normal file isFile := by
    obtain ⟨path, _, rfl⟩ := mem_ofPaths.mp isFile
    exact isNormal_normalize path
  nodup := (List.mergeSort_perm _ _).nodup_iff.mpr (nodup_eraseDups _)

/-- Files in order are indexed as they come. -/
theorem ofPaths_of_sorted {paths : List SourcePath} {files : List NormalPath}
    (areFiles : paths.map (·.normalize) = files) (nodup : files.Nodup) (sorted : files.Pairwise fun a b => a.le b) :
    ofPaths paths = ⟨files⟩ := by
  rw [ofPaths, areFiles, eraseDups_of_nodup nodup, List.mergeSort_of_pairwise sorted]

/-! ## Packages and headers -/

/-- A directory that holds files of the repository; the top is not one. -/
def KnowsDirectory (index : ModuleIndex) (directory : NormalPath) : Prop :=
  directory.isEmpty = false ∧ ∃ file ∈ index.files, file.parent? = some directory

/-- **The files of a Go package**: all `.go` files directly in a directory that the source names at its end. -/
structure IsPackage (index : ModuleIndex) (importer : SourcePath) (source : String) (directory : NormalPath)
    (found : List NormalPath) : Prop where
  isGo : Language.ofPath? importer.normalize.toPath = some .go
  known : index.KnowsDirectory directory
  named : source = directory.toPath.slashed ∨ endsWith source ("/" ++ directory.toPath.slashed) = true
  files : found = index.files.filter fun file => file.parent? = some directory && file.extension? = some "go"

/-- **A header and its implementations**: the files of its directory and stem that the repository has. -/
structure IsHeader (index : ModuleIndex) (directory : NormalPath) (stem extension : String)
    (found : List NormalPath) : Prop where
  isHeader : extension = "h" ∨ extension = "hpp"
  known : directory.file stem extension ∈ index.files
  files : found = directory.file stem extension :: (["c", "cc", "cpp"].map (directory.file stem)).filter index.has

/-- **What a source can refer to**, headers without their implementations. -/
inductive Refers (index : ModuleIndex) (importer : SourcePath) (source : String) : List NormalPath → Prop
  | nothing : Refers index importer source []
  | file {file : NormalPath} (known : file ∈ index.files) : Refers index importer source [file]
  | package {directory : NormalPath} {found : List NormalPath}
      (isPackage : index.IsPackage importer source directory found) : Refers index importer source found

/-- The first candidate that the index has is one file or none. -/
theorem refers_find (index : ModuleIndex) (importer : SourcePath) (source : String) (candidates : List NormalPath) :
    index.Refers importer source (candidates.find? index.has).toList := by
  cases isFound : candidates.find? index.has with
  | none => exact .nothing
  | some file => exact .file (has_iff.mp (List.find?_some isFound))

theorem refers_locate (index : ModuleIndex) (importer : SourcePath) (source : String) (path : SourcePath) :
    index.Refers importer source (index.locate path) := by
  unfold locate
  simp only
  split
  · exact .nothing
  · exact refers_find index importer source _

theorem refers_dottedRelative (index : ModuleIndex) (importer : SourcePath) (source : String) (directory : NormalPath)
    (cs : List Char) : index.Refers importer source (index.dottedRelative directory cs) := by
  unfold dottedRelative
  simp only
  split <;> exact refers_locate ..

theorem mem_of_longestDirectory? {directories : List NormalPath} {directory : NormalPath}
    (longest : longestDirectory? directories = some directory) : directory ∈ directories := by
  induction directories with
  | nil => cases longest
  | cons first rest ih =>
    unfold longestDirectory? at longest
    split at longest
    · cases longest
      exact List.mem_cons_self
    · next other isOther =>
      split at longest
      · cases longest
        exact List.mem_cons_of_mem first (ih isOther)
      · cases longest
        exact List.mem_cons_self

theorem knowsDirectory_of_mem {directory : NormalPath} (isDirectory : directory ∈ index.directories) :
    index.KnowsDirectory directory := by
  rw [directories, (List.mergeSort_perm _ _).mem_iff, List.mem_eraseDups, List.mem_filter, List.mem_filterMap]
    at isDirectory
  exact ⟨by simpa using isDirectory.2, isDirectory.1⟩

theorem refers_packageFiles (isGo : Language.ofPath? importer.normalize.toPath = some .go) :
    index.Refers importer source (index.packageFiles source) := by
  unfold packageFiles
  simp only
  split
  · exact .nothing
  · next directory longest =>
    obtain ⟨isDirectory, isNamed⟩ := List.mem_filter.mp (mem_of_longestDirectory? longest)
    exact .package ⟨isGo, knowsDirectory_of_mem isDirectory, by simpa using isNamed, rfl⟩

theorem refers_bare (index : ModuleIndex) (importer : SourcePath) (source : String) (directory : NormalPath) :
    index.Refers importer source
      (index.bare directory source (Language.ofPath? importer.normalize.toPath)) := by
  unfold bare
  simp only
  split
  · next found isFound =>
    obtain ⟨place, _, rfl⟩ := List.mem_map.mp (List.mem_of_find?_eq_some isFound)
    exact refers_locate ..
  · split
    · next isGo => exact refers_packageFiles isGo
    · exact .nothing

/-- **Every notation ends in one file, a package or nothing.** -/
theorem named_refers (index : ModuleIndex) (importer : SourcePath) (source : String) :
    index.Refers importer source (index.named importer.normalize source) := by
  unfold named
  simp only
  split
  · exact refers_locate ..
  · split
    · exact refers_dottedRelative ..
    · split
      · exact refers_locate ..
      · split
        · exact refers_find ..
        · split
          · exact refers_locate ..
          · split
            · exact refers_locate ..
            · split
              · exact refers_locate ..
              · exact refers_bare ..

/-! ## Implementations -/

theorem implementations_of_source {all : List NormalPath} (source : file.extension? ∉ [some "h", some "hpp"]) :
    index.implementations all file = [] :=
  if_neg source

/-- Where no file is a header, nothing is added. -/
theorem withImplementations_of_sources (sources : ∀ file ∈ found, file.extension? ∉ [some "h", some "hpp"]) :
    index.withImplementations found = found := by
  refine List.foldlRecOn (motive := (· = found)) _ _ rfl ?_
  rintro _ rfl file isFile
  rw [implementations_of_source (sources file isFile), List.append_nil]

theorem withImplementations_package {directory : NormalPath}
    (isPackage : index.IsPackage importer source directory found) : index.withImplementations found = found := by
  refine withImplementations_of_sources fun file isFile => ?_
  rw [isPackage.files, List.mem_filter] at isFile
  have isGo : file.extension? = some "go" := (by simpa using isFile.2 : _ ∧ _).2
  simp [isGo]

/-- **One file** stays alone, unless it is a header. The stem `.` has no implementations, since none of their
names is a name. -/
theorem withImplementations_file (proper : index.IsProper) (known : file ∈ index.files) :
    index.withImplementations [file] = [file] ∨
      ∃ directory stem extension, index.IsHeader directory stem extension (index.withImplementations [file]) := by
  by_cases header : file.extension? ∈ [some "h", some "hpp"]
  · obtain ⟨extension, isHeader, isExtension⟩ :
        ∃ extension, (extension = "h" ∨ extension = "hpp") ∧ file.extension? = some extension := by
      rcases (by simpa using header : file.extension? = some "h" ∨ file.extension? = some "hpp") with is | is
      · exact ⟨"h", .inl rfl, is⟩
      · exact ⟨"hpp", .inr rfl, is⟩
    have whole : index.withImplementations [file] = file :: (["c", "cc", "cpp"].map file.withExtension).filter
        fun other => index.has other && other ∉ [file] := congrArg (file :: ·) (if_pos header)
    obtain ⟨directory, stem, rfl, changed⟩ := exists_file isExtension
    rw [whole]
    by_cases isDot : stem = "."
    · left
      have absent : ∀ ending, (directory.file stem extension).withExtension ending ∉ index.files := by
        intro ending isFile
        rw [changed, if_pos isDot] at isFile
        exact (proper.normal _ isFile ".." (by simp [child])).notUp rfl
      simp [absent]
    · refine .inr ⟨directory, stem, extension, isHeader, known, congrArg (_ :: ·) ?_⟩
      have isMap : ["c", "cc", "cpp"].map (directory.file stem extension).withExtension =
          ["c", "cc", "cpp"].map (directory.file stem) := by simp [changed, isDot]
      rw [isMap]
      refine List.filter_congr fun other isOther => ?_
      obtain ⟨ending, isEnding, rfl⟩ := List.mem_map.mp isOther
      have differs : directory.file stem ending ≠ directory.file stem extension := by
        intro same
        have sameEnding := file_inj same
        rcases isHeader with rfl | rfl <;> simp [sameEnding] at isEnding
      simp [differs]
  · exact .inl (withImplementations_of_sources fun other isOther => List.mem_singleton.mp isOther ▸ header)

/-- **An import refers to one file, a package, a header with its implementations, or nothing.** -/
theorem resolve_cases (proper : index.IsProper) (importer : SourcePath) (source : String) :
    index.Refers importer source (index.resolve importer source) ∨
      ∃ directory stem extension, index.IsHeader directory stem extension (index.resolve importer source) := by
  unfold resolve
  have refers := named_refers index importer source
  generalize index.named importer.normalize source = found at refers
  cases refers with
  | nothing => exact .inl .nothing
  | file known =>
    rcases withImplementations_file proper known with alone | isHeader
    · rw [alone]
      exact .inl (.file known)
    · exact .inr isHeader
  | package isPackage =>
    rw [withImplementations_package isPackage]
    exact .inl (.package isPackage)

/-- **An import never leads out of the index.** -/
theorem mem_files_of_mem_resolve (proper : index.IsProper) (isFile : file ∈ index.resolve importer source) :
    file ∈ index.files := by
  have cases := resolve_cases proper importer source
  generalize index.resolve importer source = found at cases isFile
  rcases cases with refers | ⟨directory, stem, extension, isHeader⟩
  · cases refers with
    | nothing => cases isFile
    | file known => exact List.mem_singleton.mp isFile ▸ known
    | package isPackage => exact (List.mem_filter.mp (isPackage.files ▸ isFile)).1
  · rcases List.mem_cons.mp (isHeader.files ▸ isFile) with rfl | implements
    · exact isHeader.known
    · exact has_iff.mp (List.mem_filter.mp implements).2

theorem IsHeader.nodup {directory : NormalPath} {stem extension : String}
    (isHeader : index.IsHeader directory stem extension found) : found.Nodup := by
  have endings : [extension, "c", "cc", "cpp"].Nodup := by
    rcases isHeader.isHeader with rfl | rfl <;> decide
  have files : ([extension, "c", "cc", "cpp"].map (directory.file stem)).Nodup :=
    endings.map fun _ _ => file_inj
  rw [isHeader.files]
  exact files.sublist (List.filter_sublist.cons_cons _)

/-- **An import refers to files of the repository only**, in normal form and each once; to several only as a
package or as a header with its implementations. -/
theorem resolve_known (paths : List SourcePath) (importer : SourcePath) (source : String) :
    (∀ file ∈ (ofPaths paths).resolve importer source, file.IsNormal ∧ ∃ path ∈ paths, path.normalize = file) ∧
      ((ofPaths paths).resolve importer source).Nodup ∧
      (1 < ((ofPaths paths).resolve importer source).length →
        (∃ directory, (ofPaths paths).IsPackage importer source directory ((ofPaths paths).resolve importer source)) ∨
          ∃ directory stem extension,
            (ofPaths paths).IsHeader directory stem extension ((ofPaths paths).resolve importer source)) := by
  have proper := isProper_ofPaths paths
  refine ⟨fun file isFile => ?_, ?_⟩
  · have known := mem_files_of_mem_resolve proper isFile
    exact ⟨proper.normal file known, mem_ofPaths.mp known⟩
  · have cases := resolve_cases proper importer source
    generalize (ofPaths paths).resolve importer source = found at cases
    rcases cases with refers | ⟨directory, stem, extension, isHeader⟩
    · cases refers with
      | nothing => simp
      | file known => simp
      | package isPackage => exact ⟨isPackage.files ▸ proper.nodup.filter _, fun _ => .inl ⟨_, isPackage⟩⟩
    · exact ⟨isHeader.nodup, fun _ => .inr ⟨directory, stem, extension, isHeader⟩⟩

/-- A package of two files, and a header with an implementation. -/
def samplePaths : List SourcePath :=
  [⟨"c/llm.c"⟩, ⟨"./c/llm.h"⟩, ⟨"go/llm/ask.go"⟩, ⟨"go/llm/chat.go"⟩]

theorem ofPaths_samplePaths : ofPaths samplePaths = ⟨[⟨false, ["c", "llm.c"]⟩, ⟨false, ["c", "llm.h"]⟩,
    ⟨false, ["go", "llm", "ask.go"]⟩, ⟨false, ["go", "llm", "chat.go"]⟩]⟩ :=
  ofPaths_of_sorted (by decide +kernel) (by decide +kernel) (by decide +kernel)

theorem directories_samplePaths : (ofPaths samplePaths).directories = [⟨false, ["c"]⟩, ⟨false, ["go", "llm"]⟩] := by
  rw [ofPaths_samplePaths, directories, List.mergeSort_of_pairwise (by decide +kernel)]
  decide +kernel

theorem resolve_known_sample :
    1 < ((ofPaths samplePaths).resolve ⟨"c/main.c"⟩ "llm.h").length ∧
      ((∃ directory, (ofPaths samplePaths).IsPackage ⟨"c/main.c"⟩ "llm.h" directory
          ((ofPaths samplePaths).resolve ⟨"c/main.c"⟩ "llm.h")) ∨
        ∃ directory stem extension, (ofPaths samplePaths).IsHeader directory stem extension
          ((ofPaths samplePaths).resolve ⟨"c/main.c"⟩ "llm.h")) ∧
      1 < ((ofPaths samplePaths).resolve ⟨"main.go"⟩ "acme/go/llm").length ∧
      ((∃ directory, (ofPaths samplePaths).IsPackage ⟨"main.go"⟩ "acme/go/llm" directory
          ((ofPaths samplePaths).resolve ⟨"main.go"⟩ "acme/go/llm")) ∨
        ∃ directory stem extension, (ofPaths samplePaths).IsHeader directory stem extension
          ((ofPaths samplePaths).resolve ⟨"main.go"⟩ "acme/go/llm")) := by
  have header : 1 < ((ofPaths samplePaths).resolve ⟨"c/main.c"⟩ "llm.h").length := by
    rw [ofPaths_samplePaths]
    decide +kernel
  have package : 1 < ((ofPaths samplePaths).resolve ⟨"main.go"⟩ "acme/go/llm").length := by
    have named : (ofPaths samplePaths).named (SourcePath.normalize ⟨"main.go"⟩) "acme/go/llm" =
        (ofPaths samplePaths).packageFiles "acme/go/llm" := by
      rw [ofPaths_samplePaths]
      rfl
    rw [resolve, named, packageFiles, directories_samplePaths, ofPaths_samplePaths]
    decide +kernel
  exact ⟨header, (resolve_known _ _ _).2.2 header, package, (resolve_known _ _ _).2.2 package⟩

end ModuleIndex

end WorkflowAtlas
