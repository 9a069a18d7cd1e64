import WorkflowAtlas.Proofs.RequestFlags

/-!
# Flags as a repository grows, and in any order of its files

Two runs of linking are compared. In the second run the table of symbols is another one, requests meet
other routes, and the search starts elsewhere and takes other turns; so the runs are not followed side by
side. Both are read as reachability, and reachability only grows with the files and the connections.

**The law** (`link_flags_stable`): linked with more files behind them, files keep every flag that they have
when linked alone; and files in another order are linked to the same files with the same flags, from the
same keys.

More files may set more flags, so flags found in a part of a repository are a lower bound, and no more.
-/

namespace WorkflowAtlas

variable {files more order : List FileFacts}

/-- More requests and more routes make more connections. -/
theorem connect_subset {requests others : List Request} {routes handlers : List RouteHandler}
    (requestsAmong : requests ⊆ others) (routesAmong : routes ⊆ handlers) :
    connect requests routes ⊆ connect others handlers := by
  intro connection isConnection
  obtain ⟨client, isClient, made⟩ := List.mem_flatMap.mp isConnection
  obtain ⟨handler, isHandler, matched⟩ := List.mem_filterMap.mp made
  refine List.mem_flatMap.mpr ⟨client, requestsAmong isClient, ?_⟩
  exact List.mem_filterMap.mpr ⟨handler, routesAmong isHandler, matched⟩

/-- **A file keeps its flags**: nothing of it changes, except that functions without a flag may get one. -/
structure FileFacts.KeepsFlags (before after : FileFacts) : Prop where
  frame : after = { before with functions := after.functions }
  functions : List.Forall₂ (fun old new => new = { old with hasLlmCall := new.hasLlmCall } ∧
    (old.hasLlmCall = true → new.hasLlmCall = true)) before.functions after.functions

theorem FileFacts.keepsFlags_withFlags {fewer flagged : List FunctionKey} (among : fewer ⊆ flagged)
    (facts : FileFacts) : (facts.withFlags fewer).KeepsFlags (facts.withFlags flagged) where
  frame := rfl
  functions := by
    unfold FileFacts.withFlags
    rw [List.forall₂_map_left_iff, List.forall₂_map_right_iff, List.forall₂_same]
    intro function _
    refine ⟨rfl, fun flag => ?_⟩
    exact decide_eq_true (among (of_decide_eq_true flag))

namespace Repository

/-- The keys that are flagged when some files are linked. -/
def linkedKeys (files : List FileFacts) : List FunctionKey :=
  flaggedKeys files (link files).connections

theorem files_link (files : List FileFacts) : (link files).files = files.map (·.withFlags (linkedKeys files)) :=
  rfl

theorem connections_link_subset (among : files ⊆ more) : (link files).connections ⊆ (link more).connections := by
  have collected : ∀ {α : Type} (collect : FileFacts → List α), files.flatMap collect ⊆ more.flatMap collect := by
    intro α collect item isItem
    obtain ⟨facts, isFile, isOwn⟩ := List.mem_flatMap.mp isItem
    exact List.mem_flatMap.mpr ⟨facts, among isFile, isOwn⟩
  exact connect_subset (collected _) (collected _)

/-- **Linking more files flags more keys.** -/
theorem linkedKeys_subset (among : files ⊆ more) : linkedKeys files ⊆ linkedKeys more := by
  intro key flagged
  have reaches := mem_flaggedKeys.mp flagged
  exact mem_flaggedKeys.mpr (reaches.mono among (connections_link_subset among))

theorem mem_linkedKeys_of_perm (reordered : order.Perm files) {key : FunctionKey} :
    key ∈ linkedKeys order ↔ key ∈ linkedKeys files := by
  constructor
  · intro flagged
    exact linkedKeys_subset reordered.subset flagged
  · intro flagged
    exact linkedKeys_subset reordered.symm.subset flagged

/-- **Files in another order are linked to the same files**, in that order. -/
theorem files_link_perm (reordered : order.Perm files) : (link order).files.Perm (link files).files := by
  have same : order.map (·.withFlags (linkedKeys order)) = order.map (·.withFlags (linkedKeys files)) :=
    List.map_congr_left fun facts _ => facts.withFlags_congr fun _ => mem_linkedKeys_of_perm reordered
  rw [files_link, files_link, same]
  exact reordered.map _

theorem flags_link_perm (reordered : order.Perm files) (key : FunctionKey) :
    (link order).Flags key ↔ (link files).Flags key := by
  unfold Flags
  simp only [(files_link_perm reordered).mem_iff]

/-- **Flags are stable**: with more files linked behind them, files keep their flags; and in whatever order
files are linked, the same functions are flagged, through the same keys. -/
theorem link_flags_stable (files more order : List FileFacts) (reordered : order.Perm files) :
    List.Forall₂ FileFacts.KeepsFlags (link files).files ((link (files ++ more)).files.take files.length) ∧
    (∀ key, (link order).Flags key ↔ (link files).Flags key) ∧
    (flaggedKeys order (link order).connections).Perm (flaggedKeys files (link files).connections) ∧
    (link order).files.Perm (link files).files := by
  refine ⟨?_, flags_link_perm reordered, ?_, files_link_perm reordered⟩
  · have among : linkedKeys files ⊆ linkedKeys (files ++ more) :=
      linkedKeys_subset (List.subset_append_left files more)
    rw [files_link, files_link, ← List.map_take, List.take_left', List.forall₂_map_left_iff,
      List.forall₂_map_right_iff, List.forall₂_same]
    · intro facts _
      exact facts.keepsFlags_withFlags among
    · rfl
  · apply (List.perm_ext_iff_of_nodup (nodup_flaggedKeys _ _) (nodup_flaggedKeys _ _)).mpr
    intro key
    exact mem_linkedKeys_of_perm reordered

/-- A request that is served in a file listed later, and a call that no file serves. -/
def splitFiles : List FileFacts :=
  sampleFile "digest.ts" [("digest", ["ask"], [])] :: (chatFiles []).reverse

/-- The function that is called, in a file of its own. -/
def laterFiles : List FileFacts :=
  [sampleFile "llm.ts" [("ask", [], ["client.create"])]]

theorem link_flags_stable_split : (splitFiles.reverse.Perm splitFiles ∧
      ¬ (link splitFiles).Flags (.of ⟨"digest.ts"⟩ "digest") ∧
      (link (splitFiles ++ laterFiles)).Flags (.of ⟨"digest.ts"⟩ "digest") ∧
      (link splitFiles).Flags chatConnection.client.key) ∧
    List.Forall₂ FileFacts.KeepsFlags (link splitFiles).files
      ((link (splitFiles ++ laterFiles)).files.take splitFiles.length) ∧
    ((link splitFiles.reverse).Flags chatConnection.client.key ↔
      (link splitFiles).Flags chatConnection.client.key) := by
  have reordered := List.reverse_perm splitFiles
  obtain ⟨keeps, same, _⟩ := link_flags_stable splitFiles laterFiles _ reordered
  refine ⟨⟨reordered, ?_, ?_, ?_⟩, keeps, same _⟩
  · decide +kernel
  · decide +kernel
  · decide +kernel

end Repository

end WorkflowAtlas
