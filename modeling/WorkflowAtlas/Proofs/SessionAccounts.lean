import Mathlib.Data.List.Nodup
import WorkflowAtlas.Session

/-!
# The accounts of a session

A session counts the trees that it hands out and takes back, stores and evicts. **The law**
(`run_accounts`), after any actions in any order, whether parsing finds trees or not: what went out and did
not come back is out, and what was stored and not evicted is stored. So the counters balance exactly where
nothing is out and nothing is stored, and a parse without a tree changes neither.

A tree that takes the place of another is counted as one eviction, and so is one that is forgotten. The accounts
hold because a path has one stored tree at most: then what is left without the path is one tree less
(`length_filter_stored`).

What is extracted in a session is what is extracted without one (`extract_snd`, `repository_snd`): the
session never shows in the facts.
-/

namespace WorkflowAtlas.Session

variable {session : Session}

/-- **The accounts**: what a session counts is what it holds. -/
structure Accounts (session : Session) : Prop where
  once : session.stored.Nodup
  trees : session.stores = session.evictions + session.stored.length
  handles : session.acquisitions = session.releases + session.out.length

/-! ## What one action does -/

/-- **Without the tree of a path** one tree less is left, if the path had one. -/
theorem length_filter_stored (once : session.stored.Nodup) (path : SourcePath) :
    (session.stored.filter (· != path.components)).length + (if session.hasTree path then 1 else 0) =
      session.stored.length := by
  rw [← once.erase_eq_filter]
  by_cases isStored : path.components ∈ session.stored
  · have atLeastOne := List.length_pos_of_mem isStored
    rw [if_pos (by simpa [hasTree] using isStored), List.length_erase_of_mem isStored]
    omega
  · rw [if_neg (by simpa [hasTree] using isStored), List.erase_of_not_mem isStored]
    rfl

theorem Accounts.store (accounts : session.Accounts) (path : SourcePath) : (session.store path).Accounts where
  once := by
    refine List.nodup_append.mpr ⟨accounts.once.filter _, List.nodup_singleton _, ?_⟩
    intro other isKept added isAdded same
    have differs := (List.mem_filter.mp isKept).2
    rw [same, List.mem_singleton.mp isAdded] at differs
    simp at differs
  trees := by
    have kept := length_filter_stored accounts.once path
    have counted := accounts.trees
    simp only [Session.store, List.length_append, List.length_singleton]
    omega
  handles := accounts.handles

theorem Accounts.init (accounts : session.Accounts) : session.init.Accounts :=
  ⟨accounts.once, accounts.trees, accounts.handles⟩

theorem Accounts.handOut (accounts : session.Accounts) (tree : ParseTree) :
    Accounts { session with out := session.out ++ [tree], acquisitions := session.acquisitions + 1 } where
  once := accounts.once
  trees := accounts.trees
  handles := by
    have counted := accounts.handles
    simp only [List.length_append, List.length_singleton]
    omega

theorem Accounts.parse (accounts : session.Accounts) (path : Option SourcePath) (outcome : Option ParseTree) :
    (session.parse path outcome).Accounts := by
  cases outcome with
  | none => exact accounts.init
  | some tree =>
    cases path with
    | none => exact accounts.init.handOut tree
    | some path => exact (accounts.init.store path).handOut tree

theorem Accounts.release (accounts : session.Accounts) (place : Nat) : (session.release place).1.Accounts := by
  unfold Session.release
  split
  · next isOut =>
    refine ⟨accounts.once, accounts.trees, ?_⟩
    have counted := accounts.handles
    simp only [List.length_eraseIdx, if_pos isOut]
    omega
  · exact accounts

theorem Accounts.invalidate (accounts : session.Accounts) (path : SourcePath) :
    (session.invalidate path).1.Accounts := by
  unfold Session.invalidate
  split
  · next isStored =>
    refine ⟨accounts.once.filter _, ?_, accounts.handles⟩
    have kept := length_filter_stored accounts.once path
    have counted := accounts.trees
    rw [if_pos isStored] at kept
    simp only
    omega
  · exact accounts

theorem Accounts.dispose (accounts : session.Accounts) : session.dispose.Accounts where
  once := List.nodup_nil
  trees := accounts.trees
  handles := accounts.handles

theorem Accounts.scan (accounts : session.Accounts) (analyzer : Analyzer) (keep : Bool) (file : SourcePath)
    (code : String) (tree : Option ParseTree) : (session.scan analyzer keep file code tree).1.Accounts := by
  unfold Session.scan
  split
  · exact accounts
  · cases tree with
    | none => exact accounts.init
    | some tree => exact (accounts.parse _ (some tree)).release _

theorem Accounts.repositoryFile? (accounts : session.Accounts) (analyzer : Analyzer) (file : SourceFile) :
    (session.repositoryFile? analyzer file).1.Accounts := by
  unfold Session.repositoryFile?
  generalize file.path.normalize.toPath = path
  split
  · exact accounts
  · exact accounts.scan analyzer false path file.content file.tree

theorem Accounts.repositoryFiles (analyzer : Analyzer) (files : List SourceFile) :
    ∀ {session : Session}, session.Accounts → (session.repositoryFiles analyzer files).1.Accounts := by
  induction files with
  | nil => intro session accounts; exact accounts
  | cons file rest ih =>
    intro session accounts
    exact ih (accounts.repositoryFile? analyzer file)

/-- **Every action keeps the accounts.** -/
theorem Accounts.perform (accounts : session.Accounts) (action : Action) : (session.perform action).Accounts := by
  cases action with
  | init => exact accounts.init
  | parse path outcome => exact accounts.parse path outcome
  | release place => exact accounts.release place
  | edit path => exact accounts
  | invalidate path => exact accounts.invalidate path
  | dispose => exact accounts.dispose
  | fileFacts analyzer file code tree => exact accounts.scan analyzer false file code tree
  | fileAnalysis analyzer file code tree => exact accounts.scan analyzer false file code tree
  | fileCallGraph analyzer file code tree => exact accounts.scan analyzer true file code tree
  | repository analyzer files => exact Accounts.repositoryFiles analyzer files accounts

/-! ## Any actions -/

theorem accounts_run (actions : List Action) : (run actions).Accounts := by
  have keeps : ∀ (rest : List Action) {session : Session}, session.Accounts → (rest.foldl perform session).Accounts := by
    intro rest
    induction rest with
    | nil => intro session accounts; exact accounts
    | cons action rest ih => intro session accounts; exact ih (accounts.perform action)
  exact keeps actions ⟨List.nodup_nil, rfl, rfl⟩

theorem Accounts.isBalanced_iff (accounts : session.Accounts) :
    session.isBalanced = true ↔ session.out = [] ∧ session.stored = [] := by
  have trees := accounts.trees
  have handles := accounts.handles
  simp only [isBalanced, Bool.and_eq_true, decide_eq_true_eq, ← List.length_eq_zero_iff]
  omega

/-- A scan without a tree changes at most whether the parsers are loaded. -/
theorem scan_none (session : Session) (analyzer : Analyzer) (keep : Bool) (file : SourcePath) (code : String) :
    ∃ ready, (session.scan analyzer keep file code none).1 = { session with ready } := by
  unfold scan
  split
  · exact ⟨session.ready, rfl⟩
  · exact ⟨true, rfl⟩

/-- **After any actions a session's accounts hold**: its counters balance exactly where it has nothing out and
nothing stored, and where parsing finds no tree, alone or in a scan, nothing that it holds or counts changes. -/
theorem run_accounts (actions : List Action) :
    (run actions).Accounts ∧
    ((run actions).isBalanced = true ↔ (run actions).out = [] ∧ (run actions).stored = []) ∧
    (∀ path, (run actions).parse path none = { run actions with ready := true }) ∧
    ∀ analyzer keep file code, ∃ ready,
      ((run actions).scan analyzer keep file code none).1 = { run actions with ready } :=
  ⟨accounts_run actions, (accounts_run actions).isBalanced_iff, fun _ => rfl, scan_none (run actions)⟩

/-! ## What is extracted -/

theorem scan_snd (session : Session) (analyzer : Analyzer) (keep : Bool) (file : SourcePath) (code : String)
    (tree : Option ParseTree) : (session.scan analyzer keep file code tree).2 = analyzer.scan? file code tree := by
  unfold scan
  split
  · next unread =>
    rcases Bool.or_eq_true_iff.mp unread with noLanguage | isBlank
    · simp [Analyzer.scan?, Option.isNone_iff_eq_none.mp noLanguage]
    · cases Language.ofPath? file <;> simp [Analyzer.scan?, isBlank]
  · cases tree with
    | none => cases Language.ofPath? file <;> simp [Analyzer.scan?]
    | some tree => rfl

/-- **A reading of a file does not depend on the session.** -/
theorem extract_snd {α : Type} (session : Session) (analyzer : Analyzer) (keep : Bool) (read : Scan → α) (blank : α)
    (file : SourcePath) (code : String) (tree : Option ParseTree) :
    (session.extract analyzer keep read blank file code tree).2 =
      ((analyzer.scan? file code tree).map read).getD blank := by
  rw [← scan_snd session analyzer keep]
  rfl

theorem repositoryFile?_snd (session : Session) (analyzer : Analyzer) (file : SourceFile) :
    (session.repositoryFile? analyzer file).2 = analyzer.repositoryFile? file := by
  unfold repositoryFile? Analyzer.repositoryFile?
  cases Language.ofPath? file.path with
  | none => rfl
  | some language =>
    generalize file.path.normalize.toPath = path
    simp only [Option.map_some, Analyzer.fileFacts, ← extract_snd session analyzer false]
    rfl

theorem repositoryFiles_snd (analyzer : Analyzer) (files : List SourceFile) :
    ∀ session : Session, (session.repositoryFiles analyzer files).2 = files.filterMap analyzer.repositoryFile? := by
  induction files with
  | nil => intro session; rfl
  | cons file rest ih =>
    intro session
    simp only [repositoryFiles, ih, repositoryFile?_snd, List.filterMap_cons]
    cases analyzer.repositoryFile? file <;> rfl

/-- **A repository does not depend on the session.** -/
theorem repository_snd (session : Session) (analyzer : Analyzer) (files : List SourceFile) :
    (session.repository analyzer files).2 = analyzer.repository files :=
  congrArg Repository.link (repositoryFiles_snd analyzer files session)

end WorkflowAtlas.Session
