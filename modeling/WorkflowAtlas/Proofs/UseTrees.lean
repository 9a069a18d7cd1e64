import WorkflowAtlas.Grammar.Rust
import WorkflowAtlas.Proofs.TextCuts

/-!
# What use declarations bind

A use declaration is a tree of paths with braces, and what it **binds** is found by expanding the braces:
`P::{t, …, u}` binds what `P::t` to `P::u` bind, and `self` in braces is the module in front of them.

**The law** (`rustImports_spelled`): a declaration gives one import for each leaf, in the order of the text, and
all of them say what the leaves bind exactly when no leaf is a renamed `self`. The import of a renamed `self` is
that of a name `self` in the module, and not of the module.

Bindings are built up from the leaves, each brace putting its path in front. Imports are made the other way
round, with the text of all paths so far handed down; that the two agree is associativity of putting paths in
front (`UseBinding.beneath_beneath`), and that the text of a path joined is the joined text (`joinPath_pathText`).
-/

namespace WorkflowAtlas

open WorkflowAtlas.Text

/-! ## Paths -/

/-- **A segment of a path**, as it is written; it has no colon. -/
structure Segment where
  text : String
  noColon : ':' ∉ text.toList

/-- **The text of a path**: its segments with `::` between them. A path that starts with `::` has an empty
first segment. -/
def pathText (path : List Segment) : String :=
  String.ofList (joinWith [':', ':'] (path.map (·.text.toList)))

/-- The last segment of a path, as it is written. -/
def lastText (path : List Segment) : String :=
  (path.getLast?.map (·.text)).getD ""

theorem pathText_singleton (segment : Segment) : pathText [segment] = segment.text :=
  String.ofList_toList

theorem pathText_append {front back : List Segment} (nonEmpty : front ≠ []) (backNonEmpty : back ≠ []) :
    pathText (front ++ back) = pathText front ++ "::" ++ pathText back := by
  apply String.toList_inj.mp
  simp only [pathText, List.map_append, String.toList_ofList, String.toList_append]
  exact joinWith_append _ (by simpa using nonEmpty) (by simpa using backNonEmpty)

theorem lastSegment_pathText (front : List Segment) (last : Segment) :
    UseTree.lastSegment (pathText (front ++ [last])) = last.text := by
  have isLast : afterLastMark [':', ':'] (pathText (front ++ [last])).toList = last.text.toList := by
    by_cases isOnly : front = []
    · subst isOnly
      rw [List.nil_append, pathText_singleton]
      exact afterLastMark_of_notMem List.mem_cons_self last.noColon
    · rw [pathText_append isOnly (List.cons_ne_nil _ _), pathText_singleton, String.toList_append, String.toList_append]
      exact afterLastMark_append _ (List.cons_ne_nil _ _) (by simp [last.noColon])
  rw [UseTree.lastSegment, isLast, String.ofList_toList]

theorem lastSegment_eq {path : List Segment} (nonEmpty : path ≠ []) :
    UseTree.lastSegment (pathText path) = lastText path := by
  obtain ⟨front, last, rfl⟩ : ∃ front last, path = front ++ [last] :=
    ⟨_, _, (List.dropLast_append_getLast nonEmpty).symm⟩
  rw [lastSegment_pathText, lastText, List.getLast?_concat]
  rfl

/-! ## Use trees and what they bind -/

/-- **A use tree.** -/
inductive UseExpr where
  /-- `path::name`, or `name` alone, perhaps with `as` and another name. -/
  | item (path : List Segment) (name : String) (isName : name ≠ "self") (asName : Option String)
  /-- `self`, perhaps with `as` and a name. -/
  | self (asName : Option String)
  /-- `path::*`. -/
  | every (path : List Segment) (isPath : path ≠ [])
  /-- `{…}`. -/
  | braces (items : List UseExpr)
  /-- `path::{…}`. -/
  | under (path : List Segment) (isPath : pathText path ≠ "") (items : List UseExpr)

/-- **What a leaf of a use tree binds.** -/
inductive UseBinding where
  /-- A name of a module, under itself or another name. -/
  | name (source : List Segment) (name : String) (asName : Option String)
  /-- A module itself, under its last segment or another name. -/
  | module (path : List Segment) (asName : Option String)
  /-- All names of a module. -/
  | every (source : List Segment)

namespace UseBinding

/-- A binding with a path in front. -/
def beneath (path : List Segment) : UseBinding → UseBinding
  | .name source text asName => .name (path ++ source) text asName
  | .module inner asName => .module (path ++ inner) asName
  | .every source => .every (path ++ source)

/-- **The import that says what is bound.** A name without a path is a module of its own, and `self` without one
is the module `self`. -/
def toImport (line : Nat) : UseBinding → Import
  | .name [] text none => { source := text, asName := some text, line }
  | .name source text asName => { source := pathText source, names := [⟨text, asName⟩], line }
  | .module [] asName => { source := "self", asName := some (asName.getD "self"), line }
  | .module path asName => { source := pathText path, asName := some (asName.getD (lastText path)), line }
  | .every source => { source := pathText source, names := [⟨"*", none⟩], line }

/-- **The import that is made**: it says what is bound, unless a module is renamed. Then it is the import of a
name `self` in the module. -/
def made (line : Nat) : UseBinding → Import
  | .module path (some asName) => toImport line (.name path "self" (some asName))
  | binding => binding.toImport line

/-- Whether a module is bound under another name. -/
def RenamesModule : UseBinding → Prop
  | .module _ asName => asName.isSome
  | _ => False

theorem beneath_nil (binding : UseBinding) : binding.beneath [] = binding := by
  cases binding <;> rfl

theorem beneath_beneath (outer inner : List Segment) (binding : UseBinding) :
    (binding.beneath inner).beneath outer = binding.beneath (outer ++ inner) := by
  cases binding <;> simp only [beneath, List.append_assoc]

/-- **The import that is made says what is bound exactly when no module is renamed.** -/
theorem made_eq_toImport_iff (line : Nat) (binding : UseBinding) :
    binding.made line = binding.toImport line ↔ ¬ binding.RenamesModule := by
  match binding with
  | .name _ _ _ | .every _ | .module _ none => simp [made, RenamesModule]
  | .module [] (some _) | .module (_ :: _) (some _) => simp [made, toImport, RenamesModule]

end UseBinding

mutual

/-- **What a use tree binds**, in the order of the text, by expanding its braces. -/
def UseExpr.bindings : UseExpr → List UseBinding
  | .item path name _ asName => [UseBinding.name path name asName]
  | .self asName => [.module [] asName]
  | .every path _ => [.every path]
  | .braces items => bindingsOf items
  | .under path _ items => (bindingsOf items).map (·.beneath path)

/-- What several use trees bind. -/
def bindingsOf : List UseExpr → List UseBinding
  | [] => []
  | expr :: rest => expr.bindings ++ bindingsOf rest

end

/-! ## Use trees in parse trees -/

/-- A node that spells a name with a path in front, if there is one. -/
def SpellsItem (path : List Segment) (name : String) (node : ParseTree) : Prop :=
  if path = [] then node.kind ∈ ["identifier", "crate", "super"] ∧ node.text = name
  else node.kind = "scoped_identifier" ∧ UseTree.fieldText node "path" = pathText path ∧
    (node.child? "name").map (·.text) = some name

/-- A node that spells `self`. -/
def SpellsSelf (node : ParseTree) : Prop :=
  node.kind = "self" ∧ node.text = "self"

/-- A node that spells something, with `as` and a name behind it if one is given. -/
def SpellsRenamed (target : ParseTree → Prop) (asName : Option String) (node : ParseTree) : Prop :=
  match asName with
  | none => target node
  | some asName => node.kind = "use_as_clause" ∧ (node.child? "alias").map (·.text) = some asName ∧
    ∃ inner, node.child? "path" = some inner ∧ target inner

mutual

/-- **A node that spells a use tree**, by its kind and its fields; comments between the items of braces are
passed over. -/
def UseExpr.SpelledBy : UseExpr → ParseTree → Prop
  | .item path name _ asName, node => SpellsRenamed (SpellsItem path name) asName node
  | .self asName, node => SpellsRenamed SpellsSelf asName node
  | .every path _, node => node.kind = "use_wildcard" ∧ node.parts.head?.map (·.text) = some (pathText path)
  | .braces items, node => node.kind = "use_list" ∧ SpelledByAll items node.parts
  | .under path _ items, node => node.kind = "scoped_use_list" ∧ UseTree.fieldText node "path" = pathText path ∧
    ∃ list, node.child? "list" = some list ∧ SpelledByAll items list.parts

/-- Nodes that spell use trees, one each. -/
def SpelledByAll : List UseExpr → List ParseTree → Prop
  | [], nodes => nodes = []
  | expr :: rest, nodes => ∃ node others, nodes = node :: others ∧ expr.SpelledBy node ∧ SpelledByAll rest others

end

mutual

/-- The use tree with the texts of its paths. -/
def UseExpr.tree : UseExpr → UseTree
  | .item [] name _ none => .leaf name
  | .item path name _ none => .scoped (pathText path) name
  | .item [] name _ (some asName) => .renamed none name asName
  | .item path name _ (some asName) => .renamed (some (pathText path)) name asName
  | .self none => .leaf "self"
  | .self (some asName) => .renamed none "self" asName
  | .every path _ => .every (pathText path)
  | .braces items => .braces (treesOf items)
  | .under path _ items => .under (pathText path) (treesOf items)

/-- The use trees with the texts of their paths. -/
def treesOf : List UseExpr → List UseTree
  | [] => []
  | expr :: rest => expr.tree :: treesOf rest

end

/-! ## Reading nodes -/

namespace UseTree

theorem ofNodes_eq (children : List ParseTree) :
    ofNodes children =
      (children.filter fun child => child.named && !ParseTree.isCommentKind child.kind).flatMap (ofNode? · |>.toList) := by
  induction children with
  | nil => rfl
  | cons child rest ih =>
    rw [ofNodes, ih, List.filter_cons]
    split
    · rfl
    · rfl

theorem listItems_eq (children : List ParseTree) :
    listItems children = ((children.find? (·.label.field == "list")).map fun list => ofNodes list.children).getD [] := by
  induction children with
  | nil => rfl
  | cons child rest ih =>
    obtain ⟨label, inner⟩ := child
    have isFirst : (ParseTree.node label inner).label.field = label.field := rfl
    rw [listItems, ih, List.find?_cons, isFirst]
    by_cases isList : label.field = "list"
    · simp [isList, ParseTree.children]
    · simp [beq_eq_false_iff_ne.mpr isList, isList]

variable {node : ParseTree}

theorem ofNode?_scoped (isKind : node.kind = "scoped_identifier") :
    ofNode? node = (node.child? "name").map fun name => .scoped (fieldText node "path") name.text := by
  obtain ⟨label, children⟩ := node
  have isLabel : label.kind = "scoped_identifier" := isKind
  rw [ofNode?, isLabel]
  rfl

theorem ofNode?_leaf (isKind : node.kind ∈ ["identifier", "crate", "super", "self"]) :
    ofNode? node = some (.leaf node.text) := by
  obtain ⟨label, children⟩ := node
  have isLabel : label.kind ∈ ["identifier", "crate", "super", "self"] := isKind
  simp only [List.mem_cons, List.not_mem_nil, or_false] at isLabel
  rcases isLabel with is | is | is | is
  all_goals
    rw [ofNode?, is]
    rfl

theorem ofNode?_renamed (isKind : node.kind = "use_as_clause") {target : ParseTree} {asName : String}
    (isTarget : node.child? "path" = some target) (isName : (node.child? "alias").map (·.text) = some asName) :
    ofNode? node = some (if target.kind = "scoped_identifier" then
      .renamed (some (fieldText target "path")) (fieldText target "name") asName
    else .renamed none target.text asName) := by
  obtain ⟨label, children⟩ := node
  have isLabel : label.kind = "use_as_clause" := isKind
  obtain ⟨nameNode, isNode, rfl⟩ := Option.map_eq_some_iff.mp isName
  rw [ofNode?, isLabel]
  simp only [isTarget, isNode, Option.bind_eq_bind, Option.bind_some]
  split <;> rfl

theorem ofNode?_every (isKind : node.kind = "use_wildcard") :
    ofNode? node = some (.every ((node.parts.head?.map (·.text)).getD "")) := by
  obtain ⟨label, children⟩ := node
  have isLabel : label.kind = "use_wildcard" := isKind
  rw [ofNode?, isLabel]
  rfl

theorem ofNode?_braces (isKind : node.kind = "use_list") :
    ofNode? node = some (.braces (node.parts.flatMap (ofNode? · |>.toList))) := by
  obtain ⟨label, children⟩ := node
  have isLabel : label.kind = "use_list" := isKind
  rw [ofNode?, isLabel, ParseTree.parts, ← ofNodes_eq]
  rfl

theorem ofNode?_under (isKind : node.kind = "scoped_use_list") {list : ParseTree} (isList : node.child? "list" = some list) :
    ofNode? node = some (.under (fieldText node "path") (list.parts.flatMap (ofNode? · |>.toList))) := by
  obtain ⟨label, children⟩ := node
  have isLabel : label.kind = "scoped_use_list" := isKind
  have items : listItems children = list.parts.flatMap (ofNode? · |>.toList) := by
    have found : children.find? (·.label.field == "list") = some list := isList
    rw [listItems_eq, found]
    exact ofNodes_eq list.children
  rw [ofNode?, isLabel, ← items]
  rfl

end UseTree

theorem ofNode?_item {path : List Segment} {name : String} {isName : name ≠ "self"} {asName : Option String}
    {node : ParseTree} (spelled : SpellsRenamed (SpellsItem path name) asName node) :
    UseTree.ofNode? node = some (UseExpr.item path name isName asName).tree := by
  have isScoped : ∀ inner, path ≠ [] → SpellsItem path name inner → inner.kind = "scoped_identifier" ∧
      UseTree.fieldText inner "path" = pathText path ∧ (inner.child? "name").map (·.text) = some name := by
    intro inner isPath spells
    simpa [SpellsItem, isPath] using spells
  cases asName with
  | none =>
    cases path with
    | nil =>
      obtain ⟨isKind, rfl⟩ : node.kind ∈ ["identifier", "crate", "super"] ∧ node.text = name := by
        simpa [SpellsRenamed, SpellsItem] using spelled
      exact UseTree.ofNode?_leaf (by simp only [List.mem_cons] at isKind ⊢; tauto)
    | cons segment rest =>
      obtain ⟨isKind, isPath, isText⟩ := isScoped node (List.cons_ne_nil _ _) spelled
      obtain ⟨nameNode, isNode, rfl⟩ := Option.map_eq_some_iff.mp isText
      rw [UseTree.ofNode?_scoped isKind, isNode, isPath]
      rfl
  | some asName =>
    obtain ⟨isKind, isAlias, inner, isInner, spells⟩ := spelled
    rw [UseTree.ofNode?_renamed isKind isInner isAlias]
    cases path with
    | nil =>
      obtain ⟨innerKind, rfl⟩ : inner.kind ∈ ["identifier", "crate", "super"] ∧ inner.text = name := by
        simpa [SpellsItem] using spells
      have notScoped : inner.kind ≠ "scoped_identifier" := by
        rintro same
        simp [same] at innerKind
      rw [if_neg notScoped]
      rfl
    | cons segment rest =>
      obtain ⟨innerKind, isPath, isText⟩ := isScoped inner (List.cons_ne_nil _ _) spells
      have fieldName : UseTree.fieldText inner "name" = name := by rw [UseTree.fieldText, isText]; rfl
      rw [if_pos innerKind, isPath, fieldName]
      rfl

theorem ofNode?_self {asName : Option String} {node : ParseTree} (spelled : SpellsRenamed SpellsSelf asName node) :
    UseTree.ofNode? node = some (UseExpr.self asName).tree := by
  cases asName with
  | none =>
    obtain ⟨isKind, isText⟩ := spelled
    rw [UseTree.ofNode?_leaf (by simp [isKind]), isText]
    rfl
  | some asName =>
    obtain ⟨isKind, isAlias, inner, isInner, innerKind, isText⟩ := spelled
    rw [UseTree.ofNode?_renamed isKind isInner isAlias, if_neg (by simp [innerKind]), isText]
    rfl

mutual

/-- **A node is read as the use tree that it spells.** -/
theorem ofNode?_spelled {expr : UseExpr} {node : ParseTree} (spelled : expr.SpelledBy node) :
    UseTree.ofNode? node = some expr.tree := by
  match expr with
  | .item path name isName asName => exact ofNode?_item (by simpa [UseExpr.SpelledBy] using spelled)
  | .self asName => exact ofNode?_self (by simpa [UseExpr.SpelledBy] using spelled)
  | .every path isPath =>
    rw [UseExpr.SpelledBy] at spelled
    obtain ⟨isKind, isText⟩ := spelled
    rw [UseTree.ofNode?_every isKind, isText, UseExpr.tree]
    rfl
  | .braces items =>
    rw [UseExpr.SpelledBy] at spelled
    rw [UseTree.ofNode?_braces spelled.1, ofNodes_spelled spelled.2, UseExpr.tree]
  | .under path isPath items =>
    rw [UseExpr.SpelledBy] at spelled
    obtain ⟨isKind, isText, list, isList, items⟩ := spelled
    rw [UseTree.ofNode?_under isKind isList, ofNodes_spelled items, isText, UseExpr.tree]

theorem ofNodes_spelled {items : List UseExpr} {nodes : List ParseTree} (spelled : SpelledByAll items nodes) :
    nodes.flatMap (UseTree.ofNode? · |>.toList) = treesOf items := by
  match items with
  | [] =>
    rw [SpelledByAll] at spelled
    rw [spelled, treesOf]
    rfl
  | expr :: rest =>
    rw [SpelledByAll] at spelled
    obtain ⟨node, others, rfl, first, later⟩ := spelled
    rw [List.flatMap_cons, ofNode?_spelled first, ofNodes_spelled later, treesOf]
    rfl

end

/-! ## Making imports -/

/-- The text that is handed down below a path; there is none at the top. -/
def baseText (base : List Segment) : Option String :=
  if base = [] then none else some (pathText base)

/-- A path that is handed down: none, or one that has a text. -/
def IsBase (base : List Segment) : Prop :=
  base = [] ∨ pathText base ≠ ""

/-- **The text of a path joined is the joined text.** -/
theorem joinPath_pathText {base path : List Segment} (isBase : IsBase base) (isPath : path ≠ []) :
    UseTree.joinPath (baseText base) (pathText path) = pathText (base ++ path) := by
  rcases isBase with rfl | hasText
  · rfl
  · have nonEmpty : base ≠ [] := by
      rintro rfl
      exact hasText rfl
    rw [baseText, if_neg nonEmpty, UseTree.joinPath, if_neg (by simpa using hasText), pathText_append nonEmpty isPath]

theorem IsBase.append {base path : List Segment} (isBase : IsBase base) (isPath : pathText path ≠ "") :
    IsBase (base ++ path) := by
  rcases isBase with rfl | hasText
  · exact .inr isPath
  · have nonEmpty : base ≠ [] := by
      rintro rfl
      exact hasText rfl
    have pathNonEmpty : path ≠ [] := by
      rintro rfl
      exact isPath rfl
    rw [IsBase, pathText_append nonEmpty pathNonEmpty]
    exact .inr (by simp)

/-- The import of a name that has a path, or another name. -/
theorem UseBinding.made_name (line : Nat) {source : List Segment} {text : String} {asName : Option String}
    (isPlaced : source ≠ [] ∨ asName.isSome) :
    (UseBinding.name source text asName).made line = { source := pathText source, names := [⟨text, asName⟩], line } := by
  match source, asName with
  | [], none => simp at isPlaced
  | [], some _ | _ :: _, none | _ :: _, some _ => rfl

theorem imports_item {base : List Segment} (isBase : IsBase base) (line : Nat) (path : List Segment) (name : String)
    (isName : name ≠ "self") (asName : Option String) :
    (UseExpr.item path name isName asName).tree.imports line (baseText base) =
      [((UseBinding.name path name asName).beneath base).made line] := by
  rw [UseBinding.beneath]
  cases path with
  | nil =>
    cases base with
    | nil => cases asName <;> rfl
    | cons segment rest =>
      rw [UseBinding.made_name line (.inl (by simp)), List.append_nil]
      cases asName <;> simp [UseExpr.tree, UseTree.imports, baseText, isName]
  | cons segment rest =>
    have joined := joinPath_pathText isBase (List.cons_ne_nil segment rest)
    rw [UseBinding.made_name line (.inl (by simp)), ← joined]
    cases asName <;> simp [UseExpr.tree, UseTree.imports]

theorem imports_self (base : List Segment) (line : Nat) (asName : Option String) :
    (UseExpr.self asName).tree.imports line (baseText base) = [((UseBinding.module [] asName).beneath base).made line] := by
  rw [UseBinding.beneath, List.append_nil]
  cases base with
  | nil => cases asName <;> rfl
  | cons segment rest =>
    cases asName with
    | none =>
      have isLast := lastSegment_eq (List.cons_ne_nil segment rest)
      simp [UseExpr.tree, UseTree.imports, baseText, isLast, UseBinding.made, UseBinding.toImport]
    | some asName => simp [UseExpr.tree, UseTree.imports, baseText, UseBinding.made, UseBinding.toImport]

mutual

/-- **The imports of a use tree are those made of what it binds**, below any path. -/
theorem imports_tree {base : List Segment} (isBase : IsBase base) (line : Nat) (expr : UseExpr) :
    expr.tree.imports line (baseText base) = expr.bindings.map fun binding => (binding.beneath base).made line := by
  match expr with
  | .item path name isName asName =>
    rw [imports_item isBase, UseExpr.bindings]
    rfl
  | .self asName =>
    rw [imports_self, UseExpr.bindings]
    rfl
  | .every path isPath =>
    rw [UseExpr.tree, UseTree.imports, joinPath_pathText isBase isPath, UseExpr.bindings]
    rfl
  | .braces items =>
    rw [UseExpr.tree, UseTree.imports, UseExpr.bindings, importsOf_treesOf isBase line items]
  | .under path isPath items =>
    have nonEmpty : path ≠ [] := by
      rintro rfl
      exact isPath rfl
    have handed : some (UseTree.joinPath (baseText base) (pathText path)) = baseText (base ++ path) := by
      rw [joinPath_pathText isBase nonEmpty, baseText, if_neg (by simp [nonEmpty])]
    rw [UseExpr.tree, UseTree.imports, handed, importsOf_treesOf (isBase.append isPath) line items, UseExpr.bindings,
      List.map_map]
    exact List.map_congr_left fun binding _ => by rw [Function.comp_apply, UseBinding.beneath_beneath]

theorem importsOf_treesOf {base : List Segment} (isBase : IsBase base) (line : Nat) (items : List UseExpr) :
    UseTree.importsOf line (baseText base) (treesOf items) =
      (bindingsOf items).map fun binding => (binding.beneath base).made line := by
  match items with
  | [] => rfl
  | expr :: rest =>
    rw [treesOf, UseTree.importsOf, imports_tree isBase line expr, importsOf_treesOf isBase line rest, bindingsOf,
      List.map_append]

end

/-- **A use declaration gives the imports made of what it binds**, one for each leaf in order, and these say what
is bound exactly where no `self` is renamed. -/
theorem rustImports_spelled (root declaration argument : ParseTree) (expr : UseExpr)
    (isArgument : declaration.child? "argument" = some argument) (spelled : expr.SpelledBy argument) :
    Grammar.rustImports root declaration = expr.bindings.map (UseBinding.made declaration.line) ∧
      (Grammar.rustImports root declaration = expr.bindings.map (UseBinding.toImport declaration.line) ↔
        ∀ binding ∈ expr.bindings, ¬ binding.RenamesModule) := by
  have made : Grammar.rustImports root declaration = expr.bindings.map (UseBinding.made declaration.line) := by
    have flat := imports_tree (.inl rfl) declaration.line expr
    simp only [UseBinding.beneath_nil] at flat
    rw [Grammar.rustImports, isArgument, Option.bind_some, ofNode?_spelled spelled]
    exact flat
  refine ⟨made, ?_⟩
  rw [made, List.map_inj_left]
  simp only [UseBinding.made_eq_toImport_iff]

/-! ## An example -/

/-- A node of a declaration on one line, from a byte on. -/
def declarationNode (kind field text : String) (start place : Nat) (children : List ParseTree := []) : ParseTree :=
  .node { kind, named := true, field, start, stop := start + text.length, firstRow := 0, lastRow := 0, place, text }
    children

/-- `crate::llm::` with braces around `self as model`, a list below `chat`, and `self`. -/
def llmArgument : ParseTree :=
  declarationNode "scoped_use_list" "argument"
      "crate::llm::\x7bself as model, chat::\x7bask as say, tools::*\x7d, self\x7d" 4 1
    [declarationNode "scoped_identifier" "path" "crate::llm" 4 2
      [declarationNode "crate" "path" "crate" 4 3, declarationNode "identifier" "name" "llm" 11 4],
      declarationNode "use_list" "list" "\x7bself as model, chat::\x7bask as say, tools::*\x7d, self\x7d" 16 5
        [declarationNode "use_as_clause" "" "self as model" 17 6
          [declarationNode "self" "path" "self" 17 7, declarationNode "identifier" "alias" "model" 25 8],
          declarationNode "scoped_use_list" "" "chat::\x7bask as say, tools::*\x7d" 32 9
            [declarationNode "identifier" "path" "chat" 32 10,
              declarationNode "use_list" "list" "\x7bask as say, tools::*\x7d" 38 11
                [declarationNode "use_as_clause" "" "ask as say" 39 12
                  [declarationNode "identifier" "path" "ask" 39 13, declarationNode "identifier" "alias" "say" 46 14],
                  declarationNode "use_wildcard" "" "tools::*" 51 15 [declarationNode "identifier" "" "tools" 51 16]]],
          declarationNode "self" "" "self" 62 17]]

def llmDeclaration : ParseTree :=
  declarationNode "use_declaration" ""
    "use crate::llm::\x7bself as model, chat::\x7bask as say, tools::*\x7d, self\x7d;" 0 0 [llmArgument]

def llmExpr : UseExpr :=
  .under [⟨"crate", by decide⟩, ⟨"llm", by decide⟩] (by decide)
    [.self (some "model"),
      .under [⟨"chat", by decide⟩] (by decide)
        [.item [] "ask" (by decide) (some "say"), .every [⟨"tools", by decide⟩] (by decide)],
      .self none]

theorem llmExpr_spelled : llmExpr.SpelledBy llmArgument := by
  refine ⟨rfl, by decide +kernel, _, rfl, _, _, rfl, ⟨rfl, rfl, _, rfl, rfl, rfl⟩, _, _, rfl, ?_, _, _, rfl, ⟨rfl, rfl⟩, rfl⟩
  refine ⟨rfl, by decide +kernel, _, rfl, _, _, rfl, ⟨rfl, rfl, _, rfl, ?_⟩, _, _, rfl, ⟨rfl, ?_⟩, rfl⟩
  · exact ⟨by decide, rfl⟩
  · decide +kernel

theorem rustImports_spelled_llm : llmExpr.SpelledBy llmArgument ∧
    Grammar.rustImports llmDeclaration llmDeclaration =
      [{ source := "crate::llm", names := [⟨"self", some "model"⟩], line := 1 },
        { source := "crate::llm::chat", names := [⟨"ask", some "say"⟩], line := 1 },
        { source := "crate::llm::chat::tools", names := [⟨"*", none⟩], line := 1 },
        { source := "crate::llm", asName := some "llm", line := 1 }] := by
  have made := (rustImports_spelled llmDeclaration llmDeclaration llmArgument llmExpr rfl llmExpr_spelled).1
  exact ⟨llmExpr_spelled, made.trans (by decide +kernel)⟩

/-- **A renamed `self` is not bound as the module in front of it**: the first import should name the whole module
`model`, and it names `self` in it so. -/
theorem renamed_self_unbound : llmExpr.SpelledBy llmArgument ∧
    Grammar.rustImports llmDeclaration llmDeclaration ≠ llmExpr.bindings.map (UseBinding.toImport 1) ∧
    (Grammar.rustImports llmDeclaration llmDeclaration).head? =
      some { source := "crate::llm", names := [⟨"self", some "model"⟩], line := 1 } ∧
    (llmExpr.bindings.map (UseBinding.toImport 1)).head? =
      some { source := "crate::llm", asName := some "model", line := 1 } :=
  ⟨llmExpr_spelled, by decide +kernel, by decide +kernel, by decide +kernel⟩

end WorkflowAtlas
