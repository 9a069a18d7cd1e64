import WorkflowAtlas.Json.Decoder
import WorkflowAtlas.Proofs.JsonText
import WorkflowAtlas.Proofs.Listing

/-!
# Decoding what was written

When a record reads back the members that were written for it. Two things are asked of the members: that
no two have one name, and that each field gives its value off the member of its name (`Reads`). The
latter is put together the way records are, from the fields by `map` and `seq`; a member that is left out
when it says nothing is found again by the value that its field has when it is missing.

- `Record.decoder_ofJson`: a record off the document of an object.
- `Decoder.list_ofJson`: a list off the document of an array.
- `Decoder.run_pretty`: a value off a text over several lines.
-/

namespace WorkflowAtlas

open Json

namespace Document

theorem ofItems_eq_map (items : List Json) : ofItems items = items.map ofJson := by
  induction items with
  | nil => rfl
  | cons v rest ih => rw [ofItems, ih, List.map_cons]

theorem ofMembers_eq_map (members : List (String × Json)) :
    ofMembers members = members.map fun member => (some member.1, ofJson member.2) := by
  induction members with
  | nil => rfl
  | cons member rest ih => rw [ofMembers, ih, List.map_cons]

mutual

/-- A value that was written has no fault for one who skips it. -/
theorem skipFault?_ofJson (v : Json) : skipFault? (ofJson v) = none := by
  match v with
  | .null | .bool _ | .int _ | .str _ => rfl
  | .arr items =>
    rw [ofJson, skipFault?, skipItems?_ofItems items]
    rfl
  | .obj members =>
    rw [ofJson, skipFault?, skipMembers?_ofMembers members]
    rfl

theorem skipItems?_ofItems (items : List Json) : skipItems? (ofItems items) = none := by
  match items with
  | [] => rfl
  | v :: rest =>
    rw [ofItems, skipItems?, skipFault?_ofJson v, skipItems?_ofItems rest]
    rfl

theorem skipMembers?_ofMembers (members : List (String × Json)) : skipMembers? (ofMembers members) = none := by
  match members with
  | [] => rfl
  | (_, v) :: rest =>
    rw [ofMembers, skipMembers?, skipFault?_ofJson v, skipMembers?_ofMembers rest]
    rfl

end

/-! ## Members by name -/

/-- **The document of the member with a name**, of members that are written. -/
def named (members : List (String × Json)) (name : String) : Option Document :=
  (members.lookup name).map ofJson

theorem member?_ofMembers (members : List (String × Json)) : Record.member? (ofMembers members) = named members := by
  funext name
  induction members with
  | nil => rfl
  | cons member rest ih =>
    obtain ⟨key, v⟩ := member
    by_cases same : key = name
    · subst same
      simp [Record.member?, ofMembers, named]
    · rw [named, List.lookup_cons, beq_eq_false_iff_ne.mpr (Ne.symm same), ← named, ← ih]
      simp [Record.member?, ofMembers, same]

@[simp] theorem named_nil (name : String) : named [] name = none := rfl

@[simp] theorem named_cons (key : String) (v : Json) (rest : List (String × Json)) (name : String) :
    named ((key, v) :: rest) name = if name = key then some (ofJson v) else named rest name := by
  by_cases same : name = key
  · simp [named, same]
  · rw [if_neg same, named, List.lookup_cons, beq_eq_false_iff_ne.mpr same]
    rfl

@[simp] theorem named_append (members more : List (String × Json)) (name : String) :
    named (members ++ more) name = (named members name).or (named more name) := by
  simp only [named, List.lookup_append]
  cases members.lookup name <;> rfl

@[simp] theorem named_present {α : Type} (key : String) (write : α → Json) (o : Option α) (name : String) :
    named (present key write o) name = if name = key then o.map (fun a => ofJson (write a)) else none := by
  cases o <;> simp [present]

@[simp] theorem named_flag (key : String) (value : Bool) (name : String) :
    named (flag key value) name = if name = key ∧ value then some (.bool true) else none := by
  cases value <;> simp [flag, ofJson]

@[simp] theorem named_nonEmpty {α : Type} (key : String) (write : α → Json) (items : List α) (name : String) :
    named (nonEmpty key write items) name =
      if name = key ∧ items ≠ [] then some (ofJson (.arr (items.map write))) else none := by
  cases items <;> simp [nonEmpty]

theorem named_eq_none {members : List (String × Json)} {name : String} (isOther : name ∉ members.map (·.1)) :
    named members name = none := by
  rw [named, Option.map_eq_none_iff, List.lookup_eq_none_iff]
  intro member isThere
  have differs : name ≠ member.1 := fun same => isOther (List.mem_map.mpr ⟨member, isThere, same.symm⟩)
  simpa using differs

theorem named_of_mem {members : List (String × Json)} (distinct : (members.map (·.1)).Nodup)
    {member : String × Json} (isThere : member ∈ members) : named members member.1 = some (ofJson member.2) := by
  rw [named, (lookup_eq_some_iff_mem distinct).mpr isThere, Option.map_some]

end Document

open Document (ofJson named)

/-! ## Members that may be left out -/

section Left

variable {α : Type} (name : String) {P : Json → Prop}

theorem names_present (write : α → Json) (o : Option α) : ((present name write o).map (·.1)).Sublist [name] := by
  cases o <;> simp [present]

theorem names_flag (value : Bool) : ((flag name value).map (·.1)).Sublist [name] := by
  cases value <;> simp [flag]

theorem names_nonEmpty (write : α → Json) (items : List α) :
    ((nonEmpty name write items).map (·.1)).Sublist [name] := by
  cases items <;> simp [nonEmpty]

theorem forall_mem_present {write : α → Json} {o : Option α} (each : ∀ a ∈ o, P (write a)) :
    ∀ member ∈ present name write o, P member.2 := by
  cases o with
  | none => simp [present]
  | some a => simpa [present] using each

theorem forall_mem_flag {value : Bool} (holds : P (.bool true)) : ∀ member ∈ flag name value, P member.2 := by
  cases value <;> simp [flag, holds]

theorem forall_mem_nonEmpty {write : α → Json} {items : List α} (holds : P (.arr (items.map write))) :
    ∀ member ∈ nonEmpty name write items, P member.2 := by
  cases items with
  | nil => simp [nonEmpty]
  | cons a rest => simpa [nonEmpty] using holds

end Left

/-! ## Records -/

namespace Record

variable {α β : Type} {get : String → Option Document} {name : String} {a : α}

/-- **A record reads a value** off documents by name: it builds the value, and none of its fields finds a
fault in the document of its name. -/
structure Reads (record : Record α) (get : String → Option Document) (a : α) : Prop where
  built : record.build get = .ok a
  accepted : ∀ field ∈ record.fields, ∀ doc, get field.name = some doc → field.fault? doc = none

theorem faultOf_eq_none {decode : Decoder α} {doc : Document} (decoded : decode doc = .ok a) :
    faultOf decode doc = none := by
  rw [faultOf, decoded]

theorem Reads.required {decode : Decoder α} (v : Json) (found : get name = some (ofJson v))
    (decoded : decode (ofJson v) = .ok a) : (Record.required name decode).Reads get a where
  built := by simp only [Record.required, found, decoded]
  accepted := by
    intro field isField other isDoc
    rw [List.mem_singleton.mp isField] at isDoc ⊢
    rw [found] at isDoc
    cases isDoc
    exact faultOf_eq_none decoded

theorem Reads.string {text : String} (found : get name = some (ofJson (.str text))) :
    (Record.required name Decoder.string).Reads get text :=
  .required (.str text) found rfl

/-- A field with a value of its own reads what its document gives, and that value without one. -/
theorem Reads.defaulted {decode : Decoder α} {value : α} (decoded : ∀ doc, get name = some doc → decode doc = .ok a)
    (missing : get name = none → value = a) : (Record.defaulted name decode value).Reads get a where
  built := by
    cases found : get name with
    | none => simp only [Record.defaulted, found, missing found]
    | some doc => simp only [Record.defaulted, found, decoded doc found]
  accepted := by
    intro field isField doc isDoc
    rw [List.mem_singleton.mp isField] at isDoc ⊢
    exact faultOf_eq_none (decoded doc isDoc)

theorem Reads.optional {decode : Decoder α} (write : α → Json) {o : Option α}
    (found : get name = o.map fun a => ofJson (write a))
    (decoded : ∀ a ∈ o, Decoder.nullable decode (ofJson (write a)) = .ok (some a)) :
    (Record.optional name decode).Reads get o := by
  refine .defaulted (fun doc isDoc => ?_) fun missing => ?_
  · rw [found] at isDoc
    obtain ⟨a, rfl, rfl⟩ := Option.map_eq_some_iff.mp isDoc
    exact decoded a rfl
  · rw [found] at missing
    exact (Option.map_eq_none_iff.mp missing).symm

/-- A field that is always written does not need its own value. -/
theorem Reads.written {decode : Decoder α} {value : α} (v : Json) (found : get name = some (ofJson v))
    (decoded : decode (ofJson v) = .ok a) : (Record.defaulted name decode value).Reads get a := by
  refine .defaulted (fun doc isDoc => ?_) fun missing => absurd (found.symm.trans missing) (by simp)
  cases found.symm.trans isDoc
  exact decoded

theorem Reads.list {decode : Decoder (List α)} (v : Json) {items : List α}
    (found : get name = if items ≠ [] then some (ofJson v) else none) (decoded : decode (ofJson v) = .ok items) :
    (Record.defaulted name decode []).Reads get items := by
  by_cases isEmpty : items = []
  · subst isEmpty
    exact .defaulted (fun doc isDoc => by simp [found] at isDoc) fun _ => rfl
  · exact .written v (by rw [found, if_pos isEmpty]) decoded

theorem Reads.flag {value : Bool} (found : get name = if value then some (.bool true) else none) :
    (Record.defaulted name Decoder.bool false).Reads get value := by
  cases value with
  | false => exact .defaulted (fun doc isDoc => by simp [found] at isDoc) fun _ => rfl
  | true => exact .written (.bool true) found rfl

theorem Reads.map {record : Record α} (f : α → β) (reads : record.Reads get a) : (f <$> record).Reads get (f a) where
  built := congrArg (Except.map f) reads.built
  accepted := reads.accepted

theorem Reads.seq {function : Record (α → β)} {record : Record α} {f : α → β} (reads : function.Reads get f)
    (argument : record.Reads get a) : (function <*> record).Reads get (f a) where
  built := by
    change (do
      let g ← function.build get
      let a ← record.build get
      return g a) = Except.ok (f a)
    rw [reads.built, argument.built]
    rfl
  accepted := by
    intro field isField
    rcases List.mem_append.mp isField with inFunction | inArgument
    · exact reads.accepted field inFunction
    · exact argument.accepted field inArgument

/-! ## Objects -/

variable {record : Record α} {members : List (String × Json)}

theorem membersFault?_ofMembers {fields : List Field} {other? : Document → Option Fault} (seen : List String)
    (distinct : (members.map (·.1)).Nodup) (fresh : ∀ member ∈ members, member.1 ∉ seen)
    (accepted : ∀ member ∈ members, ∀ field ∈ fields, field.name = member.1 → field.fault? (ofJson member.2) = none)
    (others : ∀ member ∈ members, other? (ofJson member.2) = none) :
    membersFault? fields other? seen (Document.ofMembers members) = none := by
  -- The names seen so far grow; names that differ keep the later members out of them.
  induction members generalizing seen with
  | nil => rfl
  | cons member rest ih =>
    obtain ⟨key, v⟩ := member
    simp only [List.map_cons, List.nodup_cons, List.forall_mem_cons] at distinct fresh accepted others
    rw [Document.ofMembers, membersFault?]
    split
    · next field isFound =>
      have isName : field.name = key := by simpa using List.find?_some isFound
      have notLater : ∀ member ∈ rest, member.1 ≠ key := fun member later same =>
        distinct.1 (List.mem_map.mpr ⟨member, later, same⟩)
      rw [if_neg fresh.1, accepted.1 field (List.mem_of_find?_eq_some isFound) isName, Option.none_or]
      refine ih (key :: seen) distinct.2 (fun member later => ?_) accepted.2 others.2
      simp [notLater member later, fresh.2 member later]
    · rw [others.1, Option.none_or]
      exact ih seen distinct.2 fresh.2 accepted.2 others.2

/-- **A record reads back the members that were written for it.** -/
theorem Reads.ofMembers {other? : Document → Option Fault} (distinct : (members.map (·.1)).Nodup)
    (others : ∀ member ∈ members, other? (ofJson member.2) = none) (reads : record.Reads (named members) a) :
    record.ofMembers other? (Document.ofMembers members) .closed = .ok a := by
  have accepted : membersFault? record.fields other? [] (Document.ofMembers members) = none := by
    refine membersFault?_ofMembers [] distinct (fun _ _ => List.not_mem_nil) ?_ others
    intro member isThere field isField same
    exact reads.accepted field isField _ (same ▸ Document.named_of_mem distinct isThere)
  rw [Record.ofMembers, accepted, Document.member?_ofMembers]
  exact reads.built

theorem decoder_ofJson (distinct : (members.map (·.1)).Nodup) (reads : record.Reads (named members) a) :
    record.decoder (ofJson (.obj members)) = .ok a :=
  reads.ofMembers distinct fun member _ => Document.skipFault?_ofJson member.2

end Record

/-! ## Lists and texts -/

namespace Decoder

variable {α : Type} {decode : Decoder α}

theorem list_ofJson {write : α → Json} {items : List α} (decoded : ∀ a ∈ items, decode (ofJson (write a)) = .ok a) :
    Decoder.list decode (ofJson (.arr (items.map write))) = .ok items := by
  have each : ((items.map write).map ofJson).mapM decode = Except.ok items := by
    induction items with
    | nil => rfl
    | cons a rest ih =>
      simp only [List.forall_mem_cons] at decoded
      rw [List.map_cons, List.map_cons, List.mapM_cons, decoded.1, ih decoded.2]
      rfl
  rw [ofJson, Document.ofItems_eq_map, Decoder.list, each]
  rfl

theorem nullable_obj {members : List (String × Json)} {a : α} (decoded : decode (ofJson (.obj members)) = .ok a) :
    Decoder.nullable decode (ofJson (.obj members)) = .ok (some a) := by
  have asItem : Decoder.nullable decode (ofJson (.obj members)) = (decode (ofJson (.obj members))).map some := rfl
  rw [asItem, decoded]
  rfl

theorem list_strings (items : List String) : Decoder.list Decoder.string (ofJson (.strings items)) = .ok items :=
  list_ofJson fun _ _ => rfl

/-- **A value is read back from its text** by a decoder that reads it off its document. -/
theorem run_pretty {v : Json} {a : α} (readable : v.Readable) (decoded : decode (ofJson v) = .ok a) :
    decode.run v.pretty = .ok a := by
  rw [Decoder.run, Document.read_pretty readable, decoded]
  rfl

end Decoder

end WorkflowAtlas
