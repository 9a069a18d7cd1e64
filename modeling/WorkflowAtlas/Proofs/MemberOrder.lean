import Mathlib.Data.List.Forall2
import Mathlib.Data.List.Nodup
import WorkflowAtlas.Proofs.Decoding
import WorkflowAtlas.Proofs.JsonGrammar

/-!
# Members in another order

A document **in another order** (`Document.Reordered`): the members of any of its objects permuted, and members added
that have none of a list of names, with a text, a truth value or `null`.

A decoder **does not see the order** (`Decoder.Steady`) if a document that it accepts gives the same value in another
order. Records are put together so from their fields: a record off an object looks for faults member by member, where
only the keys that are written twice depend on the other members (`Record.membersFault?_eq_none_iff`), and takes its
values by name, where each name stands once (`Record.member?_eq_some_iff`).
-/

namespace WorkflowAtlas

namespace Document

/-! ## Objects in another order -/

/-- A text, a truth value or `null`. A string that holds half of a surrogate pair is no text. -/
def isPlain : Document → Bool
  | .str _ => true
  | .bool _ => true
  | .null => true
  | _ => false

/-- A member that is none of the names, with a plain value. -/
def isExtra (names : List String) (member : Option String × Document) : Bool :=
  match member.1 with
  | some key => !names.contains key && member.2.isPlain
  | none => false

/-- What becomes of a member: its value may change, and its key stays. -/
structure MemberChange where
  key : Option String
  before : Document
  after : Document

def MemberChange.old (change : MemberChange) : Option String × Document :=
  (change.key, change.before)

def MemberChange.new (change : MemberChange) : Option String × Document :=
  (change.key, change.after)

/-- **A document with the members of its objects in another order**, in any of its objects, and with members among them
that are none of the names and have plain values. -/
inductive Reordered (names : List String) : Document → Document → Prop
  | same (doc : Document) : Reordered names doc doc
  | arr (items : List (Document × Document)) (each : ∀ item ∈ items, Reordered names item.1 item.2) :
      Reordered names (.arr (items.map (·.1)) .closed) (.arr (items.map (·.2)) .closed)
  | obj (changes : List MemberChange) (each : ∀ change ∈ changes, Reordered names change.before change.after)
      {extra others : List (Option String × Document)} (isExtra : ∀ member ∈ extra, isExtra names member = true)
      (order : others.Perm (changes.map (·.new) ++ extra)) :
      Reordered names (.obj (changes.map (·.old)) .closed) (.obj others .closed)

/-- Members in another order, each with its value reordered, and with others among them. -/
def MembersReordered (names : List String) (members others : List (Option String × Document)) : Prop :=
  ∃ (changes : List MemberChange) (extra : List (Option String × Document)), members = changes.map (·.old) ∧
    (∀ change ∈ changes, Reordered names change.before change.after) ∧
    (∀ member ∈ extra, isExtra names member = true) ∧ others.Perm (changes.map (·.new) ++ extra)

variable {names : List String}

section Shapes

variable {doc other : Document}

theorem Reordered.of_obj {members : List (Option String × Document)} {ending : Ending}
    (reordered : Reordered names (.obj members ending) other) :
    ∃ others, other = .obj others ending ∧ MembersReordered names members others := by
  cases reordered with
  | same =>
    let changes : List MemberChange := members.map fun member => ⟨member.1, member.2, member.2⟩
    refine ⟨members, rfl, changes, [], ?_, ?_, by simp, ?_⟩
    · simp [changes, MemberChange.old, Function.comp_def]
    · intro change isChange
      obtain ⟨member, -, rfl⟩ := List.mem_map.mp isChange
      exact .same _
    · simp [changes, MemberChange.new, Function.comp_def]
  | obj changes each extras order => exact ⟨_, rfl, changes, _, rfl, each, extras, order⟩

theorem Reordered.of_arr {items : List Document} {ending : Ending}
    (reordered : Reordered names (.arr items ending) other) :
    ∃ others, other = .arr others ending ∧ List.Forall₂ (Reordered names) items others := by
  cases reordered with
  | same => exact ⟨items, rfl, List.forall₂_same.mpr fun _ _ => .same _⟩
  | arr items each =>
    refine ⟨_, rfl, ?_⟩
    rw [List.forall₂_map_left_iff, List.forall₂_map_right_iff, List.forall₂_same]
    exact each

/-- A document that is neither an array nor an object stays as it is. -/
theorem Reordered.eq_or (reordered : Reordered names doc other) :
    other = doc ∨ (∃ items, doc = .arr items .closed) ∨ ∃ members, doc = .obj members .closed := by
  cases reordered with
  | same => exact .inl rfl
  | arr items _ => exact .inr (.inl ⟨_, rfl⟩)
  | obj changes _ _ _ => exact .inr (.inr ⟨_, rfl⟩)

end Shapes

/-- The members of an object in another order, with others among them. -/
theorem reordered_ofJson {members extra others : List (String × Json)}
    (extras : ∀ member ∈ extra, isExtra names (some member.1, ofJson member.2) = true)
    (order : others.Perm (members ++ extra)) :
    Reordered names (ofJson (.obj members)) (ofJson (.obj others)) := by
  let changes : List MemberChange := members.map fun member => ⟨some member.1, ofJson member.2, ofJson member.2⟩
  have old : ofJson (.obj members) = .obj (changes.map (·.old)) .closed := by
    simp [ofJson, ofMembers_eq_map, changes, MemberChange.old, Function.comp_def]
  rw [old, ofJson]
  refine .obj changes (fun change isChange => ?_) (List.forall_mem_map.mpr extras) ?_
  · obtain ⟨member, -, rfl⟩ := List.mem_map.mp isChange
    exact .same _
  · rw [ofMembers_eq_map]
    simpa [changes, MemberChange.new, Function.comp_def] using order.map fun member => (some member.1, ofJson member.2)

/-! ## Members -/

section Members

variable {members others : List (Option String × Document)}

theorem MembersReordered.exists_new (reordered : MembersReordered names members others)
    {member : Option String × Document} (isThere : member ∈ members) :
    ∃ doc, (member.1, doc) ∈ others ∧ Reordered names member.2 doc := by
  obtain ⟨changes, extra, rfl, each, -, order⟩ := reordered
  obtain ⟨change, isChange, rfl⟩ := List.mem_map.mp isThere
  refine ⟨change.after, order.mem_iff.mpr ?_, each change isChange⟩
  exact List.mem_append_left _ (List.mem_map_of_mem isChange)

/-- A member is one from before whose value is reordered, or one that was added. -/
theorem MembersReordered.cases_new (reordered : MembersReordered names members others)
    {member : Option String × Document} (isThere : member ∈ others) :
    (∃ doc, (member.1, doc) ∈ members ∧ Reordered names doc member.2) ∨ isExtra names member = true := by
  obtain ⟨changes, extra, rfl, each, extras, order⟩ := reordered
  rcases List.mem_append.mp (order.mem_iff.mp isThere) with isNew | isAdded
  · obtain ⟨change, isChange, rfl⟩ := List.mem_map.mp isNew
    exact .inl ⟨change.before, List.mem_map_of_mem isChange, each change isChange⟩
  · exact .inr (extras member isAdded)

theorem isExtra_key {member : Option String × Document} (isAdded : isExtra names member = true) :
    ∃ key, member.1 = some key ∧ key ∉ names ∧ member.2.isPlain = true := by
  obtain ⟨_ | key, doc⟩ := member
  · cases isAdded
  · exact ⟨key, rfl, by simpa [isExtra] using isAdded⟩

/-- **The keys that are names stay**, but for their order. -/
theorem MembersReordered.keys (reordered : MembersReordered names members others) {kept : Option String → Bool}
    (onlyNames : ∀ key ∉ names, kept (some key) = false) :
    ((others.map (·.1)).filter kept).Perm ((members.map (·.1)).filter kept) := by
  obtain ⟨changes, extra, rfl, -, extras, order⟩ := reordered
  have noExtra : (extra.map (·.1)).filter kept = [] := by
    rw [List.filter_eq_nil_iff]
    intro key isKey
    obtain ⟨member, isAdded, rfl⟩ := List.mem_map.mp isKey
    obtain ⟨key, isKey, isOther, -⟩ := isExtra_key (extras member isAdded)
    rw [isKey, onlyNames key isOther]
    exact Bool.false_ne_true
  have inOrder := (order.map (·.1)).filter kept
  rw [List.map_append, List.filter_append, noExtra, List.append_nil] at inOrder
  simpa [MemberChange.old, MemberChange.new, Function.comp_def] using inOrder

/-- Members of some of the keys. -/
theorem MembersReordered.filter (reordered : MembersReordered names members others) (kept : Option String → Bool) :
    MembersReordered names (members.filter fun member => kept member.1)
      (others.filter fun member => kept member.1) := by
  obtain ⟨changes, extra, rfl, each, extras, order⟩ := reordered
  refine ⟨changes.filter fun change => kept change.key, extra.filter fun member => kept member.1, ?_, ?_, ?_, ?_⟩
  · rw [List.filter_map]
    rfl
  · exact fun change isChange => each change (List.mem_of_mem_filter isChange)
  · exact fun member isAdded => extras member (List.mem_of_mem_filter isAdded)
  · have inOrder := order.filter fun member => kept member.1
    rw [List.filter_append, List.filter_map] at inOrder
    exact inOrder

/-- One member whose key is among the names. -/
theorem MembersReordered.of_singleton {name : String} (isName : name ∈ names) {doc : Document}
    (reordered : MembersReordered names [(some name, doc)] others) (sameKey : ∀ member ∈ others, member.1 = some name) :
    ∃ other, others = [(some name, other)] ∧ Reordered names doc other := by
  obtain ⟨changes, extra, isOld, each, extras, order⟩ := reordered
  obtain ⟨⟨key, before, after⟩, rfl, isChange⟩ := List.map_eq_singleton_iff.mp isOld.symm
  cases isChange
  have noExtra : extra = [] := by
    rw [List.eq_nil_iff_forall_not_mem]
    intro member isAdded
    have isKey := sameKey member (order.mem_iff.mpr (List.mem_append_right _ isAdded))
    obtain ⟨key, isOther, notName, -⟩ := isExtra_key (extras member isAdded)
    cases isKey.symm.trans isOther
    exact notName isName
  rw [noExtra] at order
  exact ⟨after, List.perm_singleton.mp order, each _ (List.mem_singleton_self _)⟩

end Members
end Document

/-! ## Faults -/

namespace Document

variable {names : List String}

/-- **A search for a fault that does not see the order**: where it finds none, it finds none in another order. -/
def FaultSteady (names : List String) (fault? : Document → Option Fault) : Prop :=
  ∀ ⦃doc other : Document⦄, Reordered names doc other → fault? doc = none → fault? other = none

theorem skipItems?_eq_none_iff {items : List Document} :
    skipItems? items = none ↔ ∀ item ∈ items, skipFault? item = none := by
  induction items with
  | nil => simp [skipItems?]
  | cons item items ih => simp [skipItems?, ih]

theorem skipMembers?_eq_none_iff {members : List (Option String × Document)} :
    skipMembers? members = none ↔ ∀ member ∈ members, skipFault? member.2 = none := by
  induction members with
  | nil => simp [skipMembers?]
  | cons member members ih => simp [skipMembers?, ih]

theorem keepItems?_eq_none_iff {depth : Nat} {items : List Document} :
    keepItems? depth items = none ↔ ∀ item ∈ items, keepFault? depth item = none := by
  induction items with
  | nil => simp [keepItems?]
  | cons item items ih => simp [keepItems?, ih]

theorem keepMembers?_eq_none_iff {depth : Nat} {members : List (Option String × Document)} :
    keepMembers? depth members = none ↔
      ∀ member ∈ members, member.1.isSome = true ∧ keepFault? depth member.2 = none := by
  induction members with
  | nil => simp [keepMembers?]
  | cons member members ih =>
    obtain ⟨_ | key, doc⟩ := member <;> simp [keepMembers?, ih]

theorem skipFault?_of_isPlain {doc : Document} (plain : doc.isPlain = true) : skipFault? doc = none := by
  cases doc <;> first | rfl | cases plain

theorem keepFault?_of_isPlain {doc : Document} (plain : doc.isPlain = true) (depth : Nat) :
    keepFault? depth doc = none := by
  cases doc <;> first | rfl | cases plain

theorem skipFault?_steady : FaultSteady names skipFault? := by
  intro doc other reordered noFault
  induction reordered with
  | same => exact noFault
  | arr items each ih =>
    simp only [skipFault?, Option.or_eq_none_iff, skipItems?_eq_none_iff, List.forall_mem_map] at noFault ⊢
    exact ⟨fun item isItem => ih item isItem (noFault.1 item isItem), rfl⟩
  | obj changes each extras order ih =>
    simp only [skipFault?, Option.or_eq_none_iff, skipMembers?_eq_none_iff, List.forall_mem_map] at noFault ⊢
    refine ⟨fun member isThere => ?_, rfl⟩
    rcases List.mem_append.mp (order.mem_iff.mp isThere) with isNew | isAdded
    · obtain ⟨change, isChange, rfl⟩ := List.mem_map.mp isNew
      exact ih change isChange (noFault.1 change isChange)
    · obtain ⟨-, -, -, plain⟩ := isExtra_key (extras member isAdded)
      exact skipFault?_of_isPlain plain

theorem keepFault?_steady (depth : Nat) : FaultSteady names (keepFault? depth) := by
  intro doc other reordered noFault
  induction reordered generalizing depth with
  | same => exact noFault
  | arr items each ih =>
    rw [keepFault?] at noFault ⊢
    split at noFault
    · cases noFault
    · next shallow =>
      rw [if_neg shallow]
      simp only [Option.or_eq_none_iff, keepItems?_eq_none_iff, List.forall_mem_map] at noFault ⊢
      exact ⟨fun item isItem => ih item isItem _ (noFault.1 item isItem), rfl⟩
  | obj changes each extras order ih =>
    rw [keepFault?] at noFault ⊢
    split at noFault
    · cases noFault
    · next shallow =>
      rw [if_neg shallow]
      simp only [Option.or_eq_none_iff, keepMembers?_eq_none_iff, List.forall_mem_map] at noFault ⊢
      refine ⟨fun member isThere => ?_, rfl⟩
      rcases List.mem_append.mp (order.mem_iff.mp isThere) with isNew | isAdded
      · obtain ⟨change, isChange, rfl⟩ := List.mem_map.mp isNew
        exact ⟨(noFault.1 change isChange).1, ih change isChange _ (noFault.1 change isChange).2⟩
      · obtain ⟨key, isKey, -, plain⟩ := isExtra_key (extras member isAdded)
        exact ⟨isKey ▸ rfl, keepFault?_of_isPlain plain _⟩

end Document

open Document (Reordered MembersReordered FaultSteady)

/-! ## Records -/

namespace Record

variable {α β : Type} {names : List String} {record : Record α} {a : α}

/-- Whether a key is the name of a field. -/
def isField (fields : List Field) (key : Option String) : Bool :=
  fields.any fun field => some field.name == key

/-- The fault of one member, whatever stands around it. -/
def memberFault? (fields : List Field) (other? : Document → Option Fault) (member : Option String × Document) :
    Option Fault :=
  match member.1 with
  | none => some .malformed
  | some key =>
    match fields.find? (·.name == key) with
    | some field => field.fault? member.2
    | none => other? member.2

theorem isField_of_find? {fields : List Field} {key : String} :
    isField fields (some key) = (fields.find? (·.name == key)).isSome := by
  rw [isField, Bool.eq_iff_iff]
  simp

/-- **When members have no fault**: none of them has one by itself, and no field is written twice. -/
theorem membersFault?_eq_none_iff {fields : List Field} {other? : Document → Option Fault} {seen : List String}
    {members : List (Option String × Document)} :
    membersFault? fields other? seen members = none ↔ (∀ member ∈ members, memberFault? fields other? member = none) ∧
      ((members.map (·.1)).filter (isField fields)).Nodup ∧
      ∀ key ∈ seen, some key ∉ (members.map (·.1)).filter (isField fields) := by
  induction members generalizing seen with
  | nil => simp [membersFault?]
  | cons member members ih =>
    obtain ⟨_ | key, doc⟩ := member
    · simp [membersFault?, memberFault?]
    · rw [membersFault?, List.map_cons, List.forall_mem_cons, memberFault?]
      cases found : fields.find? (·.name == key) with
      | none =>
        rw [List.filter_cons_of_neg (by rw [isField_of_find?, found]; simp)]
        simp only [found, Option.or_eq_none_iff, ih]
        tauto
      | some field =>
        rw [List.filter_cons_of_pos (by rw [isField_of_find?, found]; rfl)]
        by_cases isSeen : key ∈ seen
        · simp only [if_pos isSeen, reduceCtorEq, false_iff]
          exact fun clean => clean.2.2 key isSeen List.mem_cons_self
        · have notSeen : ∀ other ∈ seen, some other ≠ some key := by
            rintro other isOther same
            exact isSeen (Option.some.inj same ▸ isOther)
          simp only [found, if_neg isSeen, Option.or_eq_none_iff, ih, List.nodup_cons, List.mem_cons, not_or]
          constructor
          · rintro ⟨noFault, others, once, fresh⟩
            exact ⟨⟨noFault, others⟩, ⟨fresh key (.inl rfl), once⟩,
              fun other isOther => ⟨notSeen other isOther, fresh other (.inr isOther)⟩⟩
          · rintro ⟨⟨noFault, others⟩, ⟨isNew, once⟩, fresh⟩
            refine ⟨noFault, others, once, ?_⟩
            rintro other (rfl | isOther)
            · exact isNew
            · exact (fresh other isOther).2

theorem ofMembers_eq_ok_iff {other? : Document → Option Fault} {members : List (Option String × Document)}
    {ending : Ending} : record.ofMembers other? members ending = .ok a ↔
      membersFault? record.fields other? [] members = none ∧ Document.endingRead ending = none ∧
        record.build (member? members) = .ok a := by
  rw [ofMembers, ← and_assoc, ← Option.or_eq_none_iff]
  cases (membersFault? record.fields other? [] members).or (Document.endingRead ending) <;> simp

theorem ofItems_eq_ok_iff {items : List Document} {ending : Ending} : record.ofItems items ending = .ok a ↔
    itemsFault? ending record.fields items = none ∧
      record.build (member? ((record.fields.map (some ·.name)).zip items)) = .ok a := by
  rw [ofItems]
  cases itemsFault? ending record.fields items <;> simp

/-- The member of a field that is not written twice. -/
theorem member?_eq_some_iff {fields : List Field} {members : List (Option String × Document)}
    (once : ((members.map (·.1)).filter (isField fields)).Nodup) {name : String}
    (isName : isField fields (some name) = true) {doc : Document} :
    member? members name = some doc ↔ (some name, doc) ∈ members := by
  have ofKey {member : Option String × Document} (found : members.find? (·.1 == some name) = some member) :
      member ∈ members ∧ member.1 = some name :=
    ⟨List.mem_of_find?_eq_some found, by simpa using List.find?_some found⟩
  rw [member?, Option.map_eq_some_iff]
  constructor
  · rintro ⟨member, found, rfl⟩
    obtain ⟨isThere, isKey⟩ := ofKey found
    exact isKey ▸ isThere
  · intro isThere
    have isFound : (members.find? (·.1 == some name)).isSome = true :=
      List.find?_isSome.mpr ⟨_, isThere, beq_self_eq_true _⟩
    obtain ⟨member, found⟩ := Option.isSome_iff_exists.mp isFound
    obtain ⟨isMember, isKey⟩ := ofKey found
    -- Both stand among the members whose key is a field, where a key stands once.
    rw [List.filter_map] at once
    have isOne := List.inj_on_of_nodup_map once (List.mem_filter.mpr ⟨isMember, by simpa [isKey] using isName⟩)
      (List.mem_filter.mpr ⟨isThere, isName⟩) isKey
    exact ⟨member, found, congrArg Prod.snd isOne⟩

theorem isField_iff {fields : List Field} {key : Option String} :
    isField fields key = true ↔ ∃ field ∈ fields, some field.name = key := by
  simp [isField]

/-- **A record that does not see the order**: its fields are among the names, none finds a fault in another order of
its value, and the record builds the same value from the reordered documents of its fields. -/
structure Steady (names : List String) (record : Record α) : Prop where
  named : ∀ field ∈ record.fields, field.name ∈ names
  accepted : ∀ field ∈ record.fields, FaultSteady names field.fault?
  built : ∀ ⦃get other : String → Option Document⦄ ⦃a : α⦄,
    (∀ field ∈ record.fields, Option.Rel (Reordered names) (get field.name) (other field.name)) →
      record.build get = .ok a → record.build other = .ok a

section Members

variable {members others : List (Option String × Document)} (reordered : MembersReordered names members others)

include reordered

theorem member?_rel {fields : List Field} (once : ((members.map (·.1)).filter (isField fields)).Nodup)
    (onceAgain : ((others.map (·.1)).filter (isField fields)).Nodup) {field : Field} (isThere : field ∈ fields)
    (isName : field.name ∈ names) :
    Option.Rel (Reordered names) (member? members field.name) (member? others field.name) := by
  have isField : isField fields (some field.name) = true := isField_iff.mpr ⟨field, isThere, rfl⟩
  cases was : member? members field.name with
  | some doc =>
    obtain ⟨other, isNow, changed⟩ := reordered.exists_new ((member?_eq_some_iff once isField).mp was)
    rw [(member?_eq_some_iff onceAgain isField).mpr isNow]
    exact .some changed
  | none =>
    cases now : member? others field.name with
    | none => exact .none
    | some other =>
      -- It was there before, or it is an extra member, and neither can be.
      rcases reordered.cases_new ((member?_eq_some_iff onceAgain isField).mp now) with ⟨doc, wasThere, -⟩ | isAdded
      · rw [(member?_eq_some_iff once isField).mpr wasThere] at was
        cases was
      · obtain ⟨key, isKey, isOther, -⟩ := Document.isExtra_key isAdded
        cases isKey
        exact absurd isName isOther

theorem Steady.memberFault? (steady : record.Steady names) {other? : Document → Option Fault}
    (skips : FaultSteady names other?) (plain : ∀ doc, doc.isPlain = true → other? doc = none)
    (clean : ∀ member ∈ members, memberFault? record.fields other? member = none) {member : Option String × Document}
    (isThere : member ∈ others) : Record.memberFault? record.fields other? member = none := by
  rcases reordered.cases_new isThere with ⟨doc, wasThere, changed⟩ | isAdded
  · have noFault := clean _ wasThere
    unfold Record.memberFault? at noFault ⊢
    split at noFault
    · cases noFault
    · next key isKey =>
      simp only at isKey
      simp only [isKey]
      split at noFault
      · next field isFound => exact steady.accepted field (List.mem_of_find?_eq_some isFound) changed noFault
      · exact skips changed noFault
  · obtain ⟨key, isKey, isOther, isPlain⟩ := Document.isExtra_key isAdded
    have notFound : record.fields.find? (·.name == key) = none := by
      rw [List.find?_eq_none]
      intro field isField same
      exact isOther (beq_iff_eq.mp same ▸ steady.named field isField)
    simp only [Record.memberFault?, isKey, notFound, plain _ isPlain]

/-- **A record off reordered members** is the same. -/
theorem Steady.ofMembers (steady : record.Steady names) {other? : Document → Option Fault}
    (skips : FaultSteady names other?) (plain : ∀ doc, doc.isPlain = true → other? doc = none) {ending : Ending}
    (read : record.ofMembers other? members ending = .ok a) : record.ofMembers other? others ending = .ok a := by
  rw [ofMembers_eq_ok_iff, membersFault?_eq_none_iff] at read ⊢
  obtain ⟨⟨clean, once, -⟩, closed, built⟩ := read
  have onlyNames : ∀ key ∉ names, isField record.fields (some key) = false := by
    intro key isOther
    rw [Bool.eq_false_iff]
    intro isName
    obtain ⟨field, isField, same⟩ := isField_iff.mp isName
    exact isOther (Option.some.inj same ▸ steady.named field isField)
  have onceAgain := (reordered.keys onlyNames).nodup_iff.mpr once
  refine ⟨⟨fun member => steady.memberFault? reordered skips plain clean, onceAgain, by simp⟩, closed, ?_⟩
  refine steady.built (fun field isThere => ?_) built
  exact member?_rel reordered once onceAgain isThere (steady.named field isThere)

end Members

section Items

variable {items others : List Document} (reordered : List.Forall₂ (Reordered names) items others)

include reordered

theorem itemsFault?_steady {fields : List Field} (accepted : ∀ field ∈ fields, FaultSteady names field.fault?)
    {ending : Ending} (noFault : itemsFault? ending fields items = none) : itemsFault? ending fields others = none := by
  induction reordered generalizing fields with
  | nil => exact noFault
  | cons changed _ ih =>
    cases fields with
    | nil => cases noFault
    | cons field fields =>
      rw [List.forall_mem_cons] at accepted
      rw [itemsFault?, Option.or_eq_none_iff] at noFault ⊢
      exact ⟨accepted.1 changed noFault.1, ih accepted.2 noFault.2⟩

theorem member?_zip_rel (keys : List (Option String)) (name : String) :
    Option.Rel (Reordered names) (member? (keys.zip items) name) (member? (keys.zip others) name) := by
  induction reordered generalizing keys with
  | nil =>
    simp only [List.zip_nil_right]
    exact .none
  | cons changed _ ih =>
    cases keys with
    | nil => exact .none
    | cons key keys =>
      by_cases same : key = some name
      · simpa [member?, same] using Option.Rel.some changed
      · simpa [member?, same] using ih keys

/-- A record off reordered items is the same. -/
theorem Steady.ofItems (steady : record.Steady names) {ending : Ending} (read : record.ofItems items ending = .ok a) :
    record.ofItems others ending = .ok a := by
  rw [ofItems_eq_ok_iff] at read ⊢
  exact ⟨itemsFault?_steady reordered steady.accepted read.1,
    steady.built (fun field _ => member?_zip_rel reordered _ field.name) read.2⟩

end Items

end Record

/-! ## Decoders -/

section Results

variable {ε α β : Type}

theorem bind_eq_ok_iff {x : Except ε α} {f : α → Except ε β} {b : β} :
    (x >>= f) = .ok b ↔ ∃ a, x = .ok a ∧ f a = .ok b := by
  cases x <;> simp [bind, Except.bind]

theorem map_eq_ok_iff {x : Except ε α} {f : α → β} {b : β} : x.map f = .ok b ↔ ∃ a, x = .ok a ∧ f a = b := by
  cases x <;> simp [Except.map]

end Results

namespace Decoder

variable {α : Type} {names : List String} {decode : Decoder α}

/-- **A decoder that does not see the order**: a document that it accepts gives the same value in another order. -/
def Steady (names : List String) (decode : Decoder α) : Prop :=
  ∀ ⦃doc other : Document⦄ ⦃a : α⦄, Reordered names doc other → decode doc = .ok a → decode other = .ok a

/-- A decoder that takes no array and no object sees no order. -/
theorem steady_of_scalar (noItems : ∀ items ending a, decode (.arr items ending) ≠ .ok a)
    (noMembers : ∀ members ending a, decode (.obj members ending) ≠ .ok a) : decode.Steady names := by
  intro doc other a reordered decoded
  rcases reordered.eq_or with rfl | ⟨items, rfl⟩ | ⟨members, rfl⟩
  · exact decoded
  · exact absurd decoded (noItems _ _ _)
  · exact absurd decoded (noMembers _ _ _)

theorem string_steady : Decoder.string.Steady names := steady_of_scalar nofun nofun

theorem bool_steady : Decoder.bool.Steady names := steady_of_scalar nofun nofun

theorem nat32_steady : Decoder.nat32.Steady names := steady_of_scalar nofun nofun

theorem Steady.nullable (steady : decode.Steady names) : (Decoder.nullable decode).Steady names := by
  intro doc other a reordered decoded
  cases doc with
  | obj members ending =>
    obtain ⟨others, rfl, -⟩ := reordered.of_obj
    obtain ⟨value, item, rfl⟩ := map_eq_ok_iff.mp decoded
    exact map_eq_ok_iff.mpr ⟨value, steady reordered item, rfl⟩
  | arr items ending =>
    obtain ⟨others, rfl, -⟩ := reordered.of_arr
    obtain ⟨value, item, rfl⟩ := map_eq_ok_iff.mp decoded
    exact map_eq_ok_iff.mpr ⟨value, steady reordered item, rfl⟩
  | _ =>
    obtain rfl | ⟨_, isItems⟩ | ⟨_, isMembers⟩ := reordered.eq_or
    · exact decoded
    · cases isItems
    · cases isMembers

theorem mapM_steady (steady : decode.Steady names) {items others : List Document}
    (reordered : List.Forall₂ (Reordered names) items others) {values : List α}
    (decoded : items.mapM decode = .ok values) : others.mapM decode = .ok values := by
  induction reordered generalizing values with
  | nil => exact decoded
  | cons changed _ ih =>
    rw [List.mapM_cons, bind_eq_ok_iff] at decoded ⊢
    obtain ⟨value, first, decoded⟩ := decoded
    obtain ⟨values, rest, isValues⟩ := bind_eq_ok_iff.mp decoded
    exact ⟨value, steady changed first, bind_eq_ok_iff.mpr ⟨values, ih rest, isValues⟩⟩

theorem Steady.list (steady : decode.Steady names) : (Decoder.list decode).Steady names := by
  intro doc other values reordered decoded
  cases doc with
  | arr items ending =>
    obtain ⟨others, rfl, inItems⟩ := reordered.of_arr
    obtain ⟨read, each, ends⟩ := bind_eq_ok_iff.mp decoded
    exact bind_eq_ok_iff.mpr ⟨read, mapM_steady steady inItems each, ends⟩
  | _ => cases decoded

/-- The fault of a decoder that does not see the order. -/
theorem Steady.fault (steady : decode.Steady names) : FaultSteady names (Record.faultOf decode) := by
  intro doc other reordered noFault
  unfold Record.faultOf at noFault ⊢
  cases decoded : decode doc with
  | ok a => rw [steady reordered decoded]
  | error fault => simp [decoded] at noFault

end Decoder

namespace Record

variable {α β : Type} {names : List String} {name : String} {decode : Decoder α}

theorem Steady.decoder {record : Record α} (steady : record.Steady names) : record.decoder.Steady names := by
  intro doc other a reordered decoded
  cases doc with
  | obj members ending =>
    obtain ⟨others, rfl, inMembers⟩ := reordered.of_obj
    exact steady.ofMembers inMembers Document.skipFault?_steady (fun _ => Document.skipFault?_of_isPlain) decoded
  | arr items ending =>
    obtain ⟨others, rfl, inItems⟩ := reordered.of_arr
    exact steady.ofItems inItems decoded
  | _ => cases decoded

/-- A record of one field, with what it gives where the field is missing. -/
theorem steady_field (isName : name ∈ names) (steady : decode.Steady names) (early : Bool) (missing : Except Fault α) :
    Steady names ⟨[⟨name, faultOf decode, early⟩], fun get => match get name with
      | some doc => decode doc
      | none => missing⟩ where
  named := List.forall_mem_singleton.mpr isName
  accepted := List.forall_mem_singleton.mpr steady.fault
  built := by
    intro get other a related built
    replace related := related _ (List.mem_singleton_self _)
    simp only at related built ⊢
    generalize get name = was at related built
    generalize other name = now at related ⊢
    cases related with
    | some changed => exact steady changed built
    | none => exact built

theorem Steady.required (isName : name ∈ names) (steady : decode.Steady names) :
    (Record.required name decode).Steady names :=
  steady_field isName steady false (.error .mismatch)

theorem Steady.defaulted (isName : name ∈ names) (steady : decode.Steady names) (value : α) :
    (Record.defaulted name decode value).Steady names :=
  steady_field isName steady true (.ok value)

theorem Steady.optional (isName : name ∈ names) (steady : decode.Steady names) :
    (Record.optional name decode).Steady names :=
  .defaulted isName steady.nullable none

theorem Steady.map {record : Record α} (f : α → β) (steady : record.Steady names) : (f <$> record).Steady names where
  named := steady.named
  accepted := steady.accepted
  built := by
    intro get other b related built
    obtain ⟨a, built, isValue⟩ := map_eq_ok_iff.mp built
    exact map_eq_ok_iff.mpr ⟨a, steady.built related built, isValue⟩

theorem Steady.seq {function : Record (α → β)} {record : Record α} (steady : function.Steady names)
    (argument : record.Steady names) : (function <*> record).Steady names where
  named := List.forall_mem_append.mpr ⟨steady.named, argument.named⟩
  accepted := List.forall_mem_append.mpr ⟨steady.accepted, argument.accepted⟩
  built := by
    intro get other b related built
    obtain ⟨inFunction, inArgument⟩ := List.forall_mem_append.mp related
    obtain ⟨f, isFunction, built⟩ := bind_eq_ok_iff.mp built
    obtain ⟨a, isArgument, isValue⟩ := bind_eq_ok_iff.mp built
    exact bind_eq_ok_iff.mpr ⟨f, steady.built inFunction isFunction,
      bind_eq_ok_iff.mpr ⟨a, argument.built inArgument isArgument, isValue⟩⟩

end Record

/-! ## Texts -/

theorem Decoder.run_eq_ok_iff {α : Type} {decode : Decoder α} {text : String} {a : α} :
    decode.run text = .ok a ↔
      decode (Document.read text).document = .ok a ∧ (Document.read text).trailing = false := by
  unfold Decoder.run
  rw [bind_eq_ok_iff]
  constructor
  · rintro ⟨value, decoded, alone⟩
    split at alone
    · cases alone
    · next notTrailing =>
      cases alone
      exact ⟨decoded, by simpa using notTrailing⟩
  · rintro ⟨decoded, alone⟩
    exact ⟨a, decoded, by simp [alone]⟩

theorem Record.itemsFault?_closed {fields : List Field} {items : List Document} {ending : Ending}
    (noFault : itemsFault? ending fields items = none) : ending = .closed := by
  fun_induction itemsFault? ending fields items <;> simp_all [Document.endingRead]

/-- A record is not read off a broken document. -/
theorem Record.not_broken {α : Type} {record : Record α} {doc : Document} {a : α}
    (decoded : record.decoder doc = .ok a) : ¬ doc.Broken := by
  cases doc with
  | obj members ending =>
    obtain ⟨-, closed, -⟩ := ofMembers_eq_ok_iff.mp decoded
    cases ending <;> simp_all [Document.Broken, Document.endingRead]
  | arr items ending =>
    have closed := itemsFault?_closed (ofItems_eq_ok_iff.mp decoded).1
    simp [Document.Broken, closed]
  | cut => cases decoded
  | _ => exact id

end WorkflowAtlas
