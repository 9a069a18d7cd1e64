import WorkflowAtlas.Proofs.JsonScalars
import WorkflowAtlas.Proofs.TextCuts

/-!
# The grammar of JSON text

**What a text spells** (`Document.Spells`), said by rules: a word, a string, a number, and an array or an object whose
parts stand between commas, with blanks around each. The rule for an object takes its members as a list, so that a
list of the same members in another order, or of more members, gives a text too.

The reader agrees with the rules in both directions. What they derive is read, whatever follows it
(`Spells.recovers`), and what is read without a break was derived by them (`valueFrom_spelled`). For whole texts this
is `Spells.read` and `spells_of_read`.
-/

namespace WorkflowAtlas

namespace Document

open Text (isDigit joinWith joinWith_cons)

/-! ## The rules -/

/-- Blanks and nothing else. -/
def Blank (cs : List Char) : Prop :=
  ∀ c ∈ cs, isSpace c = true

/-- **A key in the text of an object**, with the blanks around it and what it spells. -/
structure KeyText where
  before : List Char
  body : List Char
  after : List Char
  name : Option String
  blankBefore : Blank before
  blankAfter : Blank after
  quotes : Quotes body name

def KeyText.text (key : KeyText) : List Char :=
  key.before ++ '"' :: (key.body ++ '"' :: (key.after ++ [':']))

/-- A part of an array: its text, and its document. -/
structure ItemText where
  text : List Char
  document : Document

/-- A part of an object: its key, the text of its value, and the document of that. -/
structure MemberText where
  key : KeyText
  value : List Char
  document : Document

def MemberText.text (member : MemberText) : List Char :=
  member.key.text ++ member.value

def MemberText.member (member : MemberText) : Option String × Document :=
  (member.key.name, member.document)

/-- **What a text spells.** -/
inductive Spells : List Char → Document → Prop
  | null : Spells ['n', 'u', 'l', 'l'] .null
  | truth : Spells ['t', 'r', 'u', 'e'] (.bool true)
  | falsity : Spells ['f', 'a', 'l', 's', 'e'] (.bool false)
  | string {body : List Char} {spelled : Option String} (quotes : Quotes body spelled) :
      Spells ('"' :: (body ++ ['"'])) (quotation spelled)
  | number {cs : List Char} {doc : Document} (isNumber : Numbers false cs doc) : Spells cs doc
  | negative {cs : List Char} {doc : Document} (isNumber : Numbers true cs doc) : Spells ('-' :: cs) doc
  | arr {gap : List Char} (blank : Blank gap) (items : List ItemText)
      (each : ∀ item ∈ items, Spells item.text item.document) :
      Spells ('[' :: (gap ++ joinWith [','] (items.map (·.text)) ++ [']'])) (.arr (items.map (·.document)) .closed)
  | obj {gap : List Char} (blank : Blank gap) (members : List MemberText)
      (each : ∀ member ∈ members, Spells member.value member.document) :
      Spells ('\x7b' :: (gap ++ joinWith [','] (members.map (·.text)) ++ ['\x7d']))
        (.obj (members.map (·.member)) .closed)
  | blanks {before text after : List Char} {doc : Document} (blankBefore : Blank before) (blankAfter : Blank after)
      (spelled : Spells text doc) : Spells (before ++ text ++ after) doc

/-! ## What is spelled is read -/

theorem endsNumber_close {c : Char} (isMark : c = ']' ∨ c = '\x7d') (cs : List Char) : EndsNumber (c :: cs) := by
  intro d isFirst
  cases isFirst
  rcases isMark with rfl | rfl <;> decide

theorem Blank.endsNumber {blank rest : List Char} (isBlank : Blank blank) (ends : EndsNumber rest) :
    EndsNumber (blank ++ rest) := by
  cases blank with
  | nil => exact ends
  | cons c blank =>
    intro d isFirst
    cases isFirst
    have isSpace := isBlank c List.mem_cons_self
    simp only [Document.isSpace, Bool.or_eq_true, beq_iff_eq] at isSpace
    rcases isSpace with ((rfl | rfl) | rfl) | rfl <;> decide

theorem Blank.skipSpace_append {blank : List Char} (isBlank : Blank blank) (rest : List Char) :
    skipSpace (blank ++ rest) = skipSpace rest :=
  List.dropWhile_append_of_pos isBlank

theorem Blank.valueFrom_append {blank : List Char} (isBlank : Blank blank) (fuel : Nat) (rest : List Char) :
    valueFrom fuel (blank ++ rest) = valueFrom fuel rest := by
  rw [← valueFrom_skipSpace, isBlank.skipSpace_append, valueFrom_skipSpace]

theorem itemsFrom_skipSpace (fuel : Nat) (items : List Document) (cs : List Char) :
    itemsFrom fuel items (skipSpace cs) = itemsFrom fuel items cs := by
  cases fuel with
  | zero => rw [itemsFrom, itemsFrom]
  | succ fuel => rw [itemsFrom, itemsFrom, valueFrom_skipSpace]

/-- **A text that the reader recovers a document from**, whatever follows; blanks at its end may be left over. -/
def Recovers (text : List Char) (doc : Document) : Prop :=
  ∀ fuel rest, text.length ≤ fuel → EndsNumber rest →
    ∃ left, valueFrom fuel (text ++ rest) = (doc, some left) ∧ skipSpace left = skipSpace rest

theorem opens_of_valueFrom {fuel : Nat} {cs rest : List Char} {doc : Document}
    (read : valueFrom fuel cs = (doc, some rest)) : Opens cs := by
  cases fuel with
  | zero =>
    rw [valueFrom] at read
    cases read
  | succ fuel =>
    rw [valueFrom] at read
    cases first : skipSpace cs with
    | nil => simp [first] at read
    | cons c more =>
      refine ⟨c, more, first, ?_, ?_⟩ <;> rintro rfl <;> simp [first, isDigit] at read

theorem Recovers.opens {text : List Char} {doc : Document} (recovers : Recovers text doc) {rest : List Char}
    (ends : EndsNumber rest) : Opens (text ++ rest) := by
  obtain ⟨_, read, -⟩ := recovers text.length rest le_rfl ends
  exact opens_of_valueFrom read

/-- The first of several parts between commas, and what follows it. -/
theorem joinWith_first (first : List Char) (others : List (List Char)) {mark : Char}
    (isMark : mark = ']' ∨ mark = '\x7d') (rest : List Char) :
    ∃ tail, EndsNumber tail ∧ joinWith [','] (first :: others) ++ mark :: rest = first ++ tail := by
  cases others with
  | nil => exact ⟨mark :: rest, endsNumber_close isMark rest, rfl⟩
  | cons second others =>
    refine ⟨',' :: (joinWith [','] (second :: others) ++ mark :: rest), endsNumber_comma _, ?_⟩
    rw [joinWith_cons _ _ (List.cons_ne_nil _ _)]
    simp

theorem MemberText.skipSpace_text (member : MemberText) (tail : List Char) :
    skipSpace (member.text ++ tail) =
      '"' :: (member.key.body ++ '"' :: (member.key.after ++ ':' :: (member.value ++ tail))) := by
  simp only [MemberText.text, KeyText.text, List.append_assoc, List.cons_append, List.nil_append]
  rw [member.key.blankBefore.skipSpace_append, skipSpace_of_head rfl]

theorem opens_joinWith_items {items : List ItemText} (notNil : items ≠ [])
    (each : ∀ item ∈ items, Recovers item.text item.document) (rest : List Char) :
    Opens (joinWith [','] (items.map (·.text)) ++ ']' :: rest) := by
  obtain ⟨item, items, rfl⟩ := List.exists_cons_of_ne_nil notNil
  obtain ⟨tail, ends, isTail⟩ := joinWith_first item.text (items.map (·.text)) (.inl rfl) rest
  rw [List.map_cons, isTail]
  exact (each item List.mem_cons_self).opens ends

theorem opens_joinWith_members {members : List MemberText} (notNil : members ≠ []) (rest : List Char) :
    Opens (joinWith [','] (members.map (·.text)) ++ '\x7d' :: rest) := by
  obtain ⟨member, members, rfl⟩ := List.exists_cons_of_ne_nil notNil
  obtain ⟨tail, -, isTail⟩ := joinWith_first member.text (members.map (·.text)) (.inr rfl) rest
  rw [List.map_cons, isTail]
  exact ⟨'"', _, member.skipSpace_text tail, by decide, by decide⟩

/-- **The items of an array are recovered** from one of them on. -/
theorem itemsFrom_recovers {items : List ItemText} (notNil : items ≠ [])
    (each : ∀ item ∈ items, Recovers item.text item.document) {fuel : Nat}
    (enough : (joinWith [','] (items.map (·.text))).length < fuel) (earlier : List Document) (rest : List Char) :
    itemsFrom fuel earlier (joinWith [','] (items.map (·.text)) ++ ']' :: rest) =
      (.arr (earlier.reverse ++ items.map (·.document)) .closed, some rest) := by
  induction items generalizing fuel earlier with
  | nil => exact absurd rfl notNil
  | cons item items ih =>
    obtain ⟨fuel, rfl⟩ := Nat.exists_eq_add_one_of_ne_zero (Nat.ne_zero_of_lt enough)
    rw [List.forall_mem_cons] at each
    cases items with
    | nil =>
      have enough : item.text.length ≤ fuel := Nat.le_of_lt_succ enough
      obtain ⟨left, read, same⟩ := each.1 fuel (']' :: rest) enough (endsNumber_close (.inl rfl) rest)
      rw [List.map_singleton, List.map_singleton]
      exact (itemsFrom_close read same earlier).trans (by rw [List.reverse_cons])
    | cons second items =>
      have joined := joinWith_cons [','] item.text (by simp : (second :: items).map (·.text) ≠ [])
      rw [List.map_cons, joined] at enough ⊢
      simp only [List.length_append, List.length_singleton] at enough
      let following := joinWith [','] ((second :: items).map (·.text)) ++ ']' :: rest
      obtain ⟨left, read, same⟩ := each.1 fuel (',' :: following) (by omega) (endsNumber_comma _)
      have opens : Opens following := opens_joinWith_items (by simp) each.2 rest
      rw [List.append_assoc, List.append_assoc, List.singleton_append, itemsFrom_comma read same opens,
        itemsFrom_skipSpace, ih (by simp) each.2 (by omega)]
      simp

/-- **The members of an object are recovered** from one of them on. -/
theorem membersFrom_recovers {members : List MemberText} (notNil : members ≠ [])
    (each : ∀ member ∈ members, Recovers member.value member.document) {fuel : Nat}
    (enough : (joinWith [','] (members.map (·.text))).length < fuel) (earlier : List (Option String × Document))
    (rest : List Char) :
    membersFrom fuel earlier (skipSpace (joinWith [','] (members.map (·.text)) ++ '\x7d' :: rest)) =
      (.obj (earlier.reverse ++ members.map (·.member)) .closed, some rest) := by
  induction members generalizing fuel earlier with
  | nil => exact absurd rfl notNil
  | cons member members ih =>
    obtain ⟨fuel, rfl⟩ := Nat.exists_eq_add_one_of_ne_zero (Nat.ne_zero_of_lt enough)
    rw [List.forall_mem_cons] at each
    have colon (cs : List Char) : skipSpace (member.key.after ++ ':' :: cs) = ':' :: cs :=
      (member.key.blankAfter.skipSpace_append _).trans (skipSpace_of_head rfl cs)
    have shorter : member.value.length ≤ member.text.length := by
      rw [MemberText.text, List.length_append]
      omega
    cases members with
    | nil =>
      have enough : member.value.length ≤ fuel := by
        rw [List.map_singleton] at enough
        exact shorter.trans (Nat.le_of_lt_succ enough)
      obtain ⟨left, read, same⟩ := each.1 fuel ('\x7d' :: rest) enough (endsNumber_close (.inr rfl) rest)
      rw [List.map_singleton, List.map_singleton]
      change membersFrom _ _ (skipSpace (member.text ++ _)) = _
      rw [member.skipSpace_text, membersFrom_close (member.key.quotes _) (colon _) read same, List.reverse_cons]
      rfl
    | cons second members =>
      have joined := joinWith_cons [','] member.text (by simp : (second :: members).map (·.text) ≠ [])
      rw [List.map_cons, joined] at enough ⊢
      simp only [List.length_append, List.length_singleton] at enough
      let following := joinWith [','] ((second :: members).map (·.text)) ++ '\x7d' :: rest
      obtain ⟨left, read, same⟩ := each.1 fuel (',' :: following) (by omega) (endsNumber_comma _)
      have opens : Opens following := opens_joinWith_members (by simp) rest
      rw [List.append_assoc, List.append_assoc, List.singleton_append, member.skipSpace_text,
        membersFrom_comma (member.key.quotes _) (colon _) read same opens, ih (by simp) each.2 (by omega)]
      simp [MemberText.member]

theorem Blank.opens_append {blank rest : List Char} (isBlank : Blank blank) (opens : Opens rest) :
    Opens (blank ++ rest) := by
  rw [Opens, isBlank.skipSpace_append]
  exact opens

/-- A text with something in it may be read with one more step at hand. -/
theorem recovers_of_succ {text : List Char} {doc : Document} (notNil : text ≠ [])
    (reads : ∀ fuel rest, text.length ≤ fuel + 1 → EndsNumber rest →
      valueFrom (fuel + 1) (text ++ rest) = (doc, some rest)) : Recovers text doc := by
  intro fuel rest enough ends
  have positive : 0 < fuel := (List.length_pos_iff.mpr notNil).trans_le enough
  obtain ⟨fuel, rfl⟩ := Nat.exists_eq_add_one_of_ne_zero positive.ne'
  exact ⟨rest, reads fuel rest enough ends, rfl⟩

/-- **What is spelled is recovered.** -/
theorem Spells.recovers {text : List Char} {doc : Document} (spelled : Spells text doc) : Recovers text doc := by
  induction spelled with
  | null => exact recovers_of_succ (by simp) fun _ _ _ _ => rfl
  | truth => exact recovers_of_succ (by simp) fun _ _ _ _ => rfl
  | falsity => exact recovers_of_succ (by simp) fun _ _ _ _ => rfl
  | string quotes =>
    refine recovers_of_succ (by simp) fun fuel rest _ _ => ?_
    rw [List.cons_append, List.append_assoc, valueFrom, skipSpace_of_head rfl]
    exact quotes rest
  | number isNumber =>
    obtain ⟨c, cs, rfl, digit⟩ := isNumber.head
    refine recovers_of_succ (by simp) fun fuel rest _ ends => ?_
    rw [List.cons_append, valueFrom_digit digit]
    exact isNumber rest ends
  | negative isNumber =>
    refine recovers_of_succ (by simp) fun fuel rest _ ends => ?_
    rw [List.cons_append, valueFrom, skipSpace_of_head rfl]
    exact isNumber rest ends
  | @arr gap blank items _ ih =>
    refine recovers_of_succ (by simp) fun fuel rest enough _ => ?_
    simp only [List.cons_append, List.append_assoc, List.nil_append]
    by_cases isNil : items = []
    · subst isNil
      change valueFrom (fuel + 1) ('[' :: (gap ++ ']' :: rest)) = _
      rw [valueFrom, skipSpace_of_head rfl]
      simp only [blank.skipSpace_append, skipSpace_of_head (c := ']') rfl]
      rfl
    · have enough : (joinWith [','] (items.map (·.text))).length < fuel := by
        simp only [List.length_cons, List.length_append, List.length_nil] at enough
        omega
      rw [valueFrom_bracket (blank.opens_append (opens_joinWith_items isNil ih rest)), blank.skipSpace_append,
        itemsFrom_skipSpace, itemsFrom_recovers isNil ih enough]
      rfl
  | @obj gap blank members _ ih =>
    refine recovers_of_succ (by simp) fun fuel rest enough _ => ?_
    simp only [List.cons_append, List.append_assoc, List.nil_append]
    by_cases isNil : members = []
    · subst isNil
      change valueFrom (fuel + 1) ('\x7b' :: (gap ++ '\x7d' :: rest)) = _
      rw [valueFrom, skipSpace_of_head rfl]
      simp only [blank.skipSpace_append, skipSpace_of_head (c := '\x7d') rfl]
      rfl
    · have enough : (joinWith [','] (members.map (·.text))).length < fuel := by
        simp only [List.length_cons, List.length_append, List.length_nil] at enough
        omega
      rw [valueFrom_brace (blank.opens_append (opens_joinWith_members isNil rest)), blank.skipSpace_append,
        membersFrom_recovers isNil ih enough]
      rfl
  | blanks blankBefore blankAfter _ ih =>
    intro fuel rest enough ends
    simp only [List.length_append] at enough
    obtain ⟨left, read, same⟩ := ih fuel _ (by omega) (blankAfter.endsNumber ends)
    refine ⟨left, ?_, same.trans (blankAfter.skipSpace_append rest)⟩
    rw [List.append_assoc, List.append_assoc, blankBefore.valueFrom_append, read]

/-! ## What is read was spelled -/

theorem wordFrom_some {value doc : Document} {word cs rest : List Char}
    (read : wordFrom value word cs = (doc, some rest)) : doc = value ∧ cs = word ++ rest := by
  fun_induction wordFrom value word cs with
  | case1 =>
    cases read
    exact ⟨rfl, rfl⟩
  | case2 => cases read
  | case3 w word cs ih =>
    obtain ⟨isValue, rfl⟩ := ih read
    exact ⟨isValue, rfl⟩
  | case4 => cases read

/-- The blanks in front of a text. -/
theorem exists_blank (cs : List Char) : ∃ blank, Blank blank ∧ cs = blank ++ skipSpace cs :=
  ⟨cs.takeWhile isSpace, fun _ => List.mem_takeWhile_imp, List.takeWhile_append_dropWhile.symm⟩

theorem blank_nil : Blank [] := by
  simp [Blank]

theorem Spells.behind {blank text : List Char} {doc : Document} (isBlank : Blank blank) (spelled : Spells text doc) :
    Spells (blank ++ text) doc := by
  simpa using spelled.blanks isBlank blank_nil

theorem Spells.before {blank text : List Char} {doc : Document} (spelled : Spells text doc) (isBlank : Blank blank) :
    Spells (text ++ blank) doc := by
  simpa using spelled.blanks blank_nil isBlank

/-- **What the reader of items does with one of them**, unless the text breaks off: it goes on behind a comma, and ends
with a bracket. -/
theorem itemsFrom_cases {fuel : Nat} {earlier : List Document} {cs rest : List Char} {doc : Document}
    (read : itemsFrom (fuel + 1) earlier cs = (doc, some rest)) :
    ∃ item more, valueFrom fuel cs = (item, some more) ∧
      (skipSpace more = ']' :: rest ∧ doc = .arr (item :: earlier).reverse .closed ∨
        ∃ later, skipSpace more = ',' :: later ∧ itemsFrom fuel (item :: earlier) later = (doc, some rest)) := by
  rw [itemsFrom] at read
  split at read
  · cases read
  · next item more value =>
    refine ⟨item, more, value, ?_⟩
    split at read
    · cases read
    · next closes =>
      cases read
      exact .inl ⟨closes, rfl⟩
    · next later comma =>
      refine .inr ⟨later, comma, ?_⟩
      split at read
      · cases read
      · cases read
      · rw [← itemsFrom_skipSpace]
        exact read
    · cases read

/-- What follows a key, then the members behind it. -/
def behindKey (fuel : Nat) (members : List (Option String × Document)) (key : Option String) (behind : List Char) :
    Document × Option (List Char) :=
  match skipSpace behind with
  | [] => (.obj ((key, .cut (.of .ended)) :: members).reverse (.cut (.of .ended)), none)
  | ':' :: rest =>
    match valueFrom fuel rest with
    | (value, none) => (.obj ((key, value) :: members).reverse (.cut (.of .malformed)), none)
    | (value, some rest) =>
      match skipSpace rest with
      | [] => (.obj ((key, value) :: members).reverse (.cut (.of .ended)), none)
      | '\x7d' :: rest => (.obj ((key, value) :: members).reverse .closed, some rest)
      | ',' :: rest =>
        match skipSpace rest with
        | [] => (.obj ((key, value) :: members).reverse (.cut (.of .ended)), none)
        | rest => membersFrom fuel ((key, value) :: members) rest
      | _ => (.obj ((key, value) :: members).reverse (.cut (.of .malformed)), none)
  | _ => (.obj ((key, .cut (.of .malformed)) :: members).reverse (.cut (.of .malformed)), none)

theorem membersFrom_key {fuel : Nat} {members : List (Option String × Document)} {key : Option String}
    {cs behind : List Char} (isKey : stringFrom [] none none cs = (quotation key, some behind)) :
    membersFrom (fuel + 1) members ('"' :: cs) = behindKey fuel members key behind := by
  rw [membersFrom, isKey]
  cases key <;> rfl

/-- What the reader of members does with one of them, unless the text breaks off. -/
theorem membersFrom_cases {fuel : Nat} {earlier : List (Option String × Document)} {cs rest : List Char}
    {doc : Document} (read : membersFrom (fuel + 1) earlier cs = (doc, some rest)) :
    ∃ body key behind value text more, cs = '"' :: (body ++ '"' :: behind) ∧ Quotes body key ∧
      skipSpace behind = ':' :: text ∧ valueFrom fuel text = (value, some more) ∧
      (skipSpace more = '\x7d' :: rest ∧ doc = .obj ((key, value) :: earlier).reverse .closed ∨
        ∃ later, skipSpace more = ',' :: later ∧
          membersFrom fuel ((key, value) :: earlier) (skipSpace later) = (doc, some rest)) := by
  obtain ⟨cs, behind, spelled, rfl, isKey⟩ : ∃ cs' behind spelled, cs = '"' :: cs' ∧
      stringFrom [] none none cs' = (spelled, some behind) := by
    unfold membersFrom at read
    split at read
    · split at read
      · cases read
      · cases read
      · next isKey => exact ⟨_, _, _, rfl, isKey⟩
    · cases read
  obtain ⟨body, key, rfl, rfl, quotes⟩ := quotes_of_stringFrom isKey
  rw [membersFrom_key isKey, behindKey] at read
  split at read
  · cases read
  · next text colon =>
    split at read
    · cases read
    · next value more isValue =>
      refine ⟨body, key, behind, value, text, more, rfl, quotes, colon, isValue, ?_⟩
      split at read
      · cases read
      · next closes =>
        cases read
        exact .inl ⟨closes, rfl⟩
      · next later comma =>
        refine .inr ⟨later, comma, ?_⟩
        split at read
        · cases read
        · exact read
      · cases read
  · cases read

mutual

/-- **A value that is read without a break was spelled.** -/
theorem valueFrom_spelled {fuel : Nat} {cs rest : List Char} {doc : Document}
    (read : valueFrom fuel cs = (doc, some rest)) : ∃ text, cs = text ++ rest ∧ Spells text doc := by
  match fuel with
  | 0 =>
    rw [valueFrom] at read
    cases read
  | fuel + 1 =>
    obtain ⟨blank, isBlank, isText⟩ := exists_blank cs
    -- It is enough to find the text behind the blanks.
    suffices ∃ text, skipSpace cs = text ++ rest ∧ Spells text doc by
      obtain ⟨text, isRest, spelled⟩ := this
      exact ⟨blank ++ text, by rw [List.append_assoc, ← isRest, ← isText], spelled.behind isBlank⟩
    rw [valueFrom] at read
    split at read
    · cases read
    · next word =>
      obtain ⟨rfl, rfl⟩ := wordFrom_some read
      exact ⟨_, word, .null⟩
    · next word =>
      obtain ⟨rfl, rfl⟩ := wordFrom_some read
      exact ⟨_, word, .truth⟩
    · next word =>
      obtain ⟨rfl, rfl⟩ := wordFrom_some read
      exact ⟨_, word, .falsity⟩
    · next quote =>
      obtain ⟨body, spelled, rfl, rfl, quotes⟩ := quotes_of_stringFrom read
      exact ⟨'"' :: (body ++ ['"']), by simp [quote], .string quotes⟩
    · next inside bracket =>
      obtain ⟨gap, isGap, isInside⟩ := exists_blank inside
      split at read
      · cases read
      · next closes =>
        cases read
        refine ⟨_, ?_, .arr isGap [] (by simp)⟩
        rw [bracket, isInside, closes]
        simp [joinWith]
      · rw [itemsFrom_skipSpace] at read
        obtain ⟨items, -, rfl, rfl, each⟩ := itemsFrom_spelled read
        exact ⟨_, by simp [bracket], .arr blank_nil items each⟩
    · next inside brace =>
      obtain ⟨gap, isGap, isInside⟩ := exists_blank inside
      split at read
      · cases read
      · next closes =>
        cases read
        refine ⟨_, ?_, .obj isGap [] (by simp)⟩
        rw [brace, isInside, closes]
        simp [joinWith]
      · obtain ⟨members, -, rfl, rfl, each⟩ := membersFrom_spelled read
        exact ⟨_, by simp [brace], .obj blank_nil members each⟩
    · next sign =>
      obtain ⟨⟨taken, rfl, isNumber⟩, -⟩ := numberFrom_leavesRest read
      exact ⟨'-' :: taken, sign, .negative isNumber⟩
    · next first =>
      split at read
      · obtain ⟨⟨taken, isTaken, isNumber⟩, -⟩ := numberFrom_leavesRest read
        exact ⟨taken, first.trans isTaken, .number isNumber⟩
      · cases read
termination_by structural fuel

/-- The items of an array that is read without a break. -/
theorem itemsFrom_spelled {fuel : Nat} {earlier : List Document} {cs rest : List Char} {doc : Document}
    (read : itemsFrom fuel earlier cs = (doc, some rest)) :
    ∃ items : List ItemText, items ≠ [] ∧ cs = joinWith [','] (items.map (·.text)) ++ ']' :: rest ∧
      doc = .arr (earlier.reverse ++ items.map (·.document)) .closed ∧
      ∀ item ∈ items, Spells item.text item.document := by
  match fuel with
  | 0 =>
    rw [itemsFrom] at read
    cases read
  | fuel + 1 =>
    obtain ⟨item, more, value, next⟩ := itemsFrom_cases read
    obtain ⟨text, rfl, spelled⟩ := valueFrom_spelled value
    obtain ⟨blank, isBlank, isMore⟩ := exists_blank more
    rcases next with ⟨closes, rfl⟩ | ⟨later, comma, read⟩
    · refine ⟨[⟨text ++ blank, item⟩], by simp, ?_, ?_, ?_⟩
      · rw [isMore, closes]
        simp [joinWith]
      · simp
      · simpa using spelled.before isBlank
    · obtain ⟨items, notNil, rfl, rfl, each⟩ := itemsFrom_spelled read
      refine ⟨⟨text ++ blank, item⟩ :: items, by simp, ?_, ?_, ?_⟩
      · rw [isMore, comma, List.map_cons, joinWith_cons _ _ (by simpa using notNil)]
        simp
      · simp
      · simpa using ⟨spelled.before isBlank, each⟩
termination_by structural fuel

theorem membersFrom_spelled {fuel : Nat} {earlier : List (Option String × Document)} {cs rest : List Char}
    {doc : Document} (read : membersFrom fuel earlier (skipSpace cs) = (doc, some rest)) :
    ∃ members : List MemberText, members ≠ [] ∧ cs = joinWith [','] (members.map (·.text)) ++ '\x7d' :: rest ∧
      doc = .obj (earlier.reverse ++ members.map (·.member)) .closed ∧
      ∀ member ∈ members, Spells member.value member.document := by
  match fuel with
  | 0 =>
    rw [membersFrom] at read
    cases read
  | fuel + 1 =>
    obtain ⟨before, blankBefore, isBefore⟩ := exists_blank cs
    obtain ⟨body, key, behind, value, inner, more, isKey, quotes, colon, isValue, next⟩ := membersFrom_cases read
    obtain ⟨after, blankAfter, isAfter⟩ := exists_blank behind
    obtain ⟨text, rfl, spelled⟩ := valueFrom_spelled isValue
    obtain ⟨blank, isBlank, isMore⟩ := exists_blank more
    let member : MemberText := ⟨⟨before, body, after, key, blankBefore, blankAfter, quotes⟩, text ++ blank, value⟩
    have isMember : cs = member.text ++ skipSpace more := by
      rw [isBefore, isKey, isAfter, colon]
      nth_rewrite 1 [isMore]
      simp [member, MemberText.text, KeyText.text]
    rcases next with ⟨closes, rfl⟩ | ⟨later, comma, read⟩
    · refine ⟨[member], by simp, ?_, ?_, ?_⟩
      · rw [isMember, closes]
        rfl
      · simp [MemberText.member, member]
      · simpa using spelled.before isBlank
    · obtain ⟨members, notNil, rfl, rfl, each⟩ := membersFrom_spelled read
      refine ⟨member :: members, by simp, ?_, ?_, ?_⟩
      · rw [isMember, comma, List.map_cons, joinWith_cons _ _ (by simpa using notNil)]
        simp
      · simp [MemberText.member, member]
      · simpa using ⟨spelled.before isBlank, each⟩
termination_by structural fuel

end

/-! ## Texts -/

/-- A document whose text breaks off on the outside. -/
def Broken : Document → Prop
  | .cut _ => True
  | .arr _ ending => ending ≠ .closed
  | .obj _ ending => ending ≠ .closed
  | _ => False

section Broken

variable {fuel : Nat} {cs : List Char} {doc : Document}

theorem itemsFrom_broken {earlier : List Document} (read : itemsFrom fuel earlier cs = (doc, none)) : doc.Broken := by
  induction fuel generalizing earlier cs with
  | zero =>
    rw [itemsFrom] at read
    cases read
    trivial
  | succ fuel ih =>
    -- Every way to break off leaves the array open.
    unfold itemsFrom at read
    repeat' split at read
    all_goals first
      | exact ih read
      | cases read <;> simp [Broken]

theorem membersFrom_broken {earlier : List (Option String × Document)}
    (read : membersFrom fuel earlier cs = (doc, none)) : doc.Broken := by
  induction fuel generalizing earlier cs with
  | zero =>
    rw [membersFrom] at read
    cases read
    trivial
  | succ fuel ih =>
    unfold membersFrom at read
    repeat' split at read
    all_goals first
      | exact ih read
      | cases read <;> simp [Broken]

theorem stringFrom_broken {text : List Char} {half : Option Fault} {pending : Option Nat}
    (read : stringFrom text half pending cs = (doc, none)) : doc.Broken := by
  fun_induction stringFrom text half pending cs <;> first | exact ‹_ → _› read | cases read <;> trivial

theorem numberFrom_broken {negative : Bool} (read : numberFrom negative cs = (doc, none)) : doc.Broken := by
  unfold numberFrom fractionFrom exponentFrom numberCut at read
  repeat' split at read
  all_goals cases read <;> trivial

theorem wordFrom_broken {value : Document} {word : List Char} (read : wordFrom value word cs = (doc, none)) :
    doc.Broken := by
  fun_induction wordFrom value word cs with
  | case1 => cases read
  | case2 | case4 =>
    cases read
    trivial
  | case3 _ _ _ ih => exact ih read

/-- **A value that is not read to its end is broken.** -/
theorem valueFrom_broken (read : valueFrom fuel cs = (doc, none)) : doc.Broken := by
  cases fuel with
  | zero =>
    rw [valueFrom] at read
    cases read
    trivial
  | succ fuel =>
    unfold valueFrom at read
    repeat' split at read
    all_goals first
      | exact wordFrom_broken read
      | exact stringFrom_broken read
      | exact numberFrom_broken read
      | exact itemsFrom_broken read
      | exact membersFrom_broken read
      | cases read <;> simp [Broken]

end Broken

/-- **A text that spells a document is read as it**, with nothing behind. -/
theorem Spells.read {text : String} {doc : Document} (spelled : Spells text.toList doc) :
    read text = ⟨doc, false⟩ := by
  obtain ⟨left, value, same⟩ := spelled.recovers (2 * text.toList.length + 2) [] (by omega) endsNumber_nil
  rw [List.append_nil] at value
  have noRest : skipSpace left = [] := same
  simp only [Document.read, value, noRest]
  rfl

/-- **A text with nothing behind its document spells it**, unless the document is broken. -/
theorem spells_of_read {text : String} (alone : (read text).trailing = false) (whole : ¬ (read text).document.Broken) :
    Spells text.toList (read text).document := by
  cases value : valueFrom (2 * text.toList.length + 2) text.toList with
  | mk doc more =>
    cases more with
    | none =>
      simp only [read, value] at whole
      exact absurd (valueFrom_broken value) whole
    | some rest =>
      simp only [read, value] at alone ⊢
      obtain ⟨spelling, isText, spelled⟩ := valueFrom_spelled value
      obtain ⟨blank, isBlank, isRest⟩ := exists_blank rest
      have noRest : skipSpace rest = [] := by simpa using alone
      rw [isText, isRest, noRest, List.append_nil]
      exact spelled.before isBlank

/-- The text of a value over several lines spells its document. -/
theorem spells_pretty {v : Json} (readable : v.Readable) : Spells v.pretty.toList (ofJson v) := by
  have reading := read_pretty readable
  have whole : ¬ (ofJson v).Broken := by
    cases v <;> simp [ofJson, Broken]
  have spelled := spells_of_read (congrArg Reading.trailing reading) (by rwa [reading])
  rwa [reading] at spelled

end Document

end WorkflowAtlas
