/-
A JSON value is read as it was written, compact or pretty. The two texts
differ in blanks only: both are `Value.charsIn` for a layout, and the text of
any layout is read as its value (`Value.read_charsIn`), provided that it has
no double and no key twice (`Value.Plain`), and that as many levels may be
read as it has.
-/
import VectorLint.Proofs.Except
import VectorLint.Proofs.Json.Tokens

namespace VectorLint

theorem Entries.set_of_not_mem {α : Type} {name : String} {entries : List (String × α)}
    (h : name ∉ entries.map Prod.fst) (value : α) :
    set name value entries = entries ++ [(name, value)] := by
  induction entries with
  | nil => rfl
  | cons entry entries ih =>
    rw [List.map_cons, List.mem_cons, not_or] at h
    rw [set, if_neg (Ne.symm h.1), ih h.2, List.cons_append]

namespace Json

/-! ## Texts up to blanks -/

/-- Where a text has blanks. -/
structure Layout where
  /-- Before an item, and before a closing bracket, of a level. -/
  gap : Nat → List Char
  behindColon : List Char
  blank_gap : ∀ level, ∀ c ∈ gap level, isSpace c = true
  blank_behindColon : ∀ c ∈ behindColon, isSpace c = true

def Layout.compact : Layout where
  gap _ := []
  behindColon := []
  blank_gap _ := List.forall_mem_nil _
  blank_behindColon := List.forall_mem_nil _

def Layout.pretty : Layout where
  gap := newline
  behindColon := [' ']
  blank_gap level c hc := by
    rcases List.mem_cons.mp hc with rfl | hc
    · rfl
    · rw [List.eq_of_mem_replicate hc]
      rfl
  blank_behindColon c hc := by
    rw [List.mem_singleton.mp hc]
    rfl

variable (l : Layout) (level : Nat)

mutual

/-- The text of a value that stands at the given level. -/
def Value.charsIn (level : Nat) : Value → List Char
  | .null => ['n', 'u', 'l', 'l']
  | .bool true => ['t', 'r', 'u', 'e']
  | .bool false => ['f', 'a', 'l', 's', 'e']
  | .number n => n.chars
  | .string s => quote s
  | .array [] => ['[', ']']
  | .array (v :: items) =>
    '[' :: (l.gap (level + 1) ++ (v.charsIn (level + 1) ++ itemsIn level items))
  | .object [] => ['\x7b', '\x7d']
  | .object ((key, v) :: members) =>
    '\x7b' :: (l.gap (level + 1) ++ (quote key ++
      ':' :: (l.behindColon ++ (v.charsIn (level + 1) ++ membersIn level members))))

def itemsIn (level : Nat) : List Value → List Char
  | [] => l.gap level ++ [']']
  | v :: items => ',' :: (l.gap (level + 1) ++ (v.charsIn (level + 1) ++ itemsIn level items))

def membersIn (level : Nat) : List (String × Value) → List Char
  | [] => l.gap level ++ ['\x7d']
  | (key, v) :: members =>
    ',' :: (l.gap (level + 1) ++ (quote key ++
      ':' :: (l.behindColon ++ (v.charsIn (level + 1) ++ membersIn level members))))

end

@[simp] theorem Layout.compact_gap (level : Nat) : compact.gap level = [] := rfl

@[simp] theorem Layout.compact_behindColon : compact.behindColon = [] := rfl

@[simp] theorem Layout.pretty_gap (level : Nat) : pretty.gap level = newline level := rfl

@[simp] theorem Layout.pretty_behindColon : pretty.behindColon = [' '] := rfl

mutual

theorem Value.charsIn_compact (level : Nat) :
    ∀ v : Value, v.charsIn .compact level = v.compactChars
  | .null | .bool true | .bool false | .number _ | .string _ | .array [] | .object [] => by
    simp only [Value.charsIn, Value.compactChars]
  | .array (v :: items) => by
    simp [Value.charsIn, Value.compactChars, v.charsIn_compact (level + 1),
      itemsIn_compact level items]
  | .object ((key, v) :: members) => by
    simp [Value.charsIn, Value.compactChars, v.charsIn_compact (level + 1),
      membersIn_compact level members]

theorem itemsIn_compact (level : Nat) : ∀ items, itemsIn .compact level items = compactItems items
  | [] => rfl
  | v :: items => by
    simp [itemsIn, compactItems, v.charsIn_compact (level + 1), itemsIn_compact level items]

theorem membersIn_compact (level : Nat) :
    ∀ members, membersIn .compact level members = compactMembers members
  | [] => rfl
  | (key, v) :: members => by
    simp [membersIn, compactMembers, v.charsIn_compact (level + 1),
      membersIn_compact level members]

end

mutual

theorem Value.charsIn_pretty (level : Nat) :
    ∀ v : Value, v.charsIn .pretty level = v.prettyChars level
  | .null | .bool true | .bool false | .number _ | .string _ | .array [] | .object [] => by
    simp only [Value.charsIn, Value.prettyChars]
  | .array (v :: items) => by
    simp [Value.charsIn, Value.prettyChars, v.charsIn_pretty (level + 1),
      itemsIn_pretty level items]
  | .object ((key, v) :: members) => by
    simp [Value.charsIn, Value.prettyChars, v.charsIn_pretty (level + 1),
      membersIn_pretty level members]

theorem itemsIn_pretty (level : Nat) : ∀ items, itemsIn .pretty level items = prettyItems level items
  | [] => rfl
  | v :: items => by
    simp [itemsIn, prettyItems, v.charsIn_pretty (level + 1), itemsIn_pretty level items]

theorem membersIn_pretty (level : Nat) :
    ∀ members, membersIn .pretty level members = prettyMembers level members
  | [] => rfl
  | (key, v) :: members => by
    simp [membersIn, prettyMembers, v.charsIn_pretty (level + 1), membersIn_pretty level members]

end

/-! ## Values that are read as they are written -/

/-- No double, and no key twice in an object. -/
inductive Value.Plain : Value → Prop
  | null : Plain .null
  | bool (b : Bool) : Plain (.bool b)
  | integer (i : Integer) : Plain (.number (.integer i))
  | string (s : String) : Plain (.string s)
  | array {items : List Value} (h : ∀ v ∈ items, v.Plain) : Plain (.array items)
  | object {members : List (String × Value)} (distinct : (members.map Prod.fst).Nodup)
      (h : ∀ m ∈ members, m.2.Plain) : Plain (.object members)

mutual

/-- How many arrays and objects lie inside each other in a value. -/
def Value.depth : Value → Nat
  | .null | .bool _ | .number _ | .string _ => 0
  | .array items => depthItems items + 1
  | .object members => depthMembers members + 1

def depthItems : List Value → Nat
  | [] => 0
  | v :: items => max v.depth (depthItems items)

def depthMembers : List (String × Value) → Nat
  | [] => 0
  | (_, v) :: members => max v.depth (depthMembers members)

end

variable {l : Layout} {level fuel levels : Nat} {s rest : List Char}

/-! ## Blanks -/

theorem skipSpace_append {blank : List Char} (h : ∀ c ∈ blank, isSpace c = true) (s : List Char) :
    skipSpace (blank ++ s) = skipSpace s :=
  List.dropWhile_append_of_pos h

theorem skipSpace_cons {c : Char} (h : isSpace c = false) (s : List Char) :
    skipSpace (c :: s) = c :: s :=
  List.dropWhile_cons_of_neg (by rw [h]; decide)

theorem endsNumber_append {blank : List Char} (h : ∀ c ∈ blank, isSpace c = true)
    (hs : EndsNumber s) : EndsNumber (blank ++ s) := by
  cases blank with
  | nil => exact hs
  | cons c blank =>
    intro c' hc'
    cases hc'
    have hspace := h c List.mem_cons_self
    simp only [isSpace, Bool.or_eq_true, decide_eq_true_eq] at hspace
    rcases hspace with ((rfl | rfl) | rfl) | rfl <;> decide

/-! ## The parts of arrays and objects -/

/-- A text that a value begins: no blank, and no closing bracket. -/
def BeginsItem (s : List Char) : Prop :=
  ∃ c more, s = c :: more ∧ isSpace c = false ∧ c ≠ ']'

theorem BeginsItem.append (h : BeginsItem s) (rest : List Char) : BeginsItem (s ++ rest) := by
  obtain ⟨c, more, rfl, hspace, hbracket⟩ := h
  exact ⟨c, more ++ rest, rfl, hspace, hbracket⟩

theorem exists_toList_repr (n : Nat) :
    ∃ c digits, n.repr.toList = c :: digits ∧ c.isDigit = true := by
  rw [Nat.toList_repr]
  obtain ⟨c, digits, h⟩ := List.exists_cons_of_ne_nil (Nat.toDigits_ne_nil (n := n) (b := 10))
  exact ⟨c, digits, h,
    Nat.isDigit_of_mem_toDigits (n := n) (by decide) (by decide) (h ▸ List.mem_cons_self)⟩

/-- A digit is none of the other characters that begin a value. -/
theorem ne_of_isDigit {c d : Char} (h : c.isDigit = true) (hd : d.isDigit = false) : c ≠ d := by
  rintro rfl
  exact Bool.noConfusion (h.symm.trans hd)

theorem isSpace_of_isDigit {c : Char} (h : c.isDigit = true) : isSpace c = false := by
  simp only [isSpace, Bool.or_eq_false_iff, decide_eq_false_iff_not]
  exact ⟨⟨⟨ne_of_isDigit h rfl, ne_of_isDigit h rfl⟩, ne_of_isDigit h rfl⟩, ne_of_isDigit h rfl⟩

theorem Integer.beginsItem (i : Integer) : BeginsItem i.chars := by
  unfold chars
  split
  · obtain ⟨c, digits, h, hc⟩ := exists_toList_repr i.val.toNat
    exact ⟨c, digits, h, isSpace_of_isDigit hc, ne_of_isDigit hc rfl⟩
  · exact ⟨'-', _, rfl, by decide, by decide⟩

theorem Value.Plain.beginsItem {v : Value} (h : v.Plain) : BeginsItem (v.charsIn l level) := by
  cases h with
  | null => exact ⟨_, _, by rw [charsIn], by decide, by decide⟩
  | bool b => cases b <;> exact ⟨_, _, by rw [charsIn], by decide, by decide⟩
  | integer i =>
    rw [charsIn]
    exact i.beginsItem
  | string s => exact ⟨_, _, by rw [charsIn]; rfl, by decide, by decide⟩
  | @array items h => cases items <;> exact ⟨_, _, by rw [charsIn], by decide, by decide⟩
  | @object members distinct h =>
    cases members <;> exact ⟨_, _, by rw [charsIn], by decide, by decide⟩

theorem firstItem_append {blank : List Char} (h : ∀ c ∈ blank, isSpace c = true)
    (hs : BeginsItem s) : firstItem (blank ++ s) = .ok (.item s) := by
  obtain ⟨c, more, rfl, hspace, hbracket⟩ := hs
  rw [firstItem, skipSpace_append h, skipSpace_cons hspace]
  split <;> simp_all

theorem nextItem_comma {blank : List Char} (h : ∀ c ∈ blank, isSpace c = true)
    (hs : BeginsItem s) : nextItem (',' :: (blank ++ s)) = .ok (.item s) := by
  obtain ⟨c, more, rfl, hspace, hbracket⟩ := hs
  have hcomma := skipSpace_cons (c := ',') (by decide) (blank ++ c :: more)
  simp only [nextItem, hcomma, skipSpace_append h, skipSpace_cons hspace]
  split <;> simp_all

theorem nextItem_close {blank : List Char} (h : ∀ c ∈ blank, isSpace c = true) (s : List Char) :
    nextItem (blank ++ ']' :: s) = .ok (.close s) := by
  rw [nextItem, skipSpace_append h]
  rfl

theorem firstMember_append {blank : List Char} (h : ∀ c ∈ blank, isSpace c = true) (s : List Char) :
    firstMember (blank ++ '"' :: s) = .ok (.item s) := by
  rw [firstMember, skipSpace_append h]
  rfl

theorem nextMember_comma {blank : List Char} (h : ∀ c ∈ blank, isSpace c = true) (s : List Char) :
    nextMember (',' :: (blank ++ '"' :: s)) = .ok (.item s) := by
  have hcomma := skipSpace_cons (c := ',') (by decide) (blank ++ '"' :: s)
  simp only [nextMember, hcomma, skipSpace_append h]
  rfl

theorem nextMember_close {blank : List Char} (h : ∀ c ∈ blank, isSpace c = true) (s : List Char) :
    nextMember (blank ++ '\x7d' :: s) = .ok (.close s) := by
  rw [nextMember, skipSpace_append h]
  rfl

/-! ## Reading what is written -/

theorem readValue_append {blank : List Char} (h : ∀ c ∈ blank, isSpace c = true) (s : List Char) :
    readValue fuel levels (blank ++ s) = readValue fuel levels s := by
  cases fuel with
  | zero => rw [readValue, readValue]
  | succ fuel => rw [readValue, readValue, skipSpace_append h]

theorem readValue_digit {c : Char} (h : c.isDigit = true) (s : List Char) :
    readValue (fuel + 1) levels (c :: s) = (do
      let (n, s) ← readNumber false (c :: s)
      return (.number n, s)) := by
  rw [readValue, skipSpace_cons (isSpace_of_isDigit h)]
  split <;> simp_all

theorem readValue_integer (i : Integer) (hrest : EndsNumber rest) :
    readValue (fuel + 1) levels (i.chars ++ rest) = .ok (.number (.integer i), rest) := by
  unfold Integer.chars
  split
  · rename_i hsign
    obtain ⟨c, digits, hdigits, hc⟩ := exists_toList_repr i.val.toNat
    have hread := readNumber_repr false i.val.toNat (i := i)
      (by simpa using (Int.toNat_of_nonneg hsign).symm) (by simp) hrest
    rw [hdigits, List.cons_append] at hread ⊢
    rw [readValue_digit hc, hread]
    rfl
  · rename_i hsign
    have hread := readNumber_repr true (-i.val).toNat (i := i)
      (by simp; omega) (by omega) hrest
    rw [List.cons_append, readValue, skipSpace_cons (by decide)]
    show (readNumber true _ >>= _) = _
    rw [hread]
    rfl

/-- A value is read from its text in front of any other that ends it. -/
def Value.Reads (v : Value) : Prop :=
  ∀ (l : Layout) (fuel levels level : Nat) (rest : List Char),
    2 * (v.charsIn l level).length ≤ fuel → v.depth ≤ levels → EndsNumber rest →
    readValue fuel levels (v.charsIn l level ++ rest) = .ok (v, rest)

theorem reads_atom {v : Value} (text : List Char) (hchars : ∀ l level, v.charsIn l level = text)
    (hread : ∀ fuel levels rest, EndsNumber rest →
      readValue (fuel + 1) levels (text ++ rest) = .ok (v, rest)) (hne : text ≠ []) : v.Reads := by
  intro l fuel levels level rest hfuel hdepth hrest
  have hpos := List.length_pos_of_ne_nil hne
  rw [hchars] at hfuel ⊢
  obtain ⟨fuel, rfl⟩ := Nat.exists_eq_add_one_of_ne_zero (show fuel ≠ 0 by omega)
  exact hread fuel levels rest hrest

theorem endsNumber_itemsIn (items : List Value) (rest : List Char) :
    EndsNumber (itemsIn l level items ++ rest) := by
  cases items with
  | nil =>
    rw [itemsIn, List.append_assoc]
    exact endsNumber_append (l.blank_gap level) (by rintro c ⟨⟩; decide)
  | cons v items =>
    rw [itemsIn]
    rintro c ⟨⟩
    decide

theorem endsNumber_membersIn (members : List (String × Value)) (rest : List Char) :
    EndsNumber (membersIn l level members ++ rest) := by
  cases members with
  | nil =>
    rw [membersIn, List.append_assoc]
    exact endsNumber_append (l.blank_gap level) (by rintro c ⟨⟩; decide)
  | cons member members =>
    rw [membersIn]
    rintro c ⟨⟩
    decide

theorem readItems_item {v : Value} {items : List Value} {turn : Turn} {tail : List Char}
    (hv : readValue fuel levels s = .ok (v, tail)) (hturn : nextItem tail = .ok turn)
    (hitems : readItems fuel levels turn = .ok (items, rest)) :
    readItems (fuel + 1) levels (.item s) = .ok (v :: items, rest) := by
  rw [readItems, hv]
  show (nextItem tail >>= fun turn => readItems fuel levels turn >>= _) = _
  rw [hturn]
  show (readItems fuel levels turn >>= _) = _
  rw [hitems]
  rfl

/-- The items behind one are read to the closing bracket. -/
theorem exists_readItems {items : List Value} (rest : List Char)
    (hplain : ∀ v ∈ items, v.Plain) (hreads : ∀ v ∈ items, v.Reads)
    (hfuel : 2 * (itemsIn l level items).length ≤ fuel) (hdepth : depthItems items ≤ levels) :
    ∃ turn, nextItem (itemsIn l level items ++ rest) = .ok turn ∧
      readItems fuel levels turn = .ok (items, rest) := by
  induction items generalizing fuel with
  | nil =>
    rw [itemsIn, List.length_append, List.length_singleton] at hfuel
    obtain ⟨fuel, rfl⟩ := Nat.exists_eq_add_one_of_ne_zero (show fuel ≠ 0 by omega)
    rw [itemsIn, List.append_assoc]
    exact ⟨.close rest, nextItem_close (l.blank_gap level) rest, by rw [readItems]⟩
  | cons v items ih =>
    obtain ⟨hv, hplain⟩ := List.forall_mem_cons.mp hplain
    obtain ⟨hread, hreads⟩ := List.forall_mem_cons.mp hreads
    rw [itemsIn, List.length_cons, List.length_append, List.length_append] at hfuel
    rw [depthItems, Nat.max_le] at hdepth
    obtain ⟨fuel, rfl⟩ := Nat.exists_eq_add_one_of_ne_zero (show fuel ≠ 0 by omega)
    have hlater : 2 * (itemsIn l level items).length ≤ fuel := by omega
    obtain ⟨turn, hturn, hitems⟩ := ih hplain hreads hlater hdepth.2
    have hfirst := hread l fuel levels (level + 1) (itemsIn l level items ++ rest) (by omega)
      hdepth.1 (endsNumber_itemsIn items rest)
    refine ⟨.item (v.charsIn l (level + 1) ++ (itemsIn l level items ++ rest)), ?_, ?_⟩
    · rw [itemsIn, List.cons_append, List.append_assoc, List.append_assoc]
      exact nextItem_comma (l.blank_gap _) (hv.beginsItem.append _)
    · exact readItems_item hfirst hturn hitems

variable (l level) in
/-- The text of a member behind its opening quote. -/
def memberIn (key : String) (v : Value) : List Char :=
  key.toList.flatMap escape ++ '"' :: ':' :: (l.behindColon ++ v.charsIn l level)

theorem quote_append_member (key : String) (v : Value) (tail : List Char) :
    quote key ++ ':' :: (l.behindColon ++ (v.charsIn l level ++ tail)) =
      '"' :: (memberIn l level key v ++ tail) := by
  simp [quote, memberIn]

variable (l level) in
theorem two_le_length_memberIn (key : String) (v : Value) :
    (v.charsIn l level).length + 2 ≤ (memberIn l level key v).length := by
  simp only [memberIn, List.length_append, List.length_cons]
  omega

/-- A member is read behind its opening quote, and then what follows it. -/
theorem readMembers_item {key : String} {v : Value} {before : List (String × Value)}
    (hread : v.Reads) (hfuel : 2 * (memberIn l level key v).length ≤ fuel) (hdepth : v.depth ≤ levels)
    (hrest : EndsNumber rest) :
    readMembers (fuel + 1) levels before (.item (memberIn l level key v ++ rest)) =
      (nextMember rest >>= readMembers fuel levels (Entries.set key v before)) := by
  have hlength := two_le_length_memberIn l level key v
  rw [memberIn, List.append_assoc, List.cons_append, List.cons_append, List.append_assoc, readMembers,
    readString_escape]
  show (readValue fuel levels (l.behindColon ++ _) >>= _) = _
  rw [readValue_append l.blank_behindColon, hread l fuel levels level rest (by omega) hdepth hrest]
  rfl

theorem membersIn_cons (key : String) (v : Value) (members : List (String × Value)) :
    membersIn l level ((key, v) :: members) =
      ',' :: (l.gap (level + 1) ++
        '"' :: (memberIn l (level + 1) key v ++ membersIn l level members)) := by
  rw [membersIn, quote_append_member]

/-- The members behind one are read to the closing brace, and added to those
before. -/
theorem exists_readMembers {members before : List (String × Value)} (rest : List Char)
    (hreads : ∀ m ∈ members, m.2.Reads) (hfuel : 2 * (membersIn l level members).length ≤ fuel)
    (hdepth : depthMembers members ≤ levels)
    (hdistinct : ((before ++ members).map Prod.fst).Nodup) :
    ∃ turn, nextMember (membersIn l level members ++ rest) = .ok turn ∧
      readMembers fuel levels before turn = .ok (before ++ members, rest) := by
  induction members generalizing fuel before with
  | nil =>
    rw [membersIn, List.length_append, List.length_singleton] at hfuel
    obtain ⟨fuel, rfl⟩ := Nat.exists_eq_add_one_of_ne_zero (show fuel ≠ 0 by omega)
    rw [membersIn, List.append_assoc, List.append_nil]
    exact ⟨.close rest, nextMember_close (l.blank_gap level) rest, by rw [readMembers]⟩
  | cons member members ih =>
    obtain ⟨key, v⟩ := member
    obtain ⟨(hread : v.Reads), hreads⟩ := List.forall_mem_cons.mp hreads
    rw [membersIn_cons, List.length_cons, List.length_append, List.length_cons,
      List.length_append] at hfuel
    rw [depthMembers, Nat.max_le] at hdepth
    obtain ⟨fuel, rfl⟩ := Nat.exists_eq_add_one_of_ne_zero (show fuel ≠ 0 by omega)
    have hfresh : key ∉ before.map Prod.fst := by
      intro hmem
      rw [List.map_append, List.nodup_append] at hdistinct
      exact hdistinct.2.2 key hmem key List.mem_cons_self rfl
    rw [List.append_cons] at hdistinct
    have hlater : 2 * (membersIn l level members).length ≤ fuel := by omega
    obtain ⟨turn, hturn, hmembers⟩ := ih hreads hlater hdepth.2 hdistinct
    refine ⟨.item (memberIn l (level + 1) key v ++ (membersIn l level members ++ rest)), ?_, ?_⟩
    · rw [membersIn_cons, List.cons_append, List.append_assoc, List.cons_append, List.append_assoc]
      exact nextMember_comma (l.blank_gap _) _
    · rw [readMembers_item hread (by omega) hdepth.1 (endsNumber_membersIn members rest), hturn,
        Entries.set_of_not_mem hfresh, List.append_cons before _ members]
      exact hmembers

theorem readValue_bracket {items : List Value} {turn : Turn} (hturn : firstItem s = .ok turn)
    (hitems : readItems fuel levels turn = .ok (items, rest)) :
    readValue (fuel + 1) (levels + 1) ('[' :: s) = .ok (.array items, rest) := by
  rw [readValue, skipSpace_cons (by decide)]
  show (firstItem s >>= fun turn => readItems fuel levels turn >>= _) = _
  rw [hturn]
  show (readItems fuel levels turn >>= _) = _
  rw [hitems]
  rfl

theorem readValue_brace {members : List (String × Value)} {turn : Turn}
    (hturn : firstMember s = .ok turn)
    (hmembers : readMembers fuel levels [] turn = .ok (members, rest)) :
    readValue (fuel + 1) (levels + 1) ('\x7b' :: s) = .ok (.object members, rest) := by
  rw [readValue, skipSpace_cons (by decide)]
  show (firstMember s >>= fun turn => readMembers fuel levels [] turn >>= _) = _
  rw [hturn]
  show (readMembers fuel levels [] turn >>= _) = _
  rw [hmembers]
  rfl

theorem reads_array {items : List Value} (hplain : ∀ v ∈ items, v.Plain)
    (hreads : ∀ v ∈ items, v.Reads) : (Value.array items).Reads := by
  intro l fuel levels level rest hfuel hdepth hrest
  rw [Value.depth] at hdepth
  obtain ⟨levels, rfl⟩ := Nat.exists_eq_add_one_of_ne_zero (show levels ≠ 0 by omega)
  cases items with
  | nil =>
    rw [Value.charsIn, List.length_cons, List.length_singleton] at hfuel
    obtain ⟨fuel, rfl⟩ := Nat.exists_eq_add_of_le' (show 2 ≤ fuel by omega)
    have hclose : firstItem (']' :: rest) = .ok (.close rest) := rfl
    rw [Value.charsIn]
    exact readValue_bracket hclose (by rw [readItems])
  | cons v items =>
    obtain ⟨hv, hplain⟩ := List.forall_mem_cons.mp hplain
    obtain ⟨hread, hreads⟩ := List.forall_mem_cons.mp hreads
    rw [Value.charsIn, List.length_cons, List.length_append, List.length_append] at hfuel
    rw [depthItems] at hdepth
    obtain ⟨fuel, rfl⟩ := Nat.exists_eq_add_of_le' (show 2 ≤ fuel by omega)
    have hlater : 2 * (itemsIn l level items).length ≤ fuel := by omega
    have hdeep : depthItems items ≤ levels := by omega
    obtain ⟨turn, hturn, hitems⟩ := exists_readItems rest hplain hreads hlater hdeep
    have hfirst := hread l fuel levels (level + 1) (itemsIn l level items ++ rest) (by omega)
      (by omega) (endsNumber_itemsIn items rest)
    rw [Value.charsIn, List.cons_append, List.append_assoc, List.append_assoc]
    exact readValue_bracket (firstItem_append (l.blank_gap _) (hv.beginsItem.append _))
      (readItems_item hfirst hturn hitems)

theorem reads_object {members : List (String × Value)} (hdistinct : (members.map Prod.fst).Nodup)
    (hreads : ∀ m ∈ members, m.2.Reads) : (Value.object members).Reads := by
  intro l fuel levels level rest hfuel hdepth hrest
  rw [Value.depth] at hdepth
  obtain ⟨levels, rfl⟩ := Nat.exists_eq_add_one_of_ne_zero (show levels ≠ 0 by omega)
  cases members with
  | nil =>
    rw [Value.charsIn, List.length_cons, List.length_singleton] at hfuel
    obtain ⟨fuel, rfl⟩ := Nat.exists_eq_add_of_le' (show 2 ≤ fuel by omega)
    have hclose : firstMember ('\x7d' :: rest) = .ok (.close rest) := rfl
    rw [Value.charsIn]
    exact readValue_brace hclose (by rw [readMembers])
  | cons member members =>
    obtain ⟨key, v⟩ := member
    obtain ⟨(hread : v.Reads), hreads⟩ := List.forall_mem_cons.mp hreads
    have hchars : (Value.object ((key, v) :: members)).charsIn l level =
        '\x7b' :: (l.gap (level + 1) ++
          '"' :: (memberIn l (level + 1) key v ++ membersIn l level members)) := by
      rw [Value.charsIn, quote_append_member]
    rw [hchars, List.length_cons, List.length_append, List.length_cons, List.length_append] at hfuel
    rw [depthMembers] at hdepth
    obtain ⟨fuel, rfl⟩ := Nat.exists_eq_add_of_le' (show 2 ≤ fuel by omega)
    have hlater : 2 * (membersIn l level members).length ≤ fuel := by omega
    have hdeep : depthMembers members ≤ levels := by omega
    have hkeys : (([(key, v)] ++ members).map Prod.fst).Nodup := hdistinct
    obtain ⟨turn, hturn, hmembers⟩ := exists_readMembers rest hreads hlater hdeep hkeys
    rw [hchars, List.cons_append, List.append_assoc, List.cons_append, List.append_assoc]
    refine readValue_brace (firstMember_append (l.blank_gap _) _) ?_
    rw [readMembers_item hread (by omega) (by omega) (endsNumber_membersIn members rest), hturn]
    exact hmembers

theorem Value.Plain.reads {v : Value} (h : v.Plain) : v.Reads := by
  induction h with
  | null =>
    refine reads_atom ['n', 'u', 'l', 'l'] (fun _ _ => by rw [charsIn]) ?_ (by decide)
    intro fuel levels rest hrest
    rw [readValue]
    rfl
  | bool b =>
    cases b with
    | true =>
      refine reads_atom ['t', 'r', 'u', 'e'] (fun _ _ => by rw [charsIn]) ?_ (by decide)
      intro fuel levels rest hrest
      rw [readValue]
      rfl
    | false =>
      refine reads_atom ['f', 'a', 'l', 's', 'e'] (fun _ _ => by rw [charsIn]) ?_
        (by decide)
      intro fuel levels rest hrest
      rw [readValue]
      rfl
  | integer i =>
    obtain ⟨c, more, hchars, -⟩ := i.beginsItem
    refine reads_atom i.chars (fun _ _ => by rw [charsIn, Number.chars]) ?_
      (by rw [hchars]; exact List.cons_ne_nil c more)
    intro fuel levels rest hrest
    exact readValue_integer i hrest
  | string s =>
    refine reads_atom (quote s) (fun _ _ => by rw [charsIn]) ?_ (List.cons_ne_nil _ _)
    intro fuel levels rest hrest
    have hread := readString_escape s rest
    rw [quote, List.cons_append, List.cons_append, List.append_assoc, readValue,
      skipSpace_cons (by decide)]
    show (readString (s.toList.flatMap escape ++ '"' :: rest) >>= _) = _
    rw [hread]
    rfl
  | array h ih => exact reads_array h ih
  | object hdistinct h ih => exact reads_object hdistinct ih

/-- **A value is read as it was written**, whatever blanks are between its
parts. -/
theorem Value.read_charsIn {v : Value} (h : v.Plain) (l : Layout) {levels : Nat}
    (hdepth : v.depth ≤ levels) : Value.read (v.charsIn l 0) levels = .ok v := by
  have hread := h.reads l (readFuel (v.charsIn l 0)) levels 0 [] (Nat.le_add_right _ _) hdepth nofun
  rw [List.append_nil] at hread
  rw [read, hread]
  rfl

theorem Value.read_compactChars {v : Value} (h : v.Plain) {levels : Nat} (hdepth : v.depth ≤ levels) :
    Value.read v.compactChars levels = .ok v :=
  v.charsIn_compact 0 ▸ read_charsIn h .compact hdepth

theorem Value.read_prettyChars {v : Value} (h : v.Plain) {levels : Nat} (hdepth : v.depth ≤ levels) :
    Value.read (v.prettyChars 0) levels = .ok v :=
  v.charsIn_pretty 0 ▸ read_charsIn h .pretty hdepth

end Json

end VectorLint
