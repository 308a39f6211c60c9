/-
The grammar of chains. Compounds stand behind each other with blanks or a `>`
between them; a compound is a tag name or `*`, either of which may be left
out, and simple tests directly behind it.

`readChain_eq_ok_iff`: a text is read as a chain exactly if the grammar
derives the chain from it.
-/
import VectorLint.Proofs.Text.Split
import VectorLint.Proofs.Text.Trim
import VectorLint.Selector.Reader

namespace VectorLint.Selector

open Text (Blank isBlank span_eq_iff)

/-! ## The grammar -/

structure IsName (name : List Char) : Prop where
  nonempty : name ≠ []
  chars : ∀ c ∈ name, isNameChar c = true

def IsQuote (c : Char) : Prop :=
  c = '"' ∨ c = '\''

/-- One of the tests behind a tag name. -/
inductive Simple
  | id (name : String)
  | inClass (name : String)
  | tested (test : AttributeTest)
deriving DecidableEq, Repr

def Simple.id? : Simple → Option String
  | id name => some name
  | _ => none

def Simple.class? : Simple → Option String
  | inClass name => some name
  | _ => none

def Simple.test? : Simple → Option AttributeTest
  | tested test => some test
  | _ => none

/-- A tag name, or none for any, and the tests behind it. Of several ids the
last counts. -/
def compound (tag : Option String) (simples : List Simple) : Compound where
  tag
  id := (simples.filterMap Simple.id?).getLast?
  classes := simples.filterMap Simple.class?
  attributes := simples.filterMap Simple.test?

/-- A value in quotes, or without them. -/
inductive ValueText : List Char → List Char → Prop
  | quoted {q : Char} {t : List Char} (hq : IsQuote q) (ht : q ∉ t) : ValueText (q :: (t ++ [q])) t
  | bare {r : List Char} (hr : ']' ∉ r) (hq : ∀ c ∈ r.head?, ¬ IsQuote c) :
      ValueText r (Text.trim r)

/-- An attribute test behind its opening bracket. -/
inductive TestText : List Char → AttributeTest → Prop
  | present {name : List Char} (h : IsName name) :
      TestText (name ++ [']']) (.present (String.ofList name))
  | equals {name v value : List Char} (h : IsName name) (hv : ValueText v value) :
      TestText (name ++ '=' :: (v ++ [']'])) (.equals (String.ofList name) (String.ofList value))

inductive SimpleText : List Char → Simple → Prop
  | id {name : List Char} (h : IsName name) : SimpleText ('#' :: name) (.id (String.ofList name))
  | inClass {name : List Char} (h : IsName name) :
      SimpleText ('.' :: name) (.inClass (String.ofList name))
  | tested {t : List Char} {test : AttributeTest} (h : TestText t test) :
      SimpleText ('[' :: t) (.tested test)

inductive SimplesText : List Char → List Simple → Prop
  | nil : SimplesText [] []
  | cons {a s : List Char} {x : Simple} {xs : List Simple} (h : SimpleText a x)
      (hs : SimplesText s xs) : SimplesText (a ++ s) (x :: xs)

inductive TagText : List Char → Option String → Prop
  | absent : TagText [] none
  | any : TagText ['*'] none
  | name {name : List Char} (h : IsName name) : TagText name (some (String.ofList name))

/-- A compound is not empty. -/
inductive CompoundText : List Char → Compound → Prop
  | mk {a s : List Char} {tag : Option String} {simples : List Simple} (htag : TagText a tag)
      (hs : SimplesText s simples) (hne : a ++ s ≠ []) : CompoundText (a ++ s) (compound tag simples)

inductive SeparatorText : List Char → Combinator → Prop
  | descendant {w : List Char} (hw : Blank w) (hne : w ≠ []) : SeparatorText w .descendant
  | child {v w : List Char} (hv : Blank v) (hw : Blank w) : SeparatorText (v ++ '>' :: w) .child

/-- Compounds with separators between them. -/
inductive LinksText : List Char → Chain → Prop
  | single {t : List Char} {c : Compound} (h : CompoundText t c) : LinksText t (.single c)
  | join {s w t : List Char} {outer : Chain} {k : Combinator} {c : Compound}
      (h : LinksText s outer) (hw : SeparatorText w k) (hc : CompoundText t c) :
      LinksText (s ++ (w ++ t)) (.join outer k c)

/-- A chain may have blanks around it. -/
inductive ChainText : List Char → Chain → Prop
  | mk {v s w : List Char} {chain : Chain} (hv : Blank v) (h : LinksText s chain) (hw : Blank w) :
      ChainText (v ++ (s ++ w)) chain

/-! ## Where a reader stops -/

/-- A name does not go on here. -/
def EndsName (s : List Char) : Prop :=
  ∀ c ∈ s.head?, isNameChar c = false

/-- A compound does not go on here. -/
def EndsCompound (s : List Char) : Prop :=
  ∀ c ∈ s.head?, isBlank c = true ∨ c = '>'

theorem mem_of_isBlank {c : Char} (h : isBlank c = true) :
    c.toNat ∈ [0x9, 0xA, 0xB, 0xC, 0xD, 0x20, 0x85, 0xA0, 0x1680, 0x2000, 0x2001, 0x2002, 0x2003,
      0x2004, 0x2005, 0x2006, 0x2007, 0x2008, 0x2009, 0x200A, 0x2028, 0x2029, 0x202F, 0x205F,
      0x3000] := by
  simp only [isBlank, Bool.or_eq_true, Bool.and_eq_true, decide_eq_true_eq, beq_iff_eq] at h
  simp only [List.mem_cons, List.not_mem_nil, or_false]
  omega

theorem isNameChar_of_isBlank {c : Char} (h : isBlank c = true) : isNameChar c = false := by
  have hall : ∀ n ∈ [0x9, 0xA, 0xB, 0xC, 0xD, 0x20, 0x85, 0xA0, 0x1680, 0x2000, 0x2001, 0x2002,
      0x2003, 0x2004, 0x2005, 0x2006, 0x2007, 0x2008, 0x2009, 0x200A, 0x2028, 0x2029, 0x202F, 0x205F,
      0x3000], isNameChar (Char.ofNat n) = false := by decide +kernel
  have := hall _ (mem_of_isBlank h)
  rwa [Char.ofNat_toNat] at this

theorem EndsCompound.endsName {s : List Char} (h : EndsCompound s) : EndsName s := by
  intro c hc
  rcases h c hc with hc | rfl
  · exact isNameChar_of_isBlank hc
  · decide

theorem readName_eq_iff {s name rest : List Char} :
    readName s = (name, rest) ↔
      s = name ++ rest ∧ (∀ c ∈ name, isNameChar c = true) ∧ EndsName rest := by
  rw [readName, Prod.mk.injEq]
  exact span_eq_iff

theorem readName_append {name rest : List Char} (h : ∀ c ∈ name, isNameChar c = true)
    (hrest : EndsName rest) : readName (name ++ rest) = (name, rest) :=
  readName_eq_iff.mpr ⟨rfl, h, hrest⟩

/-- A text up to the first `q`. -/
theorem cut_eq_iff {q : Char} {s t rest : List Char} :
    s.takeWhile (· ≠ q) = t ∧ s.dropWhile (· ≠ q) = q :: rest ↔ s = t ++ q :: rest ∧ q ∉ t := by
  rw [span_eq_iff]
  constructor
  · rintro ⟨rfl, ht, -⟩
    exact ⟨rfl, fun hq => by simpa using ht q hq⟩
  · rintro ⟨rfl, ht⟩
    exact ⟨rfl, fun c hc => by simpa using ne_of_mem_of_not_mem hc ht, by simp⟩

theorem dropWhile_ne_eq_cons {q c : Char} {s rest : List Char}
    (h : s.dropWhile (· ≠ q) = c :: rest) : c = q := by
  have hhead := List.head?_dropWhile_not (· ≠ q) s
  rw [h] at hhead
  simpa using hhead

/-! ## Values and tests -/

theorem readValue_bare {s : List Char} (h : ∀ c ∈ s.head?, ¬ IsQuote c) :
    readValue s =
      match s.dropWhile (· ≠ ']') with
      | _ :: rest => .ok (Text.trim (s.takeWhile (· ≠ ']')), rest)
      | [] => .error .expectedBracket := by
  unfold readValue
  split
  · exact absurd (.inl rfl) (h _ rfl)
  · exact absurd (.inr rfl) (h _ rfl)
  · rfl

theorem readValue_quoted {q : Char} (hq : IsQuote q) (s : List Char) :
    readValue (q :: s) =
      match s.dropWhile (· ≠ q) with
      | _ :: ']' :: rest => .ok (s.takeWhile (· ≠ q), rest)
      | _ => .error .expectedBracket := by
  rcases hq with rfl | rfl <;> rfl

theorem readValue_eq_ok_iff {s value rest : List Char} :
    readValue s = .ok (value, rest) ↔ ∃ v, ValueText v value ∧ s = v ++ ']' :: rest := by
  constructor
  · intro h
    by_cases hbare : ∀ c ∈ s.head?, ¬ IsQuote c
    · rw [readValue_bare hbare] at h
      split at h
      · rename_i c rest' hcut
        obtain rfl := dropWhile_ne_eq_cons hcut
        cases h
        obtain ⟨hs, hr⟩ := cut_eq_iff.mp ⟨rfl, hcut⟩
        refine ⟨_, .bare hr fun c hc => hbare c ?_, hs⟩
        rw [hs, List.head?_append, Option.mem_def.mp hc]
        rfl
      · cases h
    · obtain ⟨q, s, rfl, hq⟩ : ∃ q s', s = q :: s' ∧ IsQuote q := by
        cases s with
        | nil => simp at hbare
        | cons q s => exact ⟨q, s, rfl, by simpa using hbare⟩
      rw [readValue_quoted hq] at h
      split at h
      · rename_i c rest' hcut
        obtain rfl := dropWhile_ne_eq_cons hcut
        cases h
        obtain ⟨hs, ht⟩ := cut_eq_iff.mp ⟨rfl, hcut⟩
        refine ⟨_, .quoted hq ht, ?_⟩
        rw [List.cons_append, List.append_assoc]
        exact congrArg _ hs
      · cases h
  · rintro ⟨v, hv, rfl⟩
    cases hv with
    | @quoted q _ hq ht =>
      have hcut : (value ++ q :: ']' :: rest).takeWhile (· ≠ q) = value ∧ _ :=
        cut_eq_iff.mpr ⟨rfl, ht⟩
      rw [List.cons_append, List.append_assoc, List.singleton_append, readValue_quoted hq, hcut.1,
        hcut.2]
      rfl
    | bare hr hq =>
      have hcut : (v ++ ']' :: rest).takeWhile (· ≠ ']') = v ∧ _ := cut_eq_iff.mpr ⟨rfl, hr⟩
      have hbare : ∀ c ∈ (v ++ ']' :: rest).head?, ¬ IsQuote c := by
        cases v with
        | nil => simp [IsQuote]
        | cons c v => exact hq
      rw [readValue_bare hbare, hcut.1, hcut.2]

theorem endsName_cons {c : Char} (h : isNameChar c = false) (s : List Char) : EndsName (c :: s) := by
  intro d hd
  rw [List.head?_cons, Option.mem_some_iff] at hd
  rwa [← hd]

theorem readTest_eq_ok_iff {s rest : List Char} {test : AttributeTest} :
    readTest s = .ok (test, rest) ↔ ∃ t, TestText t test ∧ s = t ++ rest := by
  constructor
  · intro h
    obtain ⟨name, tail, hn⟩ : ∃ name tail, readName s = (name, tail) := ⟨_, _, rfl⟩
    obtain ⟨rfl, hname, -⟩ := readName_eq_iff.mp hn
    unfold readTest at h
    rw [hn] at h
    split at h
    · cases h
    · rename_i hne heq
      cases heq
      cases h
      exact ⟨_, .present ⟨hne, hname⟩, by simp⟩
    · rename_i hne heq
      cases heq
      split at h
      · cases h
      · rename_i hvalue
        cases h
        obtain ⟨v, hv, rfl⟩ := readValue_eq_ok_iff.mp hvalue
        exact ⟨_, .equals ⟨hne, hname⟩ hv, by simp⟩
    · cases h
  · rintro ⟨t, ht, rfl⟩
    unfold readTest
    cases ht with
    | @present name h =>
      obtain ⟨c, name, rfl⟩ := List.exists_cons_of_ne_nil h.nonempty
      rw [List.append_assoc, List.singleton_append,
        readName_append h.chars (endsName_cons (by decide) _)]
      rfl
    | @equals name v value h hv =>
      obtain ⟨c, name, rfl⟩ := List.exists_cons_of_ne_nil h.nonempty
      have hvalue : readValue (v ++ ']' :: rest) = .ok (value, rest) :=
        readValue_eq_ok_iff.mpr ⟨v, hv, rfl⟩
      rw [List.append_assoc, List.cons_append (a := '='), List.append_assoc, List.singleton_append,
        readName_append h.chars (endsName_cons (by decide) _)]
      simp only [hvalue]

/-! ## Compounds -/

theorem endsName_simples {s rest : List Char} {simples : List Simple} (h : SimplesText s simples)
    (hrest : EndsName rest) : EndsName (s ++ rest) := by
  cases h with
  | nil => exact hrest
  | cons h _ => cases h <;> exact endsName_cons (by decide) _

theorem compound_id (tag : Option String) (done : List Simple) (name : String) :
    { compound tag done with id := some name } = compound tag (done ++ [.id name]) := by
  simp [compound, List.filterMap_cons, Simple.id?, Simple.class?, Simple.test?]

theorem compound_inClass (tag : Option String) (done : List Simple) (name : String) :
    { compound tag done with classes := (compound tag done).classes ++ [name] } =
      compound tag (done ++ [.inClass name]) := by
  simp [compound, List.filterMap_cons, Simple.id?, Simple.class?, Simple.test?]

theorem compound_tested (tag : Option String) (done : List Simple) (test : AttributeTest) :
    { compound tag done with attributes := (compound tag done).attributes ++ [test] } =
      compound tag (done ++ [.tested test]) := by
  simp [compound, List.filterMap_cons, Simple.id?, Simple.class?, Simple.test?]

theorem readTests_id {c : Compound} {s name rest : List Char} (h : readName s = (name, rest))
    (hne : name ≠ []) :
    readTests c ('#' :: s) = readTests { c with id := some (String.ofList name) } rest := by
  rw [readTests.eq_def]
  simp only
  split <;> simp_all

theorem readTests_inClass {c : Compound} {s name rest : List Char}
    (h : readName s = (name, rest)) (hne : name ≠ []) :
    readTests c ('.' :: s) =
      readTests { c with classes := c.classes ++ [String.ofList name] } rest := by
  rw [readTests.eq_def]
  simp only
  split <;> simp_all

theorem readTests_tested {c : Compound} {s rest : List Char} {test : AttributeTest}
    (h : readTest s = .ok (test, rest)) :
    readTests c ('[' :: s) = readTests { c with attributes := c.attributes ++ [test] } rest := by
  rw [readTests.eq_def]
  simp only
  split <;> simp_all

/-- Reading goes on behind a test. -/
theorem readTests_simple {a rest : List Char} {x : Simple} {tag : Option String}
    {done : List Simple} (h : SimpleText a x) (hrest : EndsName rest) :
    readTests (compound tag done) (a ++ rest) = readTests (compound tag (done ++ [x])) rest := by
  cases h with
  | id h =>
    rw [List.cons_append, readTests_id (readName_append h.chars hrest) h.nonempty, compound_id]
  | inClass h =>
    rw [List.cons_append, readTests_inClass (readName_append h.chars hrest) h.nonempty,
      compound_inClass]
  | @tested t test h =>
    have htest : readTest (t ++ rest) = .ok (test, rest) := readTest_eq_ok_iff.mpr ⟨t, h, rfl⟩
    rw [List.cons_append, readTests_tested htest, compound_tested]

theorem readTests_simples {s rest : List Char} {simples : List Simple} {tag : Option String}
    {done : List Simple} (h : SimplesText s simples) (hrest : EndsName rest) :
    readTests (compound tag done) (s ++ rest) =
      readTests (compound tag (done ++ simples)) rest := by
  induction h generalizing done with
  | nil => rw [List.nil_append, List.append_nil]
  | cons h hs ih =>
    rw [List.append_assoc, readTests_simple h (endsName_simples hs hrest), ih,
      List.append_assoc, List.singleton_append]

theorem readTests_stop {c : Compound} {rest : List Char} (h : EndsCompound rest) :
    readTests c rest = .ok (c, rest) := by
  rw [readTests.eq_def]
  split
  · rfl
  · exact absurd (h _ rfl) (by decide)
  · exact absurd (h _ rfl) (by decide)
  · exact absurd (h _ rfl) (by decide)
  · rename_i a s _ _ _
    have ha := h a rfl
    simp [ha]

/-- A compound that has some tests is `c` with those at the head of `s`. -/
def Completes (tag : Option String) (done : List Simple) (s : List Char) (c : Compound)
    (rest : List Char) : Prop :=
  ∃ t simples, SimplesText t simples ∧ s = t ++ rest ∧ EndsCompound rest ∧
    c = compound tag (done ++ simples)

theorem Completes.cons {tag : Option String} {done : List Simple} {a s rest : List Char}
    {c : Compound} {x : Simple} (hx : SimpleText a x) (h : Completes tag (done ++ [x]) s c rest) :
    Completes tag done (a ++ s) c rest := by
  obtain ⟨t, simples, ht, rfl, hrest, rfl⟩ := h
  exact ⟨a ++ t, x :: simples, .cons hx ht, by simp, hrest, by simp⟩

theorem completes_of_readTests {c c' : Compound} {s rest : List Char}
    (h : readTests c s = .ok (c', rest)) {tag : Option String} {done : List Simple}
    (hc : c = compound tag done) : Completes tag done s c' rest := by
  fun_induction readTests c s generalizing done with
  | case1 c =>
    cases h
    exact ⟨[], [], .nil, rfl, by simp [EndsCompound], by simpa using hc⟩
  | case2 => cases h
  | case3 c s name rest' hne hn ih =>
    obtain ⟨rfl, hname, -⟩ := readName_eq_iff.mp hn
    exact (ih h (by rw [hc, compound_id])).cons (.id ⟨hne, hname⟩)
  | case4 => cases h
  | case5 c s name rest' hne hn ih =>
    obtain ⟨rfl, hname, -⟩ := readName_eq_iff.mp hn
    exact (ih h (by rw [hc, compound_inClass])).cons (.inClass ⟨hne, hname⟩)
  | case6 => cases h
  | case7 c s test rest' htest ih =>
    obtain ⟨t, ht, rfl⟩ := readTest_eq_ok_iff.mp htest
    exact (ih h (by rw [hc, compound_tested])).cons (.tested ht)
  | case8 c a s _ _ _ hend =>
    cases h
    exact ⟨[], [], .nil, rfl, by simpa [EndsCompound] using hend, by simpa using hc⟩
  | case9 => cases h

/-- Reads the tests behind a tag name at the head of `whole`. -/
def readBehind (tag : Option String) (whole s : List Char) :
    Except SelectorFault (Compound × List Char) :=
  match readTests (compound tag []) s with
  | .error fault => .error fault
  | .ok (c, rest) => if rest.length < whole.length then .ok (c, rest) else .error .expectedSelector

/-- A tag does not go on here, nor is one left out that stands here. -/
def EndsTag (a s : List Char) : Prop :=
  a = ['*'] ∨ EndsName s ∧ (a = [] → s.head? ≠ some '*')

theorem readCompound_eq {a s : List Char} {tag : Option String} (h : TagText a tag)
    (hs : EndsTag a s) : readCompound (a ++ s) = readBehind tag (a ++ s) s := by
  cases h with
  | any => rfl
  | absent =>
    rcases hs with hs | ⟨hs, hstar⟩
    · cases hs
    · have hname : readName s = ([], s) := @readName_append [] s (by simp) hs
      rw [List.nil_append]
      unfold readCompound
      split
      rename_i tag rest heq
      split at heq
      · exact absurd rfl (hstar rfl)
      · rw [hname] at heq
        cases heq
        rfl
  | name h =>
    rcases hs with rfl | ⟨hs, -⟩
    · exact absurd (h.chars '*' (by simp)) (by decide)
    · obtain ⟨c, name, rfl⟩ := List.exists_cons_of_ne_nil h.nonempty
      have hname := readName_append h.chars hs
      unfold readCompound
      split
      rename_i tag rest heq
      split at heq
      · rename_i hstar
        rw [List.cons_append, List.cons.injEq] at hstar
        exact absurd (h.chars c List.mem_cons_self) (by rw [hstar.1]; decide)
      · rw [hname] at heq
        cases heq
        rfl

theorem exists_tag (s : List Char) : ∃ a tag s', TagText a tag ∧ s = a ++ s' ∧ EndsTag a s' := by
  by_cases hstar : s.head? = some '*'
  · obtain ⟨s', rfl⟩ := List.head?_eq_some_iff.mp hstar
    exact ⟨['*'], none, s', .any, rfl, .inl rfl⟩
  · obtain ⟨name, s', hn⟩ : ∃ name s', readName s = (name, s') := ⟨_, _, rfl⟩
    obtain ⟨rfl, hname, hs⟩ := readName_eq_iff.mp hn
    cases name with
    | nil => exact ⟨[], none, s', .absent, rfl, .inr ⟨hs, fun _ => hstar⟩⟩
    | cons c name =>
      exact ⟨c :: name, _, s', .name ⟨List.cons_ne_nil c name, hname⟩, rfl, .inr ⟨hs, by simp⟩⟩

theorem compoundText_of_readCompound {s rest : List Char} {c : Compound}
    (h : readCompound s = .ok (c, rest)) :
    ∃ t, CompoundText t c ∧ s = t ++ rest ∧ EndsCompound rest := by
  obtain ⟨a, tag, s, htag, rfl, hs⟩ := exists_tag s
  rw [readCompound_eq htag hs, readBehind] at h
  split at h
  · cases h
  · rename_i hread
    obtain ⟨t, simples, ht, rfl, hrest, rfl⟩ := completes_of_readTests hread rfl
    split at h
    · rename_i hlt
      cases h
      refine ⟨a ++ t, .mk htag ht ?_, by simp, hrest⟩
      rintro hnil
      simp [← List.append_assoc, hnil] at hlt
    · cases h

/-- Reading goes on behind the text of a compound. -/
theorem readCompound_append {t rest : List Char} {c : Compound} (h : CompoundText t c)
    (hrest : EndsName rest) : readCompound (t ++ rest) = readTests c rest := by
  cases h with
  | @mk a s tag simples htag hs hne =>
    have hends : EndsTag a (s ++ rest) := by
      refine .inr ⟨endsName_simples hs hrest, ?_⟩
      rintro rfl
      cases hs with
      | nil => exact absurd rfl hne
      | cons h _ => cases h <;> simp
    rw [List.append_assoc, readCompound_eq htag hends, readBehind, readTests_simples hs hrest,
      List.nil_append]
    split
    · rename_i hread
      rw [hread]
    · rename_i c rest' hread
      have := length_readTests_le hread
      have := List.length_pos_iff.mpr hne
      rw [hread, if_pos]
      simp only [List.length_append] at *
      omega

/-! ## Chains -/

/-- A compound begins neither with a blank nor with a `>`. -/
theorem compoundText_head {t : List Char} {c : Compound} (h : CompoundText t c) :
    ∃ a s, t = a :: s ∧ isBlank a = false ∧ a ≠ '>' := by
  have hname {a : Char} (ha : isNameChar a = true) : isBlank a = false ∧ a ≠ '>' := by
    refine ⟨?_, ?_⟩
    · rw [← Bool.not_eq_true]
      intro hblank
      rw [isNameChar_of_isBlank hblank] at ha
      cases ha
    · rintro rfl
      exact absurd ha (by decide)
  cases h with
  | mk htag hs hne =>
    cases htag with
    | any => exact ⟨'*', _, rfl, by decide, by decide⟩
    | name h =>
      obtain ⟨a, name, rfl⟩ := List.exists_cons_of_ne_nil h.nonempty
      exact ⟨a, _, rfl, hname (h.chars a List.mem_cons_self)⟩
    | absent =>
      cases hs with
      | nil => exact absurd rfl hne
      | cons h _ => cases h <;> exact ⟨_, _, rfl, by decide, by decide⟩

theorem dropWhile_blank_append {w s : List Char} (hw : Blank w) :
    (w ++ s).dropWhile isBlank = s.dropWhile isBlank :=
  List.dropWhile_append_of_pos hw

theorem readChain_end {w : List Char} (hw : Blank w) (outer : Chain) :
    readChain (some outer) .descendant w = .ok outer := by
  have hcut : w.dropWhile isBlank = [] := List.dropWhile_eq_nil_iff.mpr hw
  rw [readChain]
  split <;> simp_all

theorem readChain_child {w : List Char} (hw : Blank w) (outer : Chain) (s : List Char) :
    readChain (some outer) .descendant (w ++ '>' :: s) = readChain (some outer) .child s := by
  have hcut : (w ++ '>' :: s).dropWhile isBlank = '>' :: s := by
    rw [dropWhile_blank_append hw]
    rfl
  rw [readChain.eq_def (some outer) .descendant (w ++ '>' :: s)]
  split
  · rename_i heq
    rw [hcut] at heq
    cases heq
  · rename_i heq
    rw [hcut] at heq
    cases heq
    rfl
  · rename_i hne heq
    rw [hcut] at heq
    cases heq
    exact (hne rfl).elim

/-- Behind blanks a compound is read from any character but `>`. -/
theorem readChain_head {s rest : List Char} {a : Char} (hcut : s.dropWhile isBlank = a :: rest)
    (hne : a ≠ '>') (outer : Option Chain) (k : Combinator) :
    readChain outer k s =
      match readCompound (a :: rest) with
      | .error fault => .error fault
      | .ok (c, rest) => readChain (some (extend outer k c)) .descendant rest := by
  rw [readChain.eq_def outer k s]
  split
  · rename_i heq
    rw [hcut] at heq
    cases heq
  · rename_i heq
    rw [hcut] at heq
    cases heq
    exact absurd rfl hne
  · rename_i heq
    rw [hcut] at heq
    cases heq
    split <;> rename_i hc <;> rw [hc]

theorem readChain_compound {w t rest : List Char} {c : Compound} (hw : Blank w)
    (hc : CompoundText t c) (hrest : EndsName rest) (outer : Option Chain) (k : Combinator) :
    readChain outer k (w ++ (t ++ rest)) =
      match readTests c rest with
      | .error fault => .error fault
      | .ok (c, rest) => readChain (some (extend outer k c)) .descendant rest := by
  have hread := readCompound_append hc hrest
  obtain ⟨a, s, rfl, hblank, hne⟩ := compoundText_head hc
  have hcut : (w ++ (a :: s ++ rest)).dropWhile isBlank = a :: (s ++ rest) := by
    rw [dropWhile_blank_append hw, List.cons_append, List.dropWhile_cons_of_neg (by simp [hblank])]
  rw [readChain_head hcut hne, ← hread, List.cons_append]

theorem SeparatorText.endsCompound {w : List Char} {k : Combinator} (h : SeparatorText w k)
    (s : List Char) : EndsCompound (w ++ s) := by
  have hblank {w : List Char} (hw : Blank w) (hne : w ≠ []) : EndsCompound (w ++ s) := by
    obtain ⟨a, w, rfl⟩ := List.exists_cons_of_ne_nil hne
    simp only [EndsCompound, List.cons_append, List.head?_cons, Option.mem_some_iff, forall_eq']
    exact .inl (hw a List.mem_cons_self)
  cases h with
  | descendant hw hne => exact hblank hw hne
  | @child v w hv hw =>
    cases v with
    | nil => simp [EndsCompound]
    | cons a v =>
      simp only [EndsCompound, List.cons_append, List.head?_cons, Option.mem_some_iff, forall_eq']
      exact .inl (hv a List.mem_cons_self)

/-- The next compound of a chain, with the separator before it. -/
theorem readChain_join {w t rest : List Char} {k : Combinator} {c : Compound} {outer : Chain}
    (hw : SeparatorText w k) (hc : CompoundText t c) (hrest : EndsName rest) :
    readChain (some outer) .descendant (w ++ (t ++ rest)) =
      match readTests c rest with
      | .error fault => .error fault
      | .ok (c, rest) => readChain (some (.join outer k c)) .descendant rest := by
  cases hw with
  | descendant hw _ => exact readChain_compound hw hc hrest (some outer) .descendant
  | child hv hw =>
    rw [List.append_assoc, List.cons_append, readChain_child hv]
    exact readChain_compound hw hc hrest (some outer) .child

/-- Reading goes on behind the last compound. -/
theorem readChain_links {s rest v : List Char} {chain : Chain} (hv : Blank v)
    (h : LinksText s chain) (hrest : EndsCompound rest) :
    readChain none .descendant (v ++ (s ++ rest)) = readChain (some chain) .descendant rest := by
  induction h generalizing rest with
  | single hc => rw [readChain_compound hv hc hrest.endsName, readTests_stop hrest]; rfl
  | @join s w t outer k c _ hw hc ih =>
    rw [List.append_assoc, List.append_assoc, ih (hw.endsCompound _),
      readChain_join hw hc hrest.endsName, readTests_stop hrest]

theorem readChain_of_chainText {s : List Char} {chain : Chain} (h : ChainText s chain) :
    readChain none .descendant s = .ok chain := by
  cases h with
  | mk hv h hw =>
    rw [readChain_links hv h fun c hc => .inl (hw c (List.mem_of_mem_head? hc)), readChain_end hw]

/-- A text that leaves a chain open: what is read of it is `outer`, which
`k` is to join to a compound. -/
inductive OpenText : List Char → Option Chain → Combinator → Prop
  | start {v : List Char} (hv : Blank v) : OpenText v none .descendant
  | compound {v s : List Char} {outer : Chain} (hv : Blank v) (h : LinksText s outer) :
      OpenText (v ++ s) (some outer) .descendant
  | child {v s u w : List Char} {outer : Chain} (hv : Blank v) (h : LinksText s outer) (hu : Blank u)
      (hw : Blank w) : OpenText (v ++ (s ++ (u ++ '>' :: w))) (some outer) .child

/-- A further compound, behind blanks. -/
theorem OpenText.extend {p u t : List Char} {outer : Option Chain} {k : Combinator} {c : Compound}
    (h : OpenText p outer k) (hu : Blank u) (hne : outer.isSome = true → k = .descendant → u ≠ [])
    (hc : CompoundText t c) : OpenText (p ++ (u ++ t)) (some (extend outer k c)) .descendant := by
  cases h with
  | start hv =>
    rw [← List.append_assoc]
    exact .compound (hv.append hu) (.single hc)
  | compound hv h =>
    rw [List.append_assoc]
    exact .compound hv (.join h (.descendant hu (hne rfl rfl)) hc)
  | child hv h hw' hw =>
    have hsep := SeparatorText.child hw' (hw.append hu)
    simpa [Selector.extend] using OpenText.compound hv (.join h hsep hc)

/-- What is read behind an open chain completes it. -/
theorem OpenText.chainText {p s : List Char} {outer : Option Chain} {k : Combinator}
    {chain : Chain} (hp : OpenText p outer k) (h : readChain outer k s = .ok chain)
    (hends : outer.isSome = true → k = .descendant → EndsCompound s) : ChainText (p ++ s) chain := by
  fun_induction readChain outer k s generalizing p with
  | case1 => cases h
  | case2 => cases h
  | case3 s hcut outer =>
    cases h
    cases hp with
    | compound hv h =>
      rw [List.append_assoc]
      exact .mk hv h (List.dropWhile_eq_nil_iff.mp hcut)
  | case4 => cases h
  | case5 outer k s rest hcut hcond ih =>
    obtain ⟨hs, hu, -⟩ := span_eq_iff.mp ⟨rfl, hcut⟩
    cases hp with
    | start => simp at hcond
    | child => simp at hcond
    | compound hv hlinks =>
      have hchain := ih (.child hv hlinks hu (w := []) (by simp [Blank])) h (by simp)
      rw [hs]
      simpa using hchain
  | case6 => cases h
  | case7 outer k s a rest hbracket hcut c rest' hc ih =>
    obtain ⟨hs, hu, hblank⟩ := span_eq_iff.mp ⟨rfl, hcut⟩
    obtain ⟨t, ht, hat, hrest⟩ := compoundText_of_readCompound hc
    have hne : outer.isSome = true → k = .descendant → s.takeWhile isBlank ≠ [] := by
      intro hsome hk hnil
      rw [hnil, List.nil_append] at hs
      rcases hends hsome hk a (by rw [hs]; rfl) with ha | ha
      · rw [hblank a rfl] at ha
        cases ha
      · exact hbracket ha
    have hchain := ih (hp.extend hu hne ht) h fun _ _ => hrest
    rw [hs, hat]
    simpa using hchain

theorem chainText_of_readChain {s : List Char} {chain : Chain}
    (h : readChain none .descendant s = .ok chain) : ChainText s chain :=
  (OpenText.start (v := []) (by simp [Blank])).chainText h (by simp)

/-- **Exactly the grammar is read.** A text is read as a chain if and only if
the grammar derives the chain from it. -/
theorem readChain_eq_ok_iff {s : List Char} {chain : Chain} :
    readChain none .descendant s = .ok chain ↔ ChainText s chain :=
  ⟨chainText_of_readChain, readChain_of_chainText⟩

end VectorLint.Selector
