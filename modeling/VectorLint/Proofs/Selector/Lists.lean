/-
Lists of chains with commas between them. The text is cut at every comma
before a chain is read, so that a comma in the value of an attribute test is
taken for one between chains, quotes or not.

`parse_commaList`: a list is read, and each chain as it is read alone, if no
text of a chain holds a comma; else the list is no selector.
-/
import VectorLint.Proofs.Except
import VectorLint.Proofs.Selector.Grammar

namespace VectorLint.Selector

open Text (Blank isBlank splitOnP_intercalate splitWhere_eq_splitOnP)

/-! ## What is read -/

/-- A text is a list of chains if its parts between commas are the chains. -/
theorem parse_eq_ok_iff {s : String} {chains : List Chain} :
    parse s = .ok ⟨s, chains⟩ ↔ List.Forall₂ ChainText (s.toList.splitOnP (· = ',')) chains := by
  have hread : ChainText = fun part chain => readChain none .descendant part = .ok chain :=
    funext₂ fun _ _ => propext ⟨readChain_of_chainText, chainText_of_readChain⟩
  rw [hread, ← mapM_eq_ok_iff, parse, splitWhere_eq_splitOnP]
  split <;> simp_all

theorem exists_chain_of_mem {parts : List (List Char)} {chains : List Chain}
    (h : List.Forall₂ ChainText parts chains) {part : List Char} (hpart : part ∈ parts) :
    ∃ chain, ChainText part chain := by
  induction h with
  | nil => cases hpart
  | cons hchain _ ih =>
    rcases List.mem_cons.mp hpart with rfl | hpart
    · exact ⟨_, hchain⟩
    · exact ih hpart

theorem parse_eq_error {s : String} (h : ¬ ∃ chains, parse s = .ok ⟨s, chains⟩) :
    ∃ fault, parse s = .error ⟨s, fault⟩ := by
  unfold parse at h ⊢
  split
  · exact ⟨_, rfl⟩
  · rename_i heq
    rw [heq] at h
    exact absurd ⟨_, rfl⟩ h

theorem compoundText_name {name : List Char} (h : IsName name) :
    CompoundText name ⟨some (String.ofList name), none, [], []⟩ := by
  have hname := CompoundText.mk (.name h) .nil (by simpa using h.nonempty)
  rwa [List.append_nil] at hname

/-- A test for any value can be written in quotes. -/
theorem compoundText_quoted {name t : List Char} {q : Char} (hname : IsName name) (hq : IsQuote q)
    (ht : q ∉ t) :
    CompoundText ('[' :: (name ++ '=' :: (q :: (t ++ [q]) ++ [']'])))
      ⟨none, none, [], [.equals (String.ofList name) (String.ofList t)]⟩ := by
  have htest := SimpleText.tested (.equals hname (.quoted hq ht))
  have hcompound := CompoundText.mk .absent (.cons htest .nil) (by simp)
  rwa [List.nil_append, List.append_nil] at hcompound

/-! ## Commas -/

theorem readTests_comma (c : Compound) (rest : List Char) :
    readTests c (',' :: rest) = .error (.unexpectedCharacter ',') := by
  rw [readTests.eq_def]
  exact if_neg (by decide)

theorem readChain_comma_start (outer : Option Chain) (k : Combinator) {w : List Char} (hw : Blank w)
    (rest : List Char) :
    readChain outer k (w ++ ',' :: rest) = .error (.unexpectedCharacter ',') := by
  have hcut : (w ++ ',' :: rest).dropWhile isBlank = ',' :: rest := by
    rw [dropWhile_blank_append hw]
    rfl
  have hread : readCompound (',' :: rest) = .error (.unexpectedCharacter ',') := by
    rw [← List.nil_append (',' :: rest),
      readCompound_eq .absent (.inr ⟨endsName_cons (by decide) _, by simp⟩), readBehind,
      readTests_comma]
  rw [readChain_head hcut (by decide), hread]

/-- A chain does not go on with a comma: what stands before one in a longer
chain is none. -/
theorem readChain_comma {s : List Char} {chain : Chain} (h : ChainText s chain)
    (rest : List Char) :
    readChain none .descendant (s ++ ',' :: rest) = .error (.unexpectedCharacter ',') := by
  have hcomma : EndsName (',' :: rest) := endsName_cons (by decide) _
  cases h with
  | @mk v s w _ hv h hw =>
    rw [List.append_assoc, List.append_assoc]
    cases w with
    | nil =>
      cases h with
      | single hc => rw [List.nil_append, readChain_compound hv hc hcomma, readTests_comma]
      | join h hsep hc =>
        rw [List.nil_append, List.append_assoc, List.append_assoc,
          readChain_links hv h (hsep.endsCompound _), readChain_join hsep hc hcomma, readTests_comma]
    | cons a w =>
      have hends : EndsCompound (a :: w ++ ',' :: rest) := by
        rw [EndsCompound, List.cons_append, List.head?_cons]
        rintro _ ⟨⟩
        exact .inl (hw a List.mem_cons_self)
      rw [readChain_links hv h hends, readChain_comma_start _ _ hw]

theorem not_chainText_of_comma {s rest : List Char} {chain chain' : Chain}
    (h : ChainText (s ++ ',' :: rest) chain) : ¬ ChainText s chain' := by
  intro hs
  have hread := readChain_of_chainText h
  rw [readChain_comma hs] at hread
  cases hread

theorem cut_eq_false {s : List Char} (h : ',' ∉ s) : ∀ c ∈ s, decide (c = ',') = false :=
  fun _ hc => decide_eq_false (ne_of_mem_of_not_mem hc h)

/-- A chain with a comma falls apart, and its first part is no chain. -/
theorem exists_part_of_comma {s : List Char} {chain : Chain} (h : ChainText s chain)
    (hcomma : ',' ∈ s) : ∃ part ∈ s.splitOnP (· = ','), ¬ ∃ chain', ChainText part chain' := by
  obtain ⟨part, rest, rfl, hpart⟩ := List.eq_append_cons_of_mem hcomma
  refine ⟨part, ?_, fun ⟨_, hchain⟩ => not_chainText_of_comma h hchain⟩
  rw [List.splitOnP_append_cons_of_forall_mem (cut_eq_false hpart) ',' (by decide)]
  exact List.mem_cons_self

/-! ## Lists -/

/-- The texts of a list, with commas between them. -/
def commaList (texts : List (List Char)) : String :=
  String.ofList ([','].intercalate texts)

variable {items : List (List Char × Chain)}

theorem splitOnP_commaList {texts : List (List Char)} (hne : texts ≠ []) :
    (commaList texts).toList.splitOnP (· = ',') = texts.flatMap (·.splitOnP (· = ',')) := by
  rw [commaList, String.toList_ofList, splitOnP_intercalate (by decide) hne]

theorem parse_of_no_comma (hne : items ≠ []) (hitems : ∀ i ∈ items, ChainText i.1 i.2)
    (hcomma : ∀ i ∈ items, ',' ∉ i.1) :
    parse (commaList (items.map Prod.fst)) =
      .ok ⟨commaList (items.map Prod.fst), items.map Prod.snd⟩ := by
  have hparts : (items.map Prod.fst).flatMap (·.splitOnP (· = ',')) = items.map Prod.fst := by
    have hsingle : ∀ text ∈ items.map Prod.fst, text.splitOnP (· = ',') = [text] := by
      intro text htext
      obtain ⟨i, hi, rfl⟩ := List.mem_map.mp htext
      exact List.splitOnP_eq_singleton (cut_eq_false (hcomma i hi))
    rw [List.flatMap_congr hsingle, List.flatMap_singleton']
  rw [parse_eq_ok_iff, splitOnP_commaList (by simpa using hne), hparts, List.forall₂_map_left_iff,
    List.forall₂_map_right_iff, List.forall₂_same]
  exact hitems

theorem parse_of_comma (hitems : ∀ i ∈ items, ChainText i.1 i.2) (hcomma : ∃ i ∈ items, ',' ∈ i.1) :
    ∃ fault, parse (commaList (items.map Prod.fst)) =
      .error ⟨commaList (items.map Prod.fst), fault⟩ := by
  obtain ⟨i, hi, hcomma⟩ := hcomma
  refine parse_eq_error ?_
  rintro ⟨chains, hchains⟩
  obtain ⟨part, hpart, hnot⟩ := exists_part_of_comma (hitems i hi) hcomma
  rw [parse_eq_ok_iff, splitOnP_commaList (by simpa using List.ne_nil_of_mem hi)] at hchains
  have hmem : part ∈ (items.map Prod.fst).flatMap (·.splitOnP (· = ',')) :=
    List.mem_flatMap.mpr ⟨i.1, List.mem_map_of_mem hi, hpart⟩
  exact hnot (exists_chain_of_mem hchains hmem)

/-- **A comma always stands between two chains.** If no text of a chain holds
one, the list is read, and each chain of it as it is read alone; else, also
where a comma stands in a quoted value, the list is no selector. -/
theorem parse_commaList (hne : items ≠ []) (hitems : ∀ i ∈ items, ChainText i.1 i.2) :
    ((∀ i ∈ items, ',' ∉ i.1) →
      parse (commaList (items.map Prod.fst)) =
          .ok ⟨commaList (items.map Prod.fst), items.map Prod.snd⟩ ∧
        ∀ i ∈ items, parse (String.ofList i.1) = .ok ⟨String.ofList i.1, [i.2]⟩) ∧
    ((∃ i ∈ items, ',' ∈ i.1) →
      ∃ fault, parse (commaList (items.map Prod.fst)) =
        .error ⟨commaList (items.map Prod.fst), fault⟩) := by
  refine ⟨fun hcomma => ⟨parse_of_no_comma hne hitems hcomma, fun i hi => ?_⟩, parse_of_comma hitems⟩
  have halone := @parse_of_no_comma [i] (by simp) (by simpa using hitems i hi)
    (by simpa using hcomma i hi)
  simpa [commaList] using halone

/-- A list with `]` and `>` in a value and blanks around the comma is read; one
with a comma in a value is not. -/
theorem parse_commaList_quotes :
    parse "g > [d=\"] > z\"] , path" = .ok ⟨"g > [d=\"] > z\"] , path",
      [.join (.single ⟨some "g", none, [], []⟩) .child ⟨none, none, [], [.equals "d" "] > z"]⟩,
        .single ⟨some "path", none, [], []⟩]⟩ ∧
    ∃ fault, parse "[d=\"a,b\"]" = .error ⟨"[d=\"a,b\"]", fault⟩ := by
  have hblank : Blank [' '] := List.forall_mem_singleton.mpr rfl
  have hnone : Blank [] := List.forall_mem_nil _
  have hname {name : List Char} (h : name ≠ [] ∧ name.all isNameChar = true) : IsName name :=
    ⟨h.1, List.all_eq_true.mp h.2⟩
  have hd {t : List Char} (ht : '"' ∉ t) :=
    compoundText_quoted (hname (by decide) : IsName ['d']) (.inl rfl) ht
  have hg := compoundText_name (hname (by decide) : IsName ['g'])
  have hpath := compoundText_name (hname (by decide) : IsName "path".toList)
  have hfirst := ChainText.mk hnone (.join (.single hg) (.child hblank hblank)
    (hd (t := "] > z".toList) (by decide))) hblank
  have hsecond := ChainText.mk hblank (.single hpath) hnone
  have hcomma := ChainText.mk hnone (.single (hd (t := "a,b".toList) (by decide))) hnone
  have hlist := @parse_commaList [(_, _), (_, _)] (by simp) (by simpa using ⟨hfirst, hsecond⟩)
  have hfault := @parse_commaList [(_, _)] (by simp) (by simpa using hcomma)
  exact ⟨(hlist.1 (by decide)).1, hfault.2 (by decide)⟩

/-- A chain whose value holds a comma, in quotes, is no list of one chain. -/
theorem parse_quotedComma :
    ChainText "[d=\"a,b\"]".toList (.single ⟨none, none, [], [.equals "d" "a,b"]⟩) ∧
      parse (commaList ["[d=\"a,b\"]".toList]) = .error ⟨"[d=\"a,b\"]", .expectedBracket⟩ := by
  have hname : IsName ['d'] := ⟨by decide, List.forall_mem_singleton.mpr rfl⟩
  have htest := compoundText_quoted hname (.inl rfl) (t := "a,b".toList) (by decide)
  exact ⟨.mk (List.forall_mem_nil _) (.single htest) (List.forall_mem_nil (isBlank · = true)),
    by decide +kernel⟩

end VectorLint.Selector
