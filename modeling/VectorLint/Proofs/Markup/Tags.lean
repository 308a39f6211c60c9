/-
Writing tags and comments. Names hold letters, digits and four signs; a value
is escaped and stands in quotes of either kind; blanks may stand around every
part.

A written tag is one piece of a text (`spells_startTag`, `spells_emptyTag`,
`spells_endTag`, `spells_comment`), and its attributes are read as they were
written (`attributes_written`).
-/
import VectorLint.Markup.Attributes
import VectorLint.Proofs.Markup.Escaping
import VectorLint.Proofs.Markup.Pieces
import VectorLint.Text.Alphanumeric

namespace VectorLint.Markup

open Scan

def isNameChar (c : Char) : Bool :=
  Text.isAlphanumeric c || c = '-' || c = '_' || c = ':' || c = '.'

structure IsName (name : List Char) : Prop where
  nonempty : name ≠ []
  chars : ∀ c ∈ name, isNameChar c = true

instance (name : List Char) : Decidable (IsName name) :=
  have := List.decidableBAll (isNameChar · = true) name
  decidable_of_iff (name ≠ [] ∧ ∀ c ∈ name, isNameChar c = true)
    ⟨fun h => ⟨h.1, h.2⟩, fun h => ⟨h.nonempty, h.chars⟩⟩

/-- Nothing but blanks of markup. -/
def Spaces (w : List Char) : Prop :=
  ∀ c ∈ w, isSpace c = true

instance (w : List Char) : Decidable (Spaces w) :=
  List.decidableBAll (isSpace · = true) w

/-- Attributes, one behind the other, each with a blank before it. -/
inductive WrittenAttributes : List (String × String) → List Char → Prop
  | nil : WrittenAttributes [] []
  | cons {name value : String} {quote : Char} {w before after s : List Char}
      {attributes : List (String × String)} (hw : Spaces w) (hne : w ≠ []) (hbefore : Spaces before)
      (hafter : Spaces after) (hquote : quote = '"' ∨ quote = '\'')
      (h : WrittenAttributes attributes s) :
      WrittenAttributes ((name, value) :: attributes)
        (w ++ (name.toList ++ (before ++ '=' :: (after ++ quote :: (escape value.toList ++
          quote :: s)))))

theorem ne_of_isNameChar {c d : Char} (hd : isNameChar d = false) (hc : isNameChar c = true) :
    c ≠ d := by
  rintro rfl
  rw [hc] at hd
  cases hd

theorem isSpace_eq_false_of_isNameChar {c : Char} (hc : isNameChar c = true) :
    isSpace c = false := by
  simp [isSpace, ne_of_isNameChar (d := ' ') rfl hc, ne_of_isNameChar (d := '\t') rfl hc,
    ne_of_isNameChar (d := '\n') rfl hc, ne_of_isNameChar (d := '\r') rfl hc]

theorem ne_of_isSpace {c d : Char} (hd : isSpace d = false) (hc : isSpace c = true) : c ≠ d := by
  rintro rfl
  rw [hc] at hd
  cases hd

theorem tagName_of_isName {name : List Char} (h : IsName name) {s : List Char}
    (hs : ∀ c ∈ s.head?, isSpace c = true) : tagName (name ++ s) = name := by
  have hname : ∀ c ∈ name, (!isSpace c) = true := fun c hc => by
    rw [isSpace_eq_false_of_isNameChar (h.chars c hc)]
    rfl
  rw [tagName, List.takeWhile_append_of_pos hname]
  cases s with
  | nil => simp
  | cons c s => simp [hs c rfl]

/-- Blanks behind the name in an end tag do not count. -/
theorem endTagName_of_isName {name w : List Char} (h : IsName name) (hw : Spaces w) :
    endTagName (name ++ w) = name := by
  obtain ⟨c, s, hs⟩ := List.exists_cons_of_ne_nil (List.reverse_ne_nil_iff.mpr h.nonempty)
  have hc : isSpace c = false := by
    refine isSpace_eq_false_of_isNameChar (h.chars c (List.mem_reverse.mp ?_))
    rw [hs]
    exact List.mem_cons_self
  have hall : (name ++ w).all isSpace = false := by
    rw [← List.all_reverse, List.reverse_append, hs]
    simp [hc]
  rw [endTagName, hall, if_neg Bool.false_ne_true, List.reverse_append,
    List.dropWhile_append_of_pos fun c hc => hw c (List.mem_reverse.mp hc), hs,
    List.dropWhile_cons_of_neg (by simp [hc]), ← hs, List.reverse_reverse]

/-! ## Between quotes -/

/-- Read inside a tag and outside of quotes, the characters lead there
again. -/
def Stays (a : List Char) : Prop :=
  ∀ seen start offset opened rest, run ⟨.tag none seen, start, offset, opened⟩ (a ++ rest) =
    run ⟨.tag none (a.reverse ++ seen), start, offset + Text.byteLength a, opened⟩ rest

theorem Stays.nil : Stays [] := fun _ _ _ _ _ => rfl

theorem Stays.append {a b : List Char} (ha : Stays a) (hb : Stays b) : Stays (a ++ b) := by
  intro seen start offset opened rest
  rw [List.append_assoc, ha, hb, Text.byteLength_append, Nat.add_assoc, List.reverse_append,
    List.append_assoc]

theorem stays_plain {a : List Char} (h : ∀ c ∈ a, c ≠ '>' ∧ c ≠ '"' ∧ c ≠ '\'') : Stays a := by
  induction a with
  | nil => exact .nil
  | cons c a ih =>
    obtain ⟨⟨hbracket, hdouble, hsingle⟩, ha⟩ := List.forall_mem_cons.mp h
    have hone : Stays [c] := fun seen start offset opened rest => by
      have hstep : step ⟨.tag none seen, start, offset, opened⟩ c =
          .more ⟨.tag none (c :: seen), start, offset + c.utf8Size, opened⟩ := by
        simp only [step, stepTag, hbracket, hdouble, hsingle, if_false, or_self]
        rfl
      rw [List.singleton_append, run_more hstep]
      rfl
    exact hone.append (ih ha)

theorem stays_name {name : List Char} (h : IsName name) : Stays name :=
  stays_plain fun c hc => ⟨ne_of_isNameChar rfl (h.chars c hc), ne_of_isNameChar rfl (h.chars c hc),
    ne_of_isNameChar rfl (h.chars c hc)⟩

theorem stays_spaces {w : List Char} (hw : Spaces w) : Stays w :=
  stays_plain fun c hc => ⟨ne_of_isSpace rfl (hw c hc), ne_of_isSpace rfl (hw c hc),
    ne_of_isSpace rfl (hw c hc)⟩

theorem run_quoted {quote : Char} {a : List Char} (ha : quote ∉ a) (seen : List Char)
    (start offset : Nat) (opened : List (List Char)) (rest : List Char) :
    run ⟨.tag (some quote) seen, start, offset, opened⟩ (a ++ rest) =
      run ⟨.tag (some quote) (a.reverse ++ seen), start, offset + Text.byteLength a, opened⟩
        rest := by
  induction a generalizing seen offset with
  | nil => rfl
  | cons c a ih =>
    obtain ⟨hc, ha⟩ := List.ne_and_not_mem_of_not_mem_cons ha
    have hstep : step ⟨.tag (some quote) seen, start, offset, opened⟩ c =
        .more ⟨.tag (some quote) (c :: seen), start, offset + c.utf8Size, opened⟩ := by
      simp only [step, stepTag, Ne.symm hc, if_false]
      rfl
    rw [List.cons_append, run_more hstep, ih ha]
    simp [Text.byteLength, Nat.add_assoc]

theorem stays_quoted {quote : Char} (hq : quote = '"' ∨ quote = '\'') {a : List Char}
    (ha : quote ∉ a) : Stays (quote :: (a ++ [quote])) := by
  intro seen start offset opened rest
  have hbracket : quote ≠ '>' := by
    rintro rfl
    simp at hq
  have hopen : step ⟨.tag none seen, start, offset, opened⟩ quote =
      .more ⟨.tag (some quote) (quote :: seen), start, offset + quote.utf8Size, opened⟩ := by
    simp only [step, stepTag, hbracket, hq, if_false, if_true]
    rfl
  have hclose : ∀ seen offset, step ⟨.tag (some quote) seen, start, offset, opened⟩ quote =
      .more ⟨.tag none (quote :: seen), start, offset + quote.utf8Size, opened⟩ := by
    intro seen offset
    simp only [step, stepTag, if_true]
    rfl
  rw [List.cons_append, List.append_assoc, run_more hopen, run_quoted ha, List.singleton_append,
    run_more (hclose _ _)]
  simp [Text.byteLength, Text.byteLength_append, Nat.add_assoc]

theorem stays_attributes {attributes : List (String × String)} {s : List Char}
    (h : WrittenAttributes attributes s) (hnames : ∀ a ∈ attributes, IsName a.1.toList) :
    Stays s := by
  induction h with
  | nil => exact .nil
  | @cons name value quote w before after s attributes hw _ hbefore hafter hquote _ ih =>
    rw [List.forall_mem_cons] at hnames
    have hequals : Stays ['='] := stays_plain (by simp)
    have hvalue := (stays_quoted hquote (quote_not_mem_escape hquote value.toList)).append
      (ih hnames.2)
    have hwhole := (stays_spaces hw).append <| (stays_name hnames.1).append <|
      (stays_spaces hbefore).append <| hequals.append <| (stays_spaces hafter).append hvalue
    simpa using hwhole

/-- A tag ends at the first bracket outside of quotes. -/
theorem ends_tag {c : Char} {a : List Char} {e : Event} (hbang : c ≠ '!') (hquestion : c ≠ '?')
    (h : Stays (c :: a)) (he : Closes (closeTag (c :: a).reverse) e) :
    Ends .bracket (c :: a ++ ['>']) e := by
  intro start offset opened opened' rest hr
  have hbracket : run ⟨.bracket, start, offset, opened⟩ (c :: (a ++ '>' :: rest)) =
      run ⟨.tag none [], start, offset, opened⟩ (c :: (a ++ '>' :: rest)) := by
    simp only [run, step, hbang, hquestion, if_false]
    rfl
  have hstay := h [] start offset opened ('>' :: rest)
  have hclose : step ⟨.tag none (c :: a).reverse, start, offset + Text.byteLength (c :: a), opened⟩
      '>' = .emit ⟨e, start, offset + Text.byteLength (c :: a) + 1⟩
        (fresh (offset + Text.byteLength (c :: a) + 1) opened') := by
    simp only [step, stepTag, if_true, he.2.1 opened opened' hr]
    rfl
  rw [List.append_assoc, List.singleton_append, List.cons_append, hbracket, ← List.cons_append,
    hstay, List.append_nil, run_emit hclose, Text.byteLength_append]
  rfl

/-! ## Tags -/

variable {name as w : List Char} {attributes : List (String × String)}

theorem ne_last_append {a b : List Char} {d : Char} (ha : ∀ c ∈ a.getLast?, c ≠ d)
    (hb : ∀ c ∈ b.getLast?, c ≠ d) : ∀ c ∈ (a ++ b).getLast?, c ≠ d := by
  intro c hc
  rw [List.getLast?_append, Option.mem_def, Option.or_eq_some_iff] at hc
  rcases hc with hc | ⟨-, hc⟩
  · exact hb c hc
  · exact ha c hc

theorem ne_last_behind {a b : List Char} {d : Char} (hne : b ≠ []) (hb : ∀ c ∈ b.getLast?, c ≠ d) :
    ∀ c ∈ (a ++ b).getLast?, c ≠ d := by
  rw [List.getLast?_append, List.getLast?_eq_some_getLast hne] at *
  exact hb

theorem last_attributes (h : WrittenAttributes attributes as) : ∀ c ∈ as.getLast?, c ≠ '/' := by
  induction h with
  | nil => simp
  | @cons name value quote w before after s attributes _ _ _ _ hquote _ ih =>
    have hend : ∀ c ∈ ([quote] ++ s).getLast?, c ≠ '/' := by
      refine ne_last_append (fun c hc => ?_) ih
      rw [List.getLast?_singleton, Option.mem_def, Option.some.injEq] at hc
      subst hc
      rcases hquote with rfl | rfl <;> decide
    have hlast := ne_last_behind (a := w ++ (name.toList ++ (before ++ '=' :: (after ++ quote ::
      escape value.toList)))) (List.append_ne_nil_of_left_ne_nil (List.cons_ne_nil quote []) s) hend
    simpa using hlast

theorem last_content (hname : IsName name) (has : WrittenAttributes attributes as) (hw : Spaces w)
    (rest : List Char) : (name ++ (as ++ w)).reverse ≠ '/' :: rest := by
  have hlast : ∀ c ∈ (name ++ (as ++ w)).getLast?, c ≠ '/' :=
    ne_last_append
      (fun c hc => ne_of_isNameChar rfl (hname.chars c (List.mem_of_getLast? hc)))
      (ne_last_append (last_attributes has)
        fun c hc => ne_of_isSpace rfl (hw c (List.mem_of_getLast? hc)))
  intro h
  refine hlast '/' ?_ rfl
  rw [List.getLast?_eq_head?_reverse, h]
  rfl

theorem closes_startTag {content : List Char} (hfirst : ∀ rest, content ≠ '/' :: rest)
    (hlast : ∀ rest, content.reverse ≠ '/' :: rest) :
    Closes (closeTag content.reverse) (.startTag content) :=
  closes_of_forall rfl fun opened => ⟨_, rfl, by
    have hfirst' : ∀ rest, content.reverse.reverse ≠ '/' :: rest := by simpa using hfirst
    simpa using closeTag_of_no_slash hfirst' hlast opened⟩

theorem closes_emptyTag {content : List Char} (hne : content ≠ [])
    (hfirst : ∀ rest, content ≠ '/' :: rest) :
    Closes (closeTag (content ++ ['/']).reverse) (.emptyTag content) := by
  refine closes_of_forall rfl fun opened => ⟨_, rfl, ?_⟩
  rw [List.reverse_append]
  have hfirst' : ∀ rest, ('/' :: content.reverse).reverse ≠ '/' :: rest := fun rest h => by
    obtain ⟨c, s, rfl⟩ := List.exists_cons_of_ne_nil hne
    simp only [List.reverse_cons, List.reverse_append, List.reverse_nil, List.nil_append,
      List.reverse_reverse, List.cons_append, List.cons.injEq] at h
    exact hfirst s (by rw [h.1])
  simpa using closeTag_of_last_slash hfirst' opened

theorem spells_startTag (hname : IsName name) (hnames : ∀ a ∈ attributes, IsName a.1.toList)
    (has : WrittenAttributes attributes as) (hw : Spaces w) :
    Spells ('<' :: (name ++ (as ++ (w ++ ['>'])))) (.startTag (name ++ (as ++ w))) := by
  have hlast := last_content hname has hw
  have hstays := (stays_name hname).append ((stays_attributes has hnames).append (stays_spaces hw))
  obtain ⟨c, s, rfl⟩ := List.exists_cons_of_ne_nil hname.nonempty
  have hc := hname.chars c List.mem_cons_self
  have hclose := closes_startTag
    (fun rest h => ne_of_isNameChar (d := '/') rfl hc (List.cons.inj h).1) hlast
  simpa using (ends_tag (ne_of_isNameChar rfl hc) (ne_of_isNameChar rfl hc) hstays hclose).spells

theorem spells_emptyTag (hname : IsName name) (hnames : ∀ a ∈ attributes, IsName a.1.toList)
    (has : WrittenAttributes attributes as) (hw : Spaces w) :
    Spells ('<' :: (name ++ (as ++ (w ++ ['/', '>'])))) (.emptyTag (name ++ (as ++ w))) := by
  have hslash : Stays ['/'] := stays_plain (by simp)
  have hstays := ((stays_name hname).append
    ((stays_attributes has hnames).append (stays_spaces hw))).append hslash
  obtain ⟨c, s, rfl⟩ := List.exists_cons_of_ne_nil hname.nonempty
  have hc := hname.chars c List.mem_cons_self
  have hclose := closes_emptyTag (List.cons_ne_nil c (s ++ (as ++ w)))
    (fun rest h => ne_of_isNameChar (d := '/') rfl hc (List.cons.inj h).1)
  simpa using (ends_tag (ne_of_isNameChar rfl hc) (ne_of_isNameChar rfl hc) hstays hclose).spells

theorem spells_endTag (hname : IsName name) (hw : Spaces w) :
    Spells ('<' :: '/' :: (name ++ (w ++ ['>']))) (.endTag name) := by
  have hslash : Stays ['/'] := stays_plain (by simp)
  have hstays := hslash.append ((stays_name hname).append (stays_spaces hw))
  have hclose : Closes (closeTag ('/' :: (name ++ w)).reverse) (.endTag name) := by
    rw [closeTag_of_slash (List.reverse_reverse _)]
    simpa [endTagName_of_isName hname hw] using closeEndTag_closes (name ++ w)
  simpa using (ends_tag (by decide) (by decide) hstays hclose).spells

/-! ## Comments -/

/-- A comment without two hyphens in a row does not end early: before its
end, two hyphens are those that begin it. -/
theorem ne_hyphens {seen : List Char} (h : ¬ ['-', '-'] <:+: seen) (a b : Char) (rest : List Char) :
    seen.reverse ++ ['-', '-'] ≠ '-' :: '-' :: a :: b :: rest := by
  intro heq
  cases hrev : seen.reverse with
  | nil => simp [hrev] at heq
  | cons c s =>
    cases s with
    | nil => simp [hrev] at heq
    | cons d s =>
      rw [hrev, List.cons_append, List.cons_append, List.cons.injEq, List.cons.injEq] at heq
      obtain ⟨rfl, rfl, -⟩ := heq
      refine h ⟨s.reverse, [], ?_⟩
      simpa using (congrArg List.reverse hrev).symm

theorem step_comment {seen : List Char} {c : Char} {start offset : Nat} {opened : List (List Char)}
    (h : c ≠ '>' ∨ ∀ a b rest, seen ≠ '-' :: '-' :: a :: b :: rest) :
    step ⟨.comment seen, start, offset, opened⟩ c =
      .more ⟨.comment (c :: seen), start, offset + c.utf8Size, opened⟩ := by
  simp only [step]
  split
  · rename_i a b rest
    rcases h with h | h
    · exact absurd rfl h
    · exact absurd rfl (h a b rest)
  · rfl

theorem run_comment {seen a : List Char} (h : ¬ ['-', '-'] <:+: seen ++ a) (start offset : Nat)
    (opened : List (List Char)) (rest : List Char) :
    run ⟨.comment (seen.reverse ++ ['-', '-']), start, offset, opened⟩ (a ++ rest) =
      run ⟨.comment ((seen ++ a).reverse ++ ['-', '-']), start, offset + Text.byteLength a, opened⟩
        rest := by
  induction a generalizing seen offset with
  | nil => simp [Text.byteLength]
  | cons c a ih =>
    have hseen : ¬ ['-', '-'] <:+: seen := fun hin => h (hin.trans ⟨[], c :: a, rfl⟩)
    rw [List.cons_append, run_more (step_comment (.inr (ne_hyphens hseen)))]
    have hnext := @ih (seen ++ [c]) (by simpa using h) (offset + c.utf8Size)
    simpa [Text.byteLength, Nat.add_assoc] using hnext

theorem closeComment_of_hyphens (content : List Char) (opened : List (List Char)) :
    closeComment ('-' :: '-' :: (content.reverse ++ ['-', '-'])) opened =
      .event (.comment content) opened := by
  have hseen : ('-' :: '-' :: (content.reverse ++ ['-', '-'])).reverse =
      ['-', '-'] ++ (content ++ ['-', '-']) := by simp
  rw [closeComment, hseen, Text.stripPrefix?_eq_some.mpr rfl]
  simp

/-- Three characters are held before the bracket that ends a comment, so the
hyphens that begin it cannot be those that end it. -/
theorem step_comment_close (content : List Char) (start offset : Nat) (opened : List (List Char)) :
    step ⟨.comment ('-' :: '-' :: (content.reverse ++ ['-', '-'])), start, offset, opened⟩ '>' =
      .emit ⟨.comment content, start, offset + 1⟩ (fresh (offset + 1) opened) := by
  obtain ⟨a, b, s, hab⟩ : ∃ a b s, content.reverse ++ ['-', '-'] = a :: b :: s := by
    cases content.reverse with
    | nil => exact ⟨_, _, [], rfl⟩
    | cons a s => cases s <;> exact ⟨_, _, _, rfl⟩
  have hevent := closeComment_of_hyphens content opened
  rw [hab] at hevent ⊢
  simp only [step, hevent]
  rfl

theorem byteLength_comment (content : List Char) :
    Text.byteLength ('!' :: '-' :: '-' :: (content ++ ['-', '-', '>'])) =
      Text.byteLength content + 6 := by
  show 1 + (1 + (1 + Text.byteLength (content ++ ['-', '-', '>']))) = _
  have hend : Text.byteLength ['-', '-', '>'] = 3 := rfl
  rw [Text.byteLength_append, hend]
  omega

theorem ends_comment {content : List Char} (h : ¬ ['-', '-'] <:+: content) :
    Ends .bracket ('!' :: '-' :: '-' :: (content ++ ['-', '-', '>'])) (.comment content) := by
  intro start offset opened opened' rest hr
  cases hr
  have hrun := @run_comment [] content h start (offset + 3) opened ('-' :: '-' :: '>' :: rest)
  have hstop : offset + 3 + Text.byteLength content + 1 + 1 + 1 =
      offset + (Text.byteLength content + 6) := by omega
  calc run ⟨.bracket, start, offset, opened⟩
        ('!' :: '-' :: '-' :: (content ++ ['-', '-', '>']) ++ rest)
      = run ⟨.comment ['-', '-'], start, offset + 3, opened⟩
          (content ++ '-' :: '-' :: '>' :: rest) := by
        rw [List.cons_append, List.cons_append, List.cons_append, List.append_assoc]
        rfl
    _ = run ⟨.comment (content.reverse ++ ['-', '-']), start,
          offset + 3 + Text.byteLength content, opened⟩ ('-' :: '-' :: '>' :: rest) := hrun
    _ = run ⟨.comment ('-' :: '-' :: (content.reverse ++ ['-', '-'])), start,
          offset + 3 + Text.byteLength content + 1 + 1, opened⟩ ('>' :: rest) := by
        rw [run_more (step_comment (.inl (by decide))), run_more (step_comment (.inl (by decide)))]
        rfl
    _ = _ := by rw [run_emit (step_comment_close _ _ _ _), hstop, byteLength_comment]

/-- A comment holds anything but two hyphens in a row. -/
theorem spells_comment {content : List Char} (h : ¬ ['-', '-'] <:+: content) :
    Spells ('<' :: '!' :: '-' :: '-' :: (content ++ ['-', '-', '>'])) (.comment content) :=
  (ends_comment h).spells

/-! ## Reading attributes -/

section Step

variable (position start : Nat) (name seen : List Char) (quote : Char) (done : List Attribute)
  (c : Char) (s : List Char)

theorem readAttributes_between_cons : readAttributes position .between done (c :: s) =
    readAttributes (position + c.utf8Size)
      (if isSpace c then .between else .name position [c]) done s := rfl

theorem readAttributes_name_cons : readAttributes position (.name start seen) done (c :: s) =
    if c = '=' then
      match behindEquals done start seen.reverse with
      | .ok mode => readAttributes (position + c.utf8Size) mode done s
      | .error fault => .error fault
    else
      readAttributes (position + c.utf8Size)
        (if isSpace c then .equals start seen.reverse else .name start (c :: seen)) done s := rfl

theorem readAttributes_equals_cons : readAttributes position (.equals start name) done (c :: s) =
    if c = '=' then
      match behindEquals done start name with
      | .ok mode => readAttributes (position + c.utf8Size) mode done s
      | .error fault => .error fault
    else if isSpace c then readAttributes (position + c.utf8Size) (.equals start name) done s
    else .error (.expectedEquals position) := rfl

theorem readAttributes_quote_cons : readAttributes position (.quote start name) done (c :: s) =
    if c = '"' ∨ c = '\'' then
      readAttributes (position + c.utf8Size) (.value start name c []) done s
    else if isSpace c then readAttributes (position + c.utf8Size) (.quote start name) done s
    else .error (.unquotedValue position) := rfl

theorem readAttributes_value_cons :
    readAttributes position (.value start name quote seen) done (c :: s) =
    if c = quote then
      match resolve seen.reverse with
      | .ok value =>
        readAttributes (position + c.utf8Size) .between (⟨start, name, value⟩ :: done) s
      | .error fault => .error (.reference fault)
    else readAttributes (position + c.utf8Size) (.value start name quote (c :: seen)) done s := rfl

end Step

theorem readAttributes_spaces (hw : Spaces w) (position : Nat) (done : List Attribute)
    (s : List Char) : readAttributes position .between done (w ++ s) =
      readAttributes (position + Text.byteLength w) .between done s := by
  induction w generalizing position with
  | nil => rfl
  | cons c w ih =>
    obtain ⟨hc, hw⟩ := List.forall_mem_cons.mp hw
    simp only [List.cons_append, readAttributes_between_cons, hc, if_true, ih hw, Text.byteLength,
      Nat.add_assoc]

theorem readAttributes_name (hname : ∀ c ∈ name, isNameChar c = true) (position start : Nat)
    (seen : List Char) (done : List Attribute) (s : List Char) :
    readAttributes position (.name start seen) done (name ++ s) =
      readAttributes (position + Text.byteLength name) (.name start (name.reverse ++ seen)) done
        s := by
  induction name generalizing position seen with
  | nil => rfl
  | cons c name ih =>
    obtain ⟨hc, hname⟩ := List.forall_mem_cons.mp hname
    have hequals : c ≠ '=' := ne_of_isNameChar rfl hc
    simp [readAttributes_name_cons, hequals, isSpace_eq_false_of_isNameChar hc, ih hname,
      Text.byteLength, Nat.add_assoc]

theorem readAttributes_equals (hw : Spaces w) {start : Nat} {found : List Char}
    {done : List Attribute} {mode : AttributeMode} (hmode : behindEquals done start found = .ok mode)
    (position : Nat) (s : List Char) :
    ∃ p, readAttributes position (.equals start found) done (w ++ '=' :: s) =
      readAttributes p mode done s := by
  induction w generalizing position with
  | nil => exact ⟨_, by simp only [List.nil_append, readAttributes_equals_cons, if_true, hmode]; rfl⟩
  | cons c w ih =>
    obtain ⟨hc, hw⟩ := List.forall_mem_cons.mp hw
    obtain ⟨p, hp⟩ := ih hw (position + c.utf8Size)
    have hequals : c ≠ '=' := ne_of_isSpace rfl hc
    exact ⟨p, by
      simpa only [List.cons_append, readAttributes_equals_cons, hequals, hc, if_false, if_true]⟩

/-- From the last character of a name to behind the equals sign. -/
theorem readAttributes_behind_name (hw : Spaces w) {start : Nat} {seen : List Char}
    {done : List Attribute} {mode : AttributeMode}
    (hmode : behindEquals done start seen.reverse = .ok mode) (position : Nat) (s : List Char) :
    ∃ p, readAttributes position (.name start seen) done (w ++ '=' :: s) =
      readAttributes p mode done s := by
  cases w with
  | nil => exact ⟨_, by simp only [List.nil_append, readAttributes_name_cons, if_true, hmode]; rfl⟩
  | cons c w =>
    obtain ⟨hc, hw⟩ := List.forall_mem_cons.mp hw
    obtain ⟨p, hp⟩ := readAttributes_equals hw hmode (position + c.utf8Size) s
    have hequals : c ≠ '=' := ne_of_isSpace rfl hc
    exact ⟨p, by
      simpa only [List.cons_append, readAttributes_name_cons, hequals, hc, if_false, if_true]⟩

theorem readAttributes_quote (hw : Spaces w) {quote : Char} (hquote : quote = '"' ∨ quote = '\'')
    (position start : Nat) (found : List Char) (done : List Attribute) (s : List Char) :
    ∃ p, readAttributes position (.quote start found) done (w ++ quote :: s) =
      readAttributes p (.value start found quote []) done s := by
  induction w generalizing position with
  | nil => exact ⟨_, by simp only [List.nil_append, readAttributes_quote_cons, hquote, if_true]; rfl⟩
  | cons c w ih =>
    obtain ⟨hc, hw⟩ := List.forall_mem_cons.mp hw
    obtain ⟨p, hp⟩ := ih hw (position + c.utf8Size)
    have hdouble : c ≠ '"' := ne_of_isSpace rfl hc
    have hsingle : c ≠ '\'' := ne_of_isSpace rfl hc
    exact ⟨p, by
      simpa only [List.cons_append, readAttributes_quote_cons, hdouble, hsingle, hc, or_self, if_false,
        if_true]⟩

theorem readAttributes_value {quote : Char} {a : List Char} (ha : quote ∉ a) (position start : Nat)
    (found seen : List Char) (done : List Attribute) (s : List Char) :
    readAttributes position (.value start found quote seen) done (a ++ s) =
      readAttributes (position + Text.byteLength a) (.value start found quote (a.reverse ++ seen)) done
        s := by
  induction a generalizing position seen with
  | nil => rfl
  | cons c a ih =>
    obtain ⟨hc, ha⟩ := List.ne_and_not_mem_of_not_mem_cons ha
    simp [readAttributes_value_cons, Ne.symm hc, ih ha, Text.byteLength, Nat.add_assoc]

/-- One attribute, as it is written, whose name is new. -/
theorem readAttributes_attribute {before after : List Char} {quote : Char}
    {done : List Attribute} (hname : IsName name) (hnew : ∀ a ∈ done, a.name ≠ name) (hw : Spaces w)
    (hbefore : Spaces before) (hafter : Spaces after) (hquote : quote = '"' ∨ quote = '\'')
    (position : Nat) (value s : List Char) :
    ∃ start p, readAttributes position .between done (w ++ (name ++ (before ++ '=' :: (after ++
        quote :: (escape value ++ quote :: s))))) =
      readAttributes p .between (⟨start, name, value⟩ :: done) s := by
  obtain ⟨c, rest, rfl⟩ := List.exists_cons_of_ne_nil hname.nonempty
  obtain ⟨hc, hrest⟩ := List.forall_mem_cons.mp hname.chars
  have hmode : ∀ start, behindEquals done start (rest.reverse ++ [c]).reverse =
      .ok (.quote start (c :: rest)) := fun start => by
    have hfind : done.find? (·.name = c :: rest) = none := by simpa using hnew
    rw [List.reverse_append, List.reverse_reverse, List.reverse_singleton, List.singleton_append,
      behindEquals, hfind]
  obtain ⟨p₁, h₁⟩ := readAttributes_behind_name hbefore (hmode (position + Text.byteLength w))
    (position + Text.byteLength w + c.utf8Size + Text.byteLength rest)
    (after ++ quote :: (escape value ++ quote :: s))
  obtain ⟨p₂, h₂⟩ := readAttributes_quote hafter hquote p₁ (position + Text.byteLength w) (c :: rest)
    done (escape value ++ quote :: s)
  refine ⟨position + Text.byteLength w, p₂ + Text.byteLength (escape value) + quote.utf8Size, ?_⟩
  rw [readAttributes_spaces hw, List.cons_append, readAttributes_between_cons,
    isSpace_eq_false_of_isNameChar hc, if_neg Bool.false_ne_true, readAttributes_name hrest, h₁, h₂,
    readAttributes_value (quote_not_mem_escape hquote value), readAttributes_value_cons, if_pos rfl,
    List.append_nil, List.reverse_reverse, resolve_escape]

theorem readAttributes_written (h : WrittenAttributes attributes as)
    (hnames : ∀ a ∈ attributes, IsName a.1.toList) (hdistinct : (attributes.map Prod.fst).Nodup)
    (hw : Spaces w) {done : List Attribute}
    (hnew : ∀ a ∈ attributes, ∀ f ∈ done, f.name ≠ a.1.toList) (position : Nat) :
    ∃ found, readAttributes position .between done (as ++ w) = .ok (done.reverse ++ found) ∧
      found.map (fun a => (String.ofList a.name, String.ofList a.value)) = attributes := by
  induction h generalizing done position with
  | nil =>
    have hend := readAttributes_spaces hw position done []
    rw [List.append_nil] at hend
    exact ⟨[], by rw [List.nil_append, hend, List.append_nil]; rfl, rfl⟩
  | @cons name value quote w' before after s attributes hw' _ hbefore hafter hquote _ ih =>
    rw [List.forall_mem_cons] at hnames hnew
    rw [List.map_cons, List.nodup_cons] at hdistinct
    obtain ⟨start, p, hread⟩ := readAttributes_attribute hnames.1 hnew.1 hw' hbefore hafter hquote
      position value.toList (s ++ w)
    have hnew' : ∀ a ∈ attributes, ∀ f ∈ (⟨start, name.toList, value.toList⟩ : Attribute) :: done,
        f.name ≠ a.1.toList := fun a ha => by
      refine List.forall_mem_cons.mpr ⟨fun heq => ?_, hnew.2 a ha⟩
      exact hdistinct.1 (List.mem_map.mpr ⟨a, ha, (String.toList_inj.mp heq).symm⟩)
    obtain ⟨found, hfound, hmap⟩ := ih hnames.2 hdistinct.2 hnew' p
    refine ⟨⟨start, name.toList, value.toList⟩ :: found, ?_, by simp [hmap]⟩
    rw [List.reverse_cons, List.append_assoc, List.singleton_append] at hfound
    rw [← hfound, ← hread]
    simp only [List.append_assoc, List.cons_append]

theorem head_attributes (h : WrittenAttributes attributes as) (hw : Spaces w) :
    ∀ c ∈ (as ++ w).head?, isSpace c = true := by
  cases h with
  | nil => exact fun c hc => hw c (List.mem_of_mem_head? hc)
  | @cons name value quote w' before after s attributes hw' hne _ _ _ _ =>
    obtain ⟨c, rest, rfl⟩ := List.exists_cons_of_ne_nil hne
    simpa using hw' c List.mem_cons_self

/-- **Attributes are read as they were written.** -/
theorem attributes_written (hname : IsName name) (h : WrittenAttributes attributes as)
    (hnames : ∀ a ∈ attributes, IsName a.1.toList) (hdistinct : (attributes.map Prod.fst).Nodup)
    (hw : Spaces w) :
    ∃ found, Markup.attributes (name ++ (as ++ w)) = .ok found ∧
      found.map (fun a => (String.ofList a.name, String.ofList a.value)) = attributes := by
  have hnew : ∀ a ∈ attributes, ∀ f ∈ ([] : List Attribute), f.name ≠ a.1.toList := by simp
  obtain ⟨found, hread, hmap⟩ := readAttributes_written h hnames hdistinct hw hnew
    (Text.byteLength name)
  refine ⟨found, ?_, hmap⟩
  rw [Markup.attributes, tagName_of_isName hname (head_attributes h hw), List.drop_left]
  exact hread

/-! ## Distinct names -/

/-- A name that is to have a value is not that of an attribute before. -/
def AttributeMode.Fresh (done : List Attribute) : AttributeMode → Prop
  | quote _ new | value _ new _ _ => new ∉ done.map (·.name)
  | _ => True

theorem fresh_behindEquals {done : List Attribute} {start : Nat} {name : List Char}
    {mode : AttributeMode} (h : behindEquals done start name = .ok mode) : mode.Fresh done := by
  unfold behindEquals at h
  split at h
  · cases h
  · rename_i hnone
    cases h
    simpa [AttributeMode.Fresh] using hnone

theorem nodup_readAttributes {s : List Char} {position : Nat} {mode : AttributeMode}
    {done found : List Attribute} (h : readAttributes position mode done s = .ok found)
    (hfresh : mode.Fresh done) (hdone : (done.map (·.name)).Nodup) :
    (found.map (·.name)).Nodup := by
  induction s generalizing position mode done with
  | nil =>
    cases mode with
    | between =>
      cases h
      rw [List.map_reverse]
      exact (List.reverse_perm _).nodup_iff.mpr hdone
    | _ => cases h
  | cons c s ih =>
    cases mode with
    | between =>
      rw [readAttributes_between_cons] at h
      exact ih h (by split <;> trivial) hdone
    | name start seen =>
      rw [readAttributes_name_cons] at h
      split at h
      · split at h
        · rename_i mode hmode
          exact ih h (fresh_behindEquals hmode) hdone
        · cases h
      · exact ih h (by split <;> trivial) hdone
    | equals start name =>
      rw [readAttributes_equals_cons] at h
      split at h
      · split at h
        · rename_i mode hmode
          exact ih h (fresh_behindEquals hmode) hdone
        · cases h
      · split at h
        · exact ih h trivial hdone
        · cases h
    | quote start name =>
      rw [readAttributes_quote_cons] at h
      split at h
      · exact ih h hfresh hdone
      · split at h
        · exact ih h hfresh hdone
        · cases h
    | value start name quote seen =>
      rw [readAttributes_value_cons] at h
      split at h
      · split at h
        · exact ih h trivial (List.nodup_cons.mpr ⟨hfresh, hdone⟩)
        · cases h
      · exact ih h hfresh hdone

/-- **No two attributes of a tag have the same name.** -/
theorem nodup_attributes {content : List Char} {found : List Attribute}
    (h : Markup.attributes content = .ok found) : (found.map (·.name)).Nodup :=
  nodup_readAttributes h trivial .nil

end VectorLint.Markup
