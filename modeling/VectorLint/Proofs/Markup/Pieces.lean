/-
A text in pieces. Which event a piece of markup spells depends neither on
where the piece stands nor on what follows it (`Spells`); only an end tag
asks for the open tags, and a text ends where markup begins. So the scanner's
run over a text is a cutting into pieces, and the other way round
(`spelled_of_run`, `run_of_spelled`), and a cutting can be cut again and put
somewhere else.
-/
import VectorLint.Markup.Scanner

namespace VectorLint.Markup

def Event.isText : Event → Bool
  | .text _ => true
  | _ => false

def Mode.isText : Mode → Bool
  | .text _ => true
  | _ => false

/-- The names of the open tags after an event; none if an end tag meets
another name. -/
def Event.replay : Event → List (List Char) → Option (List (List Char))
  | .startTag content, opened => some (tagName content :: opened)
  | .endTag _, [] => none
  | .endTag name, expected :: opened => if name = expected then some opened else none
  | _, opened => some opened

/-- The names of the open tags after a sequence of events. -/
def replayAll (opened : List (List Char)) (es : List Located) : Option (List (List Char)) :=
  es.foldlM (fun opened e => e.event.replay opened) opened

/-- A text goes on no further: it is over, or markup begins. -/
def Boundary (rest : List Char) : Prop :=
  rest = [] ∨ ∃ r, rest = '<' :: r

namespace Scan

/-- A scan between two pieces. -/
def fresh (offset : Nat) (opened : List (List Char)) : Scan :=
  ⟨.text [], offset, offset, opened⟩

/-- The result of a run with an event before it. -/
def emit (e : Located) (result : List Located × Option Failure) : List Located × Option Failure :=
  (e :: result.1, result.2)

theorem run_more {s s' : Scan} {c : Char} (h : s.step c = .more s') (text : List Char) :
    s.run (c :: text) = s'.run text := by
  simp only [run, h]

theorem run_emit {s s' : Scan} {c : Char} {e : Located} (h : s.step c = .emit e s')
    (text : List Char) : s.run (c :: text) = emit e (s'.run text) := by
  simp only [run, h, emit]

theorem run_fail {s : Scan} {c : Char} {f : Failure} (h : s.step c = .fail f) (text : List Char) :
    s.run (c :: text) = ([], some f) := by
  simp only [run, h]

/-! ## What a step does -/

/-- What a closed piece amounts to, as far as the open tags allow it. -/
def Closes (closed : List (List Char) → Closed) (e : Event) : Prop :=
  e.isText = false ∧ (∀ opened opened', e.replay opened = some opened' →
      closed opened = .event e opened') ∧
    ∀ opened, e.replay opened = none → ∃ f, closed opened = .fault f

theorem closeEndTag_closes (content : List Char) :
    Closes (closeEndTag content) (.endTag (endTagName content)) := by
  refine ⟨rfl, fun opened opened' h => ?_, fun opened h => ?_⟩
  · cases opened with
    | nil => simp [Event.replay] at h
    | cons expected opened =>
      simp only [Event.replay, Option.ite_none_right_eq_some, Option.some.injEq] at h
      obtain ⟨hname, rfl⟩ := h
      simp [closeEndTag, hname]
  · cases opened with
    | nil => exact ⟨_, rfl⟩
    | cons expected opened =>
      simp only [Event.replay, ite_eq_right_iff, reduceCtorEq, imp_false] at h
      simp [closeEndTag, h]

theorem closeTag_of_slash {seen content : List Char} (h : seen.reverse = '/' :: content) :
    closeTag seen = closeEndTag content := by
  funext opened
  simp only [closeTag, h]

theorem closeTag_of_last_slash {content : List Char}
    (h : ∀ rest, ('/' :: content).reverse ≠ '/' :: rest) (opened : List (List Char)) :
    closeTag ('/' :: content) opened = .event (.emptyTag content.reverse) opened := by
  unfold closeTag
  split
  · rename_i hrev
    exact absurd hrev (h _)
  · rename_i hseen _
    cases hseen
    rfl
  · rename_i hseen
    exact absurd rfl (hseen content)

theorem closeTag_of_no_slash {seen : List Char} (hfirst : ∀ rest, seen.reverse ≠ '/' :: rest)
    (hlast : ∀ rest, seen ≠ '/' :: rest) (opened : List (List Char)) :
    closeTag seen opened = .event (.startTag seen.reverse) (tagName seen.reverse :: opened) := by
  unfold closeTag
  split
  · rename_i hrev
    exact absurd hrev (hfirst _)
  · exact absurd rfl (hlast _)
  · rfl

theorem closes_of_forall {closed : List (List Char) → Closed} {e : Event} (ht : e.isText = false)
    (h : ∀ opened, ∃ opened', e.replay opened = some opened' ∧ closed opened = .event e opened') :
    Closes closed e := by
  refine ⟨ht, fun opened opened' hr => ?_, fun opened hr => ?_⟩
  · obtain ⟨o, ho, hc⟩ := h opened
    rw [hr, Option.some.injEq] at ho
    rw [hc, ho]
  · obtain ⟨o, ho, -⟩ := h opened
    simp [hr] at ho

theorem closeTag_closes (seen : List Char) : ∃ e, Closes (closeTag seen) e := by
  by_cases hfirst : ∃ rest, seen.reverse = '/' :: rest
  · obtain ⟨content, h⟩ := hfirst
    exact ⟨_, closeTag_of_slash h ▸ closeEndTag_closes content⟩
  · have hfirst' : ∀ rest, seen.reverse ≠ '/' :: rest := fun rest h => hfirst ⟨rest, h⟩
    by_cases hlast : ∃ rest, seen = '/' :: rest
    · obtain ⟨content, rfl⟩ := hlast
      exact ⟨.emptyTag content.reverse, closes_of_forall rfl fun opened =>
        ⟨_, rfl, closeTag_of_last_slash hfirst' opened⟩⟩
    · exact ⟨.startTag seen.reverse, closes_of_forall rfl fun opened =>
        ⟨_, rfl, closeTag_of_no_slash hfirst' (fun rest h => hlast ⟨rest, h⟩) opened⟩⟩

/-- A piece that closes without regard to the open tags, or is at fault. -/
def ClosesOrFails (closed : List (List Char) → Closed) : Prop :=
  (∃ e, Closes closed e) ∨ ∀ opened, ∃ f, closed opened = .fault f

theorem closeInstruction_closes (seen : List Char) : ClosesOrFails (closeInstruction seen) := by
  unfold closeInstruction
  split
  · exact .inl ⟨.aside, closes_of_forall rfl fun opened => ⟨_, rfl, rfl⟩⟩
  · exact .inr fun opened => ⟨_, rfl⟩

theorem closeComment_closes (seen : List Char) : ClosesOrFails (closeComment seen) := by
  unfold closeComment
  split
  · exact .inl ⟨.comment _, closes_of_forall rfl fun opened => ⟨_, rfl, rfl⟩⟩
  · exact .inr fun opened => ⟨_, rfl⟩

theorem closeCData_closes (seen : List Char) : ClosesOrFails (closeCData seen) := by
  unfold closeCData
  split
  · exact .inl ⟨.cdata _, closes_of_forall rfl fun opened => ⟨_, rfl, rfl⟩⟩
  · exact .inr fun opened => ⟨_, rfl⟩

theorem closeDoctype_closes (seen : List Char) : ClosesOrFails (closeDoctype seen) := by
  unfold closeDoctype
  split
  · exact .inr fun opened => ⟨_, rfl⟩
  · split
    · exact .inr fun opened => ⟨_, rfl⟩
    · exact .inl ⟨.aside, closes_of_forall rfl fun opened => ⟨_, rfl, rfl⟩⟩

/-- What a character does inside of markup, wherever the markup stands. -/
inductive Moves (m : Mode) (c : Char) : Prop
  | more (m' : Mode) (hm : m'.isText = false)
      (h : ∀ start offset opened, step ⟨m, start, offset, opened⟩ c =
        .more ⟨m', start, offset + c.utf8Size, opened⟩)
  | close (e : Event) (ht : e.isText = false)
      (h : ∀ start offset opened opened', e.replay opened = some opened' →
        step ⟨m, start, offset, opened⟩ c =
          .emit ⟨e, start, offset + c.utf8Size⟩ (fresh (offset + c.utf8Size) opened'))
      (hf : ∀ start offset opened, e.replay opened = none →
        ∃ f, step ⟨m, start, offset, opened⟩ c = .fail f)
  | fail (h : ∀ start offset opened, ∃ f, step ⟨m, start, offset, opened⟩ c = .fail f)

theorem moves_of_closesOrFails {m : Mode} {c : Char} {closed : List (List Char) → Closed}
    (hc : ClosesOrFails closed)
    (h : ∀ start offset opened, step ⟨m, start, offset, opened⟩ c =
      close ⟨m, start, offset, opened⟩ c (closed opened)) : Moves m c := by
  rcases hc with ⟨e, ht, hsome, hnone⟩ | hfail
  · refine .close e ht (fun start offset opened opened' hr => ?_) fun start offset opened hr => ?_
    · rw [h, hsome opened opened' hr]
      rfl
    · obtain ⟨f, hf⟩ := hnone opened hr
      exact ⟨⟨f, offset + c.utf8Size⟩, by rw [h, hf]; rfl⟩
  · refine .fail fun start offset opened => ?_
    obtain ⟨f, hf⟩ := hfail opened
    exact ⟨⟨f, offset + c.utf8Size⟩, by rw [h, hf]; rfl⟩

theorem moves_tag (m : Mode) (c : Char) (quoted : Option Char) (seen : List Char)
    (h : ∀ start offset opened, step ⟨m, start, offset, opened⟩ c =
      stepTag ⟨m, start, offset, opened⟩ quoted seen c) : Moves m c := by
  cases quoted with
  | some q => exact .more (.tag (if c = q then none else some q) (c :: seen)) rfl h
  | none =>
    by_cases hc : c = '>'
    · refine moves_of_closesOrFails (.inl (closeTag_closes seen)) fun start offset opened => ?_
      rw [h, stepTag, if_pos hc]
    · refine .more (.tag (if c = '"' ∨ c = '\'' then some c else none) (c :: seen)) rfl
        fun start offset opened => ?_
      rw [h, stepTag, if_neg hc]
      rfl

theorem moves_bracket (c : Char) : Moves .bracket c := by
  by_cases hbang : c = '!'
  · subst hbang
    exact .more .bang rfl fun start offset opened => rfl
  by_cases hquestion : c = '?'
  · subst hquestion
    exact .more (.instruction ['?']) rfl fun start offset opened => rfl
  refine moves_tag _ c none [] fun start offset opened => ?_
  simp only [step, hbang, hquestion, if_false]

theorem moves_instruction (seen : List Char) (c : Char) : Moves (.instruction seen) c := by
  by_cases hc : c = '>' ∧ seen.head? = some '?'
  · refine moves_of_closesOrFails (closeInstruction_closes seen) fun start offset opened => ?_
    simp only [step, hc, and_self, if_true]
  · refine .more (.instruction (c :: seen)) rfl fun start offset opened => ?_
    simp only [step, hc, if_false]
    rfl

theorem moves_bang (c : Char) : Moves .bang c := by
  by_cases hdash : c = '-'
  · subst hdash
    exact .more (.comment ['-']) rfl fun start offset opened => rfl
  by_cases hbracket : c = '['
  · subst hbracket
    exact .more (.cdata ['[']) rfl fun start offset opened => rfl
  by_cases hd : c = 'D' ∨ c = 'd'
  · refine .more (.doctype 0 [c]) rfl fun start offset opened => ?_
    simp only [step, hdash, hbracket, hd, if_true, if_false]
    rfl
  · exact .fail fun start offset opened =>
      ⟨_, by simp only [step, hdash, hbracket, hd, if_false]; rfl⟩

theorem moves_comment (seen : List Char) (c : Char) : Moves (.comment seen) c := by
  by_cases hc : ∃ a b rest, c = '>' ∧ seen = '-' :: '-' :: a :: b :: rest
  · obtain ⟨a, b, rest, rfl, rfl⟩ := hc
    exact moves_of_closesOrFails (closeComment_closes _) fun start offset opened => rfl
  · refine .more (.comment (c :: seen)) rfl fun start offset opened => ?_
    simp only [step]
    split
    · rename_i a b rest
      exact absurd ⟨a, b, rest, rfl, rfl⟩ hc
    · rfl

theorem moves_cdata (seen : List Char) (c : Char) : Moves (.cdata seen) c := by
  by_cases hc : ∃ rest, c = '>' ∧ seen = ']' :: ']' :: rest
  · obtain ⟨rest, rfl, rfl⟩ := hc
    exact moves_of_closesOrFails (closeCData_closes _) fun start offset opened => rfl
  · refine .more (.cdata (c :: seen)) rfl fun start offset opened => ?_
    simp only [step]
    split
    · rename_i rest
      exact absurd ⟨rest, rfl, rfl⟩ hc
    · rfl

theorem moves_doctype (depth : Nat) (seen : List Char) (c : Char) :
    Moves (.doctype depth seen) c := by
  by_cases hopen : c = '<'
  · subst hopen
    exact .more (.doctype (depth + 1) ('<' :: seen)) rfl fun start offset opened => rfl
  by_cases hclose : c = '>'
  · subst hclose
    cases depth with
    | zero => exact moves_of_closesOrFails (closeDoctype_closes seen) fun start offset opened => rfl
    | succ depth => exact .more (.doctype depth ('>' :: seen)) rfl fun start offset opened => rfl
  · refine .more (.doctype depth (c :: seen)) rfl fun start offset opened => ?_
    simp only [step, hopen, hclose, if_false]
    rfl

theorem moves (m : Mode) (hm : m.isText = false) (c : Char) : Moves m c := by
  cases m with
  | text seen => cases hm
  | bracket => exact moves_bracket c
  | tag quoted seen => exact moves_tag _ c quoted seen fun start offset opened => rfl
  | instruction seen => exact moves_instruction seen c
  | bang => exact moves_bang c
  | comment seen => exact moves_comment seen c
  | cdata seen => exact moves_cdata seen c
  | doctype depth seen => exact moves_doctype depth seen c

end Scan

/-! ## Pieces -/

open Scan

/-- The characters `a`, read inside of markup in the mode `m`, end an event. -/
def Ends (m : Mode) (a : List Char) (e : Event) : Prop :=
  ∀ start offset opened opened' rest, e.replay opened = some opened' →
    run ⟨m, start, offset, opened⟩ (a ++ rest) =
      emit ⟨e, start, offset + Text.byteLength a⟩
        ((fresh (offset + Text.byteLength a) opened').run rest)

/-- The characters `a` spell the event `e`, wherever they stand. -/
structure Spells (a : List Char) (e : Event) : Prop where
  nonempty : a ≠ []
  markup : e.isText = false → ∃ b, a = '<' :: b
  run : ∀ offset opened opened' rest, e.replay opened = some opened' →
    (e.isText = true → Boundary rest) →
    (fresh offset opened).run (a ++ rest) =
      emit ⟨e, offset, offset + Text.byteLength a⟩
        ((fresh (offset + Text.byteLength a) opened').run rest)

theorem run_fresh_bracket (offset : Nat) (opened : List (List Char)) (text : List Char) :
    (fresh offset opened).run ('<' :: text) = run ⟨.bracket, offset, offset + 1, opened⟩ text :=
  run_more rfl text

theorem Ends.spells {a : List Char} {e : Event} (h : Ends .bracket a e) :
    Spells ('<' :: a) e where
  nonempty := List.cons_ne_nil _ _
  markup _ := ⟨a, rfl⟩
  run offset opened opened' rest hr _ := by
    rw [List.cons_append, run_fresh_bracket, h offset (offset + 1) opened opened' rest hr]
    simp only [Text.byteLength, Nat.add_assoc]
    rfl

theorem run_text {a : List Char} (ha : '<' ∉ a) (seen : List Char) (start offset : Nat)
    (opened : List (List Char)) (rest : List Char) :
    run ⟨.text seen, start, offset, opened⟩ (a ++ rest) =
      run ⟨.text (a.reverse ++ seen), start, offset + Text.byteLength a, opened⟩ rest := by
  induction a generalizing seen offset with
  | nil => rfl
  | cons c a ih =>
    obtain ⟨hc, ha⟩ := List.ne_and_not_mem_of_not_mem_cons ha
    have hstep : step ⟨.text seen, start, offset, opened⟩ c =
        .more ⟨.text (c :: seen), start, offset + c.utf8Size, opened⟩ := by
      simp only [step, Ne.symm hc, if_false]
      rfl
    rw [List.cons_append, run_more hstep, ih ha]
    simp [Text.byteLength, Nat.add_assoc]

theorem spells_text {a : List Char} (hne : a ≠ []) (ha : '<' ∉ a) : Spells a (.text a) where
  nonempty := hne
  markup h := by cases h
  run offset opened opened' rest hr hb := by
    cases hr
    obtain ⟨c, s, hs⟩ := List.exists_cons_of_ne_nil (List.reverse_ne_nil_iff.mpr hne)
    have hback : (c :: s).reverse = a := by rw [← hs, List.reverse_reverse]
    rw [fresh, run_text ha, List.append_nil, hs]
    rcases hb rfl with rfl | ⟨r, rfl⟩
    · simp only [run, finish, emit, fresh, hback]
    · have hstep : step ⟨.text (c :: s), offset, offset + Text.byteLength a, opened⟩ '<' =
          .emit ⟨.text a, offset, offset + Text.byteLength a⟩
            ⟨.bracket, offset + Text.byteLength a, offset + Text.byteLength a + 1, opened⟩ := by
        simp [step, hback]
      rw [run_emit hstep, run_fresh_bracket]

/-- Inside of markup a run without failure ends an event first. -/
theorem exists_ends {m : Mode} (hm : m.isText = false) {start offset : Nat}
    {opened : List (List Char)} {text : List Char} {es : List Located}
    (h : run ⟨m, start, offset, opened⟩ text = (es, none)) :
    ∃ e a b opened' es', text = a ++ b ∧ es = ⟨e, start, offset + Text.byteLength a⟩ :: es' ∧
      e.isText = false ∧ e.replay opened = some opened' ∧ Ends m a e ∧
      (fresh (offset + Text.byteLength a) opened').run b = (es', none) := by
  induction text generalizing m offset with
  | nil => cases m <;> simp [run, finish, Mode.isText] at h hm
  | cons c text ih =>
    cases moves m hm c with
    | more m' hm' hmore =>
      rw [run_more (hmore start offset opened)] at h
      obtain ⟨e, a, b, opened', es', rfl, rfl, ht, hr, hends, hrun⟩ := ih hm' h
      refine ⟨e, c :: a, b, opened', es', rfl, ?_, ht, hr, ?_, ?_⟩
      · simp only [Text.byteLength, Nat.add_assoc]
      · intro start offset opened opened' rest hr
        rw [List.cons_append, run_more (hmore start offset opened), hends _ _ _ _ _ hr]
        simp only [Text.byteLength, Nat.add_assoc]
      · simpa only [Text.byteLength, Nat.add_assoc] using hrun
    | close e ht hclose hfail =>
      cases hr : e.replay opened with
      | none =>
        obtain ⟨f, hf⟩ := hfail start offset opened hr
        simp [run_fail hf] at h
      | some opened' =>
        rw [run_emit (hclose start offset opened opened' hr)] at h
        obtain ⟨hes, hnone⟩ := Prod.mk.inj h
        refine ⟨e, [c], text, opened', _, rfl, hes.symm, ht, hr, ?_, Prod.ext rfl hnone⟩
        intro start offset opened opened' rest hr
        rw [List.singleton_append, run_emit (hclose start offset opened opened' hr)]
        rfl
    | fail hfail =>
      obtain ⟨f, hf⟩ := hfail start offset opened
      simp [run_fail hf] at h

/-- Every text is some text without markup, up to a boundary. -/
theorem exists_boundary (text : List Char) : ∃ a b, text = a ++ b ∧ '<' ∉ a ∧ Boundary b := by
  induction text with
  | nil => exact ⟨[], [], rfl, List.not_mem_nil, .inl rfl⟩
  | cons c text ih =>
    by_cases hc : c = '<'
    · exact ⟨[], c :: text, rfl, List.not_mem_nil, .inr ⟨text, by rw [hc]⟩⟩
    · obtain ⟨a, b, rfl, ha, hb⟩ := ih
      exact ⟨c :: a, b, rfl, by simp [Ne.symm hc, ha], hb⟩

/-- Between pieces a run without failure spells an event first. -/
theorem exists_spells {offset : Nat} {opened : List (List Char)} {text : List Char}
    {es : List Located} (hne : text ≠ []) (h : (fresh offset opened).run text = (es, none)) :
    ∃ e a b opened' es', text = a ++ b ∧ es = ⟨e, offset, offset + Text.byteLength a⟩ :: es' ∧
      e.replay opened = some opened' ∧ Spells a e ∧ (e.isText = true → Boundary b) ∧
      (fresh (offset + Text.byteLength a) opened').run b = (es', none) := by
  obtain ⟨a, b, rfl, ha, hb⟩ := exists_boundary text
  by_cases hempty : a = []
  · subst hempty
    obtain rfl | ⟨r, rfl⟩ := hb
    · exact absurd rfl hne
    rw [List.nil_append, run_fresh_bracket] at h
    obtain ⟨e, a, b, opened', es', rfl, rfl, ht, hr, hends, hrun⟩ := exists_ends rfl h
    have hlen : offset + 1 + Text.byteLength a = offset + Text.byteLength ('<' :: a) :=
      Nat.add_assoc offset 1 _
    exact ⟨e, '<' :: a, b, opened', es', rfl, by rw [hlen], hr, hends.spells, by simp [ht],
      hlen ▸ hrun⟩
  · have hspells := spells_text hempty ha
    rw [hspells.run offset opened opened _ rfl fun _ => hb] at h
    obtain ⟨hes, hnone⟩ := Prod.mk.inj h
    exact ⟨_, a, b, opened, _, rfl, hes.symm, rfl, hspells, fun _ => hb, Prod.ext rfl hnone⟩

/-! ## Cuttings -/

/-- The text, from byte `offset` on, is cut into pieces that spell the
events. -/
inductive Spelled : (offset : Nat) → List Char → List Located → Prop
  | nil (offset : Nat) : Spelled offset [] []
  | cons {offset : Nat} {a text : List Char} {e : Event} {es : List Located} (ha : Spells a e)
      (hb : e.isText = true → Boundary text)
      (h : Spelled (offset + Text.byteLength a) text es) :
      Spelled offset (a ++ text) (⟨e, offset, offset + Text.byteLength a⟩ :: es)

/-- **A run without failure cuts its text into pieces**, and its end tags
close what is open. -/
theorem spelled_of_run {offset : Nat} {opened : List (List Char)} {text : List Char}
    {es : List Located} (h : (fresh offset opened).run text = (es, none)) :
    Spelled offset text es ∧ ∃ opened', replayAll opened es = some opened' := by
  induction es generalizing offset opened text with
  | nil =>
    by_cases hne : text = []
    · subst hne
      exact ⟨.nil offset, opened, rfl⟩
    · obtain ⟨e, a, b, opened', es', -, hes, -⟩ := exists_spells hne h
      cases hes
  | cons e es ih =>
    by_cases hne : text = []
    · subst hne
      cases h
    · obtain ⟨e, a, b, opened', es', rfl, hes, hr, hspells, hb, hrun⟩ := exists_spells hne h
      cases hes
      obtain ⟨hspelled, opened'', hall⟩ := ih hrun
      exact ⟨.cons hspells hb hspelled, opened'', by simp [replayAll, hr, ← hall]⟩

/-- **A text in pieces is scanned as their events** wherever its end tags
close what is open. -/
theorem run_of_spelled {offset : Nat} {opened opened' : List (List Char)} {text : List Char}
    {es : List Located} (h : Spelled offset text es) (hr : replayAll opened es = some opened') :
    (fresh offset opened).run text = (es, none) := by
  induction h generalizing opened with
  | nil => rfl
  | cons ha hb _ ih =>
    simp only [replayAll, List.foldlM_cons, Option.bind_eq_bind, Option.bind_eq_some_iff] at hr
    obtain ⟨o, ho, hr⟩ := hr
    rw [ha.run _ _ _ _ ho hb, ih hr]
    rfl

theorem Boundary.append {a b : List Char} (ha : Boundary a) (hb : Boundary b) : Boundary (a ++ b) := by
  rcases ha with rfl | ⟨r, rfl⟩
  · exact hb
  · exact .inr ⟨r ++ b, rfl⟩

theorem Spelled.append {offset : Nat} {a b : List Char} {es es' : List Located}
    (ha : Spelled offset a es) (hb : Spelled (offset + Text.byteLength a) b es') (hab : Boundary b) :
    Spelled offset (a ++ b) (es ++ es') := by
  induction ha with
  | nil => exact hb
  | cons ha ht _ ih =>
    rw [Text.byteLength_append, ← Nat.add_assoc] at hb
    rw [List.append_assoc]
    exact .cons ha (fun he => (ht he).append hab) (ih hb)

/-- Some of the events are spelled by some of the text. -/
theorem Spelled.split {offset : Nat} {text : List Char} {es es' : List Located}
    (h : Spelled offset text (es ++ es')) :
    ∃ a b, text = a ++ b ∧ Spelled offset a es ∧ Spelled (offset + Text.byteLength a) b es' := by
  induction es generalizing offset text with
  | nil => exact ⟨[], text, rfl, .nil offset, h⟩
  | cons e es ih =>
    cases h with
    | @cons _ p rest e _ hp ht h =>
      obtain ⟨a, b, rfl, ha, hb⟩ := ih h
      refine ⟨p ++ a, b, by rw [List.append_assoc], .cons hp (fun he => ?_) ha, ?_⟩
      · rcases ht he with hnil | ⟨r, hr⟩
        · exact .inl (List.append_eq_nil_iff.mp hnil).1
        · cases a with
          | nil => exact .inl rfl
          | cons c a => exact .inr ⟨a, by rw [(List.cons.inj hr).1]⟩
      · rwa [Text.byteLength_append, ← Nat.add_assoc]

/-- The event somewhere else in a text, `shift` bytes further to the front. -/
def Located.shift (shift : Nat) (e : Located) : Located :=
  ⟨e.event, e.start - shift, e.stop - shift⟩

theorem Spelled.shift {shift offset : Nat} {text : List Char} {es : List Located}
    (h : Spelled (shift + offset) text es) : Spelled offset text (es.map (Located.shift shift)) := by
  generalize hfrom : shift + offset = start at h
  induction h generalizing offset with
  | nil => exact .nil offset
  | @cons start a text e es ha hb _ ih =>
    subst hfrom
    have hes := @ih (offset + Text.byteLength a) (Nat.add_assoc _ _ _).symm
    have he : Located.shift shift ⟨e, shift + offset, shift + offset + Text.byteLength a⟩ =
        ⟨e, offset, offset + Text.byteLength a⟩ := by
      simp only [Located.shift, Nat.add_assoc, Nat.add_sub_cancel_left]
    rw [List.map_cons, he]
    exact .cons ha hb hes

end VectorLint.Markup
