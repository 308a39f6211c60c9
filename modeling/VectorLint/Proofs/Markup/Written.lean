/-
How events look. What is read of a piece so far is known from the scanner's
mode (`Mode.read`); a character is read behind it, or ends the piece
(`reading_step`).

`Spells.writtenAs`: so the characters that spell an event are those that it
is written with.
-/
import VectorLint.Proofs.Markup.Pieces

namespace VectorLint.Markup

/-- The characters that an event is written with; little is said of what
leaves no trace. -/
inductive Event.WrittenAs : Event → List Char → Prop
  | text (raw : List Char) : WrittenAs (.text raw) raw
  | startTag (content : List Char) : WrittenAs (.startTag content) ('<' :: (content ++ ['>']))
  | emptyTag (content : List Char) : WrittenAs (.emptyTag content) ('<' :: (content ++ ['/', '>']))
  | endTag (content : List Char) :
      WrittenAs (.endTag (endTagName content)) ('<' :: '/' :: (content ++ ['>']))
  | cdata (content : List Char) :
      WrittenAs (.cdata content) ("<![CDATA[".toList ++ (content ++ "]]>".toList))
  | comment (content : List Char) :
      WrittenAs (.comment content) ("<!--".toList ++ (content ++ "-->".toList))
  | aside (a : List Char) : WrittenAs .aside ('<' :: a)

/-- What is read of the current piece. -/
def Mode.read : Mode → List Char
  | .text seen => seen.reverse
  | .bracket => ['<']
  | .tag _ seen | .instruction seen => '<' :: seen.reverse
  | .bang => ['<', '!']
  | .comment seen | .cdata seen | .doctype _ seen => '<' :: '!' :: seen.reverse

/-! ## Closing -/

theorem writtenAs_closeTag {seen : List Char} {opened opened' : List (List Char)} {e : Event}
    (h : closeTag seen opened = .event e opened') :
    e.WrittenAs ('<' :: (seen.reverse ++ ['>'])) := by
  unfold closeTag at h
  split at h
  · rename_i content hcontent
    rw [hcontent]
    cases opened with
    | nil => cases h
    | cons expected opened =>
      rw [closeEndTag] at h
      split at h
      · cases h
        exact .endTag content
      · cases h
  · rename_i content _
    cases h
    rw [List.reverse_cons, List.append_assoc]
    exact .emptyTag content.reverse
  · cases h
    exact .startTag _

theorem writtenAs_closeInstruction {seen : List Char} {opened opened' : List (List Char)} {e : Event}
    (h : closeInstruction seen opened = .event e opened') (a : List Char) :
    e.WrittenAs ('<' :: a) := by
  unfold closeInstruction at h
  split at h
  · cases h
    exact .aside a
  · cases h

theorem writtenAs_closeDoctype {seen : List Char} {opened opened' : List (List Char)} {e : Event}
    (h : closeDoctype seen opened = .event e opened') (a : List Char) : e.WrittenAs ('<' :: a) := by
  unfold closeDoctype at h
  split at h
  · cases h
  · split at h
    · cases h
    · cases h
      exact .aside a

/-- An end that does not reach into what stands in front. -/
theorem take_append_of_append_eq {front content s stop : List Char} (h : front ++ content = s ++ stop)
    (hlen : front.length ≤ s.length) :
    content.take (content.length - stop.length) ++ stop = content := by
  obtain ⟨t, rfl⟩ : front <+: s :=
    List.prefix_of_prefix_length_le ⟨content, h⟩ (List.prefix_append s stop) hlen
  rw [List.append_assoc, List.append_cancel_left_eq] at h
  rw [h, List.length_append, Nat.add_sub_cancel, List.take_left]

theorem writtenAs_closeComment {rest : List Char} {a b : Char} {opened opened' : List (List Char)}
    {e : Event} (h : closeComment ('-' :: '-' :: a :: b :: rest) opened = .event e opened') :
    e.WrittenAs ('<' :: '!' :: (('-' :: '-' :: a :: b :: rest).reverse ++ ['>'])) := by
  unfold closeComment at h
  split at h
  · rename_i content hcontent
    cases h
    rw [Text.stripPrefix?_eq_some] at hcontent
    have hstop : ('-' :: '-' :: a :: b :: rest).reverse = (a :: b :: rest).reverse ++ ['-', '-'] := by
      simp
    have htake := take_append_of_append_eq (hcontent.symm.trans hstop) (by simp)
    have hwritten := Event.WrittenAs.comment (content.take (content.length - 2))
    rw [hcontent, ← htake]
    simpa using hwritten
  · cases h

theorem writtenAs_closeCData {rest : List Char} {opened opened' : List (List Char)}
    {e : Event} (h : closeCData (']' :: ']' :: rest) opened = .event e opened') :
    e.WrittenAs ('<' :: '!' :: ((']' :: ']' :: rest).reverse ++ ['>'])) := by
  unfold closeCData at h
  split at h
  · rename_i content hcontent
    cases h
    rw [Text.stripPrefix?_eq_some] at hcontent
    have hstop : (']' :: ']' :: rest).reverse = rest.reverse ++ [']', ']'] := by simp
    have heq := hcontent.symm.trans hstop
    -- The bracket that begins the content is none of those that end it.
    have hlen : 7 ≤ rest.reverse.length := by
      refine Nat.le_of_not_lt fun hlt => ?_
      have hright : (rest.reverse ++ [']', ']'])[6]? = [']', ']'][6 - rest.reverse.length]? :=
        List.getElem?_append_right (Nat.le_of_lt_succ hlt)
      rw [← heq] at hright
      have hmem : '[' ∈ [']', ']'] := List.mem_of_getElem? hright.symm
      simp at hmem
    have htake := take_append_of_append_eq heq hlen
    have hwritten := Event.WrittenAs.cdata (content.take (content.length - 2))
    rw [hcontent, ← htake]
    simpa using hwritten
  · cases h

/-! ## Steps -/

namespace Scan

variable {s s' : Scan} {c : Char} {e : Located}

/-- What reading a character does to what is read of the current piece. -/
inductive Reading (s : Scan) (c : Char) : Step → Prop
  | begins (h : s.mode = .text []) (hc : c = '<') :
      Reading s c (.more ⟨.bracket, s.offset, s.offset + 1, s.opened⟩)
  | text (s' : Scan) {a : Char} {seen : List Char} (h : s.mode = .text (a :: seen)) :
      Reading s c (.emit ⟨.text (a :: seen).reverse, s.start, s.offset⟩ s')
  | stays {m : Mode} (h : m.read = s.mode.read ++ [c]) : Reading s c (s.stay c m)
  | closes {closed : Closed}
      (h : ∀ e opened, closed = .event e opened → e.WrittenAs (s.mode.read ++ [c])) :
      Reading s c (s.close c closed)
  | fails (f : Failure) : Reading s c (.fail f)

theorem Reading.more (h : Reading s c (.more s')) :
    s'.mode.read = s.mode.read ++ [c] ∧ s'.offset = s.offset + c.utf8Size := by
  generalize hstep : Step.more s' = step at h
  cases h with
  | begins hm hc =>
    cases hstep
    exact ⟨by rw [hm, hc]; rfl, by rw [hc]; rfl⟩
  | stays hread =>
    cases hstep
    exact ⟨hread, rfl⟩
  | @closes closed =>
    cases closed <;> cases hstep
  | _ => cases hstep

/-- A piece that ends was complete, or is so with the character. -/
theorem Reading.emit (h : Reading s c (.emit e s')) :
    e.stop = s.offset ∧ e.event.WrittenAs s.mode.read ∨
      e.stop = s.offset + c.utf8Size ∧ e.event.WrittenAs (s.mode.read ++ [c]) := by
  generalize hstep : Step.emit e s' = step at h
  cases h with
  | text _ hm =>
    cases hstep
    exact .inl ⟨rfl, hm ▸ .text _⟩
  | @closes closed hwritten =>
    cases closed with
    | event e' opened =>
      cases hstep
      exact .inr ⟨rfl, hwritten e' opened rfl⟩
    | fault f => cases hstep
  | _ => cases hstep

theorem reading_stepTag {quoted : Option Char} {seen : List Char}
    (h : s.mode.read = '<' :: seen.reverse) : Reading s c (s.stepTag quoted seen c) := by
  have hstays (q : Option Char) : Reading s c (s.stay c (.tag q (c :: seen))) :=
    .stays (by rw [h]; simp [Mode.read])
  unfold stepTag
  split
  · exact hstays _
  · split
    · rename_i hc
      refine .closes fun e opened hclosed => ?_
      rw [h, hc]
      exact writtenAs_closeTag hclosed
    · exact hstays _

/-- **What a step does** to what is read of the current piece. -/
theorem reading_step (s : Scan) (c : Char) : Reading s c (s.step c) := by
  unfold step
  split
  case h_1 seen hm =>
    split
    · rename_i hc
      cases seen with
      | nil => exact .begins hm hc
      | cons a seen => exact .text _ hm
    · exact .stays (by simp [Mode.read, hm])
  case h_2 hm =>
    split
    · rename_i hc
      exact .stays (by simp [Mode.read, hm, hc])
    · split
      · rename_i hc
        exact .stays (by simp [Mode.read, hm, hc])
      · exact reading_stepTag (by simp [Mode.read, hm])
  case h_3 quoted seen hm => exact reading_stepTag (by simp [Mode.read, hm])
  case h_4 seen hm =>
    split
    · exact .closes fun e opened h => hm ▸ writtenAs_closeInstruction h _
    · exact .stays (by simp [Mode.read, hm])
  case h_5 hm =>
    split
    · rename_i hc
      exact .stays (by simp [Mode.read, hm, hc])
    · split
      · rename_i hc
        exact .stays (by simp [Mode.read, hm, hc])
      · split
        · exact .stays (by simp [Mode.read, hm])
        · exact .fails _
  case h_6 seen hm =>
    split
    · exact .closes fun e opened h => hm ▸ writtenAs_closeComment h
    · exact .stays (by simp [Mode.read, hm])
  case h_7 seen hm =>
    split
    · exact .closes fun e opened h => hm ▸ writtenAs_closeCData h
    · exact .stays (by simp [Mode.read, hm])
  case h_8 depth seen hm =>
    split
    · exact .stays (by simp [Mode.read, hm])
    · split
      · split
        · exact .closes fun e opened h => hm ▸ writtenAs_closeDoctype h _
        · exact .stays (by simp [Mode.read, hm])
      · exact .stays (by simp [Mode.read, hm])

/-- What is left of a piece is read up to its end. -/
theorem writtenAs_of_run {text : List Char} {es : List Located} {f : Option Failure}
    (h : s.run text = (e :: es, f)) :
    ∃ a b, text = a ++ b ∧ e.stop = s.offset + Text.byteLength a ∧
      e.event.WrittenAs (s.mode.read ++ a) := by
  induction text generalizing s with
  | nil =>
    refine ⟨[], [], rfl, ?_⟩
    rw [run, finish] at h
    split at h
    · cases h
    · rename_i seen _ hm
      cases h
      refine ⟨rfl, ?_⟩
      rw [hm, List.append_nil]
      exact .text _
    all_goals cases h
  | cons c text ih =>
    have hstep := reading_step s c
    cases hs : s.step c with
    | more s' =>
      rw [run_more hs] at h
      rw [hs] at hstep
      obtain ⟨a, b, rfl, hstop, hwritten⟩ := ih h
      obtain ⟨hread, hoffset⟩ := hstep.more
      refine ⟨c :: a, b, rfl, ?_, ?_⟩
      · rw [hstop, hoffset, Text.byteLength, Nat.add_assoc]
      · rw [hread, List.append_assoc] at hwritten
        exact hwritten
    | emit e' s' =>
      rw [run_emit hs] at h
      rw [hs] at hstep
      cases h
      rcases hstep.emit with ⟨hstop, hwritten⟩ | ⟨hstop, hwritten⟩
      · exact ⟨[], c :: text, rfl, hstop, by rwa [List.append_nil]⟩
      · exact ⟨[c], text, rfl, hstop, hwritten⟩
    | fail f' =>
      rw [run_fail hs] at h
      cases h

end Scan

theorem exists_replay (e : Event) : ∃ opened opened', e.replay opened = some opened' := by
  cases e with
  | endTag name => exact ⟨[name], [], if_pos rfl⟩
  | _ => exact ⟨[], _, rfl⟩

/-- **The characters that spell an event** are those that it is written
with. -/
theorem Spells.writtenAs {a : List Char} {e : Event} (h : Spells a e) : e.WrittenAs a := by
  obtain ⟨opened, opened', hr⟩ := exists_replay e
  have hrun := h.run 0 opened opened' [] hr fun _ => .inl rfl
  obtain ⟨b, rest, heq, hstop, hwritten⟩ := Scan.writtenAs_of_run hrun
  rw [List.append_nil] at heq
  subst heq
  have hnil : rest = [] := by
    cases rest with
    | nil => rfl
    | cons c rest =>
      have hpos := c.utf8Size_pos
      simp only [Scan.fresh, Text.byteLength_append, Text.byteLength] at hstop
      omega
  rw [hnil, List.append_nil]
  exact hwritten

end VectorLint.Markup
