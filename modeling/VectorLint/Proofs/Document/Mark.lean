/-
Byte order marks. A mark in front of a text belongs to no event, so the text
has the same events with the mark and without it and writes the same tree
(`parse_of_scan_eq`). But the spans are counted without the mark and looked up
with it.

`parse_marked`: in a text with a mark, what is found at a node is what stands
three bytes before it.
-/
import VectorLint.Proofs.Document.Lines

namespace VectorLint

open Markup Text

/-! ## The same events of another text -/

/-- A node at the same span of another text. -/
def Placed.moveTo (source : List Char) (p : Placed) : Placed :=
  { p with position := Position.ofOffset source p.span.start }

def Node.moveTo (source : List Char) (n : Node) : Node :=
  { n with position := Position.ofOffset source n.span.start }

namespace Forest

variable (source : List Char) (F : Forest Placed)

theorem elementRoots_moveTo (base : Nat) :
    (F.map (Placed.moveTo source)).elementRoots base = F.elementRoots base := by
  induction F generalizing base with
  | nil => rfl
  | node top below next _ ihn =>
    rw [map, elementRoots, elementRoots, size_map, ihn]
    rfl

theorem tops_map {α β : Type} (f : α → β) (F : Forest α) : (F.map f).tops = F.tops.map f := by
  induction F with
  | nil => rfl
  | node top below next _ ihn => rw [map, tops, tops, List.map_cons, ihn]

theorem layout_moveTo (parent : Option NodeId) (base : Nat) :
    (F.map (Placed.moveTo source)).layout parent base =
      (F.layout parent base).map (Node.moveTo source) := by
  induction F generalizing parent base with
  | nil => rfl
  | node top below next ihb ihn =>
    simp only [map, layout, size_map, roots_map, ihb, ihn, List.map_cons, List.map_append]
    rfl

end Forest

namespace Document

variable {source source' : List Char} {es : List Located} {F : Forest Placed} {d m : Document}
  {n : Node}

theorem Reads.moveTo (h : Reads source es F) (source' : List Char) :
    Reads source' es (F.map (Placed.moveTo source')) := by
  induction h with
  | nil => exact .nil
  | skip he _ ih => exact .skip he ih
  | leaf he _ ih => exact .leaf he ih
  | element he hc _ he' _ ihK ihF => exact .element he hc ihK he' ihF

/-- **Texts with the same events write the same nodes** at the same spans. -/
theorem parse_of_scan_eq (hscan : scan source' = scan source) (parsed : parse source = .ok d) :
    ∃ m, parse source' = .ok m ∧ m.source = source' ∧ m.root.val = d.root.val ∧
      m.nodes = d.nodes.map (Node.moveTo source') := by
  obtain ⟨es, F, hholds, htops⟩ := exists_holds_of_parse parsed
  obtain ⟨rfl, -⟩ := holds_of_parse parsed
  have hroots : (F.map (Placed.moveTo source')).elementRoots 0 = [d.root.val] :=
    (F.elementRoots_moveTo source' 0).trans hholds.root
  obtain ⟨m, hm, hsource, hmholds⟩ := exists_parse_of_reads (hscan.trans hholds.scanned)
    (hholds.reads.moveTo source') (by simpa [Forest.tops_map, Placed.moveTo] using htops)
    (by rw [hroots]; rfl)
  refine ⟨m, hm, hsource, ?_, ?_⟩
  · have hroot := hmholds.root
    rw [hroots] at hroot
    exact (List.singleton_inj.mp hroot).symm
  · rw [← Array.toList_inj, Array.toList_map, hmholds.nodes, hholds.nodes, Forest.layout_moveTo]

end Document

/-! ## Texts behind a character -/

namespace Text

theorem sliceBytes_cons (c : Char) (s : List Char) (start stop : Nat) :
    sliceBytes (c :: s) (c.utf8Size + start) (c.utf8Size + stop) = sliceBytes s start stop := by
  simp only [sliceBytes, dropBytes_cons, Nat.add_le_add_iff_left, Nat.add_sub_add_left]

/-- A slice from the first byte on begins with the first character. -/
theorem head_of_sliceBytes_zero {c : Char} {s t : List Char} {stop : Nat}
    (h : sliceBytes (c :: s) 0 stop = some t) (hne : t ≠ []) : t.head? = some c := by
  rw [sliceBytes, if_pos (Nat.zero_le stop), dropBytes, Option.bind_some, Nat.sub_zero] at h
  cases stop with
  | zero =>
    rw [takeBytes, Option.some.injEq] at h
    exact absurd h.symm hne
  | succ stop =>
    rw [takeBytes] at h
    · split at h
      · cases h
      · obtain ⟨t', -, rfl⟩ := Option.map_eq_some_iff.mp h
        rfl
    · exact Nat.succ_ne_zero stop

/-- No slice begins inside of a character. -/
theorem sliceBytes_inside {c : Char} {start : Nat} (hpos : 0 < start) (hlt : start < c.utf8Size)
    (s : List Char) (stop : Nat) : sliceBytes (c :: s) start stop = none := by
  have hdrop : dropBytes (c :: s) start = none := by
    rw [dropBytes, if_pos hlt]
    exact fun h => absurd h (Nat.ne_of_gt hpos)
  rw [sliceBytes, hdrop]
  exact ite_self none

/-- A first character that is no line feed makes no line. -/
theorem count_upTo_cons {c : Char} (hc : c ≠ '\n') (s : List Char) (bytes : Nat) :
    (upTo (c :: s) bytes).count '\n' = (upTo s (bytes - c.utf8Size)).count '\n' := by
  rw [upTo]
  split
  · rename_i hlt
    rw [Nat.sub_eq_zero_of_le (Nat.le_of_lt hlt), upTo_zero]
  · exact List.count_cons_of_ne hc

end Text

/-! ## Marked documents -/

namespace Document

variable {source : List Char} {d m : Document} {id : NodeId} {n n' : Node}

theorem scan_marked (unmarked : source.head? ≠ some '\ufeff') :
    scan ('\ufeff' :: source) = scan source := by
  rw [scan, scan, dropMark_of_head unmarked]
  rfl

theorem parse_marked_eq (unmarked : source.head? ≠ some '\ufeff') (parsed : parse source = .ok d)
    (marked : parse ('\ufeff' :: source) = .ok m) :
    m.source = '\ufeff' :: source ∧ m.root.val = d.root.val ∧
      m.nodes = d.nodes.map (Node.moveTo ('\ufeff' :: source)) := by
  obtain ⟨m', hm', h⟩ := parse_of_scan_eq (scan_marked unmarked) parsed
  rw [marked, Except.ok.injEq] at hm'
  exact hm' ▸ h

/-- What becomes of a node of `d` in the document `m` of the same text behind
a mark: it is the same node, but its text and its line are those three bytes
before it. -/
structure Displaced (d m : Document) (n n' : Node) : Prop where
  content : n'.content = n.content
  parent : n'.parent = n.parent
  children : n'.children = n.children
  span : n'.span = n.span
  markup : 3 ≤ n.span.start → m.outerMarkup n' =
    String.ofList ((sliceBytes d.source (n.span.start - 3) (n.span.stop - 3)).getD [])
  /-- Before the first nodes there is not so much text. -/
  markup_ne : n.span.start < 3 → m.outerMarkup n' ≠ d.outerMarkup n
  line : ∃ back after, d.source = upTo d.source (n.span.start - 3) ++ back ++ after ∧
    byteLength (upTo d.source (n.span.start - 3) ++ back) = n.span.start ∧
    n.position.line = n'.position.line + back.count '\n'

theorem outerMarkup_of_far (hsource : m.source = '\ufeff' :: d.source) (hspan : n'.span = n.span)
    (hle : n.span.start ≤ n.span.stop) (hfar : 3 ≤ n.span.start) : m.outerMarkup n' =
      String.ofList ((sliceBytes d.source (n.span.start - 3) (n.span.stop - 3)).getD []) := by
  obtain ⟨start, hstart⟩ := Nat.exists_eq_add_of_le hfar
  obtain ⟨stop, hstop⟩ := Nat.exists_eq_add_of_le (Nat.le_trans hfar hle)
  have hslice : sliceBytes ('\ufeff' :: d.source) (3 + start) (3 + stop) =
      sliceBytes d.source start stop := sliceBytes_cons '\ufeff' d.source start stop
  rw [outerMarkup, hsource, hspan, hstart, hstop, hslice, Nat.add_sub_cancel_left,
    Nat.add_sub_cancel_left]

/-- What stands within the first bytes behind a mark is the mark, or
nothing. -/
theorem sliceBytes_marked_ne {before inner after : List Char}
    (unmarked : (before ++ (inner ++ after)).head? ≠ some '\ufeff') (hne : inner ≠ [])
    (hnear : byteLength before < 3) (stop : Nat) :
    sliceBytes ('\ufeff' :: (before ++ (inner ++ after))) (byteLength before) stop ≠
      some inner := by
  intro hslice
  cases before with
  | nil =>
    have hhead := head_of_sliceBytes_zero hslice hne
    obtain ⟨c, s, rfl⟩ := List.exists_cons_of_ne_nil hne
    exact unmarked hhead
  | cons c before =>
    have hpos : 0 < byteLength (c :: before) := Nat.add_pos_left c.utf8Size_pos _
    have hinside : byteLength (c :: before) < '\ufeff'.utf8Size := hnear
    rw [sliceBytes_inside hpos hinside] at hslice
    cases hslice

theorem outerMarkup_of_near {before inner after : List Char}
    (unmarked : d.source.head? ≠ some '\ufeff') (hstands : d.source = before ++ (inner ++ after))
    (hne : inner ≠ []) (hspan : n.span = ⟨byteLength before, byteLength (before ++ inner)⟩)
    (hsource : m.source = '\ufeff' :: d.source) (hsame : n'.span = n.span)
    (hnear : n.span.start < 3) : m.outerMarkup n' ≠ d.outerMarkup n := by
  have hinner : sliceBytes (before ++ (inner ++ after)) (byteLength before)
      (byteLength (before ++ inner)) = some inner := by
    rw [← List.append_assoc, sliceBytes_append]
  rw [hstands] at unmarked
  rw [hspan] at hnear
  rw [outerMarkup, outerMarkup, hsource, hsame, hspan, hstands, hinner, Option.getD_some, ne_eq,
    String.ofList_inj, Option.getD_eq_iff]
  rintro (hslice | ⟨-, hnil⟩)
  · exact sliceBytes_marked_ne unmarked hne hnear _ hslice
  · exact hne hnil.symm

theorem line_marked (s : List Char) (start : Nat) :
    (Position.ofOffset ('\ufeff' :: s) start).line = 1 + (upTo s (start - 3)).count '\n' := by
  have hcount : (upTo ('\ufeff' :: s) start).count '\n' = (upTo s (start - 3)).count '\n' :=
    count_upTo_cons (by decide) s start
  rw [line_ofOffset, hcount]

theorem displaced_moveTo (unmarked : source.head? ≠ some '\ufeff') (parsed : parse source = .ok d)
    (hsource : m.source = '\ufeff' :: source) (h : d.get? id = some n) :
    Displaced d m n (n.moveTo ('\ufeff' :: source)) := by
  obtain ⟨before, inner, after, hstands, hne, hspan, hposition, -⟩ :=
    exists_excerpt unmarked parsed h
  obtain ⟨rfl, -⟩ := holds_of_parse parsed
  have hle : n.span.start ≤ n.span.stop := by
    rw [hspan, byteLength_append]
    exact Nat.le_add_right _ _
  refine ⟨rfl, rfl, rfl, rfl, outerMarkup_of_far hsource rfl hle,
    outerMarkup_of_near unmarked hstands hne hspan hsource rfl, ?_⟩
  have hbefore : upTo d.source n.span.start = before := by
    rw [hspan, hstands, upTo_append]
  obtain ⟨back, hback⟩ := upTo_prefix d.source (Nat.sub_le n.span.start 3)
  rw [hbefore] at hback
  have hline : (n.moveTo ('\ufeff' :: d.source)).position.line =
      1 + (upTo d.source (n.span.start - 3)).count '\n' := line_marked d.source n.span.start
  refine ⟨back, inner ++ after, by rw [hback, ← hstands], by rw [hback, hspan], ?_⟩
  rw [hposition, hline, Nat.add_assoc, ← List.count_append, hback]

/-- **A mark displaces what is found at nodes.** A text is a document behind a
byte order mark exactly if it is one without, and the documents have the same
nodes and links; but what is looked up at a node behind a mark is what stands
three bytes before it. -/
theorem parse_marked (unmarked : source.head? ≠ some '\ufeff') :
    ((∃ m, parse ('\ufeff' :: source) = .ok m) ↔ ∃ d, parse source = .ok d) ∧
    ∀ d m, parse source = .ok d → parse ('\ufeff' :: source) = .ok m →
      m.root.val = d.root.val ∧ m.size = d.size ∧
        ∀ id n, d.get? id = some n → ∃ n', m.get? id = some n' ∧ Displaced d m n n' := by
  refine ⟨⟨?_, ?_⟩, fun d m parsed marked => ?_⟩
  · rintro ⟨m, hm⟩
    obtain ⟨d, hd, -⟩ := parse_of_scan_eq (scan_marked unmarked).symm hm
    exact ⟨d, hd⟩
  · rintro ⟨d, hd⟩
    obtain ⟨m, hm, -⟩ := parse_of_scan_eq (scan_marked unmarked) hd
    exact ⟨m, hm⟩
  · obtain ⟨hsource, hroot, hnodes⟩ := parse_marked_eq unmarked parsed marked
    refine ⟨hroot, by rw [Arena.size, hnodes, Array.size_map]; rfl, fun id n h => ?_⟩
    refine ⟨n.moveTo ('\ufeff' :: source), ?_, displaced_moveTo unmarked parsed hsource h⟩
    rw [get?, hnodes, Array.getElem?_map]
    exact congrArg (Option.map _) h

def fourLines : List Char :=
  "<!--\n-->\n<svg>\n<g/></svg>".toList

theorem parse_marked_fourLines : ∃ d m n n', parse fourLines = .ok d ∧
    parse ('\ufeff' :: fourLines) = .ok m ∧ d.get? 2 = some n ∧ m.get? 2 = some n' ∧
      d.outerMarkup n = "<g/>" ∧ Displaced d m n n' := by
  obtain ⟨d, m, n, hd, hm, hn, hmarkup⟩ : ∃ d m n, parse fourLines = .ok d ∧
      parse ('\ufeff' :: fourLines) = .ok m ∧ d.get? 2 = some n ∧ d.outerMarkup n = "<g/>" :=
    ⟨_, _, _, rfl, rfl, rfl, rfl⟩
  have unmarked : fourLines.head? ≠ some '\ufeff' := by decide
  obtain ⟨-, -, hnodes⟩ := (parse_marked unmarked).2 d m hd hm
  obtain ⟨n', hn', hdisplaced⟩ := hnodes 2 n hn
  exact ⟨d, m, n, n', hd, hm, hn, hn', hmarkup, hdisplaced⟩

/-- A root on the second line has neither its text nor its line behind a
mark. -/
theorem marked_secondLine : ∃ d m n n', parse "\n<svg/>".toList = .ok d ∧
    parse "\ufeff\n<svg/>".toList = .ok m ∧ d.get? d.root = some n ∧ m.get? m.root = some n' ∧
      d.outerMarkup n = "<svg/>" ∧ m.outerMarkup n' = "" ∧ n.position.line = 2 ∧
      n'.position.line = 1 :=
  ⟨_, _, _, _, rfl, rfl, rfl, rfl, rfl, rfl, rfl, rfl⟩

end Document

end VectorLint
