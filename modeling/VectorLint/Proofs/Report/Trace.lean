/-
The excerpt of a diagnostic: the line of the node behind the number of the
line, and a line with a caret below it. The number takes four characters or
as many as it has digits (`excerptFront`), the blanks below it take four
(`caretFront`).

`trace_of_parse`: so the caret is below the first character of an element as
long as the number has four digits at most, and too far to the left by as many
characters as it has further digits.
-/
import VectorLint.Proofs.Document.Lines
import VectorLint.Report.Diagnostic

namespace VectorLint.Diagnostic

open Markup Text

/-- What an excerpt shows before a place, given the text before the place. -/
def excerptFront (before : List Char) : List Char :=
  (alignRight gutter (1 + before.count '\n').repr ++ " | ").toList ++ lineFront before

/-- What stands before the caret for that place. -/
def caretFront (before : List Char) : List Char :=
  (alignRight gutter "" ++ " | ").toList ++ List.replicate (lineFront before).length ' '

variable {before source : List Char}

theorem toList_alignRight (width : Nat) (s : String) :
    (alignRight width s).toList = List.replicate (width - s.length) ' ' ++ s.toList := by
  rw [alignRight, String.toList_append, String.toList_ofList]

theorem length_alignRight (width : Nat) (s : String) :
    (alignRight width s).toList.length = max width s.length := by
  rw [toList_alignRight, List.length_append, List.length_replicate, String.length_toList]
  omega

theorem length_excerptFront (before : List Char) : (excerptFront before).length =
    (caretFront before).length + ((1 + before.count '\n').repr.length - gutter) := by
  have hempty : "".length = 0 := rfl
  simp only [excerptFront, caretFront, String.toList_append, List.length_append, length_alignRight,
    List.length_replicate, hempty]
  omega

theorem length_repr_le_gutter_iff (n : Nat) : n.repr.length ≤ gutter ↔ n < 10000 := by
  rw [← String.length_toList, Nat.toList_repr]
  exact Nat.length_toDigits_le_iff (by decide) (by decide)

/-- The numbers with four digits at most leave the caret where it belongs. -/
theorem length_excerptFront_eq_iff (before : List Char) :
    (excerptFront before).length = (caretFront before).length ↔ 1 + before.count '\n' < 10000 := by
  rw [length_excerptFront, ← length_repr_le_gutter_iff]
  omega

theorem not_mem_alignRight {c : Char} (hc : c ≠ ' ') {s : String} (hs : c ∉ s.toList) (width : Nat) :
    c ∉ (alignRight width s).toList := by
  rw [toList_alignRight, List.mem_append, not_or]
  exact ⟨fun h => hc (List.eq_of_mem_replicate h), hs⟩

theorem break_not_mem_excerptFront (before : List Char) : '\n' ∉ excerptFront before := by
  have hrepr : '\n' ∉ (1 + before.count '\n').repr.toList := fun h => by
    rw [Nat.toList_repr] at h
    have hdigit := Nat.isDigit_of_mem_toDigits (by decide) (by decide) h
    cases hdigit
  simp [excerptFront, not_mem_alignRight (by decide) hrepr, not_mem_lineFront]

theorem break_not_mem_caretFront (before : List Char) : '\n' ∉ caretFront before := by
  have hempty : '\n' ∉ "".toList := by decide
  simp [caretFront, not_mem_alignRight (by decide) hempty]

/-- The excerpt of a node with a source line. -/
theorem trace?_of_sourceLine? {g : Diagnostic} {r : NodeRef} (tied : g.node = some r)
    (hposition : r.node.position = ⟨1 + before.count '\n', 1 + (lineFront before).length⟩)
    {shown : List Char}
    (hline : r.sourceLine? = some (String.ofList (lineFront before ++ shown))) :
    g.trace? = some (String.ofList
      (excerptFront before ++ (shown ++ '\n' :: (caretFront before ++ ['^'])))) := by
  have hblanks : (alignRight (lineFront before).length "").toList =
      List.replicate (lineFront before).length ' ' := by
    rw [toList_alignRight]
    exact List.append_nil _
  rw [trace?, tied, Option.bind_eq_bind, Option.bind_some, hline, hposition]
  refine congrArg some (String.toList_inj.mp ?_)
  simp [excerptFront, caretFront, hblanks]

/-- **The excerpt of an element** shows the element behind the front of its
line, and the caret below it. They are in the same column exactly if the line
has a number below ten thousand; from there on the caret is too far to the
left by every digit after the fourth. -/
theorem trace_of_parse {d : Document} (unmarked : source.head? ≠ some '\ufeff')
    (parsed : Document.parse source = .ok d) {r : NodeRef} (ofDocument : r.document = d)
    (element : r.node.isElement = true) {g : Diagnostic} (tied : g.node = some r) :
    ∃ before after shown, source = before ++ after ∧ byteLength before = r.node.span.start ∧
      '<' :: r.node.name.toList <+: shown ∧
      g.trace? = some (String.ofList
        (excerptFront before ++ (shown ++ '\n' :: (caretFront before ++ ['^'])))) ∧
      '\n' ∉ excerptFront before ++ shown ∧ '\n' ∉ caretFront before ∧
      (excerptFront before).length =
        (caretFront before).length + (r.node.position.line.repr.length - gutter) ∧
      ((excerptFront before).length = (caretFront before).length ↔
        r.node.position.line < 10000) := by
  subst ofDocument
  have hnode : r.document.get? r.id = some r.node := Array.getElem?_eq_getElem r.id.isLt
  obtain ⟨before, inner, after, hsource, -, hspan, hposition, htag⟩ :=
    Document.exists_excerpt unmarked parsed hnode
  obtain ⟨hsame, -⟩ := Document.holds_of_parse parsed
  obtain ⟨u, hu, hline⟩ := Document.sourceLine?_of_beginsTag (hsame.trans hsource)
    (by rw [hposition]) ((htag element).append after)
  have htrace := trace?_of_sourceLine? tied hposition hline
  refine ⟨before, inner ++ after, _, hsource, by rw [hspan], ⟨u, rfl⟩, htrace, ?_,
    break_not_mem_caretFront before, ?_, ?_⟩
  · simp [break_not_mem_excerptFront, hu]
  · rw [hposition]
    exact length_excerptFront before
  · rw [hposition]
    exact length_excerptFront_eq_iff before

/-- A tag on the second line, behind characters of more than one byte. -/
def accentedLine : List Char :=
  "<svg>\r\n\u00e9\u20ac<g/></svg>".toList

def remarkAt (r : NodeRef) : Diagnostic :=
  ⟨"elm", .error, .ofText "remark", some r⟩

theorem trace_accentedLine : ∃ d r before after shown, Document.parse accentedLine = .ok d ∧
    r.document = d ∧ r.node.name = "g" ∧ r.node.position = ⟨2, 3⟩ ∧
      accentedLine = before ++ after ∧ ['<', 'g'] <+: shown ∧
      (remarkAt r).trace? = some (String.ofList
        (excerptFront before ++ (shown ++ '\n' :: (caretFront before ++ ['^'])))) ∧
      (excerptFront before).length = (caretFront before).length := by
  obtain ⟨d, r, hd, hdocument, hname, hel, hposition⟩ : ∃ (d : Document) (r : NodeRef),
      Document.parse accentedLine = .ok d ∧ r.document = d ∧ r.node.name = "g" ∧
        r.node.isElement = true ∧ r.node.position = ⟨2, 3⟩ :=
    ⟨_, ⟨_, 2, by decide⟩, rfl, rfl, rfl, rfl, rfl⟩
  obtain ⟨before, after, shown, hsource, -, hshown, htrace, -, -, -, haligned⟩ :=
    trace_of_parse (by decide) hd hdocument hel (rfl : (remarkAt r).node = some r)
  rw [hname] at hshown
  refine ⟨d, r, before, after, shown, hd, hdocument, hname, hposition, hsource, hshown, htrace,
    haligned.mpr ?_⟩
  rw [hposition]
  decide

/-! ## Long documents -/

/-- An element behind line feeds. -/
def behindBreaks (n : Nat) : List Char :=
  List.replicate n '\n' ++ ['<', 's', 'v', 'g', '/', '>']

theorem byteLength_breaks (n : Nat) : byteLength (List.replicate n '\n') = n := by
  induction n with
  | zero => rfl
  | succ n ih =>
    rw [List.replicate_succ, byteLength, ih]
    exact Nat.add_comm 1 n

theorem lineFront_breaks (n : Nat) : lineFront (List.replicate n '\n') = [] := by
  cases n with
  | zero => rfl
  | succ n =>
    rw [List.replicate_succ', lineFront_break]
    rfl

/-- The events of that text. -/
def breaksEvents (n : Nat) : List Located :=
  [⟨.text (List.replicate n '\n'), 0, n⟩, ⟨.emptyTag ['s', 'v', 'g'], n, n + 6⟩]

def breaksForest (n : Nat) : Forest Placed :=
  .node ⟨.element "svg" [], ⟨n, n + 6⟩, Position.ofOffset (behindBreaks n) n⟩ .nil .nil

theorem spelled_behindBreaks {n : Nat} (hn : 0 < n) :
    Spelled 0 (behindBreaks n) (breaksEvents n) := by
  have hbreaks : Spells (List.replicate n '\n') (.text (List.replicate n '\n')) :=
    spells_text (by simp; omega) (by simp)
  have hname : IsName ['s', 'v', 'g'] := by decide
  have htag : Spells ['<', 's', 'v', 'g', '/', '>'] (.emptyTag ['s', 'v', 'g']) :=
    spells_emptyTag hname (List.forall_mem_nil _) .nil (List.forall_mem_nil _)
  have hspelled : Spelled 0 _ _ :=
    .cons hbreaks (fun _ => .inr ⟨_, rfl⟩) (.cons htag (fun h => by cases h) (.nil _))
  rw [byteLength_breaks, Nat.zero_add] at hspelled
  exact hspelled

theorem reads_behindBreaks (n : Nat) :
    Document.Reads (behindBreaks n) (breaksEvents n) (breaksForest n) := by
  have hresolved : resolve (List.replicate n '\n') = .ok (List.replicate n '\n') :=
    (resolves_plain (by simp)).resolve_eq
  have hblank : trim (List.replicate n '\n') = [] := trim_eq_nil_iff.mpr fun c hc => by
    rw [List.eq_of_mem_replicate hc]
    decide
  exact .skip (.blank hresolved hblank) (.leaf (.empty rfl) .nil)

/-- The element is read, and is on the line behind the line feeds. -/
theorem parse_behindBreaks {n : Nat} (hn : 0 < n) : ∃ d node,
    Document.parse (behindBreaks n) = .ok d ∧ d.get? 0 = some node ∧ node.isElement = true ∧
      node.position = ⟨1 + n, 1⟩ ∧ d.sourceLine? node = some "<svg/>" := by
  have hreads := reads_behindBreaks n
  have hscan : scan (behindBreaks n) = (breaksEvents n, none) := by
    have hhead : (behindBreaks n).head? ≠ some '\ufeff' := by
      obtain ⟨k, rfl⟩ := Nat.exists_eq_add_of_lt hn
      simp [behindBreaks, List.replicate_succ]
    rw [scan, dropMark_of_head hhead]
    exact run_of_spelled (spelled_behindBreaks hn) (Document.replayAll_of_reads hreads [])
  obtain ⟨d, hd, hholds, -⟩ := Document.exists_parse_of_element hscan hreads rfl rfl
  obtain ⟨hsource, -⟩ := Document.holds_of_parse hd
  have hline : line? d.source n = some ['<', 's', 'v', 'g', '/', '>'] := by
    have hcount := line?_append_count (List.replicate n '\n') ['<', 's', 'v', 'g', '/', '>']
    rw [List.count_replicate_self, lineFront_breaks] at hcount
    rw [hsource]
    exact hcount
  have hposition : Position.ofOffset (behindBreaks n) n = ⟨1 + n, 1⟩ := by
    have hplace := Position.ofOffset_append (List.replicate n '\n') ['<', 's', 'v', 'g', '/', '>']
    rw [byteLength_breaks, List.count_replicate_self, lineFront_breaks] at hplace
    exact hplace
  exact ⟨d, _, hd, Document.get?_of_lies hholds.lies, rfl, hposition,
    Document.sourceLine?_of_line? (congrArg Position.line hposition) hline⟩

/-- On the ten thousandth line the caret is to the left of the element. -/
theorem trace_tenThousandth : ∃ (d : Document) (r : NodeRef),
    Document.parse (behindBreaks 9999) = .ok d ∧ r.document = d ∧ r.node.isElement = true ∧
      (remarkAt r).trace? = some ("10000 | " ++ "<svg/>\n" ++ "     | " ++ "^") ∧
      "10000 | ".length ≠ "     | ".length := by
  obtain ⟨d, node, hd, hnode, hel, hposition, hline⟩ := parse_behindBreaks (by decide : 0 < 9999)
  obtain ⟨hlt, hget⟩ := Array.getElem?_eq_some_iff.mp hnode
  have hr : (NodeRef.mk d ⟨0, hlt⟩).node = node := hget
  refine ⟨d, ⟨d, 0, hlt⟩, hd, rfl, hr ▸ hel, ?_, by decide⟩
  have hshown : (NodeRef.mk d ⟨0, hlt⟩).sourceLine? = some "<svg/>" := by
    rw [NodeRef.sourceLine?, hr]
    exact hline
  rw [trace?, remarkAt, Option.bind_eq_bind, Option.bind_some, hshown, hr, hposition]
  decide +kernel

end VectorLint.Diagnostic
