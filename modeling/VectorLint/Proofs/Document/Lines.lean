/-
The lines of nodes. A node starts behind some of the text, which makes its
position; an element starts with its bracket and its name, and neither of them
breaks the line (`exists_excerpt`).

`located_of_parse`: so every node has a line in the text, and at the column of
an element its tag begins there.
-/
import VectorLint.Proofs.Document.Location
import VectorLint.Proofs.Document.Outline
import VectorLint.Proofs.Markup.Written

namespace VectorLint

open Markup Text

namespace Document

variable {source text : List Char} {es : List Located} {F K : Forest Placed} {p : Placed}
  {d : Document} {id : NodeId} {n : Node}

theorem Leaf.emptyTag_of_element {e : Markup.Event} {c : Content} (h : Leaf e (some c))
    (hc : c.kind = .element) : ∃ content, e = .emptyTag content ∧ Builder.element content = .ok c := by
  cases h with
  | empty hc => exact ⟨_, rfl, hc⟩
  | _ => cases hc

/-- A tag with the given name at the beginning of a text. -/
def BeginsTag (name : String) (text : List Char) : Prop :=
  (∀ c ∈ name.toList, isSpace c = false) ∧ ∃ rest, text = '<' :: (name.toList ++ rest)

theorem BeginsTag.append {name : String} (h : BeginsTag name text) (b : List Char) :
    BeginsTag name (text ++ b) := by
  obtain ⟨hname, rest, rfl⟩ := h
  exact ⟨hname, rest ++ b, by simp⟩

theorem beginsTag_tagName (content rest : List Char) :
    BeginsTag (String.ofList (tagName content)) ('<' :: (content ++ rest)) := by
  rw [BeginsTag, String.toList_ofList]
  refine ⟨fun c hc => by simpa using List.mem_takeWhile_imp hc,
    content.dropWhile (!isSpace ·) ++ rest, ?_⟩
  rw [tagName, ← List.append_assoc, List.takeWhile_append_dropWhile]

/-- The piece that an element starts with begins a tag with its name. -/
theorem beginsTag_of_element {a content : List Char} {e : Markup.Event} {c : Content}
    (ha : Spells a e) (he : e = .startTag content ∨ e = .emptyTag content)
    (hc : Builder.element content = .ok c) :
    ∃ name attributes, c = .element name attributes ∧ BeginsTag name a := by
  obtain ⟨attributes, rfl, -⟩ := opening_of_element hc
  refine ⟨_, attributes, rfl, ?_⟩
  have hwritten := ha.writtenAs
  rcases he with rfl | rfl <;> cases hwritten <;> exact beginsTag_tagName content _

/-- What writes an element from its first byte on begins its tag. -/
theorem beginsTag_of_reads {offset : Nat} (h : Reads source es (.node p K F))
    (hs : Spelled offset text es) (hstart : p.span.start = offset)
    (hkind : p.content.kind = .element) :
    ∃ name attributes, p.content = .element name attributes ∧ BeginsTag name text := by
  cases h with
  | skip _ h =>
    cases hs with
    | cons ha _ hs =>
      -- Behind a piece nothing starts where the piece does.
      have hlow := (nested_of_reads h hs).1
      have hpos := ha.byteLength_pos
      omega
  | leaf he _ =>
    obtain ⟨content, he, hc⟩ := he.emptyTag_of_element hkind
    cases hs with
    | cons ha _ _ =>
      obtain ⟨name, attributes, hname, hbegins⟩ := beginsTag_of_element ha (.inr he) hc
      exact ⟨name, attributes, hname, hbegins.append _⟩
  | element he hc _ _ _ =>
    cases hs with
    | cons ha _ _ =>
      obtain ⟨name, attributes, hname, hbegins⟩ := beginsTag_of_element ha (.inl he) hc
      exact ⟨name, attributes, hname, hbegins.append _⟩

/-- **What stands at the span of a node** is some text, which starts at the
node's position; that of an element begins with its tag. -/
theorem exists_excerpt (unmarked : source.head? ≠ some '\ufeff') (parsed : parse source = .ok d)
    (h : d.get? id = some n) :
    ∃ before inner after, source = before ++ (inner ++ after) ∧ inner ≠ [] ∧
      n.span = ⟨byteLength before, byteLength (before ++ inner)⟩ ∧
      n.position = ⟨1 + before.count '\n', 1 + (lineFront before).length⟩ ∧
      (n.isElement = true → BeginsTag n.name inner) := by
  obtain ⟨-, hposition⟩ := starts_of_parse parsed h
  obtain ⟨rfl, es, F, hholds⟩ := holds_of_parse parsed
  have hs := hholds.spelled unmarked
  have hlt := (hholds.laminar (nested_of_reads hholds.reads hs)).nonempty id n h
  obtain ⟨p, K, parent, hat, -, rfl⟩ := hholds.exists_tree h
  obtain ⟨before, inner, after, es', hsource, hspan, hinner, hreads, -⟩ :=
    excerpts_of_reads hholds.reads hs hat
  rw [List.append_assoc] at hsource
  rw [Nat.zero_add, Nat.zero_add] at hspan
  refine ⟨before, inner, after, hsource, ?_, hspan, ?_, fun hel => ?_⟩
  · rintro rfl
    simp [hspan] at hlt
  · rw [hposition, hspan]
    show Position.ofOffset d.source (byteLength before) = _
    rw [hsource, Position.ofOffset_append]
  · obtain ⟨name, attributes, hname, hbegins⟩ := beginsTag_of_reads hreads hinner
      (by rw [hspan, Nat.zero_add]) (Node.isElement_iff.mp hel)
    simp only [Node.name, hname]
    exact hbegins

theorem sourceLine?_of_line? {k : Nat} {line : List Char} (hnumber : n.position.line = 1 + k)
    (hline : line? d.source k = some line) : d.sourceLine? n = some (String.ofList line) := by
  rw [sourceLine?, hnumber, Nat.add_comm 1]
  exact congrArg (Option.map String.ofList) hline

/-- The line of an element: what the text has of it before the element, the
beginning of the tag, and more. -/
theorem sourceLine?_of_beginsTag {before after : List Char} (hsource : d.source = before ++ after)
    (hline : n.position.line = 1 + before.count '\n') (hbegins : BeginsTag n.name after) :
    ∃ u, '\n' ∉ n.name.toList ++ u ∧ d.sourceLine? n =
      some (String.ofList (lineFront before ++ '<' :: (n.name.toList ++ u))) := by
  obtain ⟨hname, rest, rfl⟩ := hbegins
  have hne (c : Char) (hc : isSpace c = true) : c ∉ n.name.toList := fun hmem => by
    rw [hname c hmem] at hc
    cases hc
  have hbreak : '\n' ∉ '<' :: n.name.toList := by simp [hne '\n' rfl]
  have hreturn : ('<' :: n.name.toList).getLast? ≠ some '\r' := fun hlast => by
    simpa [hne '\r' rfl] using List.mem_of_getLast? hlast
  obtain ⟨u, hu, hfound⟩ := exists_line?_append before (List.cons_ne_nil _ _) hbreak hreturn rest
  rw [List.cons_append, List.cons_append, ← hsource] at hfound
  exact ⟨u, by simp [hne '\n' rfl, hu], sourceLine?_of_line? hline hfound⟩

/-- **Positions point into the source.** A node is as many lines down as line
feeds stand before it, and as many characters to the right as there are behind
the last of these; it has a source line, and an element is found there at its
column, by its bracket and its name. -/
theorem located_of_parse (unmarked : source.head? ≠ some '\ufeff') (parsed : parse source = .ok d)
    (h : d.get? id = some n) :
    ∃ before after line, source = before ++ after ∧ byteLength before = n.span.start ∧
      n.position = ⟨1 + before.count '\n', 1 + (lineFront before).length⟩ ∧
      d.sourceLine? n = some line ∧
      (n.isElement = true →
        '<' :: n.name.toList <+: line.toList.drop (n.position.column - 1)) := by
  obtain ⟨before, inner, after, hsource, -, hspan, hposition, htag⟩ :=
    exists_excerpt unmarked parsed h
  obtain ⟨line, hline⟩ := exists_sourceLine parsed h
  refine ⟨before, inner ++ after, line, hsource, by rw [hspan], hposition, hline, fun hel => ?_⟩
  obtain ⟨hsame, -⟩ := holds_of_parse parsed
  obtain ⟨u, -, hfound⟩ := sourceLine?_of_beginsTag (hsame.trans hsource) (by rw [hposition])
    ((htag hel).append after)
  rw [hline, Option.some.injEq] at hfound
  rw [hfound, String.toList_ofList, hposition, Nat.add_sub_cancel_left, List.drop_left]
  exact ⟨u, rfl⟩

/-- An element behind both kinds of line ends and behind characters of more
than one byte. -/
def mixedLines : List Char :=
  "<!--\u00b5\n-->\r\n<svg>\u00e9\u20ac<g\n/></svg>\r\n".toList

theorem located_mixedLines : ∃ d n before after line, parse mixedLines = .ok d ∧
    d.get? 3 = some n ∧ n.name = "g" ∧ n.position = ⟨3, 8⟩ ∧ mixedLines = before ++ after ∧
      byteLength before = n.span.start ∧ d.sourceLine? n = some line ∧
      ['<', 'g'] <+: line.toList.drop 7 := by
  obtain ⟨d, n, hd, hn, hname, hel, hposition⟩ : ∃ d n, parse mixedLines = .ok d ∧
      d.get? 3 = some n ∧ n.name = "g" ∧ n.isElement = true ∧ n.position = ⟨3, 8⟩ :=
    ⟨_, _, rfl, rfl, rfl, rfl, rfl⟩
  obtain ⟨before, after, line, hsource, hstart, -, hline, htag⟩ := located_of_parse (by decide) hd hn
  have htag := htag hel
  rw [hposition, hname] at htag
  exact ⟨d, n, before, after, line, hd, hn, hname, hposition, hsource, hstart, hline, htag⟩

end Document

end VectorLint
