/-
Where the nodes of a document stand. A node starts at a byte within the text,
and its position is that of the byte (`starts_of_parse`); so the text has the
line that the position names, and lines and columns do not grow beyond the
length of the text (`exists_sourceLine`, `position_le_byteLength`).
-/
import VectorLint.Proofs.Document.Tree
import VectorLint.Proofs.Text.Lines

namespace VectorLint

/-! ## Positions -/

namespace Text.Position

variable {s : List Char}

theorem exists_line?_zero (c : Char) (s : List Char) : ∃ text, line? (c :: s) 0 = some text := by
  rw [line?]
  · split <;> exact ⟨_, rfl⟩
  · exact List.cons_ne_nil c s

/-- The line that a place within a text is on is a line of the text. -/
theorem exists_line_advance {bytes : Nat} (h : bytes < byteLength s) (line chars width : Nat) :
    ∃ k text, (advance s bytes line chars width).line = line + k ∧ line? s k = some text := by
  induction s generalizing bytes line chars width with
  | nil => exact absurd h (Nat.not_lt_zero bytes)
  | cons c s ih =>
    obtain ⟨text, htext⟩ := exists_line?_zero c s
    rw [byteLength] at h
    cases bytes with
    | zero => exact ⟨0, text, by rw [advance_zero]; rfl, htext⟩
    | succ bytes =>
      rw [advance_cons_succ]
      split
      · exact ⟨0, text, rfl, htext⟩
      · have hrest : bytes + 1 - c.utf8Size < byteLength s := by omega
        split
        · rename_i hbreak
          obtain ⟨k, text', hline, htext'⟩ := ih hrest (line + 1) 0 0
          refine ⟨k + 1, text', ?_, ?_⟩
          · rw [hline, Nat.add_assoc, Nat.add_comm 1 k]
          · rw [line?, if_pos hbreak, htext']
        · rename_i hbreak
          obtain ⟨k, text', hline, htext'⟩ := ih hrest line (chars + 1) (width + c.utf8Size)
          cases k with
          | zero => exact ⟨0, text, hline, htext⟩
          | succ k => exact ⟨k + 1, text', hline, by rw [line?, if_neg hbreak, htext']⟩

/-- Every line and every character takes a byte at least. -/
theorem advance_le (s : List Char) (bytes line : Nat) {chars width : Nat} (h : chars ≤ width) :
    (advance s bytes line chars width).line ≤ line + bytes ∧
      (advance s bytes line chars width).column ≤ width + bytes + 1 := by
  induction s generalizing bytes line chars width with
  | nil =>
    cases bytes with
    | zero => exact ⟨Nat.le_refl _, Nat.succ_le_succ h⟩
    | succ bytes => exact ⟨Nat.le_add_right _ _, Nat.le_refl _⟩
  | cons c s ih =>
    have hpos := c.utf8Size_pos
    cases bytes with
    | zero =>
      rw [advance_zero]
      exact ⟨Nat.le_refl _, Nat.succ_le_succ h⟩
    | succ bytes =>
      rw [advance_cons_succ]
      split
      · exact ⟨Nat.le_add_right _ _, Nat.le_refl _⟩
      · split
        · have hnext := ih (bytes + 1 - c.utf8Size) (line + 1) (Nat.le_refl 0)
          omega
        · have hnext := ih (bytes + 1 - c.utf8Size) line
            (show chars + 1 ≤ width + c.utf8Size by omega)
          omega

end Text.Position

/-! ## Nodes -/

open Markup Text

namespace Forest

variable {F K : Forest Placed} {p : Placed}

theorem Nested.within {low high i : Nat} (h : F.Nested low high) (hat : At p K F i) :
    p.span.start < high := by
  induction hat generalizing low high with
  | first next => exact Nat.lt_of_lt_of_le h.2.1 h.2.2.2.le
  | inside _ ih => exact Nat.lt_of_lt_of_le (ih h.2.2.1) h.2.2.2.le
  | behind _ ih => exact ih h.2.2.2

end Forest

namespace Document

variable {source : List Char} {es : List Located} {F K : Forest Placed} {p : Placed} {d : Document}
  {id : NodeId} {n : Node}

theorem position_of_reads (h : Reads source es F) {i : Nat} (hat : Forest.At p K F i) :
    p.position = Position.ofOffset source p.span.start := by
  induction h generalizing i with
  | nil => cases hat
  | skip _ _ ih => exact ih hat
  | leaf he _ ih =>
    cases hat with
    | first next => rfl
    | inside hat => cases hat
    | behind hat => exact ih hat
  | element he hc _ _ _ ihK ihF =>
    cases hat with
    | first next => rfl
    | inside hat => exact ihK hat
    | behind hat => exact ihF hat

theorem byteLength_dropMark_le (text : List Char) : byteLength (dropMark text) ≤ byteLength text := by
  unfold dropMark
  split
  · exact Nat.le_add_left _ _
  · exact Nat.le_refl _

/-- **Every node stands in the text**, at the position of its first byte. -/
theorem starts_of_parse (parsed : parse source = .ok d) (h : d.get? id = some n) :
    n.span.start < byteLength d.source ∧
      n.position = Position.ofOffset d.source n.span.start := by
  obtain ⟨-, es, F, hholds⟩ := holds_of_parse parsed
  obtain ⟨top, below, parent, hat, -, rfl⟩ := hholds.exists_tree h
  have hrun : (Scan.fresh 0 []).run (dropMark d.source) = (es, none) := hholds.scanned
  have hnested := nested_of_reads hholds.reads (spelled_of_run hrun).1
  have hwithin := hnested.within hat
  rw [Nat.zero_add] at hwithin
  exact ⟨Nat.lt_of_lt_of_le hwithin (byteLength_dropMark_le _), position_of_reads hholds.reads hat⟩

theorem exists_sourceLine (parsed : parse source = .ok d) (h : d.get? id = some n) :
    ∃ line, d.sourceLine? n = some line := by
  obtain ⟨hstart, hposition⟩ := starts_of_parse parsed h
  obtain ⟨k, text, hline, htext⟩ := Position.exists_line_advance hstart 1 0 0
  have hnumber : n.position.line = k + 1 := by
    rw [hposition, Position.ofOffset, hline, Nat.add_comm]
  refine ⟨String.ofList text, ?_⟩
  rw [sourceLine?, hnumber]
  exact congrArg (Option.map String.ofList) htext

theorem position_le_byteLength (parsed : parse source = .ok d) (h : d.get? id = some n) :
    n.position.line ≤ byteLength source ∧ n.position.column ≤ byteLength source := by
  obtain ⟨rfl, -⟩ := holds_of_parse parsed
  obtain ⟨hstart, hposition⟩ := starts_of_parse parsed h
  have hle := Position.advance_le d.source n.span.start 1 (Nat.le_refl 0)
  rw [hposition, Position.ofOffset]
  omega

end Document

end VectorLint
