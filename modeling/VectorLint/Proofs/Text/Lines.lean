/-
Lines and columns, in terms of what stands before a place. The line is known
from the line feeds before the place, the column from what is behind the last
of them (`lineFront`), and the line that the position names begins with that
(`ofOffset_append`, `exists_line?_append`).

An offset that falls inside of a character is on the line of that character:
only what lies within the bytes before it counts (`upTo`).
-/
import Mathlib.Data.List.DropRight
import Mathlib.Data.List.TakeDrop
import VectorLint.Proofs.Text.Split
import VectorLint.Text.Bytes
import VectorLint.Text.Position

namespace VectorLint.Text

/-- What stands behind the last line feed of a text. -/
def lineFront (before : List Char) : List Char :=
  before.rtakeWhile (· ≠ '\n')

variable {a s : List Char}

theorem not_mem_lineFront (before : List Char) : '\n' ∉ lineFront before := fun h => by
  simpa using List.mem_rtakeWhile_imp h

theorem lineFront_eq_self (h : '\n' ∉ a) : lineFront a = a := by
  rw [lineFront, List.rtakeWhile_eq_self_iff]
  intro c hc
  simpa using ne_of_mem_of_not_mem hc h

/-- Behind a line feed nothing counts that was before it. -/
theorem lineFront_break (a b : List Char) : lineFront (a ++ '\n' :: b) = lineFront b := by
  induction b using List.reverseRecOn with
  | nil => rw [lineFront, List.rtakeWhile_concat_neg _ _ _ (by simp)]; rfl
  | append_singleton b c ih =>
    unfold lineFront at ih ⊢
    rw [← List.cons_append, ← List.append_assoc, List.rtakeWhile_concat, List.rtakeWhile_concat, ih]

theorem lineFront_cons_of_mem (c : Char) (h : '\n' ∈ a) : lineFront (c :: a) = lineFront a := by
  obtain ⟨x, y, rfl⟩ := List.append_of_mem h
  rw [← List.cons_append, lineFront_break, lineFront_break]

/-! ## Positions -/

namespace Position

theorem advance_zero (s : List Char) (line chars width : Nat) :
    advance s 0 line chars width = ⟨line, chars + 1⟩ := by
  rw [advance]

theorem advance_cons_succ (c : Char) (s : List Char) (bytes line chars width : Nat) :
    advance (c :: s) (bytes + 1) line chars width =
      if bytes + 1 < c.utf8Size then ⟨line, width + (bytes + 1) + 1⟩
      else if c = '\n' then advance s (bytes + 1 - c.utf8Size) (line + 1) 0 0
      else advance s (bytes + 1 - c.utf8Size) line (chars + 1) (width + c.utf8Size) := by
  rw [advance]
  exact Nat.succ_ne_zero bytes

theorem advance_append_cons (c : Char) (a s : List Char) (line chars width : Nat) :
    advance (c :: s) (byteLength (c :: a)) line chars width =
      if c = '\n' then advance s (byteLength a) (line + 1) 0 0
      else advance s (byteLength a) line (chars + 1) (width + c.utf8Size) := by
  obtain ⟨n, hn⟩ := Nat.exists_eq_add_of_lt c.utf8Size_pos
  have hbytes : byteLength (c :: a) = n + byteLength a + 1 := by
    rw [byteLength]
    omega
  have hfits : ¬ n + byteLength a + 1 < c.utf8Size := by omega
  have hrest : n + byteLength a + 1 - c.utf8Size = byteLength a := by omega
  rw [hbytes, advance_cons_succ, if_neg hfits, hrest]

/-- The position behind a text, from a place in a line that begins with
`front`. -/
theorem advance_append {front : List Char} (hfront : '\n' ∉ front) (a b : List Char) (line : Nat) :
    advance (a ++ b) (byteLength a) line front.length (byteLength front) =
      ⟨line + a.count '\n', (lineFront (front ++ a)).length + 1⟩ := by
  induction a generalizing front line with
  | nil =>
    rw [byteLength, advance_zero, List.append_nil, lineFront_eq_self hfront]
    rfl
  | cons c a ih =>
    rw [List.cons_append, advance_append_cons]
    split
    · rename_i hbreak
      subst hbreak
      have hplace := ih List.not_mem_nil (line + 1)
      rwa [List.nil_append, Nat.add_assoc, Nat.add_comm 1, ← List.count_cons_self,
        ← lineFront_break front] at hplace
    · rename_i hbreak
      have hnext : '\n' ∉ front ++ [c] := by simp [hfront, Ne.symm hbreak]
      have hplace := ih hnext line
      rwa [List.append_assoc, List.singleton_append, List.length_append, byteLength_append,
        ← List.count_cons_of_ne hbreak] at hplace

/-- **The position behind a text**: its line feeds make the line, what is
behind the last of them makes the column. -/
theorem ofOffset_append (a b : List Char) :
    ofOffset (a ++ b) (byteLength a) = ⟨1 + a.count '\n', 1 + (lineFront a).length⟩ := by
  have h := advance_append List.not_mem_nil a b 1
  rwa [List.nil_append, Nat.add_comm (lineFront a).length] at h

end Position

/-! ## Lines -/

/-- A line ends at the first line feed, or with the text. -/
theorem line?_append_zero {line rest : List Char} (hline : '\n' ∉ line) (hne : line ++ rest ≠ [])
    (hrest : ∀ c ∈ rest.head?, c = '\n') :
    line? (line ++ rest) 0 = some (if rest = [] then line else dropReturn line) := by
  have hspan : (line ++ rest).span (· ≠ '\n') = (line, rest) := by
    rw [List.span_eq_takeWhile_dropWhile, Prod.mk.injEq, span_eq_iff]
    refine ⟨rfl, fun c hc => ?_, fun c hc => ?_⟩
    · simpa using ne_of_mem_of_not_mem hc hline
    · simpa using hrest c hc
  obtain ⟨c, s, hs⟩ := List.exists_cons_of_ne_nil hne
  rw [hs] at hspan ⊢
  rw [line?, hspan]
  · cases rest <;> rfl
  · exact List.cons_ne_nil c s

theorem line?_break (s : List Char) (n : Nat) : line? ('\n' :: s) (n + 1) = line? s n := by
  rw [line?, if_pos rfl]

theorem line?_cons_succ {c : Char} (hc : c ≠ '\n') (s : List Char) (n : Nat) :
    line? (c :: s) (n + 1) = line? s (n + 1) := by
  rw [line?, if_neg hc]

/-- Every line feed counts one line up. -/
theorem line?_append_count (a b : List Char) :
    line? (a ++ b) (a.count '\n') = line? (lineFront a ++ b) 0 := by
  induction a with
  | nil => rfl
  | cons c a ih =>
    by_cases hmem : '\n' ∈ c :: a
    · by_cases hbreak : c = '\n'
      · subst hbreak
        rw [List.count_cons_self, List.cons_append, line?_break, ih, ← lineFront_break [] a]
        rfl
      · have hmem : '\n' ∈ a := List.mem_of_ne_of_mem (Ne.symm hbreak) hmem
        obtain ⟨k, hk⟩ := Nat.exists_eq_add_of_lt (List.count_pos_iff.mpr hmem)
        rw [Nat.zero_add] at hk
        rw [List.count_cons_of_ne hbreak, lineFront_cons_of_mem c hmem, ← ih, List.cons_append, hk,
          line?_cons_succ hbreak]
    · rw [List.count_eq_zero_of_not_mem hmem, lineFront_eq_self hmem]

/-- A carriage return is dropped at the very end only. -/
theorem dropReturn_append {s : List Char} (hs : s.getLast? ≠ some '\r') (u : List Char) :
    dropReturn (s ++ u) = s ++ dropReturn u := by
  induction u using List.reverseRecOn with
  | nil =>
    rw [List.append_nil, dropReturn, if_neg hs]
    exact (List.append_nil s).symm
  | append_singleton u c _ =>
    rw [dropReturn, dropReturn, ← List.append_assoc, List.getLast?_concat, List.getLast?_concat,
      List.dropLast_concat, List.dropLast_concat]
    split
    · rfl
    · exact List.append_assoc _ _ _

theorem mem_of_mem_dropReturn {c : Char} (h : c ∈ dropReturn s) : c ∈ s := by
  rw [dropReturn] at h
  split at h
  · exact (List.dropLast_prefix s).mem h
  · exact h

theorem subset_of_mem_lines {line : List Char} (h : line ∈ lines s) : line ⊆ s := by
  have hpart {part : List Char} (h : part ∈ splitWhere (· == '\n') s) : part ⊆ s := by
    rw [splitWhere_eq_splitOnP] at h
    obtain ⟨-, a, b, hs, -, -⟩ := isPart_of_mem_splitOnP h
    rw [hs]
    exact List.subset_append_of_subset_right a (List.subset_append_left part b)
  rw [lines, List.mem_append] at h
  rcases h with h | h
  · obtain ⟨part, hmem, rfl⟩ := List.mem_map.mp h
    exact fun c hc => hpart ((List.dropLast_prefix _).mem hmem) (mem_of_mem_dropReturn hc)
  · obtain ⟨hlast, -⟩ := List.mem_filter.mp h
    exact hpart (List.mem_of_getLast? (Option.mem_toList.mp hlast))

theorem subset_of_line? {n : Nat} {line : List Char} (h : line? s n = some line) : line ⊆ s := by
  induction s generalizing n with
  | nil => simp [line?] at h
  | cons c s ih =>
    cases n with
    | zero =>
      have hfront : (c :: s).takeWhile (· ≠ '\n') ⊆ c :: s := List.takeWhile_subset _
      rw [line?, List.span_eq_takeWhile_dropWhile] at h
      · split at h <;> rename_i hspan <;> cases h <;> obtain ⟨rfl, -⟩ := Prod.mk.inj hspan
        · exact hfront
        · exact fun a ha => hfront (mem_of_mem_dropReturn ha)
      · exact List.cons_ne_nil c s
    | succ n =>
      rw [line?] at h
      split at h <;> exact List.subset_cons_of_subset c (ih h)

/-- **The line behind a text** begins with what the text has of it, and goes
on with what follows up to a line feed. -/
theorem exists_line?_append (a : List Char) {s : List Char} (hne : s ≠ []) (hbreak : '\n' ∉ s)
    (hreturn : s.getLast? ≠ some '\r') (t : List Char) :
    ∃ u, '\n' ∉ u ∧ line? (a ++ (s ++ t)) (a.count '\n') = some (lineFront a ++ (s ++ u)) := by
  obtain ⟨ht, hu, hrest⟩ := span_eq_iff.mp ⟨rfl, (rfl : t.dropWhile (· ≠ '\n') = _)⟩
  generalize t.takeWhile (· ≠ '\n') = u at ht hu
  generalize t.dropWhile (· ≠ '\n') = rest at ht hrest
  subst ht
  have hu : '\n' ∉ u := fun h => by simpa using hu _ h
  have hline : '\n' ∉ lineFront a ++ (s ++ u) := by simp [not_mem_lineFront, hbreak, hu]
  have hlast : (lineFront a ++ s).getLast? ≠ some '\r' := by
    rwa [List.getLast?_append_of_ne_nil _ hne]
  have hfound : line? (lineFront a ++ (s ++ u) ++ rest) 0 = _ :=
    line?_append_zero hline (by simp [hne]) (by simpa using hrest)
  simp only [List.append_assoc] at hfound
  rw [line?_append_count, hfound]
  split
  · exact ⟨u, hu, rfl⟩
  · refine ⟨dropReturn u, fun h => hu (mem_of_mem_dropReturn h), ?_⟩
    rw [← List.append_assoc, dropReturn_append hlast, List.append_assoc]

/-! ## Offsets inside of characters -/

/-- The characters that lie within the first bytes of a text. -/
def upTo : (s : List Char) → (bytes : Nat) → List Char
  | [], _ => []
  | c :: s, bytes => if bytes < c.utf8Size then [] else c :: upTo s (bytes - c.utf8Size)

theorem upTo_zero (s : List Char) : upTo s 0 = [] := by
  cases s with
  | nil => rfl
  | cons c s => rw [upTo, if_pos c.utf8Size_pos]

theorem upTo_append (a b : List Char) : upTo (a ++ b) (byteLength a) = a := by
  induction a with
  | nil => exact upTo_zero b
  | cons c a ih =>
    rw [List.cons_append, byteLength, upTo, if_neg (by omega), Nat.add_sub_cancel_left, ih]

/-- More bytes have more characters. -/
theorem upTo_prefix (s : List Char) {m n : Nat} (h : m ≤ n) : upTo s m <+: upTo s n := by
  induction s generalizing m n with
  | nil => exact List.prefix_rfl
  | cons c s ih =>
    rw [upTo, upTo]
    split
    · exact List.nil_prefix
    · have hn : ¬ n < c.utf8Size := by omega
      rw [if_neg hn]
      exact List.cons_prefix_cons.mpr ⟨rfl, ih (Nat.sub_le_sub_right h _)⟩

theorem line_advance (s : List Char) (bytes line chars width : Nat) :
    (Position.advance s bytes line chars width).line = line + (upTo s bytes).count '\n' := by
  induction s generalizing bytes line chars width with
  | nil => cases bytes <;> rfl
  | cons c s ih =>
    cases bytes with
    | zero =>
      rw [Position.advance_zero, upTo_zero]
      rfl
    | succ bytes =>
      rw [Position.advance_cons_succ, upTo]
      split
      · rfl
      · split
        · rename_i hbreak
          rw [ih, hbreak, List.count_cons_self, Nat.add_assoc, Nat.add_comm 1]
        · rename_i hbreak
          rw [ih, List.count_cons_of_ne hbreak]

/-- **The line of an offset** is known from the characters that lie before
it. -/
theorem line_ofOffset (s : List Char) (offset : Nat) :
    (Position.ofOffset s offset).line = 1 + (upTo s offset).count '\n' :=
  line_advance s offset 1 0 0

end VectorLint.Text
