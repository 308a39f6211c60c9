/-
Trimming: blanks around a text do not count, and only a text of blanks is
trimmed to nothing.
-/
import Mathlib.Data.List.TakeWhile
import VectorLint.Text.Blank

namespace VectorLint.Text

/-- Nothing but blanks. -/
def Blank (s : List Char) : Prop :=
  ∀ c ∈ s, isBlank c = true

instance (s : List Char) : Decidable (Blank s) :=
  List.decidableBAll (isBlank · = true) s

theorem Blank.append {a b : List Char} (ha : Blank a) (hb : Blank b) : Blank (a ++ b) := by
  intro c hc
  rcases List.mem_append.mp hc with hc | hc
  · exact ha c hc
  · exact hb c hc

theorem not_mem_of_blank {w : List Char} {c : Char} (hc : isBlank c = false) (hw : Blank w) :
    c ∉ w := by
  intro hmem
  rw [hw c hmem] at hc
  cases hc

theorem trimStart_blank_append {w : List Char} (hw : Blank w) (s : List Char) :
    trimStart (w ++ s) = trimStart s :=
  List.dropWhile_append_of_pos hw

theorem trimEnd_append_blank {w : List Char} (hw : Blank w) (s : List Char) :
    trimEnd (s ++ w) = trimEnd s := by
  rw [trimEnd, List.reverse_append,
    List.dropWhile_append_of_pos fun c hc => hw c (List.mem_reverse.mp hc), trimEnd]

theorem trimStart_eq_nil_iff {s : List Char} : trimStart s = [] ↔ Blank s :=
  List.dropWhile_eq_nil_iff

theorem trim_blank_append {w : List Char} (hw : Blank w) (s : List Char) : trim (w ++ s) = trim s := by
  rw [trim, trimStart_blank_append hw, trim]

theorem trim_append_blank {w : List Char} (hw : Blank w) (s : List Char) : trim (s ++ w) = trim s := by
  rw [trim, trim, trimStart, List.dropWhile_append]
  split
  · rename_i hs
    have hw' : w.dropWhile isBlank = [] := List.dropWhile_eq_nil_iff.mpr hw
    rw [hw', trimStart, List.isEmpty_iff.mp hs]
  · rw [trimEnd_append_blank hw, trimStart]

theorem trim_eq_nil_iff {s : List Char} : trim s = [] ↔ Blank s := by
  rw [trim, trimEnd, List.reverse_eq_nil_iff, List.dropWhile_eq_nil_iff]
  constructor
  · intro h
    refine trimStart_eq_nil_iff.mp (Classical.byContradiction fun hne => ?_)
    -- The first character left by trimming is no blank.
    have hhead : isBlank ((trimStart s).head hne) = false := List.head_dropWhile_not isBlank hne
    rw [h _ (List.mem_reverse.mpr (List.head_mem hne))] at hhead
    cases hhead
  · intro h
    rw [trimStart_eq_nil_iff.mpr h]
    simp

end VectorLint.Text
