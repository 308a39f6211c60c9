/-
Cutting a text, in terms of lists. The parts are those that the list library
cuts out (`splitWhere_eq_splitOnP`), and the words of a text are its longest
stretches without a blank (`mem_words_iff`).
-/
import Mathlib.Data.List.TakeWhile
import VectorLint.Text.Blank

namespace VectorLint.Text

theorem splitWhere_eq_splitOnP (cut : Char → Bool) (s : List Char) :
    splitWhere cut s = s.splitOnP cut := by
  induction s with
  | nil => rfl
  | cons c s ih =>
    rw [splitWhere, List.splitOnP_cons_eq_if_modifyHead, ih]
    split
    · rfl
    · split
      · rename_i hnil
        exact absurd hnil (List.splitOnP_ne_nil cut s)
      · rename_i hparts
        rw [hparts, List.modifyHead_cons]

/-- A text put together with cuts between its parts. -/
theorem splitOnP_intercalate {cut : Char → Bool} {sep : Char} (hsep : cut sep = true)
    {parts : List (List Char)} (hne : parts ≠ []) :
    ([sep].intercalate parts).splitOnP cut = parts.flatMap (·.splitOnP cut) := by
  induction parts with
  | nil => exact absurd rfl hne
  | cons part parts ih =>
    cases parts with
    | nil => rw [List.intercalate_singleton, List.flatMap_cons, List.flatMap_nil, List.append_nil]
    | cons next parts =>
      rw [List.intercalate_cons_cons, List.append_assoc, List.singleton_append,
        List.splitOnP_append_cons _ _ hsep, ih (List.cons_ne_nil next parts),
        List.flatMap_cons (x := part)]

/-- Where a text is cut that begins with characters of a kind. -/
theorem span_eq_iff {p : Char → Bool} {s a b : List Char} :
    s.takeWhile p = a ∧ s.dropWhile p = b ↔
      s = a ++ b ∧ (∀ c ∈ a, p c = true) ∧ ∀ c ∈ b.head?, p c = false := by
  constructor
  · rintro ⟨rfl, rfl⟩
    refine ⟨List.takeWhile_append_dropWhile.symm, fun c hc => List.mem_takeWhile_imp hc, ?_⟩
    intro c hc
    have hhead := List.head?_dropWhile_not p s
    rw [Option.mem_def.mp hc] at hhead
    exact hhead
  · rintro ⟨rfl, ha, hb⟩
    rw [List.takeWhile_append_of_pos ha, List.dropWhile_append_of_pos ha]
    cases b with
    | nil => simp
    | cons c b => simp [hb c rfl]

/-- A part of a text that reaches from one cut, or the beginning, to the next,
or the end. -/
def IsPart (cut : Char → Bool) (part s : List Char) : Prop :=
  (∀ c ∈ part, cut c = false) ∧ ∃ a b, s = a ++ (part ++ b) ∧
    (∀ c ∈ a.getLast?, cut c = true) ∧ ∀ c ∈ b.head?, cut c = true

theorem isPart_of_mem_splitOnP {cut : Char → Bool} {part s : List Char} (h : part ∈ s.splitOnP cut) :
    IsPart cut part s := by
  induction hn : s.length using Nat.strongRecOn generalizing s with
  | ind n ih =>
    obtain ⟨hs, hfront, hrest⟩ := span_eq_iff.mp ⟨rfl, (rfl : s.dropWhile (!cut ·) = _)⟩
    generalize s.takeWhile (!cut ·) = front at hs hfront
    generalize s.dropWhile (!cut ·) = rest at hs hrest
    subst hs
    have hfront : ∀ c ∈ front, cut c = false := by simpa using hfront
    cases rest with
    | nil =>
      rw [List.append_nil, List.splitOnP_eq_singleton hfront, List.mem_singleton] at h
      subst h
      exact ⟨hfront, [], [], by simp, by simp, by simp⟩
    | cons c rest =>
      have hc : cut c = true := by simpa using hrest c rfl
      rw [List.splitOnP_append_cons_of_forall_mem hfront c hc, List.mem_cons] at h
      rcases h with rfl | h
      · exact ⟨hfront, [], c :: rest, rfl, by simp, by simpa using hc⟩
      · have hlt : rest.length < n := by
          rw [← hn, List.length_append, List.length_cons]
          omega
        obtain ⟨hpart, a, b, rfl, ha, hb⟩ := ih _ hlt h rfl
        refine ⟨hpart, front ++ c :: a, b, by simp, fun d hd => ?_, hb⟩
        -- The last character before the part is the cut, or one behind it.
        rw [List.getLast?_append, List.getLast?_cons, Option.some_or, Option.mem_some_iff] at hd
        cases hlast : a.getLast? with
        | none => rwa [← hd, hlast, Option.getD_none]
        | some e => rw [← hd, hlast, Option.getD_some]; exact ha e hlast

theorem mem_splitOnP_of_isPart {cut : Char → Bool} {part s : List Char} (h : IsPart cut part s) :
    part ∈ s.splitOnP cut := by
  obtain ⟨hpart, a, b, rfl, ha, hb⟩ := h
  have hhead : part ∈ (part ++ b).splitOnP cut := by
    cases b with
    | nil => rw [List.append_nil, List.splitOnP_eq_singleton hpart]; exact List.mem_singleton_self _
    | cons c b =>
      rw [List.splitOnP_append_cons_of_forall_mem hpart c (hb c rfl)]
      exact List.mem_cons_self
  rcases List.eq_nil_or_concat a with rfl | ⟨a, c, rfl⟩
  · exact hhead
  · rw [List.concat_eq_append, List.append_assoc, List.singleton_append,
      List.splitOnP_append_cons _ _ (ha c (by simp))]
    exact List.mem_append_right _ hhead

theorem mem_words_iff {word s : List Char} : word ∈ words s ↔ word ≠ [] ∧ IsPart isBlank word s := by
  rw [words, splitWhere_eq_splitOnP, List.mem_filter]
  constructor
  · rintro ⟨hmem, hne⟩
    exact ⟨by simpa using hne, isPart_of_mem_splitOnP hmem⟩
  · rintro ⟨hne, hpart⟩
    exact ⟨mem_splitOnP_of_isPart hpart, by simpa using hne⟩

end VectorLint.Text
