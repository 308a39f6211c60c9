/-
What is written inside a JSON text, read again: a string as the characters
of its quoted form (`readString_escape`), an integer as its digits
(`readNumber_repr`). Both are read out of a longer text, and the rest is
left; a number needs a rest that does not go on with it (`EndsNumber`).
-/
import Mathlib.Data.List.TakeDrop
import Mathlib.Tactic.SplitIfs
import VectorLint.Json.Reader
import VectorLint.Json.Writer
import VectorLint.Proofs.Text.Split

namespace VectorLint.Json

/-! ## Strings -/

/-- The digits of a control character, as they are read. -/
theorem hexDigits_control :
    ∀ n < 0x20, Text.byteLength ['0', '0', hexDigit (n / 16), hexDigit (n % 16)] = 4 ∧
      ['0', '0', hexDigit (n / 16), hexDigit (n % 16)].mapM (Text.digitValue? 16) =
        some [0, 0, n / 16, n % 16] := by
  decide

theorem readHex4_control {n : Nat} (h : n < 0x20) (s : List Char) :
    readHex4 ('0' :: '0' :: hexDigit (n / 16) :: hexDigit (n % 16) :: s) = .ok (n, s) := by
  obtain ⟨hlength, hdigits⟩ := hexDigits_control n h
  have htake : ('0' :: '0' :: hexDigit (n / 16) :: hexDigit (n % 16) :: s).take 4 =
      ['0', '0', hexDigit (n / 16), hexDigit (n % 16)] := rfl
  have hvalue : ((0 * 16 + 0) * 16 + n / 16) * 16 + n % 16 = n := by omega
  rw [readHex4, htake, hlength, if_neg (Nat.lt_irrefl 4), hdigits]
  show Except.ok (((0 * 16 + 0) * 16 + n / 16) * 16 + n % 16, s) = _
  rw [hvalue]

theorem readUnicodeEscape_control {c : Char} (h : c.toNat < 0x20) (s : List Char) :
    readUnicodeEscape ('0' :: '0' :: hexDigit (c.toNat / 16) :: hexDigit (c.toNat % 16) :: s) =
      .ok (c, s) := by
  have hlow : ¬(0xDC00 ≤ c.toNat ∧ c.toNat ≤ 0xDFFF) := by omega
  have hplain : c.toNat < 0xD800 ∨ 0xDBFF < c.toNat := by omega
  rw [readUnicodeEscape, readHex4_control h]
  simp [bind, Except.bind, pure, Except.pure, hlow, hplain]

/-- A character stands in a string as itself, or as an escape that is read
as it. -/
theorem escape_cases (c : Char) :
    (escape c = [c] ∧ c ≠ '"' ∧ c ≠ '\\' ∧ ¬c.toNat < 0x20) ∨
    ∃ code, escape c = '\\' :: code ∧ ∀ s, readEscape (code ++ s) = .ok (c, s) := by
  unfold escape
  split_ifs with hquote hslash hb hf hn hr ht hcontrol
  · exact .inr ⟨['"'], rfl, fun s => by rw [hquote]; rfl⟩
  · exact .inr ⟨['\\'], rfl, fun s => by rw [hslash]; rfl⟩
  · exact .inr ⟨['b'], rfl, fun s => by rw [hb]; rfl⟩
  · exact .inr ⟨['f'], rfl, fun s => by rw [hf]; rfl⟩
  · exact .inr ⟨['n'], rfl, fun s => by rw [hn]; rfl⟩
  · exact .inr ⟨['r'], rfl, fun s => by rw [hr]; rfl⟩
  · exact .inr ⟨['t'], rfl, fun s => by rw [ht]; rfl⟩
  · exact .inr ⟨_, rfl, fun s => readUnicodeEscape_control hcontrol s⟩
  · exact .inl ⟨rfl, hquote, hslash, hcontrol⟩

theorem readStringWith_escape (chars : List Char) {fuel : Nat} (done rest : List Char)
    (h : (chars.flatMap escape).length < fuel) :
    readStringWith readEscape fuel done (chars.flatMap escape ++ '"' :: rest) =
      .ok (done.reverse ++ chars, rest) := by
  induction chars generalizing fuel done with
  | nil =>
    obtain ⟨fuel, rfl⟩ := Nat.exists_eq_add_one_of_ne_zero (Nat.ne_zero_of_lt h)
    rw [List.append_nil]
    rfl
  | cons c chars ih =>
    obtain ⟨fuel, rfl⟩ := Nat.exists_eq_add_one_of_ne_zero (Nat.ne_zero_of_lt h)
    rw [List.flatMap_cons, List.length_append] at h
    rw [List.flatMap_cons, List.append_assoc]
    have hgoal (hlength : (chars.flatMap escape).length < fuel) :=
      ih (c :: done) hlength
    rw [List.reverse_cons, List.append_assoc, List.singleton_append] at hgoal
    rcases escape_cases c with ⟨hself, hquote, hslash, hcontrol⟩ | ⟨code, hcode, hread⟩
    · rw [hself, List.length_singleton] at h
      rw [hself, List.singleton_append, readStringWith, if_neg hquote, if_neg hslash,
        if_neg hcontrol]
      exact hgoal (by omega)
    · rw [hcode, List.length_cons] at h
      rw [hcode, List.cons_append, readStringWith, if_neg (by decide), if_pos rfl, hread]
      exact hgoal (by omega)

theorem readString_escape (text : String) (rest : List Char) :
    readString (text.toList.flatMap escape ++ '"' :: rest) = .ok (text, rest) := by
  have hfuel : (text.toList.flatMap escape).length <
      (text.toList.flatMap escape ++ '"' :: rest).length + 1 := by
    rw [List.length_append]
    omega
  rw [readString, readStringWith_escape _ _ _ hfuel]
  show Except.ok (String.ofList text.toList, rest) = _
  rw [String.ofList_toList]

/-! ## Integers -/

/-- What may stand behind a number. -/
def EndsNumber (rest : List Char) : Prop :=
  ∀ c ∈ rest.head?, c.isDigit = false ∧ c ≠ '.' ∧ c ≠ 'e' ∧ c ≠ 'E'

theorem spanDigits_append {digits rest : List Char} (h : ∀ c ∈ digits, c.isDigit = true)
    (hrest : EndsNumber rest) : spanDigits (digits ++ rest) = (digits, rest) := by
  obtain ⟨htake, hdrop⟩ := Text.span_eq_iff.mpr ⟨rfl, h, fun c hc => (hrest c hc).1⟩
  rw [spanDigits, List.span_eq_takeWhile_dropWhile, htake, hdrop]

theorem le_ofDigitChars (digits : List Char) (n : Nat) : n ≤ Nat.ofDigitChars 10 digits n := by
  have hpos : 0 < 10 ^ digits.length := Nat.pow_pos (by decide)
  rw [Nat.ofDigitChars_eq_ofDigitChars_zero]
  exact Nat.le_trans (Nat.le_mul_of_pos_left n hpos) (Nat.le_add_right _ _)

/-- Digits are taken in as long as they write a number of 64 bits. -/
theorem absorb_eq {digits : List Char} {n : Nat} (h : Nat.ofDigitChars 10 digits n < UInt64.size) :
    absorb n digits = (Nat.ofDigitChars 10 digits n, 0) := by
  induction digits generalizing n with
  | nil => rfl
  | cons c digits ih =>
    rw [Nat.ofDigitChars_cons] at h ⊢
    have hnext : n * 10 + digitValue c = 10 * n + (c.toNat - '0'.toNat) := by
      rw [digitValue, Nat.mul_comm]
    have hfits : n * 10 + digitValue c < UInt64.size := by
      rw [hnext]
      exact Nat.lt_of_le_of_lt (le_ofDigitChars digits _) h
    rw [absorb, if_pos hfits, hnext]
    exact ih h

theorem head?_toDigits {n : Nat} (h : 0 < n) : (Nat.toDigits 10 n).head? ≠ some '0' := by
  induction n using Nat.strongRecOn with
  | ind n ih =>
    by_cases hsmall : n < 10
    · have hdigit : ∀ m < 10, 0 < m → [Nat.digitChar m].head? ≠ some '0' := by decide
      rw [Nat.toDigits_of_lt_base hsmall]
      exact hdigit n hsmall h
    · have hfront := ih (n / 10) (by omega) (by omega)
      obtain ⟨c, digits, hdigits⟩ := List.exists_cons_of_ne_nil (Nat.toDigits_ne_nil (n := n / 10))
      rw [Nat.toDigits_of_base_le (by decide) (by omega), hdigits]
      rwa [hdigits] at hfront

/-- The digits of a number do not begin with a nought, unless that is all. -/
theorem toDigits_ne_zero_cons (n : Nat) (c : Char) (digits : List Char) :
    Nat.toDigits 10 n ≠ '0' :: c :: digits := by
  intro h
  rcases Nat.eq_zero_or_pos n with rfl | hn
  · simp at h
  · exact head?_toDigits hn (by rw [h]; rfl)

theorem readNumber_repr (negative : Bool) (n : Nat) {i : Integer} {rest : List Char}
    (hval : i.val = if negative then -(n : Int) else n) (hzero : negative = true → n ≠ 0)
    (hrest : EndsNumber rest) :
    readNumber negative (n.repr.toList ++ rest) = .ok (.integer i, rest) := by
  have hdigits : ∀ c ∈ Nat.toDigits 10 n, c.isDigit = true :=
    fun c hc => Nat.isDigit_of_mem_toDigits (by decide) (by decide) hc
  have hbound : n < UInt64.size := by
    have hlow := i.low
    have hhigh := i.high
    have hsize : UInt64.size = 0x10000000000000000 := rfl
    split at hval <;> omega
  have habsorb : absorb 0 (Nat.toDigits 10 n) = (n, 0) := by
    rw [absorb_eq (by rwa [Nat.ofDigitChars_ten_toDigits]), Nat.ofDigitChars_ten_toDigits]
  have hinteger : Integer.ofInt? (if negative then -(n : Int) else n) = some i := by
    rw [← hval, Integer.ofInt?_val]
  rw [Nat.toList_repr, readNumber, spanDigits_append hdigits hrest]
  split
  · rename_i hspan
    exact absurd (Prod.mk.inj hspan).1 Nat.toDigits_ne_nil
  · rename_i hspan
    exact absurd (Prod.mk.inj hspan).1 Nat.toDigits_ne_nil
  · rename_i hspan
    exact absurd (Prod.mk.inj hspan).1 (toDigits_ne_zero_cons n _ _)
  · rename_i hspan
    obtain ⟨rfl, rfl⟩ := Prod.mk.inj hspan
    rw [habsorb]
    dsimp only
    split
    · exact absurd rfl (hrest '.' rfl).2.1
    · have hplain : 0 = 0 ∧ ¬(negative = true ∧ n = 0) := ⟨rfl, fun h => hzero h.1 h.2⟩
      rw [if_pos hplain, hinteger]
      cases rest with
      | nil => rfl
      | cons c rest =>
        obtain ⟨-, -, he, hE⟩ := hrest c rfl
        simp [he, hE]

end VectorLint.Json
