/-
The line of totals. It is the last line of a text with statistics
(`lastLine_format`), it shows the same whether it is styled or not
(`shows_statsLine`), and every total stands in it before its noun, but for
those that are nought (`countOf_terms`).
-/
import Mathlib.Data.List.Basic
import VectorLint.Output.Text
import VectorLint.Proofs.Output.Decoration
import VectorLint.Proofs.Text.Split

namespace VectorLint.TextFormat

variable {f : TextFormat} {s : Summary} {n : Nat} {noun word text : String} {c : Char}

/-! ## Reading a line of totals -/

/-- The last line of a text. -/
def lastLine (text : List Char) : List Char :=
  (Text.lines text).getLast?.getD []

/-- The longest stretches of letters and digits. -/
def terms (line : List Char) : List (List Char) :=
  (line.splitOnP fun c => !c.isAlphanum).filter (!·.isEmpty)

/-- Whether a term is a noun, in the singular or the plural. -/
def isNoun (noun : String) (term : List Char) : Bool :=
  term = noun.toList || term = noun.toList ++ ['s']

/-- The number that stands before a noun; a noun that is not there counts
nothing. -/
def countOf (noun : String) : List (List Char) → Nat
  | count :: term :: terms =>
    if isNoun noun term then Nat.ofDigitChars 10 count 0 else countOf noun (term :: terms)
  | _ => 0

/-- The number that the last line of a text shows with a noun. -/
def stated (text noun : String) : Nat :=
  countOf noun (terms (Style.visible (lastLine text.toList)))

/-- The last line of a text shows totals. -/
structure States (text : String) (s : Summary) : Prop where
  files : stated text "file" = s.files
  exceptions : stated text "exception" = s.exceptions
  errors : stated text "error" = s.errors
  warnings : stated text "warning" = s.warnings

/-! ## Terms of a line -/

theorem terms_append_cons (hc : c.isAlphanum = false) (a b : List Char) :
    terms (a ++ c :: b) = terms a ++ terms b := by
  rw [terms, List.splitOnP_append_cons _ _ (by rw [hc]; rfl), List.filter_append]
  rfl

theorem terms_nil : terms [] = [] := rfl

theorem terms_of_alphanum {term : List Char} (hne : term ≠ []) (h : ∀ c ∈ term, c.isAlphanum = true) :
    terms term = [term] := by
  rw [terms, List.splitOnP_eq_singleton fun c hc => by rw [h c hc]; rfl]
  simp [hne]

theorem isDigit_of_mem_repr (h : c ∈ n.repr.toList) : c.isDigit = true := by
  rw [Nat.toList_repr] at h
  exact Nat.isDigit_of_mem_toDigits (by decide) (by decide) h

theorem isAlphanum_of_mem_repr (h : c ∈ n.repr.toList) : c.isAlphanum = true := by
  rw [Char.isAlphanum, isDigit_of_mem_repr h, Bool.or_true]

theorem terms_repr (n : Nat) : terms n.repr.toList = [n.repr.toList] := by
  refine terms_of_alphanum ?_ fun c => isAlphanum_of_mem_repr
  rw [Nat.toList_repr]
  exact Nat.toDigits_ne_nil

/-- The nouns of totals. -/
def nouns : List String := ["file", "exception", "error", "warning"]

/-- A noun in the number that a count wants. -/
def inNumber (n : Nat) (word : String) : List Char :=
  if n = 1 then word.toList else word.toList ++ ['s']

theorem toList_plural (n : Nat) (word : String) :
    (plural n word).toList = n.repr.toList ++ ' ' :: inNumber n word := by
  unfold plural inNumber
  split <;> simp [String.toList_append]

theorem inNumber_of_mem_nouns (h : word ∈ nouns) (n : Nat) :
    inNumber n word ≠ [] ∧ ∀ c ∈ inNumber n word, c.isAlphanum = true := by
  have hall : ∀ word ∈ nouns, word.toList ≠ [] ∧ word.toList.all Char.isAlphanum = true := by decide
  obtain ⟨hne, hword⟩ := hall word h
  have hletters := List.all_eq_true.mp hword
  unfold inNumber
  split
  · exact ⟨hne, hletters⟩
  · exact ⟨by simp, List.forall_mem_append.mpr ⟨hletters, List.forall_mem_singleton.mpr rfl⟩⟩

theorem terms_plural (h : word ∈ nouns) (n : Nat) :
    terms (plural n word).toList = [n.repr.toList, inNumber n word] := by
  obtain ⟨hne, halphanum⟩ := inNumber_of_mem_nouns h n
  rw [toList_plural, terms_append_cons rfl, terms_repr, terms_of_alphanum hne halphanum]
  rfl

theorem mem_plural (h : word ∈ nouns) (hc : c ∈ (plural n word).toList) :
    c.isAlphanum = true ∨ c = ' ' := by
  rw [toList_plural, List.mem_append, List.mem_cons] at hc
  rcases hc with hc | rfl | hc
  · exact .inl (isAlphanum_of_mem_repr hc)
  · exact .inr rfl
  · exact .inl ((inNumber_of_mem_nouns h n).2 c hc)

/-! ## The line as it is printed -/

/-- The totals below the files that are not nought. -/
def counts (s : Summary) : List (Nat × String × Color) :=
  [(s.exceptions, "exception", .magenta), (s.errors, "error", .red),
    (s.warnings, "warning", .yellow)].filter (·.1 ≠ 0)

theorem countTexts_eq (f : TextFormat) (s : Summary) :
    f.countTexts s = (counts s).map fun e => f.paint (.plain e.2.2) (plural e.1 e.2.1) := by
  unfold countTexts counts
  by_cases hexceptions : s.exceptions = 0 <;> by_cases herrors : s.errors = 0 <;>
    by_cases hwarnings : s.warnings = 0 <;> simp [hexceptions, herrors, hwarnings]

/-- The totals that are not nought, each with its noun. -/
def plainCounts (s : Summary) : List String :=
  (counts s).map fun e => plural e.1 e.2.1

theorem countTexts_plain (f : TextFormat) (s : Summary) :
    countTexts { f with colored := false } s = plainCounts s :=
  countTexts_eq _ s

theorem mem_nouns_of_mem_counts {e : Nat × String × Color} (h : e ∈ counts s) : e.2.1 ∈ nouns := by
  have hall : ∀ e ∈ [(s.exceptions, "exception", Color.magenta), (s.errors, "error", .red),
      (s.warnings, "warning", .yellow)], e.2.1 ∈ nouns := by
    simp [nouns]
  exact hall e (List.mem_filter.mp h).1

/-- What stands behind the number of files. -/
def tailText : List String → String
  | [] => ""
  | text :: texts => ": " ++ ", ".intercalate (text :: texts)

/-- The line of totals without the line breaks around it. -/
def statsLine (f : TextFormat) (s : Summary) : String :=
  plural s.files "file" ++ " processed" ++ tailText (f.countTexts s)

theorem statsText_eq (f : TextFormat) (s : Summary) : f.statsText s = "\n" ++ f.statsLine s ++ "\n" := by
  simp only [statsText, statsLine, String.append_assoc]
  cases f.countTexts s <;> rfl

theorem toList_statsText (f : TextFormat) (s : Summary) :
    (f.statsText s).toList = '\n' :: (f.statsLine s).toList ++ ['\n'] := by
  rw [statsText_eq, String.toList_append, String.toList_append]
  rfl

theorem shows_paint (f : TextFormat) (style : Style) (h : '\x1b' ∉ text.toList) :
    Style.Shows (f.paint style text) text := by
  unfold paint
  split
  · exact Style.shows_apply style h
  · exact Style.shows_self h

theorem escape_not_mem_plural (h : word ∈ nouns) (n : Nat) : '\x1b' ∉ (plural n word).toList :=
  fun hc => absurd (mem_plural h hc) (by decide)

theorem shows_statsLine (f : TextFormat) (s : Summary) :
    Style.Shows (f.statsLine s) (statsLine { f with colored := false } s) := by
  have hcounts : ∀ e ∈ counts s,
      Style.Shows (f.paint (.plain e.2.2) (plural e.1 e.2.1)) (plural e.1 e.2.1) := fun e he =>
    shows_paint f _ (escape_not_mem_plural (mem_nouns_of_mem_counts he) _)
  have htexts := Style.Shows.intercalate ", " (by decide) hcounts
  rw [statsLine, statsLine, countTexts_eq, countTexts_plain, plainCounts]
  refine .append (.append ?_ ?_) ?_
  · exact Style.shows_self (escape_not_mem_plural (by decide) _)
  · exact Style.shows_self (by decide)
  · cases hnil : counts s with
    | nil => exact Style.shows_self List.not_mem_nil
    | cons e es =>
      rw [hnil] at htexts
      exact .append (Style.shows_self (by decide)) htexts

/-! ## The terms of the line -/

theorem terms_intercalate {texts : List String} :
    terms (", ".intercalate texts).toList = texts.flatMap fun text => terms text.toList := by
  induction texts with
  | nil => rfl
  | cons text texts ih =>
    cases texts with
    | nil => simp
    | cons next texts =>
      have hsep (rest : List Char) : text.toList ++ ", ".toList ++ rest =
          text.toList ++ ',' :: ([] ++ ' ' :: rest) := by
        simp
      rw [String.intercalate_cons_cons, String.toList_append, String.toList_append, hsep,
        terms_append_cons rfl, terms_append_cons rfl, terms_nil, ih, List.nil_append,
        List.flatMap_cons (x := text)]

theorem terms_append_tailText (front : List Char) (texts : List String) :
    terms (front ++ (tailText texts).toList) =
      terms front ++ texts.flatMap fun text => terms text.toList := by
  cases texts with
  | nil =>
    rw [tailText, String.toList_empty, List.append_nil, List.flatMap_nil, List.append_nil]
  | cons text texts =>
    have hcolon (rest : List Char) : ": ".toList ++ rest = ':' :: ([] ++ ' ' :: rest) := rfl
    rw [tailText, String.toList_append, hcolon, terms_append_cons rfl, terms_append_cons rfl, terms_nil,
      List.nil_append, terms_intercalate]

/-- The terms of the totals that are not nought. -/
def countTerms (s : Summary) : List (List Char) :=
  (counts s).flatMap fun e => [e.1.repr.toList, inNumber e.1 e.2.1]

theorem terms_statsLine (f : TextFormat) (s : Summary) :
    terms (Style.visible (f.statsLine s).toList) =
      s.files.repr.toList :: inNumber s.files "file" :: "processed".toList :: countTerms s := by
  have hcounts : (plainCounts s).flatMap (fun text => terms text.toList) = countTerms s := by
    rw [plainCounts, List.flatMap_map]
    exact List.flatMap_congr fun e he => terms_plural (mem_nouns_of_mem_counts he) e.1
  have hprocessed : terms (' ' :: "processed".toList) = ["processed".toList] := by decide
  have hfront : terms ((plural s.files "file").toList ++ " processed".toList) =
      [s.files.repr.toList, inNumber s.files "file", "processed".toList] := by
    have happend := terms_append_cons (c := ' ') rfl (plural s.files "file").toList
      "processed".toList
    rw [terms_plural (by decide)] at happend
    exact happend
  rw [(shows_statsLine f s).visible_eq, statsLine, countTexts_plain]
  simp only [String.toList_append]
  rw [terms_append_tailText, hfront, hcounts]
  rfl

theorem isNoun_repr (h : noun ∈ nouns) (n : Nat) : isNoun noun n.repr.toList = false := by
  have hletters : ∀ noun ∈ nouns, noun.toList.all Char.isDigit = false := by decide
  have hdigits : n.repr.toList.all Char.isDigit = true :=
    List.all_eq_true.mpr fun c => isDigit_of_mem_repr
  have hnoun := hletters noun h
  rw [isNoun, Bool.or_eq_false_iff, decide_eq_false_iff_not, decide_eq_false_iff_not]
  refine ⟨fun heq => ?_, fun heq => ?_⟩
  · rw [← heq, hdigits] at hnoun
    cases hnoun
  · rw [heq, List.all_append, hnoun] at hdigits
    cases hdigits

theorem isNoun_inNumber (h : noun ∈ nouns) (hword : word ∈ nouns) (n : Nat) :
    isNoun noun (inNumber n word) = decide (word = noun) := by
  have hall : ∀ noun ∈ nouns, ∀ word ∈ nouns, isNoun noun word.toList = decide (word = noun) ∧
      isNoun noun (word.toList ++ ['s']) = decide (word = noun) := by
    decide
  obtain ⟨hsingular, hplural⟩ := hall noun h word hword
  unfold inNumber
  split
  · exact hsingular
  · exact hplural

theorem countOf_skip {term : List Char} (h : isNoun noun term = false) (first : List Char)
    (rest : List (List Char)) : countOf noun (first :: term :: rest) = countOf noun (term :: rest) := by
  rw [countOf, h]
  rfl

theorem countOf_noun {term : List Char} (h : isNoun noun term = true) (n : Nat)
    (rest : List (List Char)) : countOf noun (n.repr.toList :: term :: rest) = n := by
  rw [countOf, h, if_pos rfl, Nat.toList_repr, Nat.ofDigitChars_ten_toDigits]

/-- A noun has the count that it comes first with. -/
theorem countOf_flatMap (h : noun ∈ nouns) (first : List Char) {es : List (Nat × String × Color)}
    (hes : ∀ e ∈ es, e.2.1 ∈ nouns) :
    countOf noun (first :: es.flatMap fun e => [e.1.repr.toList, inNumber e.1 e.2.1]) =
      ((es.find? (·.2.1 = noun)).map Prod.fst).getD 0 := by
  induction es generalizing first with
  | nil => rfl
  | cons e es ih =>
    obtain ⟨he, hes⟩ := List.forall_mem_cons.mp hes
    have hnoun := isNoun_inNumber h he e.1
    rw [List.flatMap_cons, List.cons_append, List.cons_append, List.nil_append,
      countOf_skip (isNoun_repr h e.1), List.find?_cons]
    by_cases heq : e.2.1 = noun
    · rw [decide_eq_true heq] at hnoun ⊢
      exact countOf_noun hnoun e.1 _
    · rw [decide_eq_false heq] at hnoun ⊢
      rw [countOf_skip hnoun, ih _ hes]

/-- Every total stands in the line before its noun, unless it is nought. -/
theorem countOf_statsLine (f : TextFormat) (s : Summary) :
    ∀ e ∈ [("file", s.files), ("exception", s.exceptions), ("error", s.errors),
      ("warning", s.warnings)],
      countOf e.1 (terms (Style.visible (f.statsLine s).toList)) = e.2 := by
  have hfile : isNoun "file" (inNumber s.files "file") = true :=
    isNoun_inNumber (by decide) (by decide) s.files
  have hother {noun : String} (h : noun ∈ nouns) (hne : "file" ≠ noun) :
      countOf noun (terms (Style.visible (f.statsLine s).toList)) =
        (((counts s).find? (·.2.1 = noun)).map Prod.fst).getD 0 := by
    have hfile := isNoun_inNumber h (by decide : "file" ∈ nouns) s.files
    rw [decide_eq_false hne] at hfile
    have hprocessed : ∀ noun ∈ nouns, isNoun noun "processed".toList = false := by decide
    rw [terms_statsLine, countOf_skip hfile, countOf_skip (hprocessed noun h), countTerms,
      countOf_flatMap h _ fun e he => mem_nouns_of_mem_counts he]
  simp only [List.forall_mem_cons]
  refine ⟨?_, ?_, ?_, ?_, List.forall_mem_nil _⟩
  · rw [terms_statsLine, countOf_noun hfile]
  all_goals
    rw [hother (by decide) (by decide), counts]
    by_cases hexceptions : s.exceptions = 0 <;> by_cases herrors : s.errors = 0 <;>
      by_cases hwarnings : s.warnings = 0 <;> simp [hexceptions, herrors, hwarnings]

/-! ## The last line of a text -/

theorem lastLine_append {line : List Char} (hfeed : '\n' ∉ line) (hreturn : '\r' ∉ line)
    (text : List Char) : lastLine (text ++ '\n' :: line ++ ['\n']) = line := by
  have hline : ∀ c ∈ line, (c == '\n') = false := fun c hc =>
    beq_eq_false_iff_ne.mpr (ne_of_mem_of_not_mem hc hfeed)
  have hparts : Text.splitWhere (· == '\n') (text ++ '\n' :: line ++ ['\n']) =
      text.splitOnP (· == '\n') ++ [line] ++ [[]] := by
    rw [Text.splitWhere_eq_splitOnP, List.append_assoc, List.cons_append,
      List.splitOnP_append_cons _ _ rfl, List.splitOnP_append_cons_of_forall_mem hline '\n' rfl,
      List.splitOnP_nil, List.append_assoc]
    rfl
  have hlast : line.getLast? ≠ some '\r' := fun h => hreturn (List.mem_of_getLast? h)
  rw [lastLine, Text.lines, hparts]
  simp only [List.dropLast_concat, List.map_append, List.map_cons, List.map_nil, List.getLast?_concat]
  simp [Text.dropReturn, hlast]

theorem not_mem_paint (f : TextFormat) (style : Style) (hc : c ∉ Style.escapes)
    (hescape : '\x1b' ∉ text.toList) (h : c ∉ text.toList) : c ∉ (f.paint style text).toList := by
  unfold paint
  split
  · exact Style.not_mem_apply style hc hescape h
  · exact h

theorem not_mem_intercalate {texts : List String} (hc : c ∉ ", ".toList)
    (h : ∀ text ∈ texts, c ∉ text.toList) : c ∉ (", ".intercalate texts).toList := by
  induction texts with
  | nil => exact List.not_mem_nil
  | cons text texts ih =>
    obtain ⟨htext, htexts⟩ := List.forall_mem_cons.mp h
    cases texts with
    | nil => rwa [String.intercalate_singleton]
    | cons next texts =>
      rw [String.intercalate_cons_cons, String.toList_append, String.toList_append, List.mem_append,
        List.mem_append, not_or, not_or]
      exact ⟨⟨htext, hc⟩, ih htexts⟩

/-- No line ends in the line of totals. -/
theorem not_mem_statsLine (f : TextFormat) (s : Summary) (hc : c = '\n' ∨ c = '\r') :
    c ∉ (f.statsLine s).toList := by
  have hmarks : c ∉ ": ".toList ∧ c ∉ ", ".toList ∧ c ∉ " processed".toList ∧ c ∉ Style.escapes := by
    rcases hc with rfl | rfl <;> decide
  obtain ⟨hcolon, hcomma, hprocessed, hescapes⟩ := hmarks
  have hplural {word : String} (h : word ∈ nouns) (n : Nat) : c ∉ (plural n word).toList := by
    intro hmem
    have hkind := mem_plural h hmem
    rcases hc with rfl | rfl <;> exact absurd hkind (by decide)
  have hcounts : ∀ text ∈ f.countTexts s, c ∉ text.toList := by
    rw [countTexts_eq, List.forall_mem_map]
    intro e he
    have hword := mem_nouns_of_mem_counts he
    exact not_mem_paint f _ hescapes (escape_not_mem_plural hword _) (hplural hword _)
  have htail : c ∉ (tailText (f.countTexts s)).toList := by
    cases htexts : f.countTexts s with
    | nil => exact List.not_mem_nil
    | cons text texts =>
      rw [htexts] at hcounts
      rw [tailText, String.toList_append, List.mem_append, not_or]
      exact ⟨hcolon, not_mem_intercalate hcomma hcounts⟩
  rw [statsLine, String.toList_append, String.toList_append, List.mem_append, List.mem_append, not_or,
    not_or]
  exact ⟨⟨hplural (by decide) _, hprocessed⟩, htail⟩

theorem lastLine_format (f : TextFormat) (shows : f.showStats = true) (files : List FileReport) :
    lastLine (f.format files).toList = (f.statsLine (.of files)).toList := by
  rw [format, if_pos shows, String.toList_append, toList_statsText, ← List.append_assoc]
  exact lastLine_append (not_mem_statsLine f _ (.inl rfl)) (not_mem_statsLine f _ (.inr rfl)) _

/-- **A text with statistics ends with the totals of its files**, styled or
not. -/
theorem states_format (f : TextFormat) (shows : f.showStats = true) (files : List FileReport) :
    States (f.format files) (.of files) := by
  have hcounts := countOf_statsLine f (.of files)
  rw [← lastLine_format f shows] at hcounts
  simp only [List.forall_mem_cons] at hcounts
  obtain ⟨hfiles, hexceptions, herrors, hwarnings, -⟩ := hcounts
  exact ⟨hfiles, hexceptions, herrors, hwarnings⟩

end VectorLint.TextFormat
