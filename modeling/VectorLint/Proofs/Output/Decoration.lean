/-
What styled text shows. A terminal takes the escape sequences for itself, and
what is left of a text in a style is the text (`shows_apply`), as long as it
holds no escape character of its own. A text that is put together shows what
its parts show, since each of them does so whatever follows (`Shows`).
-/
import VectorLint.Output.Style

namespace VectorLint.Style

variable {s : Style} {text : String} {c : Char} {cs rest : List Char}

/-- The text without its escape sequences, each from an escape character and a
bracket to the next `m`; `inside` tells whether one has begun. -/
def strip : (inside : Bool) → List Char → List Char
  | _, [] => []
  | true, c :: s => strip (c != 'm') s
  | false, '\x1b' :: '[' :: s => strip true s
  | false, c :: s => c :: strip false s

/-- What a terminal shows of a text. -/
def visible (s : List Char) : List Char :=
  strip false s

theorem visible_nil : visible [] = [] := rfl

theorem visible_append (h : '\x1b' ∉ cs) (rest : List Char) :
    visible (cs ++ rest) = cs ++ visible rest := by
  induction cs with
  | nil => rfl
  | cons c cs ih =>
    obtain ⟨hc, hcs⟩ := List.ne_and_not_mem_of_not_mem_cons h
    have hplain : visible (c :: (cs ++ rest)) = c :: visible (cs ++ rest) := by
      unfold visible
      rw [strip]
      rintro s heq -
      exact hc heq.symm
    rw [List.cons_append, hplain, ih hcs, List.cons_append]

theorem strip_codes (h : 'm' ∉ cs) (rest : List Char) :
    strip true (cs ++ 'm' :: rest) = visible rest := by
  induction cs with
  | nil => rfl
  | cons c cs ih =>
    obtain ⟨hc, hcs⟩ := List.ne_and_not_mem_of_not_mem_cons h
    rw [List.cons_append, strip, bne_iff_ne.mpr hc.symm, ih hcs]

theorem m_not_mem_codes (s : Style) : 'm' ∉ s.codes := by
  obtain ⟨bold, dimmed, underline, color⟩ := s
  cases bold <;> cases dimmed <;> cases underline <;> rcases color with _ | _ | _ | _ | _ | _ | _ <;>
    decide

theorem visible_opening (s : Style) (rest : List Char) : visible (s.opening ++ rest) = visible rest := by
  rw [opening, List.append_assoc]
  exact strip_codes (m_not_mem_codes s) rest

theorem visible_reset (rest : List Char) : visible (reset ++ rest) = visible rest := rfl

theorem reopen_eq_self (h : '\x1b' ∉ cs) (opening : List Char) : reopen opening cs = cs := by
  induction cs with
  | nil => rfl
  | cons c cs ih =>
    obtain ⟨hc, hcs⟩ := List.ne_and_not_mem_of_not_mem_cons h
    rw [reopen, ih hcs]
    rintro s heq -
    exact hc heq.symm

theorem toList_apply (s : Style) (h : '\x1b' ∉ text.toList) :
    (s.apply text).toList = s.opening ++ text.toList ++ reset := by
  rw [apply, String.toList_ofList, reopen_eq_self h]

/-- A text shows another one, whatever is printed behind it. -/
def Shows (styled shown : String) : Prop :=
  ∀ rest, visible (styled.toList ++ rest) = shown.toList ++ visible rest

theorem shows_self (h : '\x1b' ∉ text.toList) : Shows text text :=
  visible_append h

/-- **A style is no part of what is shown.** -/
theorem shows_apply (s : Style) (h : '\x1b' ∉ text.toList) : Shows (s.apply text) text := fun rest => by
  rw [toList_apply s h, List.append_assoc, List.append_assoc, visible_opening, visible_append h,
    visible_reset]

namespace Shows

variable {styled shown styled' shown' : String}

theorem visible_eq (h : Shows styled shown) : visible styled.toList = shown.toList := by
  have hend := h []
  rwa [List.append_nil, visible_nil, List.append_nil] at hend

theorem append (h : Shows styled shown) (h' : Shows styled' shown') :
    Shows (styled ++ styled') (shown ++ shown') := fun rest => by
  rw [String.toList_append, String.toList_append, List.append_assoc, h, h', List.append_assoc]

theorem ite (p : Bool) (h : Shows styled shown) :
    Shows (if p then styled else "") (if p then shown else "") := by
  cases p with
  | false => exact shows_self List.not_mem_nil
  | true => exact h

variable {α : Type} {style plain : α → String} {as : List α}

theorem join (h : ∀ a ∈ as, Shows (style a) (plain a)) :
    Shows (String.join (as.map style)) (String.join (as.map plain)) := by
  induction as with
  | nil => exact shows_self List.not_mem_nil
  | cons a as ih =>
    obtain ⟨ha, has⟩ := List.forall_mem_cons.mp h
    rw [List.map_cons, List.map_cons, String.join_cons, String.join_cons]
    exact ha.append (ih has)

theorem intercalate (separator : String) (hseparator : '\x1b' ∉ separator.toList)
    (h : ∀ a ∈ as, Shows (style a) (plain a)) :
    Shows (separator.intercalate (as.map style)) (separator.intercalate (as.map plain)) := by
  induction as with
  | nil => exact shows_self List.not_mem_nil
  | cons a as ih =>
    obtain ⟨ha, has⟩ := List.forall_mem_cons.mp h
    cases as with
    | nil =>
      rw [List.map_singleton, List.map_singleton, String.intercalate_singleton,
        String.intercalate_singleton]
      exact ha
    | cons b as =>
      rw [List.map_cons, List.map_cons, List.map_cons, List.map_cons, String.intercalate_cons_cons,
        String.intercalate_cons_cons]
      exact (ha.append (shows_self hseparator)).append (ih has)

end Shows

/-- The characters of escape sequences. -/
def escapes : List Char := "\x1b[0123456789;m".toList

theorem opening_subset (s : Style) : s.opening ⊆ escapes := by
  obtain ⟨bold, dimmed, underline, color⟩ := s
  cases bold <;> cases dimmed <;> cases underline <;> rcases color with _ | _ | _ | _ | _ | _ | _ <;>
    decide

theorem reset_subset : reset ⊆ escapes := by decide

/-- A style puts nothing but escape sequences around a text. -/
theorem not_mem_apply (s : Style) (hc : c ∉ escapes) (hescape : '\x1b' ∉ text.toList)
    (h : c ∉ text.toList) : c ∉ (s.apply text).toList := by
  rw [toList_apply s hescape, List.mem_append, List.mem_append, not_or, not_or]
  exact ⟨⟨fun hmem => hc (opening_subset s hmem), h⟩, fun hmem => hc (reset_subset hmem)⟩

end VectorLint.Style
