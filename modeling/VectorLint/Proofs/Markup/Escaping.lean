/-
Writing texts so that they can stand in markup: the characters that markup
is made of are written as predefined entities.

`resolve_escape`: what is escaped resolves to itself again. The facts are
stated for a stretch of a longer text (`Resolves`), so that stretches can be
put together.
-/
import VectorLint.Markup.Reference

namespace VectorLint.Markup

/-- A character, by its entity if it has one. -/
def escapeChar (c : Char) : List Char :=
  match entities.find? (·.2 = c) with
  | some (name, _) => '&' :: (name ++ [';'])
  | none => [c]

def escape (s : List Char) : List Char :=
  s.flatMap escapeChar

/-- Inside of any text, the stretch `raw` resolves to `text`. -/
def Resolves (raw text : List Char) : Prop :=
  ∀ size offset done rest, resolveFrom size offset .plain done (raw ++ rest) =
    resolveFrom size (offset + Text.byteLength raw) .plain (text.reverse ++ done) rest

theorem Resolves.nil : Resolves [] [] := fun _ _ _ _ => rfl

theorem Resolves.append {a b s t : List Char} (ha : Resolves a s) (hb : Resolves b t) :
    Resolves (a ++ b) (s ++ t) := by
  intro size offset done rest
  rw [List.append_assoc, ha, hb, Text.byteLength_append, Nat.add_assoc, List.reverse_append,
    List.append_assoc]

theorem Resolves.resolve_eq {raw text : List Char} (h : Resolves raw text) :
    resolve raw = .ok text := by
  have hfrom := h (Text.byteLength raw) 0 [] []
  rw [List.append_nil] at hfrom
  rw [resolve, hfrom]
  simp [resolveFrom]

/-- What holds no reference stands for itself. -/
theorem resolves_plain {s : List Char} (h : '&' ∉ s) : Resolves s s := by
  induction s with
  | nil => exact .nil
  | cons c s ih =>
    obtain ⟨hc, hs⟩ := List.ne_and_not_mem_of_not_mem_cons h
    have hone : Resolves [c] [c] := fun size offset done rest => by
      simp [resolveFrom, Ne.symm hc, Text.byteLength]
    exact hone.append (ih hs)

theorem escapeChar_of_entity {c : Char} {entity : List Char × Char}
    (h : entities.find? (·.2 = c) = some entity) :
    escapeChar c = '&' :: (entity.1 ++ [';']) ∧ entity ∈ entities ∧ entity.2 = c := by
  refine ⟨by rw [escapeChar, h], List.mem_of_find?_eq_some h, ?_⟩
  simpa using List.find?_some h

theorem escapeChar_of_plain {c : Char} (h : entities.find? (·.2 = c) = none) :
    escapeChar c = [c] ∧ ∀ entity ∈ entities, entity.2 ≠ c := by
  refine ⟨by rw [escapeChar, h], fun entity he => ?_⟩
  simpa using List.find?_eq_none.mp h entity he

/-- The reference to a predefined entity. -/
theorem resolves_entity : ∀ entity ∈ entities, Resolves ('&' :: (entity.1 ++ [';'])) [entity.2] := by
  simp only [entities, List.forall_mem_cons]
  refine ⟨?_, ?_, ?_, ?_, ?_, by simp⟩ <;> exact fun size offset done rest => rfl

theorem resolves_escapeChar (c : Char) : Resolves (escapeChar c) [c] := by
  cases h : entities.find? (·.2 = c) with
  | some entity =>
    obtain ⟨hescape, hmem, rfl⟩ := escapeChar_of_entity h
    rw [hescape]
    exact resolves_entity entity hmem
  | none =>
    obtain ⟨hescape, hplain⟩ := escapeChar_of_plain h
    rw [hescape]
    refine resolves_plain fun hc => ?_
    exact hplain (['a', 'm', 'p'], '&') (by simp [entities]) (List.mem_singleton.mp hc)

theorem resolves_escape (s : List Char) : Resolves (escape s) s := by
  induction s with
  | nil => exact .nil
  | cons c s ih => exact (resolves_escapeChar c).append ih

/-- **Escaping is undone by resolving.** -/
theorem resolve_escape (s : List Char) : resolve (escape s) = .ok s :=
  (resolves_escape s).resolve_eq

/-- A character with an entity does not occur in what is escaped, unless
entities are written with it. -/
theorem not_mem_escape {c : Char} (hc : c ∈ entities.map Prod.snd)
    (hwritten : ∀ entity ∈ entities, c ∉ '&' :: (entity.1 ++ [';'])) (s : List Char) :
    c ∉ escape s := by
  intro hmem
  obtain ⟨a, -, ha⟩ := List.mem_flatMap.mp hmem
  cases h : entities.find? (·.2 = a) with
  | some entity =>
    obtain ⟨hescape, hentity, -⟩ := escapeChar_of_entity h
    rw [hescape] at ha
    exact hwritten entity hentity ha
  | none =>
    obtain ⟨hescape, hplain⟩ := escapeChar_of_plain h
    rw [hescape, List.mem_singleton] at ha
    obtain ⟨entity, hentity, rfl⟩ := List.mem_map.mp hc
    exact hplain entity hentity ha

theorem bracket_not_mem_escape (s : List Char) : '<' ∉ escape s :=
  not_mem_escape (by decide) (by decide) s

theorem quote_not_mem_escape {quote : Char} (hq : quote = '"' ∨ quote = '\'') (s : List Char) :
    quote ∉ escape s := by
  rcases hq with rfl | rfl <;> exact not_mem_escape (by decide) (by decide) s

end VectorLint.Markup
