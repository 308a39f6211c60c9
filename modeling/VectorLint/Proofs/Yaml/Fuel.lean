/-
The readers of YAML do not run out of fuel. A node takes at least one token,
and nothing that is read puts one back (`Takes`); so three units of fuel for
each token that is left are enough for any reader, and with more it comes to
the same (`Settled`).

Both are about all readers at once, by induction on the fuel.
-/
import VectorLint.Yaml.Event

namespace VectorLint.Yaml.Event

/-! ## What is taken -/

theorem length_readProperties {handles : List (List Char × TagText)} {tokens rest : List Token}
    {p : Properties String} (h : readProperties handles tokens = some (p, rest)) :
    rest.length ≤ tokens.length ∧
      (p.anchor.isSome ∨ p.tag.isSome → rest.length < tokens.length) := by
  unfold readProperties at h
  dsimp only at h
  split at h
  · obtain ⟨t, -, h⟩ := Option.bind_eq_some_iff.mp h
    cases h
    simp only [List.length_cons]
    omega
  · obtain ⟨t, -, h⟩ := Option.bind_eq_some_iff.mp h
    cases h
    simp only [List.length_cons]
    omega
  · cases h
    simp
  · obtain ⟨t, -, h⟩ := Option.bind_eq_some_iff.mp h
    cases h
    simp
  · cases h
    simp

/-- Readers with so much fuel put no token back, and a node takes one. -/
structure Takes (handles : List (List Char × TagText)) (fuel : Nat) : Prop where
  node : ∀ {position} {p p' : Progress}, readNode handles position fuel p = some p' →
    p'.2.length < p.2.length
  optional : ∀ {position absentBefore} {p p' : Progress},
    readOptional handles position absentBefore fuel p = some p' → p'.2.length ≤ p.2.length
  memberValue : ∀ {position absentBefore} {p p' : Progress},
    readMemberValue handles position absentBefore fuel p = some p' → p'.2.length ≤ p.2.length
  blockSequence : ∀ {p p' : Progress}, readBlockSequence handles fuel p = some p' →
    p'.2.length ≤ p.2.length
  bareSequence : ∀ {p p' : Progress}, readBareSequence handles fuel p = some p' →
    p'.2.length ≤ p.2.length ∧ (p.2.head? = some .blockEntry → p'.2.length < p.2.length)
  blockMapping : ∀ {p p' : Progress}, readBlockMapping handles fuel p = some p' →
    p'.2.length ≤ p.2.length
  entryKey : ∀ {p p' : Progress}, readEntryKey handles fuel p = some p' →
    p'.2.length ≤ p.2.length
  flowSequence : ∀ {first} {p p' : Progress}, readFlowSequence handles first fuel p = some p' →
    p'.2.length ≤ p.2.length
  flowMapping : ∀ {first} {p p' : Progress}, readFlowMapping handles first fuel p = some p' →
    p'.2.length ≤ p.2.length

section

variable {handles : List (List Char × TagText)} {fuel : Nat} {position : Position}
  {absentBefore : List Token} {first : Bool} {p p' : Progress}

namespace Takes

theorem node_succ (ih : Takes handles fuel)
    (h : readNode handles position (fuel + 1) p = some p') : p'.2.length < p.2.length := by
  obtain ⟨events, tokens⟩ := p
  unfold readNode at h
  dsimp only at h ⊢
  split at h
  · cases h
    exact Nat.lt_succ_self _
  · obtain ⟨⟨properties, left⟩, hproperties, h⟩ := Option.bind_eq_some_iff.mp h
    obtain ⟨hle, hlt⟩ := length_readProperties hproperties
    dsimp only at h
    split at h
    · cases h
      exact Nat.lt_of_lt_of_le (Nat.lt_succ_self _) hle
    · exact Nat.lt_of_lt_of_le (Nat.lt_succ_of_le (ih.flowSequence h)) hle
    · exact Nat.lt_of_lt_of_le (Nat.lt_succ_of_le (ih.flowMapping h)) hle
    · split at h
      · rename_i hentry
        obtain ⟨-, hless⟩ := ih.bareSequence h
        exact Nat.lt_of_lt_of_le (hless (congrArg some hentry.1)) hle
      split at h
      · exact Nat.lt_of_lt_of_le (Nat.lt_succ_of_le (ih.blockSequence h)) hle
      split at h
      · exact Nat.lt_of_lt_of_le (Nat.lt_succ_of_le (ih.blockMapping h)) hle
      split at h
      · cases h
        exact hlt ‹_›
      · cases h
    · cases h

theorem optional_succ (ih : Takes handles fuel)
    (h : readOptional handles position absentBefore (fuel + 1) p = some p') :
    p'.2.length ≤ p.2.length := by
  obtain ⟨events, tokens⟩ := p
  unfold readOptional at h
  split at h
  · cases h
    exact Nat.le_refl _
  · exact Nat.le_of_lt (ih.node h)

theorem memberValue_succ (ih : Takes handles fuel)
    (h : readMemberValue handles position absentBefore (fuel + 1) p = some p') :
    p'.2.length ≤ p.2.length := by
  obtain ⟨events, tokens⟩ := p
  unfold readMemberValue at h
  dsimp only at h ⊢
  split at h
  · exact Nat.le_succ_of_le (ih.optional h)
  · cases h
    exact Nat.le_refl _

theorem blockSequence_succ (ih : Takes handles fuel)
    (h : readBlockSequence handles (fuel + 1) p = some p') : p'.2.length ≤ p.2.length := by
  obtain ⟨events, tokens⟩ := p
  unfold readBlockSequence at h
  dsimp only at h ⊢
  split at h
  · obtain ⟨q, hq, h⟩ := Option.bind_eq_some_iff.mp h
    exact Nat.le_succ_of_le (Nat.le_trans (ih.blockSequence h) (ih.optional hq))
  · cases h
    exact Nat.le_succ _
  · cases h

theorem bareSequence_succ (ih : Takes handles fuel)
    (h : readBareSequence handles (fuel + 1) p = some p') :
    p'.2.length ≤ p.2.length ∧ (p.2.head? = some .blockEntry → p'.2.length < p.2.length) := by
  obtain ⟨events, tokens⟩ := p
  unfold readBareSequence at h
  dsimp only at h ⊢
  split at h
  · obtain ⟨q, hq, h⟩ := Option.bind_eq_some_iff.mp h
    have hless := Nat.lt_succ_of_le (Nat.le_trans (ih.bareSequence h).1 (ih.optional hq))
    exact ⟨Nat.le_of_lt hless, fun _ => hless⟩
  · rename_i hother
    cases h
    refine ⟨Nat.le_refl _, fun hhead => ?_⟩
    obtain ⟨rest, rfl⟩ := List.head?_eq_some_iff.mp hhead
    exact absurd rfl (hother rest)

theorem blockMapping_succ (ih : Takes handles fuel)
    (h : readBlockMapping handles (fuel + 1) p = some p') : p'.2.length ≤ p.2.length := by
  obtain ⟨events, tokens⟩ := p
  unfold readBlockMapping at h
  dsimp only at h ⊢
  split at h
  · obtain ⟨keyed, hkeyed, h⟩ := Option.bind_eq_some_iff.mp h
    obtain ⟨q, hq, h⟩ := Option.bind_eq_some_iff.mp h
    have hvalue := Nat.le_trans (ih.memberValue hq) (ih.optional hkeyed)
    exact Nat.le_succ_of_le (Nat.le_trans (ih.blockMapping h) hvalue)
  · cases h
    exact Nat.le_succ _
  · cases h

theorem entryKey_succ (ih : Takes handles fuel)
    (h : readEntryKey handles (fuel + 1) p = some p') : p'.2.length ≤ p.2.length := by
  obtain ⟨events, tokens⟩ := p
  unfold readEntryKey at h
  dsimp only at h ⊢
  split at h
  · cases h
    exact Nat.le_succ _
  · cases h
    exact Nat.le_succ _
  · cases h
    exact Nat.le_succ _
  · exact Nat.le_of_lt (ih.node h)

theorem length_entryBehind {ending : Token} {tokens rest : List Token}
    (h : entryBehind first ending tokens = some rest) : rest.length ≤ tokens.length := by
  unfold entryBehind at h
  split at h
  · cases h
    exact Nat.le_refl _
  · split at h
    · cases h
      exact Nat.le_succ _
    · cases h

theorem flowSequence_succ (ih : Takes handles fuel)
    (h : readFlowSequence handles first (fuel + 1) p = some p') : p'.2.length ≤ p.2.length := by
  obtain ⟨events, tokens⟩ := p
  unfold readFlowSequence at h
  obtain ⟨entry, hentry, h⟩ := Option.bind_eq_some_iff.mp h
  refine Nat.le_trans ?_ (length_entryBehind hentry)
  dsimp only at h
  split at h
  · cases h
    exact Nat.le_succ _
  · obtain ⟨keyed, hkeyed, h⟩ := Option.bind_eq_some_iff.mp h
    obtain ⟨q, hq, h⟩ := Option.bind_eq_some_iff.mp h
    have hvalue := Nat.le_trans (ih.memberValue hq) (ih.entryKey hkeyed)
    exact Nat.le_succ_of_le (Nat.le_trans (ih.flowSequence h) hvalue)
  · obtain ⟨q, hq, h⟩ := Option.bind_eq_some_iff.mp h
    exact Nat.le_trans (ih.flowSequence h) (Nat.le_of_lt (ih.node hq))

theorem flowMapping_succ (ih : Takes handles fuel)
    (h : readFlowMapping handles first (fuel + 1) p = some p') : p'.2.length ≤ p.2.length := by
  obtain ⟨events, tokens⟩ := p
  unfold readFlowMapping at h
  obtain ⟨entry, hentry, h⟩ := Option.bind_eq_some_iff.mp h
  refine Nat.le_trans ?_ (length_entryBehind hentry)
  dsimp only at h
  split at h
  · cases h
    exact Nat.le_succ _
  · obtain ⟨keyed, hkeyed, h⟩ := Option.bind_eq_some_iff.mp h
    obtain ⟨q, hq, h⟩ := Option.bind_eq_some_iff.mp h
    have hvalue := Nat.le_trans (ih.memberValue hq) (ih.optional hkeyed)
    exact Nat.le_succ_of_le (Nat.le_trans (ih.flowMapping h) hvalue)
  · obtain ⟨q, hq, h⟩ := Option.bind_eq_some_iff.mp h
    exact Nat.le_trans (ih.flowMapping h) (Nat.le_of_lt (ih.node hq))

end Takes

theorem takes (handles : List (List Char × TagText)) (fuel : Nat) : Takes handles fuel := by
  induction fuel with
  | zero => constructor <;> intros <;> contradiction
  | succ fuel ih =>
    exact ⟨ih.node_succ, ih.optional_succ, ih.memberValue_succ, ih.blockSequence_succ,
      ih.bareSequence_succ, ih.blockMapping_succ, ih.entryKey_succ, ih.flowSequence_succ,
      ih.flowMapping_succ⟩

end

/-! ## Enough fuel -/

/-- From three units for each token and `more` on, fuel makes no difference to
what a reader comes to. -/
def Steady (read : Nat → Progress → Option Progress) (more fuel : Nat) : Prop :=
  ∀ (p : Progress) (fuel' : Nat), 3 * p.2.length + more ≤ fuel → 3 * p.2.length + more ≤ fuel' →
    read fuel p = read fuel' p

/-- The readers come to the same with so much fuel as with any other that is
enough. -/
structure Settled (handles : List (List Char × TagText)) (fuel : Nat) : Prop where
  node : ∀ position, Steady (readNode handles position) 2 fuel
  optional : ∀ position absentBefore, Steady (readOptional handles position absentBefore) 3 fuel
  memberValue : ∀ position absentBefore,
    Steady (readMemberValue handles position absentBefore) 1 fuel
  blockSequence : Steady (readBlockSequence handles) 1 fuel
  bareSequence : Steady (readBareSequence handles) 1 fuel
  blockMapping : Steady (readBlockMapping handles) 1 fuel
  entryKey : Steady (readEntryKey handles) 3 fuel
  flowSequence : ∀ first, Steady (readFlowSequence handles first) 3 fuel
  flowMapping : ∀ first, Steady (readFlowMapping handles first) 3 fuel

section

variable {handles : List (List Char × TagText)} {fuel : Nat}

theorem Steady.succ {read : Nat → Progress → Option Progress} {more : Nat}
    (h : ∀ events tokens fuel', 3 * tokens.length + more ≤ fuel + 1 →
      3 * tokens.length + more ≤ fuel' + 1 →
      read (fuel + 1) (events, tokens) = read (fuel' + 1) (events, tokens)) (hmore : 0 < more) :
    Steady read more (fuel + 1) := by
  rintro ⟨events, tokens⟩ fuel' hle hle'
  cases fuel' with
  | zero => exact absurd hle' (by omega)
  | succ fuel' => exact h events tokens fuel' hle hle'

theorem Steady.at {read : Nat → Progress → Option Progress} {more : Nat} (h : Steady read more fuel)
    (events : List (Event String)) (tokens : List Token) (fuel' : Nat)
    (hle : 3 * tokens.length + more ≤ fuel) (hle' : 3 * tokens.length + more ≤ fuel') :
    read fuel (events, tokens) = read fuel' (events, tokens) :=
  h (events, tokens) fuel' hle hle'

namespace Settled

theorem node_succ (ih : Settled handles fuel) (position : Position) :
    Steady (readNode handles position) 2 (fuel + 1) := by
  refine Steady.succ (fun events tokens fuel' hle hle' => ?_) (by decide)
  unfold readNode
  dsimp only
  split
  · rfl
  · refine Option.bind_congr fun ⟨properties, left⟩ hproperties => ?_
    obtain ⟨hleft, -⟩ := length_readProperties hproperties
    dsimp only
    split
    · rfl
    · rw [List.length_cons] at hleft
      exact (ih.flowSequence true).at _ _ fuel' (by omega) (by omega)
    · rw [List.length_cons] at hleft
      exact (ih.flowMapping true).at _ _ fuel' (by omega) (by omega)
    · split
      · exact ih.bareSequence.at _ _ fuel' (by omega) (by omega)
      rw [List.length_cons] at hleft
      split
      · exact ih.blockSequence.at _ _ fuel' (by omega) (by omega)
      split
      · exact ih.blockMapping.at _ _ fuel' (by omega) (by omega)
      · rfl
    · rfl

theorem optional_succ (ih : Settled handles fuel) (position : Position) (absentBefore : List Token) :
    Steady (readOptional handles position absentBefore) 3 (fuel + 1) := by
  refine Steady.succ (fun events tokens fuel' hle hle' => ?_) (by decide)
  unfold readOptional
  rw [(ih.node position).at events tokens fuel' (by omega) (by omega)]

theorem memberValue_succ (ih : Settled handles fuel) (position : Position)
    (absentBefore : List Token) :
    Steady (readMemberValue handles position absentBefore) 1 (fuel + 1) := by
  refine Steady.succ (fun events tokens fuel' hle hle' => ?_) (by decide)
  unfold readMemberValue
  split
  · rw [List.length_cons] at hle hle'
    exact (ih.optional position absentBefore).at events _ fuel' (by omega) (by omega)
  · rfl

theorem blockSequence_succ (ih : Settled handles fuel) :
    Steady (readBlockSequence handles) 1 (fuel + 1) := by
  refine Steady.succ (fun events tokens fuel' hle hle' => ?_) (by decide)
  unfold readBlockSequence
  split
  · rename_i rest
    rw [List.length_cons] at hle hle'
    rw [(ih.optional _ _).at events rest fuel' (by omega) (by omega)]
    refine Option.bind_congr fun p hp => ?_
    have hleft : p.2.length ≤ rest.length := (takes handles fuel').optional hp
    exact ih.blockSequence p fuel' (by omega) (by omega)
  · rfl
  · rfl

theorem bareSequence_succ (ih : Settled handles fuel) :
    Steady (readBareSequence handles) 1 (fuel + 1) := by
  refine Steady.succ (fun events tokens fuel' hle hle' => ?_) (by decide)
  unfold readBareSequence
  split
  · rename_i rest
    rw [List.length_cons] at hle hle'
    rw [(ih.optional _ _).at events rest fuel' (by omega) (by omega)]
    refine Option.bind_congr fun p hp => ?_
    have hleft : p.2.length ≤ rest.length := (takes handles fuel').optional hp
    exact ih.bareSequence p fuel' (by omega) (by omega)
  · rfl

theorem blockMapping_succ (ih : Settled handles fuel) :
    Steady (readBlockMapping handles) 1 (fuel + 1) := by
  refine Steady.succ (fun events tokens fuel' hle hle' => ?_) (by decide)
  unfold readBlockMapping
  dsimp only
  split
  · rename_i rest
    rw [List.length_cons] at hle hle'
    rw [(ih.optional _ _).at events rest fuel' (by omega) (by omega)]
    refine Option.bind_congr fun keyed hkeyed => ?_
    have hkey : keyed.2.length ≤ rest.length := (takes handles fuel').optional hkeyed
    rw [ih.memberValue _ _ keyed fuel' (by omega) (by omega)]
    refine Option.bind_congr fun p hp => ?_
    have hvalue := (takes handles fuel').memberValue hp
    exact ih.blockMapping p fuel' (by omega) (by omega)
  · rfl
  · rfl

theorem entryKey_succ (ih : Settled handles fuel) : Steady (readEntryKey handles) 3 (fuel + 1) := by
  refine Steady.succ (fun events tokens fuel' hle hle' => ?_) (by decide)
  unfold readEntryKey
  split
  · rfl
  · rfl
  · rfl
  · exact (ih.node .flow).at events tokens fuel' (by omega) (by omega)

theorem flowSequence_succ (ih : Settled handles fuel) (first : Bool) :
    Steady (readFlowSequence handles first) 3 (fuel + 1) := by
  refine Steady.succ (fun events tokens fuel' hle hle' => ?_) (by decide)
  unfold readFlowSequence
  refine Option.bind_congr fun entry hentry => ?_
  have hbehind := Takes.length_entryBehind hentry
  split
  · rfl
  · rename_i rest
    rw [List.length_cons] at hbehind
    rw [ih.entryKey.at _ rest fuel' (by omega) (by omega)]
    refine Option.bind_congr fun keyed hkeyed => ?_
    have hkey : keyed.2.length ≤ rest.length := (takes handles fuel').entryKey hkeyed
    rw [ih.memberValue _ _ keyed fuel' (by omega) (by omega)]
    refine Option.bind_congr fun p hp => ?_
    have hvalue := (takes handles fuel').memberValue hp
    exact (ih.flowSequence false).at _ p.2 fuel' (by omega) (by omega)
  · rw [(ih.node .flow).at events entry fuel' (by omega) (by omega)]
    refine Option.bind_congr fun p hp => ?_
    have hless : p.2.length < entry.length := (takes handles fuel').node hp
    exact ih.flowSequence false p fuel' (by omega) (by omega)

theorem flowMapping_succ (ih : Settled handles fuel) (first : Bool) :
    Steady (readFlowMapping handles first) 3 (fuel + 1) := by
  refine Steady.succ (fun events tokens fuel' hle hle' => ?_) (by decide)
  unfold readFlowMapping
  refine Option.bind_congr fun entry hentry => ?_
  have hbehind := Takes.length_entryBehind hentry
  split
  · rfl
  · rename_i rest
    rw [List.length_cons] at hbehind
    rw [(ih.optional _ _).at _ rest fuel' (by omega) (by omega)]
    refine Option.bind_congr fun keyed hkeyed => ?_
    have hkey : keyed.2.length ≤ rest.length := (takes handles fuel').optional hkeyed
    rw [ih.memberValue _ _ keyed fuel' (by omega) (by omega)]
    refine Option.bind_congr fun p hp => ?_
    have hvalue := (takes handles fuel').memberValue hp
    exact ih.flowMapping false p fuel' (by omega) (by omega)
  · rw [(ih.node .flow).at events entry fuel' (by omega) (by omega)]
    refine Option.bind_congr fun p hp => ?_
    have hless : p.2.length < entry.length := (takes handles fuel').node hp
    exact (ih.flowMapping false).at _ p.2 fuel' (by omega) (by omega)

end Settled

theorem settled (handles : List (List Char × TagText)) (fuel : Nat) : Settled handles fuel := by
  induction fuel with
  | zero => constructor <;> intros <;> intro p fuel' hle <;> omega
  | succ fuel ih =>
    exact ⟨ih.node_succ, ih.optional_succ, ih.memberValue_succ, ih.blockSequence_succ,
      ih.bareSequence_succ, ih.blockMapping_succ, ih.entryKey_succ, ih.flowSequence_succ,
      ih.flowMapping_succ⟩

end

/-! ## Documents -/

theorem length_readDirectives {versioned : Bool} {handles handles' : List (List Char × TagText)}
    {tokens rest : List Token} (h : readDirectives versioned handles tokens = some (handles', rest)) :
    rest.length ≤ tokens.length := by
  fun_induction readDirectives versioned handles tokens with
  | case1 => cases h
  | case2 _ _ _ _ _ _ ih => exact Nat.le_succ_of_le (ih h)
  | case3 => cases h
  | case4 _ _ _ _ _ _ ih => exact Nat.le_succ_of_le (ih h)
  | case5 =>
    cases h
    exact Nat.le_refl _

/-- **No document is refused for want of fuel**: with more of it every text
comes to the same events, or to none as before. -/
theorem readDocument_eq {tokens : List Token} {fuel : Nat} (h : readFuel tokens ≤ fuel) :
    readDocument fuel tokens = ofTokens? tokens := by
  have hnode (handles : List (List Char × TagText)) (rest : List Token)
      (hrest : rest.length ≤ tokens.length) :
      readNode handles .block fuel ([], rest) =
        readNode handles .block (readFuel tokens) ([], rest) := by
    unfold readFuel at h ⊢
    exact ((settled handles fuel).node .block).at [] rest _ (by omega) (by omega)
  unfold ofTokens? readDocument
  split
  · rfl
  · refine Option.bind_congr fun ⟨handles, rest⟩ hdirectives => ?_
    have hle := length_readDirectives hdirectives
    dsimp only
    split
    · rw [List.length_cons] at hle
      split
      · rfl
      · rfl
      · rfl
      · rfl
      · rw [hnode _ _ (by omega)]
    · rw [hnode _ _ hle]

end VectorLint.Yaml.Event
