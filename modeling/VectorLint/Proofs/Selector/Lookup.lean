/-
Selecting by index. The steps of a chain and the nodes of a document may be
taken by their numbers, where a number that names nothing is a panic: the
walk from the last step up through parents and ancestors, and over all nodes
below the root, never meets one, and comes to the same selection
(`trySelect_eq_ok`). A chain has a last step, and links lead to nodes.
-/
import VectorLint.Proofs.Except
import VectorLint.Proofs.Selector.Matching
import VectorLint.Report.Reporter

namespace VectorLint

def outOfBounds : Panic := .text "index out of bounds"

variable {d : Document} {id : NodeId}

namespace Document

/-- The node of a number. -/
def fetch (d : Document) (id : NodeId) : Except Panic Node :=
  match d.get? id with
  | some n => .ok n
  | none => .error outOfBounds

/-- The ancestors of a node, each found from the one below it. -/
def tryAncestors (d : Document) (id : NodeId) : Except Panic (List NodeId) :=
  match _hn : d.get? id with
  | none => .error outOfBounds
  | some n =>
    match _hp : n.parent with
    | none => .ok []
    | some p => (d.tryAncestors p).map (p :: ·)
termination_by id
decreasing_by exact lt_of_parent? (by rw [parent?, _hn, Option.bind_some, _hp])

theorem exists_get? (h : id < d.size) : ∃ n, d.get? id = some n :=
  ⟨_, Array.getElem?_eq_getElem h⟩

theorem fetch_eq_ok {n : Node} (h : d.get? id = some n) : d.fetch id = .ok n := by
  rw [fetch, h]

theorem tryAncestors_eq_ok (h : id < d.size) : d.tryAncestors id = .ok (d.ancestors id) := by
  induction id using Nat.strongRecOn with
  | ind id ih =>
    obtain ⟨n, hn⟩ := exists_get? h
    have hparent : d.parent? id = n.parent := by rw [parent?, hn, Option.bind_some]
    rw [tryAncestors]
    split
    · rename_i hnone
      rw [hn] at hnone
      cases hnone
    · rename_i m hm
      obtain rfl : n = m := Option.some.inj (hn.symm.trans hm)
      split
      · rename_i hp
        rw [ancestors_of_none (hparent.trans hp)]
      · rename_i p hp
        have hlt := lt_of_parent? (hparent.trans hp)
        rw [ih p hlt (Nat.lt_trans hlt h), ancestors_of_some (hparent.trans hp)]
        rfl

end Document

/-- The step of a chain at an index. -/
def Chain.fetchStep (steps : List Step) (index : Nat) : Except Panic Step :=
  match steps[index]? with
  | some step => .ok step
  | none => .error outOfBounds

/-- Whether the steps up to an index match, the last of them at a node. -/
def Chain.tryMatches (d : Document) (steps : List Step) : (index : Nat) → NodeId → Except Panic Bool
  | 0, id => do
    let step ← fetchStep steps 0
    let n ← d.fetch id
    return step.compound.matches n
  | index + 1, id => do
    let step ← fetchStep steps (index + 1)
    let n ← d.fetch id
    if step.compound.matches n then
      match step.combinator with
      | .child =>
        match n.parent with
        | none => return false
        | some p => tryMatches d steps index p
      | .descendant => (← d.tryAncestors id).anyM (tryMatches d steps index)
    else return false

/-- Whether a chain matches a node, from its last step on. A chain without
steps has none. -/
def Selector.tryMatches (d : Document) (s : Selector) (id : NodeId) : Except Panic Bool :=
  s.chains.anyM fun chain =>
    match chain.steps.length with
    | 0 => .error (.text "attempt to subtract with overflow")
    | last + 1 => Chain.tryMatches d chain.steps last id

/-- The elements that a selector matches, all found by their numbers. -/
def Document.trySelect (d : Document) (s : Selector) : Except Panic (List NodeId) := do
  let elements ← (d.descendants d.root).filterM fun id => do return (← d.fetch id).isElement
  elements.filterM (s.tryMatches d)

namespace Chain

theorem fetchStep_eq_ok {steps : List Step} {index : Nat} {step : Step}
    (h : steps[index]? = some step) : fetchStep steps index = .ok step := by
  rw [fetchStep, h]

theorem length_steps_pos (chain : Chain) : 0 < chain.steps.length :=
  List.length_pos_of_ne_nil chain.steps_ne_nil

/-- The steps that lead up to the last one are those of the outer chain,
whatever stands behind them. -/
theorem tryMatches_eq_ok (chain : Chain) (more : List Step) (h : id < d.size) :
    tryMatches d (chain.steps ++ more) (chain.steps.length - 1) id = .ok (chain.matches d id) := by
  induction chain generalizing more id with
  | single c =>
    obtain ⟨n, hn⟩ := Document.exists_get? h
    have hstep : (Chain.steps (.single c) ++ more)[0]? = some ⟨.descendant, c⟩ := rfl
    show tryMatches d _ 0 id = _
    rw [tryMatches, fetchStep_eq_ok hstep, Document.fetch_eq_ok hn, Chain.matches, hn, Option.any_some]
    rfl
  | join outer k c ih =>
    obtain ⟨n, hn⟩ := Document.exists_get? h
    obtain ⟨last, hlast⟩ := Nat.exists_eq_add_one_of_ne_zero outer.length_steps_pos.ne'
    have hmatches : (Chain.join outer k c).matches d id = (c.matches n && match k with
        | .child => (d.parent? id).any (outer.matches d)
        | .descendant => (d.ancestors id).any (outer.matches d)) := by
      cases k <;> rw [Chain.matches, hn, Option.any_some]
    have hindex : (Chain.join outer k c).steps.length - 1 = last + 1 := by
      rw [steps, List.length_append, hlast]
      rfl
    have hsteps : (Chain.join outer k c).steps ++ more = outer.steps ++ (⟨k, c⟩ :: more) := by
      rw [steps, List.append_assoc]
      rfl
    have hstep : (outer.steps ++ (⟨k, c⟩ :: more))[last + 1]? = some ⟨k, c⟩ := by
      rw [← hlast, List.getElem?_append_right (Nat.le_refl _), Nat.sub_self]
      rfl
    have houter (p : NodeId) (hp : p < d.size) :
        tryMatches d (outer.steps ++ (⟨k, c⟩ :: more)) last p = .ok (outer.matches d p) := by
      have hup := ih (⟨k, c⟩ :: more) hp
      rwa [hlast, Nat.add_sub_cancel] at hup
    rw [hindex, hsteps, tryMatches, fetchStep_eq_ok hstep, Document.fetch_eq_ok hn, hmatches]
    show (if c.matches n then _ else _) = Except.ok (c.matches n && _)
    cases c.matches n with
    | false => rfl
    | true =>
      have hparent : d.parent? id = n.parent := by rw [Document.parent?, hn, Option.bind_some]
      cases k with
      | child =>
        rw [hparent]
        cases hp : n.parent with
        | none => rfl
        | some p =>
          exact houter p (Nat.lt_trans (Document.lt_of_parent? (hparent.trans hp)) h)
      | descendant =>
        show (d.tryAncestors id >>= fun ids => ids.anyM _) = _
        rw [Document.tryAncestors_eq_ok h]
        exact anyM_eq_ok fun p hp => houter p (Nat.lt_trans (Document.lt_of_mem_ancestors hp) h)

end Chain

theorem Selector.tryMatches_eq_ok (s : Selector) (h : id < d.size) :
    s.tryMatches d id = .ok (s.matches d id) := by
  refine anyM_eq_ok fun chain _ => ?_
  have hchain := chain.tryMatches_eq_ok [] h
  have hpos := chain.length_steps_pos
  rw [List.append_nil] at hchain
  split
  · omega
  · rename_i last hlast
    rwa [hlast] at hchain

namespace Document

theorem lt_of_mem_descendants (h : id ∈ d.descendants d.root) : id < d.size := by
  rcases Relation.ReflTransGen.cases_tail (mem_descendants_iff.mp h) with rfl | ⟨p, -, hp⟩
  · exact d.root.isLt
  · exact (lt_of_mem_children hp).2

/-- **No number leads out of the document**, and none out of a chain. -/
theorem trySelect_eq_ok (d : Document) (s : Selector) : d.trySelect s = .ok (d.select s) := by
  have helements : (d.descendants d.root).filterM (fun id => do return (← d.fetch id).isElement) =
      .ok d.elements := by
    refine filterM_eq_ok fun id hid => ?_
    obtain ⟨n, hn⟩ := exists_get? (lt_of_mem_descendants hid)
    rw [fetch_eq_ok hn, isElement, hn]
    rfl
  rw [trySelect, helements]
  exact filterM_eq_ok fun id hid =>
    s.tryMatches_eq_ok (lt_of_mem_descendants (List.mem_filter.mp hid).1)

end Document

end VectorLint
