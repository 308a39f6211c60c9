/-
Walks through a document, step by step. A walk down keeps a stack of nodes, a
walk up the next node, and each goes on as long as its step gives one;
`Drains` says what was given when a walk is over.

What is ahead of a stack is the same before and after a step, but for the node
that is met (`ahead_of_descend`). So a walk from any stack comes to its end
and has met what was ahead of it (`drain_eq_ahead`), and from the stack of one
node what the recursion meets below that (`descendants_eq_preorder`).
-/
import VectorLint.Document.Navigation

namespace VectorLint

section

variable {α σ : Type} {next : σ → Option (α × σ)} {state : σ} {items others : List α}

/-- Taken from `state` on, the steps give the items one by one and then
nothing. -/
inductive Drains (next : σ → Option (α × σ)) : (state : σ) → (items : List α) → Prop
  | done {state : σ} (h : next state = none) : Drains next state []
  | more {state rest : σ} {item : α} {items : List α} (h : next state = some (item, rest))
      (hrest : Drains next rest items) : Drains next state (item :: items)

theorem Drains.unique (h : Drains next state items) (hothers : Drains next state others) :
    others = items := by
  induction h generalizing others with
  | done h =>
    cases hothers with
    | done => rfl
    | more h' => simp [h] at h'
  | more h _ ih =>
    cases hothers with
    | done h' => simp [h] at h'
    | more h' hrest =>
      rw [h, Option.some.injEq, Prod.mk.injEq] at h'
      obtain ⟨rfl, rfl⟩ := h'
      rw [ih hrest]

theorem Drains.iff_eq (h : Drains next state items) : Drains next state others ↔ others = items :=
  ⟨h.unique, fun heq => heq ▸ h⟩

end

namespace Document

variable {d : Document} {id a : NodeId}

/-! ## Down -/

theorem descend_eq_none_iff {stack : Array NodeId} : d.descend stack = none ↔ stack = #[] := by
  rw [descend, Option.map_eq_none_iff, Array.back?_eq_none_iff]

theorem drains_descend (d : Document) (stack : Array NodeId) :
    Drains d.descend stack (d.drain stack) := by
  fun_induction Document.drain d stack with
  | case1 stack h => exact .done h
  | case2 stack id rest h ih => exact .more h ih

theorem drain_eq_ahead (d : Document) (stack : Array NodeId) : d.drain stack = d.ahead stack := by
  fun_induction Document.drain d stack with
  | case1 stack h =>
    rw [descend_eq_none_iff.mp h]
    rfl
  | case2 stack id rest h ih => rw [ahead_of_descend h, ih]

/-- **The stack meets what the recursion meets.** -/
theorem descendants_eq_preorder (d : Document) (id : NodeId) : d.descendants id = d.preorder id := by
  rw [descendants, drain_eq_ahead]
  exact List.append_nil _

theorem descendants_eq (d : Document) (id : NodeId) :
    d.descendants id = id :: (d.children id).flatMap d.descendants := by
  rw [funext d.descendants_eq_preorder]
  exact d.preorder_eq id

/-! ## Up -/

theorem ancestors_of_none (h : d.parent? id = none) : d.ancestors id = [] := by
  rw [ancestors]
  split <;> simp_all

theorem ancestors_of_some {p : NodeId} (h : d.parent? id = some p) :
    d.ancestors id = p :: d.ancestors p := by
  rw [ancestors]
  split <;> simp_all

/-- Ancestors are numbered downwards. -/
theorem pairwise_ancestors (d : Document) (id : NodeId) :
    (id :: d.ancestors id).Pairwise (· > ·) := by
  induction id using Nat.strongRecOn with
  | ind id ih =>
    cases hp : d.parent? id with
    | none =>
      rw [ancestors_of_none hp]
      exact List.pairwise_singleton _ _
    | some p =>
      have hlt := lt_of_parent? hp
      have hfalling := ih p hlt
      rw [ancestors_of_some hp]
      refine List.pairwise_cons.mpr ⟨fun a ha => ?_, hfalling⟩
      rcases List.mem_cons.mp ha with rfl | ha
      · exact hlt
      · exact Nat.lt_trans ((List.pairwise_cons.mp hfalling).1 a ha) hlt

theorem lt_of_mem_ancestors (h : a ∈ d.ancestors id) : a < id :=
  (List.pairwise_cons.mp (d.pairwise_ancestors id)).1 a h

/-- One step of a walk upwards: the next node is met, and its parent is
next. -/
def climb (d : Document) (next : Option NodeId) : Option (NodeId × Option NodeId) :=
  next.map fun id => (id, d.parent? id)

theorem drains_climb (d : Document) (id : NodeId) :
    Drains d.climb (d.parent? id) (d.ancestors id) := by
  induction id using Nat.strongRecOn with
  | ind id ih =>
    cases hp : d.parent? id with
    | none =>
      rw [ancestors_of_none hp]
      exact .done rfl
    | some p =>
      rw [ancestors_of_some hp]
      exact .more rfl (ih p (lt_of_parent? hp))

end Document

end VectorLint
