/-
The order of attributes. A list of names puts those that an element carries
into the order in which it names them first (`Follows`); the rule compares
what it finds with what of the list it finds, so that it also wants each name
to be in the list once (`orderViolation_eq_none_iff`).
-/
import Mathlib.Data.List.NodupEquivFin
import VectorLint.Proofs.Rule.Reading

namespace VectorLint.Attributes

variable {order found names : List String} {x y : String} {n : Node}

/-- The names that an order lists stand as it lists them first. -/
def Follows (order names : List String) : Prop :=
  (names.filter order.contains).Pairwise fun x y => order.idxOf x < order.idxOf y

instance (order names : List String) : Decidable (Follows order names) :=
  inferInstanceAs (Decidable (List.Pairwise _ _))

theorem idxOf_getElem_of_count {i : Nat} (hi : i < order.length) (h : order.count order[i] = 1) :
    order.idxOf order[i] = i := by
  have hmem : order[i] ∈ order := List.getElem_mem hi
  have hlt := List.idxOf_lt_length_of_mem hmem
  rcases Nat.lt_trichotomy (order.idxOf order[i]) i with hbefore | heq | hbehind
  · -- The name would be there twice.
    have htwice : List.Duplicate order[i] order := List.duplicate_iff_exists_distinct_get.mpr
      ⟨⟨_, hlt⟩, ⟨i, hi⟩, hbefore, (List.getElem_idxOf hlt).symm, rfl⟩
    have := List.duplicate_iff_two_le_count.mp htwice
    omega
  · exact heq
  · have hnot := List.not_of_lt_findIdx hbehind
    simp at hnot

/-- The names that are listed once, in the order of the list. -/
theorem pairwise_filter_contains (h : ∀ x ∈ found, order.count x = 1) :
    (order.filter found.contains).Pairwise fun x y => order.idxOf x < order.idxOf y := by
  have hall : order.Pairwise fun x y =>
      order.count x = 1 → order.count y = 1 → order.idxOf x < order.idxOf y := by
    rw [List.pairwise_iff_getElem]
    intro i j hi hj hij hx hy
    rwa [idxOf_getElem_of_count hi hx, idxOf_getElem_of_count hj hy]
  refine (hall.filter _).imp_of_mem fun {x y} hx hy hxy => hxy (h x ?_) (h y ?_)
  · simpa using (List.mem_filter.mp hx).2
  · simpa using (List.mem_filter.mp hy).2

theorem eq_filter_contains_iff (hfound : found.Nodup) (hlisted : ∀ x ∈ found, x ∈ order) :
    found = order.filter found.contains ↔
      (∀ x ∈ found, order.count x = 1) ∧
        found.Pairwise fun x y => order.idxOf x < order.idxOf y := by
  constructor
  · intro heq
    have hcount (x : String) (hx : x ∈ found) : order.count x = 1 := by
      have hx' : found.contains x = true := List.contains_iff_mem.mpr hx
      rw [← List.count_filter hx', ← heq]
      exact List.count_eq_one_of_mem hfound hx
    exact ⟨hcount, heq ▸ pairwise_filter_contains hcount⟩
  · rintro ⟨hcount, hsorted⟩
    have hantisymm : Std.Antisymm fun x y => order.idxOf x < order.idxOf y :=
      ⟨fun _ _ hxy hyx => absurd hxy (Nat.lt_asymm hyx)⟩
    have hirrefl : Std.Irrefl fun x y => order.idxOf x < order.idxOf y :=
      ⟨fun _ => Nat.lt_irrefl _⟩
    refine hsorted.eq_of_mem_iff (pairwise_filter_contains hcount) fun x => ?_
    rw [List.mem_filter, List.contains_iff_mem]
    exact (and_iff_right_of_imp (hlisted x)).symm

theorem orderViolation_eq_none_iff (distinct : (n.attributes.map Prod.fst).Nodup) :
    orderViolation order n = none ↔
      Follows order (n.attributes.map Prod.fst) ∧
        ∀ x ∈ n.attributes.map Prod.fst, order.count x ≤ 1 := by
  have hlisted : ∀ x ∈ (n.attributes.map Prod.fst).filter order.contains, x ∈ order :=
    fun x hx => List.contains_iff_mem.mp (List.mem_filter.mp hx).2
  have hviolation : orderViolation order n = none ↔
      (n.attributes.map Prod.fst).filter order.contains =
        order.filter ((n.attributes.map Prod.fst).filter order.contains).contains := by
    simp only [orderViolation, ite_eq_left_iff, reduceCtorEq, imp_false, not_not]
  rw [hviolation, eq_filter_contains_iff (distinct.filter _) hlisted, and_comm]
  refine and_congr_right fun _ => ⟨fun hone x hx => ?_, fun hone x hx => ?_⟩
  · by_cases hmem : x ∈ order
    · exact Nat.le_of_eq (hone x (List.mem_filter.mpr ⟨hx, List.contains_iff_mem.mpr hmem⟩))
    · rw [List.count_eq_zero_of_not_mem hmem]
      exact Nat.zero_le 1
  · have hpos := List.count_pos_iff.mpr (hlisted x hx)
    have hle := hone x (List.mem_filter.mp hx).1
    omega

/-- Names that do not follow an order have two among them in the wrong order. -/
theorem not_follows_iff (distinct : names.Nodup) :
    ¬ Follows order names ↔
      ∃ x y, [x, y].Sublist names ∧ x ∈ order ∧ y ∈ order ∧ order.idxOf y < order.idxOf x := by
  rw [Follows, List.pairwise_iff_forall_sublist]
  simp only [not_forall, Nat.not_lt, exists_prop]
  constructor
  · rintro ⟨x, y, hsub, hle⟩
    have hne : x ≠ y := by simpa using (distinct.filter _).sublist hsub
    have hx : x ∈ order := by
      simpa using (List.mem_filter.mp (hsub.subset List.mem_cons_self)).2
    have hy : y ∈ order := by
      simpa using (List.mem_filter.mp (hsub.subset (List.mem_cons_of_mem x List.mem_cons_self))).2
    refine ⟨x, y, hsub.trans List.filter_sublist, hx, hy, Nat.lt_of_le_of_ne hle fun heq => ?_⟩
    exact hne ((List.idxOf_inj hy).mp heq).symm
  · rintro ⟨x, y, hsub, hx, hy, hlt⟩
    have hkept : [x, y].filter order.contains = [x, y] := by simp [hx, hy]
    exact ⟨x, y, hkept ▸ hsub.filter _, Nat.le_of_lt hlt⟩

end VectorLint.Attributes
