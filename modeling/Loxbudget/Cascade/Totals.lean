import Loxbudget.Cascade.Walk
import Loxbudget.Invariant.Tables
import Loxbudget.Lib.Saturating
import Mathlib.Algebra.GroupWithZero.Nat
import Mathlib.Algebra.Order.Group.Nat

/-!
# What the cascade walk adds up

The accumulator of the walk holds 16-bit totals with saturating addition. Read as
exact integers, a total is the sum over the followed edges of the scaled needs of
their children, cut off at `0xFFFF` once.
-/

namespace Loxbudget

/-- The multiplication of `scaledNeed` does not overflow. -/
theorem scaledNeed_toNat (amount : UInt16) (weight : UInt8) :
    (scaledNeed amount weight).toNat = (amount.toNat * weight.toNat + 128) / 256 := by
  have amount_lt := amount.toNat_lt
  have weight_lt := weight.toNat_lt
  have product : amount.toNat * weight.toNat ≤ 65535 * 255 :=
    Nat.mul_le_mul (by omega) (by omega)
  simp only [scaledNeed]
  rw [UInt32.toNat_shiftRight, UInt32.toNat_add, UInt32.toNat_mul]
  simp only [UInt16.toNat_toUInt32, UInt8.toNat_toUInt32, UInt32.reduceToNat, Nat.reduceMod,
    Nat.shiftRight_eq_div_pow, Nat.reducePow]
  rw [Nat.mod_eq_of_lt (by omega), Nat.mod_eq_of_lt (by omega)]

theorem scaledNeed_lt (amount : UInt16) (weight : UInt8) :
    (scaledNeed amount weight).toNat < 65536 := by
  have amount_lt := amount.toNat_lt
  have weight_lt := weight.toNat_lt
  have product : amount.toNat * weight.toNat ≤ 65535 * 255 :=
    Nat.mul_le_mul (by omega) (by omega)
  rw [scaledNeed_toNat]
  omega

@[simp]
theorem scaledNeed_zero (weight : UInt8) : (scaledNeed 0 weight).toNat = 0 := by
  simp [scaledNeed_toNat]

theorem NeedPerRes.addSat_self (needPerRes : NeedPerRes) (resource : ResourceId)
    {amount : UInt32} (small : amount.toNat < 65536) :
    (needPerRes.addSat resource amount resource).toNat =
      min 65535 ((needPerRes resource).toNat + amount.toNat) := by
  have total_lt := (needPerRes resource).toNat_lt
  have sum : ((needPerRes resource).toUInt32 + amount).toNat =
      (needPerRes resource).toNat + amount.toNat := by
    rw [UInt32.toNat_add, UInt16.toNat_toUInt32]
    omega
  simp only [NeedPerRes.addSat]
  simp only [Function.update_self]
  split
  · rename_i exceeds
    have exceeds' := UInt32.lt_iff_toNat_lt.mp exceeds
    simp only [UInt32.reduceToNat] at exceeds'
    simp only [UInt32.toNat_toUInt16, UInt32.reduceToNat]
    omega
  · rename_i within
    have within' := UInt32.le_iff_toNat_le.mp (UInt32.not_lt.mp within)
    simp only [UInt32.reduceToNat] at within'
    rw [UInt32.toNat_toUInt16]
    omega

theorem NeedPerRes.addSat_of_ne (needPerRes : NeedPerRes) {resource other : ResourceId}
    (amount : UInt32) (other_ne : other ≠ resource) :
    needPerRes.addSat resource amount other = needPerRes other := by
  simp only [NeedPerRes.addSat]
  exact Function.update_of_ne other_ne _ _

theorem addScaledNeeds_toNat {needs : List Need} {maxResources : UInt8}
    (distinct : DistinctNeeds needs) (weight : UInt8) (needPerRes : NeedPerRes)
    {resource : ResourceId} (inRange : resource < maxResources) :
    (addScaledNeeds maxResources weight needs needPerRes resource).toNat =
      min 65535 ((needPerRes resource).toNat +
        (scaledNeed (needOf needs resource) weight).toNat) := by
  induction needs generalizing needPerRes with
  | nil =>
      have total_lt := (needPerRes resource).toNat_lt
      simp only [addScaledNeeds, needOf, scaledNeed_zero]
      omega
  | cons need needs ih =>
      have rest := (List.pairwise_cons.mp distinct).2
      simp only [addScaledNeeds]
      split
      · rename_i free
        rw [ih rest, needOf_cons_of_free free]
      · rename_i amount_ne
        split
        · rename_i outside
          have other : need.resource ≠ resource := by
            rintro rfl
            exact absurd inRange (UInt8.not_lt.mpr outside)
          rw [ih rest, needOf_cons_of_ne other]
        · rw [ih rest]
          by_cases named : need.resource = resource
          · subst named
            rw [NeedPerRes.addSat_self _ _ (scaledNeed_lt _ _),
              needOf_tail_eq_zero distinct amount_ne, needOf_cons_self amount_ne]
            simp
          · rw [NeedPerRes.addSat_of_ne _ _ (Ne.symm named), needOf_cons_of_ne named]

theorem addScaledNeeds_of_not_needed {needs : List Need} {maxResources : UInt8}
    {resource : ResourceId} (notNeeded : needOf needs resource = 0) (weight : UInt8)
    (needPerRes : NeedPerRes) :
    addScaledNeeds maxResources weight needs needPerRes resource = needPerRes resource := by
  induction needs generalizing needPerRes with
  | nil => rfl
  | cons need needs ih =>
      rcases needOf_cons_eq_zero.mp notNeeded with ⟨absent, later⟩
      simp only [addScaledNeeds]
      split
      · exact ih later _
      · rename_i amount_ne
        split
        · exact ih later _
        · rw [ih later]
          exact needPerRes.addSat_of_ne _ (Ne.symm (absent amount_ne))

/-- What an edge adds to the total of a resource when the walk follows it. -/
def Budget.edgeNeed (budget : Budget) (resource : ResourceId) (edge : Edge) : Nat :=
  (scaledNeed (needOf (budget.needs edge.child) resource) edge.weightQ8).toNat

theorem WellFormed.needOf_eq_zero {B : Build} {budget : Budget}
    (wellFormed : WellFormed B budget) {resource : ResourceId}
    (unconfigured : ¬(resource < budget.maxResources ∧ budget.resCfg resource = true))
    (op : OpId) : needOf (budget.needs op) resource = 0 := by
  by_contra needed
  rcases exists_mem_of_needOf_ne needed with ⟨need, listed, -, amount_ne, rfl⟩
  exact unconfigured (wellFormed.needs_configured op need listed amount_ne)

/-- The total of a resource over some edges, as an exact integer. -/
theorem addEdges_toNat {B : Build} {budget : Budget} (wellFormed : WellFormed B budget)
    (edges : List Edge) (needPerRes : NeedPerRes) (resource : ResourceId) :
    (addEdges budget edges needPerRes resource).toNat =
      min 65535 ((needPerRes resource).toNat +
        (edges.map (budget.edgeNeed resource)).sum) := by
  have total_le : (needPerRes resource).toNat ≤ 65535 := Nat.le_of_lt_succ (UInt16.toNat_lt _)
  rw [← foldl_min_add 65535 (budget.edgeNeed resource) edges total_le]
  clear total_le
  induction edges generalizing needPerRes with
  | nil => rfl
  | cons edge edges ih =>
      have first : (addScaledNeeds budget.maxResources edge.weightQ8 (budget.needs edge.child)
          needPerRes resource).toNat =
          min 65535 ((needPerRes resource).toNat + budget.edgeNeed resource edge) := by
        by_cases inRange : resource < budget.maxResources
        · exact addScaledNeeds_toNat (wellFormed.needs_distinct edge.child) _ _ inRange
        · have notNeeded := wellFormed.needOf_eq_zero (fun both => inRange both.1) edge.child
          have total_lt := (needPerRes resource).toNat_lt
          rw [addScaledNeeds_of_not_needed notNeeded]
          simp only [Budget.edgeNeed, notNeeded, scaledNeed_zero]
          omega
      rw [List.foldl_cons, ← first]
      exact ih _

end Loxbudget
