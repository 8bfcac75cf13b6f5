import Mathlib.Algebra.Order.Monoid.Canonical.Defs
import Mathlib.Algebra.Order.BigOperators.Group.List

/-!
# Saturating sums

Addition cut off at a cap. In a canonically ordered monoid it does not matter
whether a sum is cut off at every step or once at the end, so a loop that adds
with saturation computes the capped sum, in whatever order it adds.
-/

variable {Amount Item : Type*} [AddCommMonoid Amount] [LinearOrder Amount]
  [CanonicallyOrderedAdd Amount]

/-- Cutting off before a further addition changes nothing once the sum is cut off again. -/
theorem min_min_add (cap left right : Amount) :
    min cap (min cap left + right) = min cap (left + right) := by
  rcases le_total cap left with exceeds | within
  · rw [min_eq_left exceeds, min_eq_left le_self_add,
      min_eq_left (exceeds.trans le_self_add)]
  · rw [min_eq_right within]

/-- A loop of saturating additions computes the capped sum. -/
theorem foldl_min_add (cap : Amount) (amount : Item → Amount) (items : List Item)
    {total : Amount} (within : total ≤ cap) :
    items.foldl (fun total item => min cap (total + amount item)) total =
      min cap (total + (items.map amount).sum) := by
  induction items generalizing total with
  | nil => simp [within]
  | cons item items ih =>
      rw [List.foldl_cons, ih (min_le_left _ _), min_min_add, List.map_cons, List.sum_cons,
        add_assoc]
