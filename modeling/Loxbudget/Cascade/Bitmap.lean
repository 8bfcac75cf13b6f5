import Mathlib.Data.Nat.Bitwise
import Loxbudget.Cascade.Bounds
import Loxbudget.Model.VisitMap

/-!
# The walk does not see what earlier walks have left

Each walk clears the bits of the ops below `max_ops` before it reads one, and reads no other. So
the cascade walk comes out the same whatever the bitmap holds when it starts.
-/

namespace Loxbudget

/-! ## Bits -/

namespace VisitMap

theorem byteOf_eq (bit : OpId) : byteOf bit = bit.toNat / 8 := by
  simp only [byteOf, UInt32.toNat_shiftRight, UInt8.toNat_toUInt32, UInt32.reduceToNat,
    Nat.reduceMod, Nat.shiftRight_eq_div_pow, Nat.reducePow]

theorem mask_toNat (bit : OpId) : (mask bit).toNat = 2 ^ (bit.toNat % 8) := by
  have place : (bit.toUInt32 &&& 7).toNat = bit.toNat % 8 := by
    rw [UInt32.toNat_and, UInt8.toNat_toUInt32]
    exact Nat.and_two_pow_sub_one_eq_mod bit.toNat 3
  have few : bit.toNat % 8 < 8 := Nat.mod_lt _ (by omega)
  have small : 2 ^ (bit.toNat % 8) < 2 ^ 8 := Nat.pow_lt_pow_right (by omega) few
  have wide : 2 ^ (bit.toNat % 8) < 2 ^ 32 := Nat.pow_lt_pow_right (by omega) (by omega)
  rw [mask, UInt32.toNat_toUInt8, UInt32.toNat_shiftLeft, place]
  simp only [UInt32.reduceToNat, Nat.shiftLeft_eq, Nat.one_mul]
  rw [Nat.mod_eq_of_lt (few.trans (by omega)), Nat.mod_eq_of_lt wide, Nat.mod_eq_of_lt small]

theorem test_eq (visited : VisitMap) (bit : OpId) :
    visited.test bit = (visited.bits (bit.toNat / 8)).toNat.testBit (bit.toNat % 8) := by
  rw [test, byteOf_eq, Bool.eq_iff_iff, bne_iff_ne, Ne, ← UInt8.toNat_inj, UInt8.toNat_and,
    mask_toNat, Nat.and_two_pow, UInt8.toNat_zero]
  cases (visited.bits (bit.toNat / 8)).toNat.testBit (bit.toNat % 8)
  · simp
  · simp

theorem test_set (visited : VisitMap) (bit other : OpId) :
    (visited.set bit).test other = true ↔ other = bit ∨ visited.test other = true := by
  have same : other = bit ↔ other.toNat / 8 = bit.toNat / 8 ∧ other.toNat % 8 = bit.toNat % 8 := by
    rw [← UInt8.toNat_inj]
    omega
  rw [test_eq, test_eq, set, byteOf_eq, same]
  simp only
  by_cases byte : other.toNat / 8 = bit.toNat / 8
  · rw [byte, Function.update_self, UInt8.toNat_or, Nat.testBit_or, mask_toNat, Nat.testBit_two_pow,
      Bool.or_eq_true, decide_eq_true_eq]
    tauto
  · rw [Function.update_of_ne byte]
    tauto

theorem test_clear {nbits bit : OpId} (below : bit < nbits) (visited : VisitMap) :
    (visited.clear nbits).test bit = false := by
  have below' := UInt8.lt_iff_toNat_lt.mp below
  have bound := nbits.toNat_lt
  have cleared : bit.toNat / 8 < ((nbits.toUInt32 + 7) / 8).toNat := by
    rw [UInt32.toNat_div, UInt32.toNat_add, UInt8.toNat_toUInt32]
    simp only [UInt32.reduceToNat]
    omega
  rw [test_eq, clear]
  simp only
  rw [if_pos cleared, UInt8.toNat_zero, Nat.zero_testBit]

end VisitMap

/-! ## The walk -/

variable {B : Build} {budget : Budget} {pressure : Pressure}

/-- The walk on the bitmap is where the walk on the list is. -/
structure StoredWalk.Follows (maxOps : UInt8) (stored : StoredWalk) (walk : WalkState) : Prop where
  visited : ∀ op < maxOps, stored.visited.test op = true ↔ op ∈ walk.visited
  stack : stored.stack = walk.stack
  needPerRes : stored.needPerRes = walk.needPerRes
  inRange : ∀ entry ∈ walk.stack, entry.op < maxOps

namespace StoredWalk.Follows

variable {maxOps : UInt8} {stored : StoredWalk} {walk : WalkState}

theorem scan {cur : OpId} {depth : UInt8} (edges : List Edge)
    (follows : stored.Follows budget.maxOps walk) :
    (StoredWalk.scan B budget pressure cur depth edges stored).Follows budget.maxOps
      (WalkState.scan B budget pressure cur depth edges walk) := by
  induction edges generalizing stored walk with
  | nil => exact follows
  | cons edge edges ih =>
      simp only [StoredWalk.scan, WalkState.scan]
      split
      · exact ih follows
      split
      · exact ih follows
      split
      · exact ih follows
      rename_i inside
      have inside := UInt8.not_le.mp inside
      simp only [follows.visited edge.child inside]
      split
      · exact ih follows
      split
      · exact ih follows
      · apply ih
        refine ⟨follows.visited, by rw [follows.stack], by rw [follows.needPerRes], ?_⟩
        intro entry listed
        rcases mem_pushBounded listed with rfl | before
        · exact inside
        · exact follows.inRange entry before

theorem step (follows : stored.Follows budget.maxOps walk) :
    (StoredWalk.step B budget pressure stored).Follows budget.maxOps
      (WalkState.step B budget pressure walk) := by
  rcases stored with ⟨visited, stack, needPerRes⟩
  rcases follows with ⟨marked, rfl, rfl, inRange⟩
  simp only [StoredWalk.step, WalkState.step]
  rcases listed : walk.stack with _ | ⟨cur, stack⟩
  · exact ⟨marked, listed.symm, rfl, inRange⟩
  · rw [listed] at inRange
    have below := inRange cur List.mem_cons_self
    have rest : ∀ entry ∈ stack, entry.op < budget.maxOps :=
      fun entry later => inRange entry (List.mem_cons_of_mem _ later)
    have marks : ∀ op < budget.maxOps,
        (visited.set cur.op).test op = true ↔ op ∈ cur.op :: walk.visited := by
      intro op opBelow
      rw [VisitMap.test_set, List.mem_cons, marked op opBelow]
    simp only [marked cur.op below]
    split
    · exact ⟨marked, rfl, rfl, rest⟩
    split
    · exact ⟨marks, rfl, rfl, rest⟩
    · exact scan budget.edges ⟨marks, rfl, rfl, rest⟩

theorem start {root : OpId} (inside : root < maxOps) (needPerRes : NeedPerRes)
    (visited : VisitMap) :
    (StoredWalk.start maxOps root needPerRes visited).Follows maxOps
      (WalkState.start root needPerRes) := by
  refine ⟨?_, rfl, rfl, ?_⟩
  · intro op below
    rw [StoredWalk.start, VisitMap.test_clear below]
    simp [WalkState.start]
  · intro entry listed
    rw [List.mem_singleton.mp listed]
    exact inside

theorem iterate (follows : stored.Follows budget.maxOps walk) (iterations : Nat) :
    ((StoredWalk.step B budget pressure)^[iterations] stored).Follows budget.maxOps
      ((WalkState.step B budget pressure)^[iterations] walk) := by
  induction iterations with
  | zero => exact follows
  | succ iterations ih =>
      rw [Function.iterate_succ_apply', Function.iterate_succ_apply']
      exact ih.step

end StoredWalk.Follows

/-- What an earlier walk has left in the bitmap makes no difference. -/
theorem storedAddScaledNeeds_fst (B : Build) (budget : Budget) (root : OpId)
    (needPerRes : NeedPerRes) (pressure : Pressure) (visited : VisitMap) :
    (storedAddScaledNeeds B budget root needPerRes pressure visited).1 =
      causalityAddScaledNeeds B budget root needPerRes pressure := by
  rw [storedAddScaledNeeds, causalityAddScaledNeeds]
  split
  · rfl
  split
  · rfl
  · rename_i inside
    have follows := StoredWalk.Follows.start (UInt8.not_le.mp inside) needPerRes visited
    exact congrArg some (follows.iterate _).needPerRes

end Loxbudget
