import Loxbudget.Lib.Ring
import Loxbudget.Model.Audit

/-!
# The audit ring as a list

`Budget.trail` reads the ring of audit records with the indices that
`loxbudget_audit_get_recent` computes, newest first. `Budget.Trails` relates an
instance to a history of records of any length; under it the trail is the beginning of
the history, a written record is consed onto the history and a cleared ring starts it
afresh.
-/

namespace Loxbudget

/-- The record that `loxbudget_audit_record_` writes for a decision. -/
def DecisionRecord.ofDecision (hal : Hal) (op : OpId) (d : Decision) : DecisionRecord :=
  ⟨hal.auditNowMs, op, d.deniedResource, d.requested, d.available, d.action, d.pressure,
    d.reason⟩

/-- The records that the audit ring holds, newest first. -/
def Budget.trail (budget : Budget) : List DecisionRecord :=
  (List.range budget.journal.auditCount.toNat).map fun i =>
    budget.journal.auditRing.getD (budget.recentIndex (UInt8.ofNat i)).toNat .zero

/-- The audit ring holds the newest records of a history. -/
structure Budget.Trails (budget : Budget) (history : List DecisionRecord) : Prop where
  size_pow2 : isPow2OrZeroU8 budget.auditSize = true
  ring_length : budget.journal.auditRing.length = budget.auditSize.toNat
  holds : budget.auditSize ≠ 0 →
    Ring.Holds budget.journal.auditRing budget.journal.auditHead.toNat
      budget.journal.auditCount.toNat history
  unused : budget.auditSize = 0 → budget.journal.auditCount = 0

theorem isPow2_cases {size : UInt8} (pow2 : isPow2OrZeroU8 size = true) (size_ne : size ≠ 0) :
    ∃ exponent ≤ 7, size.toNat = 2 ^ exponent := by
  have all : ∀ n < 256, isPow2OrZeroU8 (UInt8.ofNat n) = true → n ≠ 0 →
      ∃ exponent ≤ 7, n = 2 ^ exponent := by decide +kernel
  apply all size.toNat size.toNat_lt
  · simpa using pow2
  · intro zero
    exact size_ne (UInt8.toNat_inj.mp zero)

theorem toNat_sub_one {size : UInt8} (size_ne : size ≠ 0) :
    0 < size.toNat ∧ (size - 1).toNat = size.toNat - 1 := by
  have nonzero : size.toNat ≠ 0 := fun zero => size_ne (UInt8.toNat_inj.mp zero)
  have positive : (1 : UInt8).toNat ≤ size.toNat := Nat.one_le_iff_ne_zero.mpr nonzero
  exact ⟨positive, UInt8.toNat_sub_of_le _ _ (UInt8.le_iff_toNat_le.mpr positive)⟩

theorem toNat_and_mask {size v : UInt8} (pow2 : isPow2OrZeroU8 size = true)
    (size_ne : size ≠ 0) : (v &&& (size - 1)).toNat = v.toNat % size.toNat := by
  rcases isPow2_cases pow2 size_ne with ⟨exponent, -, power⟩
  rw [UInt8.toNat_and, (toNat_sub_one size_ne).2, Ring.and_sub_one ⟨exponent, power⟩]

namespace Budget.Trails

variable {budget : Budget} {history : List DecisionRecord}

theorem next_head (trails : budget.Trails history) (size_ne : budget.auditSize ≠ 0) :
    ((budget.journal.auditHead + 1) &&& (budget.auditSize - 1)).toNat =
      (budget.journal.auditHead.toNat + 1) % budget.auditSize.toNat := by
  rcases isPow2_cases trails.size_pow2 size_ne with ⟨exponent, small, power⟩
  rw [toNat_and_mask trails.size_pow2 size_ne, UInt8.toNat_add, power]
  apply Nat.mod_mod_of_dvd
  exact Nat.pow_dvd_pow 2 (by omega : exponent ≤ 8)

theorem recentIndex_toNat (trails : budget.Trails history) (size_ne : budget.auditSize ≠ 0)
    {age : Nat} (early : age < budget.journal.auditCount.toNat) :
    (budget.recentIndex (UInt8.ofNat age)).toNat =
      Ring.index budget.auditSize.toNat budget.journal.auditHead.toNat age := by
  have held := trails.holds size_ne
  have few := held.count_eq
  have head_lt := held.head_lt
  rw [trails.ring_length] at few head_lt
  rcases isPow2_cases trails.size_pow2 size_ne with ⟨exponent, small, power⟩
  have age_lt := budget.journal.auditCount.toNat_lt
  have age_eq : (UInt8.ofNat age).toUInt32.toNat = age := by
    rw [UInt8.toNat_toUInt32, UInt8.toNat_ofNat']
    omega
  have mask : (budget.auditSize - 1).toUInt32.toNat = 2 ^ exponent - 1 := by
    rw [UInt8.toNat_toUInt32, (toNat_sub_one size_ne).2, power]
  have head_eq : budget.journal.auditHead.toUInt32.toNat = budget.journal.auditHead.toNat :=
    UInt8.toNat_toUInt32 _
  rw [recentIndex, UInt32.toNat_toUInt8, UInt32.toNat_and, mask,
    Ring.and_sub_one ⟨exponent, rfl⟩, UInt32.toNat_sub, UInt32.toNat_sub, age_eq, head_eq,
    Ring.index, power]
  rw [power] at few head_lt
  generalize budget.journal.auditHead.toNat = head at head_lt ⊢
  have cases : exponent = 0 ∨ exponent = 1 ∨ exponent = 2 ∨ exponent = 3 ∨ exponent = 4 ∨
      exponent = 5 ∨ exponent = 6 ∨ exponent = 7 := by omega
  -- the mask divides both word sizes, so neither the wrap nor the narrowing is visible
  rcases cases with rfl | rfl | rfl | rfl | rfl | rfl | rfl | rfl <;>
    simp only [Nat.reducePow, UInt32.reduceToNat] at * <;> omega

theorem trail_eq (trails : budget.Trails history) :
    budget.trail = history.take budget.auditSize.toNat := by
  by_cases size_eq : budget.auditSize = 0
  · simp [trail, trails.unused size_eq, size_eq]
  · have held := trails.holds size_eq
    have count_eq := held.count_eq
    rw [trails.ring_length] at count_eq
    have read := held.read (le_refl _) DecisionRecord.zero
    rw [trails.ring_length] at read
    have taken : history.take budget.journal.auditCount.toNat =
        history.take budget.auditSize.toNat := by
      rw [count_eq, List.take_eq_take_iff]
      omega
    rw [← taken, ← read, trail]
    apply List.map_congr_left
    intro age early
    rw [trails.recentIndex_toNat size_eq (List.mem_range.mp early)]

/-- A record written by `loxbudget_audit_record_` is the newest one of the trail. -/
theorem auditRecord (trails : budget.Trails history) {B : Build}
    (audit : B.enableAuditTrail = true) (hal : Hal) (op : OpId) (d : Decision) :
    (budget.auditRecord B hal op d).Trails (.ofDecision hal op d :: history) := by
  by_cases size_eq : budget.auditSize = 0
  · have unchanged : budget.auditRecord B hal op d = budget := by
      simp [Budget.auditRecord, size_eq]
    rw [unchanged]
    exact ⟨trails.size_pow2, trails.ring_length, fun size_ne => absurd size_eq size_ne,
      trails.unused⟩
  · have pushed := (trails.holds size_eq).push (.ofDecision hal op d)
    have next_head := trails.next_head size_eq
    rw [trails.ring_length] at pushed
    have written : budget.auditRecord B hal op d =
        { budget with
          journal :=
            { budget.journal with
              auditRing := budget.journal.auditRing.set budget.journal.auditHead.toNat
                (.ofDecision hal op d)
              auditHead := (budget.journal.auditHead + 1) &&& (budget.auditSize - 1)
              auditCount := if budget.journal.auditCount < budget.auditSize then
                  budget.journal.auditCount + 1 else budget.journal.auditCount } } := by
      simp only [Budget.auditRecord, audit, size_eq, Bool.true_eq_false, or_self, if_false]
      rfl
    have counted : (if budget.journal.auditCount < budget.auditSize then
        budget.journal.auditCount + 1 else budget.journal.auditCount).toNat =
        if budget.journal.auditCount.toNat < budget.auditSize.toNat then
          budget.journal.auditCount.toNat + 1 else budget.journal.auditCount.toNat := by
      have size_lt := budget.auditSize.toNat_lt
      simp only [UInt8.lt_iff_toNat_lt]
      split
      · rw [UInt8.toNat_add, UInt8.toNat_one]
        omega
      · rfl
    rw [written]
    refine ⟨trails.size_pow2, ?_, fun _ => ?_, fun zero => absurd zero size_eq⟩
    · simp only [List.length_set]
      exact trails.ring_length
    · simp only [next_head, counted]
      exact pushed

theorem cleared (trails : budget.Trails history) :
    ({ budget with
        journal := { budget.journal with
          auditHead := 0
          auditCount := 0
          auditRing := List.replicate budget.auditSize.toNat .zero } } : Budget).Trails [] where
  size_pow2 := trails.size_pow2
  ring_length := by simp
  holds := by
    intro size_ne
    apply Ring.Holds.empty
    simpa using (toNat_sub_one size_ne).1
  unused := fun _ => rfl

theorem of_frame (trails : budget.Trails history) {after : Budget}
    (size : after.auditSize = budget.auditSize)
    (ring : after.journal.auditRing = budget.journal.auditRing)
    (head : after.journal.auditHead = budget.journal.auditHead)
    (count : after.journal.auditCount = budget.journal.auditCount) : after.Trails history := by
  refine ⟨?_, ?_, ?_, ?_⟩
  · rw [size]
    exact trails.size_pow2
  · rw [ring, size]
    exact trails.ring_length
  · rw [ring, head, count, size]
    exact trails.holds
  · rw [size, count]
    exact trails.unused

end Budget.Trails

end Loxbudget
