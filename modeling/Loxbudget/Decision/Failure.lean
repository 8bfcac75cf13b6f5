import Loxbudget.Decision.Agreement
import Loxbudget.Rate.Buckets

/-!
# A failed `enter` reserves nothing

An `enter` that fails has decided, and a decision writes the journal and rolls windows.
`ReservesNothing` lists what stays as it was, and how far a window may have moved.
-/

namespace Loxbudget

/-- What a failed `enter` may have made of a rate window: nothing, the restart of an expired fixed
window, or the refill of a token bucket. -/
def WindowKept (impl : RateImpl) (nowMs : UInt32) (before after : RateWindow) : Prop :=
  after = before ∨
    match impl with
    | .fixedWindow =>
        before.windowDurationMs ≤ nowMs - before.windowStartMs ∧
          after = { before with windowStartMs := nowMs, consumed := 0 }
    | .tokenBucket =>
        after = before.refill nowMs ∧
          (before.limit < 65536 → before.consumed ≤ after.consumed)

/-- The tables after a call that has reserved nothing. -/
structure ReservesNothing (B : Build) (nowMs : UInt32) (before after : Budget) : Prop where
  resources : after.resources = before.resources
  leaseSlots : after.leaseSlots = before.leaseSlots
  needs : after.needs = before.needs
  profiles : after.ops = before.ops ∧ after.opCfg = before.opCfg
  edges : after.edges = before.edges
  lifetime : ∀ resource,
    (after.rateState resource).consumedLifetime =
        (before.rateState resource).consumedLifetime ∧
      (after.rateState resource).limitLifetime = (before.rateState resource).limitLifetime
  windows_length : ∀ resource,
    (after.rateState resource).windows.length = (before.rateState resource).windows.length
  windows : ∀ resource, ∀ index < 4,
    WindowKept B.rateImpl nowMs (before.window resource index) (after.window resource index)

theorem RateWindow.RolledTo.kept {impl : RateImpl} {nowMs : UInt32} {before after : RateWindow}
    (rolled : before.RolledTo impl nowMs after)
    (capped : impl = .tokenBucket → before.Capped) : WindowKept impl nowMs before after := by
  rcases rolled with same | rolled
  · exact Or.inl same
  simp only [RateWindow.roll] at rolled
  split at rolled
  · exact Or.inl rolled
  cases impl with
  | tokenBucket =>
      refine Or.inr ⟨rolled, fun small => ?_⟩
      rw [rolled]
      have small' := UInt32.lt_iff_toNat_lt.mp small
      exact UInt32.le_iff_toNat_le.mpr (RateWindow.le_refill small' (capped rfl) nowMs)
  | fixedWindow =>
      simp only [RateWindow.restartIfExpired] at rolled
      split at rolled
      · rename_i expired
        exact Or.inr ⟨expired, rolled⟩
      · exact Or.inl rolled

theorem Booked.reservesNothing {B : Build} {nowMs : UInt32} {budget after : Budget}
    (reachable : Reachable B budget) (booked : Booked B nowMs budget after) :
    ReservesNothing B nowMs budget after where
  resources := booked.resources
  leaseSlots := booked.leaseSlots
  needs := booked.needs
  profiles := ⟨booked.ops, by rw [booked.frame]⟩
  edges := by rw [booked.frame]
  lifetime := fun resource =>
    ⟨(booked.rolled resource).consumedLifetime, (booked.rolled resource).limitLifetime⟩
  windows_length := fun resource => (booked.rolled resource).windows.length_eq.symm
  windows := by
    intro resource index index_lt
    apply (booked.window resource index).kept
    intro bucket
    have window_le : UInt32.ofNat index ≤ 3 := by
      rw [UInt32.le_iff_toNat_le, UInt32.toNat_ofNat']
      simp only [UInt32.reduceToNat]
      omega
    have capped := reachable.capped bucket resource window_le
    rwa [(toNat_index window_le).1, UInt32.toNat_ofNat', Nat.mod_eq_of_lt (by omega)] at capped

/-- If `enter` returns anything but OK, for whatever reason and whatever clock and HAL answer,
with or without an output for the lease, it has reserved nothing. -/
theorem failed_enter_reserves_nothing {B : Build} {budget : Budget}
    (reachable : Reachable B budget) (hal : Hal) (op : OpId) (out : Bool)
    (failed : (enter B hal budget op out).1.1 ≠ .ok) :
    ReservesNothing B hal.nowMs budget (enter B hal budget op out).2 := by
  rcases enter_cases B hal budget op out with ⟨booked, -⟩ | ⟨middle, slotId, -, -, -, entered⟩
  · exact booked.reservesNothing reachable
  · rw [entered] at failed
    exact absurd rfl failed

/-- An op that needs half of the resource fails when the resource is used up. -/
theorem failed_enter_reserves_nothing_third :
    let budget := (machine Build.full).run .sample
      (oneOp ++ [.permissive (.enter 0 true), .permissive (.enter 0 true)])
    ReservesNothing Build.full 0 budget (enter Build.full (Hal.permissive 0) budget 0 true).2 := by
  intro budget
  have reachable : Reachable Build.full budget := (Reachable.of_started started_sample).run _
  have failed : (enter Build.full (Hal.permissive 0) budget 0 true).1.1 ≠ .ok := by
    decide +kernel
  exact failed_enter_reserves_nothing reachable (Hal.permissive 0) 0 true failed

end Loxbudget
