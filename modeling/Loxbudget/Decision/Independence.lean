import Loxbudget.Cascade.Bitmap
import Loxbudget.Decision.Admission

/-!
# Checks at one instant do not influence each other

A check writes the journal and rolls windows, and where it denies early it rolls only some of
them. No later check at the same clock reading can tell: what it reads of a window is the window
rolled to that reading.
-/

namespace Loxbudget

/-! ## Windows rolled to one clock reading -/

section Rates

variable {impl : RateImpl} {nowMs amount : UInt32}

@[simp]
theorem RateWindow.admits_roll (window : RateWindow) :
    (window.roll impl nowMs).Admits impl nowMs amount ↔ window.Admits impl nowMs amount := by
  simp only [Admits, roll_unlimited, roll_roll, roll_limit]

namespace RateState

/-- The rate state with all windows rolled to a clock reading. -/
def rolled (impl : RateImpl) (nowMs : UInt32) (rate : RateState) : RateState :=
  { rate with windows := rate.windows.map fun window => window.roll impl nowMs }

theorem RolledTo.rolled_eq {before after : RateState} (moved : before.RolledTo impl nowMs after) :
    after.rolled impl nowMs = before.rolled impl nowMs := by
  have same : after.windows.map (fun window => window.roll impl nowMs) =
      before.windows.map fun window => window.roll impl nowMs := by
    rw [← List.forall₂_eq_eq_eq, List.forall₂_map_left_iff, List.forall₂_map_right_iff]
    apply moved.windows.flip.imp
    rintro window' window (rfl | rfl)
    · rfl
    · exact window.roll_roll impl nowMs
  rw [rolled, rolled, same, moved.consumedLifetime, moved.limitLifetime]

theorem lifetimeExhausted_rolled (rate : RateState) :
    (rate.rolled impl nowMs).lifetimeExhausted amount = rate.lifetimeExhausted amount := rfl

/-- What the windows admit can be read off the rolled windows. -/
theorem rollWindows_rolled_snd (rate : RateState) :
    (rollWindows impl nowMs amount (rate.rolled impl nowMs).windows).2 =
      (rollWindows impl nowMs amount rate.windows).2 := by
  rw [Bool.eq_iff_iff, rollWindows_snd, rollWindows_snd, rolled, List.forall_mem_map]
  simp only [RateWindow.admits_roll]

theorem rolled_rollWindows (rate : RateState) :
    ({ rate with windows := (rollWindows impl nowMs amount rate.windows).1 } : RateState).rolled
        impl nowMs = rate.rolled impl nowMs :=
  RolledTo.rolled_eq ⟨rollWindows_fst impl nowMs amount rate.windows, rfl, rfl⟩

end RateState

end Rates

/-! ## The needs -/

variable {B : Build} {hal : Hal} {budget : Budget} {profile : OpProfile} {out : Decision}

/-- Two passes through a loop over needs that differ in windows not rolled yet. -/
structure NeedsPass.Agree (B : Build) (hal : Hal) (pass pass' : NeedsPass) : Prop where
  rates : ∀ resource, (pass.rateState resource).rolled B.rateImpl hal.nowMs =
    (pass'.rateState resource).rolled B.rateImpl hal.nowMs
  totals : pass.needPerRes = pass'.needPerRes

theorem NeedsPass.Agree.roll {pass pass' : NeedsPass} (agree : pass.Agree B hal pass')
    (resource : ResourceId) (amount : UInt32) (totals : NeedPerRes) :
    NeedsPass.Agree B hal
      ⟨Function.update pass.rateState resource
        { pass.rateState resource with
          windows := (RateState.rollWindows B.rateImpl hal.nowMs amount
            (pass.rateState resource).windows).1 }, totals⟩
      ⟨Function.update pass'.rateState resource
        { pass'.rateState resource with
          windows := (RateState.rollWindows B.rateImpl hal.nowMs amount
            (pass'.rateState resource).windows).1 }, totals⟩ := by
  refine ⟨fun other => ?_, rfl⟩
  by_cases same : other = resource
  · simp only [same, Function.update_self]
    rw [RateState.rolled_rollWindows, RateState.rolled_rollWindows]
    exact agree.rates resource
  · simp only [Function.update_of_ne same]
    exact agree.rates other

/-- The check of a need decides alike and keeps the passes in agreement. -/
theorem checkNeed_agree (budget : Budget) (profile : OpProfile) (out : Decision)
    {pass pass' : NeedsPass} (agree : pass.Agree B hal pass') (need : Need) :
    (checkNeed B hal budget profile out need pass).2 =
        (checkNeed B hal budget profile out need pass').2 ∧
      (checkNeed B hal budget profile out need pass).1.Agree B hal
        (checkNeed B hal budget profile out need pass').1 := by
  have exhausted : (pass.rateState need.resource).lifetimeExhausted need.amount.toUInt32 =
      (pass'.rateState need.resource).lifetimeExhausted need.amount.toUInt32 := by
    rw [← RateState.lifetimeExhausted_rolled, agree.rates, RateState.lifetimeExhausted_rolled]
  have admitted : (RateState.rollWindows B.rateImpl hal.nowMs need.amount.toUInt32
      (pass.rateState need.resource).windows).2 =
        (RateState.rollWindows B.rateImpl hal.nowMs need.amount.toUInt32
          (pass'.rateState need.resource).windows).2 := by
    rw [← RateState.rollWindows_rolled_snd, agree.rates, RateState.rollWindows_rolled_snd]
  have rolled := agree.roll need.resource need.amount.toUInt32
    (pass.needPerRes.addSat need.resource need.amount.toUInt32)
  have added : (⟨pass.rateState, pass.needPerRes.addSat need.resource need.amount.toUInt32⟩ :
      NeedsPass).Agree B hal
        ⟨pass'.rateState, pass.needPerRes.addSat need.resource need.amount.toUInt32⟩ :=
    ⟨agree.rates, rfl⟩
  simp only [checkNeed]
  rw [← exhausted, ← admitted, ← agree.totals]
  split
  · exact ⟨rfl, agree⟩
  split
  · exact ⟨rfl, agree⟩
  split
  · split
    · exact ⟨rfl, agree⟩
    · exact ⟨rfl, agree⟩
  split
  · exact ⟨rfl, added⟩
  split
  · split
    · exact ⟨rfl, added⟩
    split
    · exact ⟨rfl, rolled⟩
    · exact ⟨rfl, rolled⟩
  · exact ⟨rfl, added⟩

theorem checkNeeds_agree (budget : Budget) (profile : OpProfile) (out : Decision)
    {pass pass' : NeedsPass} (agree : pass.Agree B hal pass') (needs : List Need) :
    (checkNeeds B hal budget profile out needs pass).2 =
        (checkNeeds B hal budget profile out needs pass').2 ∧
      (checkNeeds B hal budget profile out needs pass).1.Agree B hal
        (checkNeeds B hal budget profile out needs pass').1 := by
  induction needs generalizing pass pass' with
  | nil => exact ⟨rfl, agree⟩
  | cons need needs ih =>
      have now := checkNeed_agree budget profile out agree need
      simp only [checkNeeds]
      rcases checked : checkNeed B hal budget profile out need pass with ⟨after, denied⟩
      rcases checked' : checkNeed B hal budget profile out need pass' with ⟨after', denied'⟩
      rw [checked, checked'] at now
      rcases now with ⟨rfl, later⟩
      cases denied with
      | some d => exact ⟨rfl, later⟩
      | none => exact ih later

/-! ## The decision -/

/-- A decision reads neither the journal nor how far the windows have been rolled. -/
theorem decide_agree (rateState : ResourceId → RateState) (journal : Journal)
    (agree : ∀ resource, (rateState resource).rolled B.rateImpl hal.nowMs =
      (budget.rateState resource).rolled B.rateImpl hal.nowMs) (op : OpId) :
    (decide B hal { budget with rateState := rateState, journal := journal } op).1 =
      (decide B hal budget op).1 := by
  have profile : ({ budget with rateState := rateState, journal := journal } : Budget).profile op =
      budget.profile op := rfl
  have preconditions (profile : OpProfile) :
      ({ budget with rateState := rateState, journal := journal } : Budget).halPreconditions hal
        profile = budget.halPreconditions hal profile := rfl
  simp only [decide, profile, preconditions, checkNeeds_booked]
  cases budget.profile op with
  | none => rfl
  | some profile =>
      simp only
      split
      · rfl
      split
      · rfl
      cases budget.halPreconditions hal profile with
      | some reason => rfl
      | none =>
          simp only
          have passes := checkNeeds_agree budget profile
            ⟨profile.mappedAction budget.pressure, budget.pressure, 0xFF, 0, 0, .ok⟩
            (⟨agree, rfl⟩ : NeedsPass.Agree B hal ⟨rateState, fun _ => 0⟩
              ⟨budget.rateState, fun _ => 0⟩) (budget.needs op)
          rcases checked : checkNeeds B hal budget profile _ (budget.needs op)
            ⟨rateState, fun _ => 0⟩ with ⟨pass, denied⟩
          rcases checked' : checkNeeds B hal budget profile _ (budget.needs op)
            ⟨budget.rateState, fun _ => 0⟩ with ⟨pass', denied'⟩
          rw [checked, checked'] at passes
          rcases passes with ⟨rfl, later⟩
          cases denied with
          | some d => rfl
          | none =>
              simp only
              have totals : pass.needPerRes = pass'.needPerRes := later.totals
              rw [checkCascade_booked pass.rateState journal,
                checkCascade_booked pass'.rateState budget.journal, totals]
              split
              · rfl
              · rfl

theorem Booked.decide_eq {after : Budget} (booked : Booked B hal.nowMs budget after) (op : OpId) :
    (decide B hal after op).1 = (decide B hal budget op).1 := by
  rw [booked.frame]
  exact decide_agree _ _ (fun resource => (booked.rolled resource).rolled_eq) op

/-- Nothing has changed but the journal and how far the rate windows have been rolled. -/
structure Untouched (before after : Budget) : Prop where
  frame : after = { before with rateState := after.rateState, journal := after.journal }
  lifetime : ∀ resource,
    (after.rateState resource).consumedLifetime =
        (before.rateState resource).consumedLifetime ∧
      (after.rateState resource).limitLifetime = (before.rateState resource).limitLifetime

theorem Booked.untouched {nowMs : UInt32} {after : Budget} (booked : Booked B nowMs budget after) :
    Untouched budget after :=
  ⟨booked.frame, fun resource =>
    ⟨(booked.rolled resource).consumedLifetime, (booked.rolled resource).limitLifetime⟩⟩

/-- The reply to a check is that of the state before any bookings at the same clock reading. -/
theorem Booked.reply_check {after : Budget} (booked : Booked B hal.nowMs budget after) (op : OpId)
    (out : Bool) :
    (machine B).reply after ⟨hal, .check op out⟩ =
      (machine B).reply budget ⟨hal, .check op out⟩ := by
  have decided := booked.decide_eq op
  have valid : after.validate = budget.validate := by
    rw [Budget.validate, Budget.validate, booked.magic]
  simp only [Machine.reply, machine, exec, check, valid]
  split
  · rfl
  split
  · rfl
  · simp only [decided]

/-- A check replies after another check under the same clock and HAL as it would have replied
without it. Neither changes anything but the journal and how far the windows have been rolled, and
what the first leaves in the visited bitmap makes no difference to the walk of the second. -/
theorem checks_independent (B : Build) (budget : Budget) (hal : Hal) (a b : OpId)
    (out out' : Bool) :
    let after := (machine B).next budget ⟨hal, .check a out⟩
    (machine B).reply after ⟨hal, .check b out'⟩ =
        (machine B).reply budget ⟨hal, .check b out'⟩ ∧
      Untouched budget after ∧
      Untouched after ((machine B).next after ⟨hal, .check b out'⟩) ∧
      ∀ needPerRes visited,
        (storedAddScaledNeeds B after b needPerRes after.pressure visited).1 =
          causalityAddScaledNeeds B after b needPerRes after.pressure := by
  intro after
  have booked : Booked B hal.nowMs budget after := check_booked B hal budget a out
  have booked' : Booked B hal.nowMs after ((machine B).next after ⟨hal, .check b out'⟩) :=
    check_booked B hal after b out'
  exact ⟨booked.reply_check b out', booked.untouched, booked'.untouched,
    fun needPerRes visited => storedAddScaledNeeds_fst B after b needPerRes after.pressure visited⟩

end Loxbudget
