import Loxbudget.Model.Rate
import Mathlib.Data.List.Forall2
import Mathlib.Order.Basic

/-!
# What rolling a window does, and what it admits

`lb__rate_roll_and_check_` both rolls a window and tests an amount against it.
Here the two are taken apart: `RateWindow.roll` is the new window, which does not
depend on the amount, and `RateWindow.Admits` says in exact integers which
amounts the rolled window still admits.
-/

namespace Loxbudget

namespace RateWindow

/-- The window after it has been rolled to a clock reading. -/
def roll (impl : RateImpl) (window : RateWindow) (nowMs : UInt32) : RateWindow :=
  if window.unlimited then window
  else
    match impl with
    | .tokenBucket => window.refill nowMs
    | .fixedWindow => window.restartIfExpired nowMs

/-- The window, rolled to a clock reading, has room for an amount. -/
def Admits (impl : RateImpl) (window : RateWindow) (nowMs amount : UInt32) : Prop :=
  window.unlimited = true ∨
    match impl with
    | .tokenBucket => amount.toNat * 65536 ≤ (window.roll impl nowMs).consumed.toNat
    | .fixedWindow =>
        (window.roll impl nowMs).consumed.toNat + amount.toNat ≤ window.limit.toNat

@[simp]
theorem restartIfExpired_limit (window : RateWindow) (nowMs : UInt32) :
    (window.restartIfExpired nowMs).limit = window.limit := by
  simp only [restartIfExpired]
  split <;> rfl

@[simp]
theorem restartIfExpired_duration (window : RateWindow) (nowMs : UInt32) :
    (window.restartIfExpired nowMs).windowDurationMs = window.windowDurationMs := by
  simp only [restartIfExpired]
  split <;> rfl

@[simp]
theorem refill_limit (window : RateWindow) (nowMs : UInt32) :
    (window.refill nowMs).limit = window.limit := by
  simp only [refill]
  split <;> rfl

@[simp]
theorem refill_duration (window : RateWindow) (nowMs : UInt32) :
    (window.refill nowMs).windowDurationMs = window.windowDurationMs := by
  simp only [refill]
  split <;> rfl

@[simp]
theorem roll_limit (impl : RateImpl) (window : RateWindow) (nowMs : UInt32) :
    (window.roll impl nowMs).limit = window.limit := by
  simp only [roll]
  split
  · rfl
  · cases impl <;> simp

@[simp]
theorem roll_duration (impl : RateImpl) (window : RateWindow) (nowMs : UInt32) :
    (window.roll impl nowMs).windowDurationMs = window.windowDurationMs := by
  simp only [roll]
  split
  · rfl
  · cases impl <;> simp

@[simp]
theorem roll_unlimited (impl : RateImpl) (window : RateWindow) (nowMs : UInt32) :
    (window.roll impl nowMs).unlimited = window.unlimited := by
  simp [unlimited]

theorem rollAndCheck_fst (impl : RateImpl) (window : RateWindow) (nowMs amount : UInt32) :
    (window.rollAndCheck impl nowMs amount).1 = window.roll impl nowMs := by
  simp only [rollAndCheck, roll]
  split
  · rfl
  · cases impl with
    | tokenBucket => rfl
    | fixedWindow =>
        simp only
        split
        · rfl
        · split <;> rfl

theorem toNat_shiftLeft_sixteen (v : UInt32) : (v.toUInt64 <<< 16).toNat = v.toNat * 65536 := by
  have bound := v.toNat_lt
  rw [UInt64.toNat_shiftLeft]
  simp only [UInt32.toNat_toUInt64, UInt64.reduceToNat, Nat.reduceMod, Nat.shiftLeft_eq,
    Nat.reducePow]
  omega

theorem rollAndCheck_snd (impl : RateImpl) (window : RateWindow) (nowMs amount : UInt32) :
    (window.rollAndCheck impl nowMs amount).2 = true ↔ window.Admits impl nowMs amount := by
  simp only [rollAndCheck, Admits, roll]
  by_cases unlimited : window.unlimited = true
  · simp [unlimited]
  · cases impl with
    | tokenBucket =>
        simp only [unlimited, Bool.false_eq_true, if_false, false_or, decide_eq_true_eq,
          ge_iff_le, UInt64.le_iff_toNat_le, toNat_shiftLeft_sixteen, UInt32.toNat_toUInt64]
    | fixedWindow =>
        simp only [unlimited, Bool.false_eq_true, if_false, false_or]
        have limit := restartIfExpired_limit window nowMs
        generalize window.restartIfExpired nowMs = rolled at limit ⊢
        rw [← limit]
        by_cases exceeds : rolled.consumed > rolled.limit
        · have exceeds' := UInt32.lt_iff_toNat_lt.mp exceeds
          simp only [exceeds, if_true, Bool.false_eq_true, false_iff]
          omega
        · have within := UInt32.not_lt.mp exceeds
          have exact_sub := UInt32.toNat_sub_of_le _ _ within
          have within' := UInt32.le_iff_toNat_le.mp within
          simp only [exceeds, if_false]
          by_cases tooMuch : amount > rolled.limit - rolled.consumed
          · have tooMuch' := UInt32.lt_iff_toNat_lt.mp tooMuch
            simp only [tooMuch, if_true, Bool.false_eq_true, false_iff]
            omega
          · have fits := UInt32.le_iff_toNat_le.mp (UInt32.not_lt.mp tooMuch)
            simp only [tooMuch, if_false, true_iff]
            omega

theorem restartIfExpired_restartIfExpired (window : RateWindow) (nowMs : UInt32)
    (duration_ne : window.windowDurationMs ≠ 0) :
    (window.restartIfExpired nowMs).restartIfExpired nowMs = window.restartIfExpired nowMs := by
  by_cases expired : nowMs - window.windowStartMs ≥ window.windowDurationMs
  · simp [restartIfExpired, expired, duration_ne]
  · simp [restartIfExpired, expired]

theorem refill_refill (window : RateWindow) (nowMs : UInt32) :
    (window.refill nowMs).refill nowMs = window.refill nowMs := by
  by_cases sameTime : nowMs - window.windowStartMs = 0
  · simp [refill, sameTime]
  · simp [refill, sameTime]

theorem roll_roll (impl : RateImpl) (window : RateWindow) (nowMs : UInt32) :
    (window.roll impl nowMs).roll impl nowMs = window.roll impl nowMs := by
  by_cases unlimited : window.unlimited = true
  · simp [roll, unlimited]
  · have rolled_limited : ¬(window.roll impl nowMs).unlimited = true := by simpa using unlimited
    have duration_ne : window.windowDurationMs ≠ 0 := by
      intro zero
      simp [RateWindow.unlimited, zero] at unlimited
    rw [roll.eq_def impl (window.roll impl nowMs), if_neg rolled_limited]
    cases impl with
    | tokenBucket => simpa [roll, unlimited] using refill_refill window nowMs
    | fixedWindow =>
        simpa [roll, unlimited] using
          restartIfExpired_restartIfExpired window nowMs duration_ne

/-- A window that has been left alone or rolled to `nowMs`. -/
def RolledTo (impl : RateImpl) (nowMs : UInt32) (before after : RateWindow) : Prop :=
  after = before ∨ after = before.roll impl nowMs

theorem RolledTo.trans {impl : RateImpl} {nowMs : UInt32} {first second third : RateWindow}
    (left : RolledTo impl nowMs first second) (right : RolledTo impl nowMs second third) :
    RolledTo impl nowMs first third := by
  rcases left with rfl | rfl
  · exact right
  · rcases right with rfl | rfl
    · exact Or.inr rfl
    · exact Or.inr (roll_roll impl first nowMs)

end RateWindow

namespace RateState

/-- Every window of the resource has room for an amount. -/
def AdmitsWindows (impl : RateImpl) (rate : RateState) (nowMs amount : UInt32) : Prop :=
  ∀ window ∈ rate.windows, window.Admits impl nowMs amount

/-- The lifetime limit, if one is set, has room for an amount. -/
def AdmitsLifetime (rate : RateState) (amount : UInt32) : Prop :=
  rate.limitLifetime = 0 ∨ rate.consumedLifetime.toNat + amount.toNat ≤ rate.limitLifetime.toNat

theorem rollWindows_snd (impl : RateImpl) (nowMs amount : UInt32) (windows : List RateWindow) :
    (rollWindows impl nowMs amount windows).2 = true ↔
      ∀ window ∈ windows, window.Admits impl nowMs amount := by
  induction windows with
  | nil => simp [rollWindows]
  | cons window rest ih =>
      have admits := window.rollAndCheck_snd impl nowMs amount
      simp only [rollWindows]
      rcases checked : window.rollAndCheck impl nowMs amount with ⟨rolled, admitted⟩
      rw [checked] at admits
      cases admitted with
      | false =>
          simp only [Bool.false_eq_true, List.mem_cons, forall_eq_or_imp, false_iff, not_and]
          intro now
          exact absurd (admits.mpr now) (by simp)
      | true =>
          simp only [List.mem_cons, forall_eq_or_imp, ih, admits.mp rfl, true_and]

theorem lifetimeExhausted_eq_false (rate : RateState) (amount : UInt32) :
    rate.lifetimeExhausted amount = false ↔ rate.AdmitsLifetime amount := by
  simp only [lifetimeExhausted, AdmitsLifetime]
  by_cases unset : rate.limitLifetime = 0
  · simp [unset]
  · by_cases exceeds : rate.consumedLifetime > rate.limitLifetime
    · have exceeds' := UInt32.lt_iff_toNat_lt.mp exceeds
      simp only [bne_iff_ne, ne_eq, unset, not_false_eq_true, exceeds, decide_true, Bool.true_or,
        Bool.and_eq_false_imp, Bool.true_eq_false, imp_false, not_true, false_or, false_iff]
      omega
    · have within := UInt32.not_lt.mp exceeds
      have exact_sub := UInt32.toNat_sub_of_le _ _ within
      have within' := UInt32.le_iff_toNat_le.mp within
      simp only [bne_iff_ne, ne_eq, unset, not_false_eq_true, exceeds, decide_false,
        Bool.false_or, Bool.and_eq_false_imp, forall_const, decide_eq_false_iff_not, gt_iff_lt,
        UInt32.not_lt, UInt32.le_iff_toNat_le, false_or]
      omega

/-- A rate state whose windows have each been left alone or rolled to `nowMs`. -/
structure RolledTo (impl : RateImpl) (nowMs : UInt32) (before after : RateState) : Prop where
  windows : List.Forall₂ (RateWindow.RolledTo impl nowMs) before.windows after.windows
  consumedLifetime : after.consumedLifetime = before.consumedLifetime
  limitLifetime : after.limitLifetime = before.limitLifetime

theorem RolledTo.refl (impl : RateImpl) (nowMs : UInt32) (rate : RateState) :
    RolledTo impl nowMs rate rate :=
  ⟨List.forall₂_same.mpr fun _ _ => Or.inl rfl, rfl, rfl⟩

theorem forall₂_trans {α : Type*} {relation : α → α → Prop}
    (step : ∀ first second third, relation first second → relation second third →
      relation first third) {first second third : List α}
    (left : List.Forall₂ relation first second) (right : List.Forall₂ relation second third) :
    List.Forall₂ relation first third := by
  induction left generalizing third with
  | nil => exact right
  | cons head _ ih =>
      cases right with
      | cons head' rest' => exact List.Forall₂.cons (step _ _ _ head head') (ih rest')

theorem RolledTo.trans {impl : RateImpl} {nowMs : UInt32} {first second third : RateState}
    (left : RolledTo impl nowMs first second) (right : RolledTo impl nowMs second third) :
    RolledTo impl nowMs first third := by
  refine ⟨?_, right.consumedLifetime.trans left.consumedLifetime,
    right.limitLifetime.trans left.limitLifetime⟩
  have step : ∀ first second third, RateWindow.RolledTo impl nowMs first second →
      RateWindow.RolledTo impl nowMs second third → RateWindow.RolledTo impl nowMs first third :=
    fun _ _ _ => RateWindow.RolledTo.trans
  exact forall₂_trans step left.windows right.windows

theorem rollWindows_fst (impl : RateImpl) (nowMs amount : UInt32) (windows : List RateWindow) :
    List.Forall₂ (RateWindow.RolledTo impl nowMs) windows
      (rollWindows impl nowMs amount windows).1 := by
  induction windows with
  | nil => exact List.Forall₂.nil
  | cons window rest ih =>
      have rolled_eq := window.rollAndCheck_fst impl nowMs amount
      simp only [rollWindows]
      rcases checked : window.rollAndCheck impl nowMs amount with ⟨rolled, admitted⟩
      rw [checked] at rolled_eq
      cases admitted with
      | false =>
          exact List.Forall₂.cons (Or.inr rolled_eq)
            (List.forall₂_same.mpr fun _ _ => Or.inl rfl)
      | true => exact List.Forall₂.cons (Or.inr rolled_eq) ih

end RateState

end Loxbudget
