import Loxbudget.Model.BurnRate
import Loxbudget.Rate.FixedWindow

/-!
# What the burn rate says

`loxbudget_get_burn_rate` hands out the counters of the minute and the hour window and
makes an estimate of what is left of the lifetime limit. It takes the instance as
`const`: unlike the decision and the commit it reads the windows without rolling them.
Its estimate is a quotient of 64 bits, of which 32 are reported.
-/

namespace Loxbudget

variable {B : Build} {budget : Budget} {res : ResourceId} {burn : BurnRate}

/-! ## The answer -/

theorem getBurnRate_ok :
    getBurnRate B budget res true = (.ok, some burn) ↔
      budget.magic = magicInit ∧ res < budget.maxResources ∧ budget.resCfg res = true ∧
        burn = (budget.rateState res).burnRate B.rateImpl := by
  simp only [getBurnRate, Bool.true_eq_false, if_false]
  by_cases initialized : budget.magic = magicInit
  swap
  · have invalid : budget.validate ≠ .ok := mt validate_eq_ok.mp initialized
    simp [invalid, initialized]
  have valid : ¬budget.validate ≠ .ok := not_not.mpr (validate_eq_ok.mpr initialized)
  rw [if_neg valid]
  by_cases outside : res ≥ budget.maxResources
  · simp [outside, UInt8.not_lt.mpr outside]
  rw [if_neg outside]
  cases configured : budget.resCfg res with
  | false => simp
  | true => simp [initialized, UInt8.not_le.mp outside, eq_comm]

theorem burnRate_perMinute (fixed : B.rateImpl = .fixedWindow)
    (answered : getBurnRate B budget res true = (.ok, some burn)) :
    burn.perMinute = (budget.window res 1).consumed := by
  rw [(getBurnRate_ok.mp answered).2.2.2, fixed]
  rfl

theorem burnRate_perHour (fixed : B.rateImpl = .fixedWindow)
    (answered : getBurnRate B budget res true = (.ok, some burn)) :
    burn.perHour = (budget.window res 2).consumed := by
  rw [(getBurnRate_ok.mp answered).2.2.2, fixed]
  rfl

theorem burnRate_estimate (answered : getBurnRate B budget res true = (.ok, some burn)) :
    burn.estimatedExhaustionMs =
      (budget.rateState res).estimatedExhaustionMs burn.perMinute := by
  rw [(getBurnRate_ok.mp answered).2.2.2]
  rfl

/-! ## The estimate -/

/-- The milliseconds that what is left of the lifetime limit lasts at a rate per minute, rounded
down. -/
def RateState.exhaustionMs (rate : RateState) (perMinute : UInt32) : Nat :=
  (rate.limitLifetime.toNat - rate.consumedLifetime.toNat) * 60000 / perMinute.toNat

/-- A time that fits into 32 bits is reported as it is, and one that does not as no earlier than
any that does. -/
def NeverEarly (exact : Nat) (reported : UInt32) : Prop :=
  (exact < 4294967296 → reported.toNat = exact) ∧
    (4294967296 ≤ exact → ∀ time < 4294967296, time ≤ reported.toNat)

theorem neverEarly_iff {exact : Nat} {reported : UInt32}
    (narrowed : reported.toNat = exact % 4294967296) :
    NeverEarly exact reported ↔ exact < 4294967296 ∨ exact % 4294967296 = 4294967295 := by
  constructor
  · rintro ⟨-, late⟩
    by_cases fits : exact < 4294967296
    · exact Or.inl fits
    · have last := late (Nat.not_lt.mp fits) 4294967295 (by decide)
      right
      omega
  · rintro (fits | last)
    · exact ⟨fun _ => by omega, fun exceeds => absurd fits (Nat.not_lt.mpr exceeds)⟩
    · exact ⟨fun _ => by omega, fun _ time small => by omega⟩

/-- The 64 bits of the quotient lose nothing; its narrowing to 32 bits may. -/
theorem RateState.estimatedExhaustionMs_toNat {rate : RateState} {perMinute : UInt32}
    (limited : rate.limitLifetime ≠ 0) (unspent : rate.consumedLifetime < rate.limitLifetime)
    (burning : perMinute ≠ 0) :
    (rate.estimatedExhaustionMs perMinute).toNat =
      rate.exhaustionMs perMinute % 4294967296 := by
  have bound := rate.limitLifetime.toNat_lt
  have remaining := UInt32.toNat_sub_of_le _ _ (UInt32.le_of_lt unspent)
  have product : ((rate.limitLifetime - rate.consumedLifetime).toUInt64 * 60000).toNat =
      (rate.limitLifetime.toNat - rate.consumedLifetime.toNat) * 60000 := by
    rw [UInt64.toNat_mul, UInt32.toNat_toUInt64, remaining]
    simp only [UInt64.reduceToNat]
    omega
  simp only [estimatedExhaustionMs, limited, burning, if_false, ge_iff_le,
    UInt32.not_le.mpr unspent]
  rw [UInt64.toNat_toUInt32, UInt64.toNat_div, product, UInt32.toNat_toUInt64]
  rfl

/-- The estimate is never too early if and only if the exact time fits into 32 bits, or happens
to end in 32 ones. -/
theorem exhaustion_never_early_iff (fixed : B.rateImpl = .fixedWindow)
    (answered : getBurnRate B budget res true = (.ok, some burn))
    (limited : (budget.rateState res).limitLifetime ≠ 0)
    (unspent : (budget.rateState res).consumedLifetime < (budget.rateState res).limitLifetime)
    (burning : burn.perMinute ≠ 0) :
    NeverEarly ((budget.rateState res).exhaustionMs burn.perMinute)
        burn.estimatedExhaustionMs ↔
      (budget.rateState res).exhaustionMs (budget.window res 1).consumed < 4294967296 ∨
        (budget.rateState res).exhaustionMs (budget.window res 1).consumed % 4294967296 =
          4294967295 := by
  rw [← burnRate_perMinute fixed answered]
  apply neverEarly_iff
  rw [burnRate_estimate answered]
  exact RateState.estimatedExhaustionMs_toNat limited unspent burning

/-- A minute window, a lifetime limit, and an `enter` of an op that needs two units. -/
def steadyUse (lifetimeMax : UInt32) : List Event :=
  oneConsumer ++ [.permissive (.setRateLimit 0 1 60),
    .permissive (.setLifetimeLimit 0 lifetimeMax), .permissive (.enter 0 true)]

theorem exhaustion_never_early_steadyUse :
    let rate := ((machine Build.full).run .sample (steadyUse 100000)).rateState 0
    NeverEarly (rate.exhaustionMs 2) 2999940000 := by
  intro rate
  have answered : getBurnRate Build.full ((machine Build.full).run .sample (steadyUse 100000)) 0
      true = (.ok, some ⟨2, 0, 2999940000⟩) := by decide +kernel
  exact (exhaustion_never_early_iff rfl answered (by decide +kernel) (by decide +kernel)
    (by decide)).mpr (Or.inl (by decide +kernel))

/-- At two units a minute the 199998 that are left last 69 days; 20 days are reported. -/
theorem exhaustion_reported_early :
    let budget := (machine Build.full).run .sample (steadyUse 200000)
    Reachable Build.full budget ∧
      (budget.rateState 0).limitLifetime = 200000 ∧ (budget.rateState 0).consumedLifetime = 2 ∧
      getBurnRate Build.full budget 0 true = (.ok, some ⟨2, 0, 1704972704⟩) ∧
      (budget.rateState 0).exhaustionMs 2 = 5999940000 ∧
      ¬NeverEarly ((budget.rateState 0).exhaustionMs 2) 1704972704 := by
  intro budget
  have exact : (budget.rateState 0).exhaustionMs 2 = 5999940000 := by decide +kernel
  refine ⟨(Reachable.of_started started_sample).run _, by decide +kernel, by decide +kernel,
    by decide +kernel, exact, ?_⟩
  rw [exact]
  rintro ⟨-, late⟩
  exact absurd (late (by decide) 4294967295 (by decide)) (by decide)

/-! ## The windows -/

/-- The duration of the window has passed at the reading, but it still holds what it has
consumed. -/
def RateWindow.Stale (window : RateWindow) (nowMs : UInt32) : Prop :=
  window.windowDurationMs ≤ nowMs - window.windowStartMs ∧ window.consumed ≠ 0

instance (window : RateWindow) (nowMs : UInt32) : Decidable (window.Stale nowMs) :=
  inferInstanceAs (Decidable (_ ∧ _))

/-- A window that limits nothing has consumed nothing. -/
def RateWindow.IdleUnlimited (window : RateWindow) : Prop :=
  window.unlimited = true → window.consumed = 0

namespace RateWindow

variable {window : RateWindow} {nowMs : UInt32}

theorem IdleUnlimited.roll (idle : window.IdleUnlimited) (nowMs : UInt32) :
    (window.roll .fixedWindow nowMs).IdleUnlimited := by
  intro unlimited
  rw [roll_unlimited] at unlimited
  rw [RateWindow.roll, if_pos unlimited]
  exact idle unlimited

theorem IdleUnlimited.commit (idle : window.IdleUnlimited) (nowMs amount : UInt32) :
    (window.commit .fixedWindow nowMs amount).IdleUnlimited := by
  intro unlimited
  rw [commit_unlimited] at unlimited
  rw [RateWindow.commit, if_pos unlimited]
  exact idle unlimited

/-- A roll changes the counter of a window exactly if the window is stale. -/
theorem roll_consumed_iff (idle : window.IdleUnlimited) :
    window.consumed = (window.roll .fixedWindow nowMs).consumed ↔ ¬window.Stale nowMs := by
  by_cases unlimited : window.unlimited = true
  · rw [roll, if_pos unlimited]
    exact iff_of_true rfl fun stale => stale.2 (idle unlimited)
  · simp only [roll, unlimited, Bool.false_eq_true, if_false, restartIfExpired]
    by_cases elapsed : nowMs - window.windowStartMs ≥ window.windowDurationMs
    · simp [Stale, elapsed]
    · rw [if_neg elapsed]
      exact iff_of_true rfl fun stale => elapsed stale.1

theorem RolledTo.consumed_eq {after : RateWindow}
    (rolled : window.RolledTo .fixedWindow nowMs after)
    (idle : window.IdleUnlimited) (fresh : ¬window.Stale nowMs) :
    after.consumed = window.consumed := by
  rcases rolled with rfl | rfl
  · rfl
  · exact ((roll_consumed_iff idle).mpr fresh).symm

end RateWindow

theorem Reachable.idleUnlimited (fixed : B.rateImpl = .fixedWindow)
    (reachable : Reachable B budget) (res : ResourceId) {window : UInt32} (window_le : window ≤ 3) :
    (budget.window res window.toUInt8.toNat).IdleUnlimited := by
  refine reachable.window_invariant ?_ ?_ ?_ ?_ res window_le
  · exact fun _ => rfl
  · rw [fixed]
    exact fun _ _ _ _ => rfl
  · rw [fixed]
    exact fun _ nowMs idle => idle.roll nowMs
  · rw [fixed]
    exact fun _ nowMs amount idle => idle.commit nowMs amount

/-- A burn rate that reports what the windows hold once they have been rolled to a reading. A
check at that reading makes no difference to it, whether it rolls them or not. -/
structure ReportsCurrent (B : Build) (budget : Budget) (res : ResourceId) (nowMs : UInt32)
    (burn : BurnRate) : Prop where
  perMinute : burn.perMinute = ((budget.window res 1).roll B.rateImpl nowMs).consumed
  perHour : burn.perHour = ((budget.window res 2).roll B.rateImpl nowMs).consumed
  checked : ∀ (hal : Hal) (op : OpId) (out : Bool), hal.nowMs = nowMs →
    getBurnRate B (check B hal budget op out).2.2 res true = (.ok, some burn)

theorem getBurnRate_of_booked {nowMs : UInt32} {after : Budget} (fixed : B.rateImpl = .fixedWindow)
    (answered : getBurnRate B budget res true = (.ok, some burn))
    (booked : Booked B nowMs budget after)
    (minute : (after.window res 1).consumed = (budget.window res 1).consumed)
    (hour : (after.window res 2).consumed = (budget.window res 2).consumed) :
    getBurnRate B after res true = (.ok, some burn) := by
  have rolled := booked.rolled res
  rcases getBurnRate_ok.mp answered with ⟨initialized, inRange, configured, rfl⟩
  have frame := booked.frame
  rw [getBurnRate_ok, frame]
  refine ⟨initialized, inRange, configured, ?_⟩
  simp only [RateState.burnRate, RateState.estimatedExhaustionMs, fixed, rolled.limitLifetime,
    rolled.consumedLifetime]
  simp only [Budget.window] at minute hour
  rw [minute, hour]

/-- In every reachable state of the fixed-window build and at every reading, the burn rate is
current if and only if neither the minute nor the hour window is stale. -/
theorem burn_rate_current_iff (fixed : B.rateImpl = .fixedWindow) (reachable : Reachable B budget)
    (answered : getBurnRate B budget res true = (.ok, some burn)) (nowMs : UInt32) :
    ReportsCurrent B budget res nowMs burn ↔
      ¬(budget.window res 1).Stale nowMs ∧ ¬(budget.window res 2).Stale nowMs := by
  have minuteIdle : (budget.window res 1).IdleUnlimited :=
    reachable.idleUnlimited fixed res (show (1 : UInt32) ≤ 3 by decide)
  have hourIdle : (budget.window res 2).IdleUnlimited :=
    reachable.idleUnlimited fixed res (show (2 : UInt32) ≤ 3 by decide)
  have perMinute := burnRate_perMinute fixed answered
  have perHour := burnRate_perHour fixed answered
  constructor
  · intro current
    have minute := current.perMinute
    have hour := current.perHour
    rw [perMinute, fixed] at minute
    rw [perHour, fixed] at hour
    exact ⟨(RateWindow.roll_consumed_iff minuteIdle).mp minute,
      (RateWindow.roll_consumed_iff hourIdle).mp hour⟩
  · rintro ⟨minute, hour⟩
    refine ⟨?_, ?_, ?_⟩
    · rw [perMinute, fixed]
      exact (RateWindow.roll_consumed_iff minuteIdle).mpr minute
    · rw [perHour, fixed]
      exact (RateWindow.roll_consumed_iff hourIdle).mpr hour
    · rintro hal op out rfl
      have booked := check_booked B hal budget op out
      have minuteRolled := booked.window res 1
      have hourRolled := booked.window res 2
      rw [fixed] at minuteRolled hourRolled
      exact getBurnRate_of_booked fixed answered booked
        (minuteRolled.consumed_eq minuteIdle minute) (hourRolled.consumed_eq hourIdle hour)

theorem burn_rate_current_steadyUse :
    ReportsCurrent Build.full ((machine Build.full).run .sample (steadyUse 100000)) 0 59999
      ⟨2, 0, 2999940000⟩ :=
  (burn_rate_current_iff rfl ((Reachable.of_started started_sample).run _)
    (by decide +kernel) 59999).mpr (by decide +kernel)

/-- Two minutes after the last use the rate of the minute is still 2, and a check of the op makes
it 0. -/
theorem burn_rate_stale :
    let budget := (machine Build.full).run .sample (steadyUse 100000)
    Reachable Build.full budget ∧
      getBurnRate Build.full budget 0 true = (.ok, some ⟨2, 0, 2999940000⟩) ∧
      ((budget.window 0 1).roll Build.full.rateImpl 120000).consumed = 0 ∧
      getBurnRate Build.full (check Build.full (Hal.permissive 120000) budget 0 true).2.2 0 true =
        (.ok, some ⟨0, 0, 0⟩) ∧
      ¬ReportsCurrent Build.full budget 0 120000 ⟨2, 0, 2999940000⟩ := by
  intro budget
  have rolled : ((budget.window 0 1).roll Build.full.rateImpl 120000).consumed = 0 := by
    decide +kernel
  refine ⟨(Reachable.of_started started_sample).run _, by decide +kernel, rolled,
    by decide +kernel, fun current => ?_⟩
  exact absurd (current.perMinute.trans rolled) (by decide)

end Loxbudget
