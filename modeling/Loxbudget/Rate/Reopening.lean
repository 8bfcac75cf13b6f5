import Loxbudget.Rate.BurnRate
import Loxbudget.Decision.Reasons

/-!
# When a fixed window reopens

A fixed window knows the reading at which it was last reset, not the time. The time that
has passed since then is told from the two readings, modulo 2^32: a window that is left
alone for 49.7 days looks as young as it did at the start.
-/

namespace Loxbudget

open Metering (Entry lastReset)

/-! ## One window -/

/-- A window that was last reset when its trace says so. -/
structure Dated (opened : Nat) (limit duration : UInt32) (window : RateWindow)
    (trace : List Entry) (now : Nat) : Prop where
  limit_eq : window.limit = limit
  duration_eq : window.windowDurationMs = duration
  started : window.windowStartMs = UInt32.ofNat (lastReset opened trace)
  past : lastReset opened trace ≤ now

namespace Dated

variable {opened now : Nat} {limit duration : UInt32} {window : RateWindow} {trace : List Entry}

theorem configured {hal : Hal} {setting : UInt32} (reading : hal.nowMs = UInt32.ofNat opened) :
    Dated opened limit (windowDurationMs setting)
      (configuredWindow .fixedWindow hal setting limit) [] opened where
  limit_eq := rfl
  duration_eq := rfl
  started := reading
  past := le_refl opened

theorem later (dated : Dated opened limit duration window trace now) {time : Nat}
    (after : now ≤ time) : Dated opened limit duration window trace time :=
  { dated with past := dated.past.trans after }

/-- The code finds the duration passed if and only if it has passed modulo 2^32. -/
theorem elapsed_iff (dated : Dated opened limit duration window trace now) {time : Nat}
    (after : now ≤ time) :
    UInt32.ofNat time - window.windowStartMs ≥ window.windowDurationMs ↔
      duration.toNat ≤ (time - lastReset opened trace) % 4294967296 := by
  rw [ge_iff_le, UInt32.le_iff_toNat_le, dated.started, dated.duration_eq,
    toNat_elapsed (dated.past.trans after)]

/-- A window with the start that a roll leaves is dated by the reset that the roll records. -/
theorem of_start (dated : Dated opened limit duration window trace now)
    (duration_ne : duration ≠ 0) {time : Nat} (after : now ≤ time) {window' : RateWindow}
    (limit_eq : window'.limit = window.limit)
    (duration_eq : window'.windowDurationMs = window.windowDurationMs)
    (start_eq : window'.windowStartMs =
      (window.roll .fixedWindow (UInt32.ofNat time)).windowStartMs) :
    Dated opened limit duration window' (resetBetween time window window' ++ trace) time := by
  have kept : window'.windowStartMs = window.windowStartMs →
      Dated opened limit duration window' (resetBetween time window window' ++ trace) time := by
    intro same
    rw [resetBetween, if_neg (not_not.mpr same), List.nil_append]
    exact ⟨limit_eq.trans dated.limit_eq, duration_eq.trans dated.duration_eq,
      same.trans dated.started, dated.past.trans after⟩
  by_cases unlimited : window.unlimited = true
  · apply kept
    rw [start_eq, RateWindow.roll, if_pos unlimited]
  simp only [RateWindow.roll, if_neg unlimited, RateWindow.restartIfExpired] at start_eq
  split at start_eq
  · rename_i elapsed
    have moved : UInt32.ofNat time ≠ window.windowStartMs :=
      RateWindow.ne_start (dated.duration_eq ▸ duration_ne) elapsed
    rw [resetBetween, if_pos (by rw [start_eq]; exact moved)]
    exact ⟨limit_eq.trans dated.limit_eq, duration_eq.trans dated.duration_eq, start_eq,
      le_refl time⟩
  · exact kept start_eq

theorem roll (dated : Dated opened limit duration window trace now) (duration_ne : duration ≠ 0)
    {time : Nat} (after : now ≤ time) :
    let rolled := window.roll .fixedWindow (UInt32.ofNat time)
    Dated opened limit duration rolled (resetBetween time window rolled ++ trace) time :=
  dated.of_start duration_ne after (RateWindow.roll_limit _ _ _)
    (RateWindow.roll_duration _ _ _) rfl

theorem rolledTo (dated : Dated opened limit duration window trace now)
    (duration_ne : duration ≠ 0) {time : Nat} (after : now ≤ time) {window' : RateWindow}
    (rolled : window.RolledTo .fixedWindow (UInt32.ofNat time) window') :
    Dated opened limit duration window' (resetBetween time window window' ++ trace) time := by
  rcases rolled with rfl | rfl
  · simpa [resetBetween] using dated.later after
  · exact dated.roll duration_ne after

theorem commit (dated : Dated opened limit duration window trace now)
    (duration_ne : duration ≠ 0) {time : Nat} (after : now ≤ time) (amount : UInt32) :
    let committed := window.commit .fixedWindow (UInt32.ofNat time) amount
    Dated opened limit duration committed (resetBetween time window committed ++ trace) time := by
  intro committed
  by_cases unlimited : window.unlimited = true
  · have kept : committed = window.roll .fixedWindow (UInt32.ofNat time) := by
      simp only [committed, RateWindow.commit, RateWindow.roll, if_pos unlimited]
    rw [kept]
    exact dated.roll duration_ne after
  · have limited : window.unlimited = false := by simpa using unlimited
    exact dated.of_start duration_ne after (RateWindow.commit_limit _ _ _)
      (FixedMeter.commit_duration limited) (FixedMeter.commit_start limited _ _)

/-- One call keeps the window dated. -/
theorem step {B : Build} (fixed : B.rateImpl = .fixedWindow) {clock : Clock}
    (dated : Dated opened limit duration window trace now) (duration_ne : duration ≠ 0)
    (after : now ≤ clock.now) {entries : List Entry} {window' : RateWindow}
    (step : WindowStep B clock window entries window') :
    Dated opened limit duration window' (entries ++ trace) clock.lease := by
  cases step with
  | rolled rolled =>
      rw [fixed] at rolled
      exact (dated.rolledTo duration_ne after rolled).later
        ((clock.now_le_commit 0).trans (clock.lease_le 0))
  | @granted checked _ i amount admits rolled committed =>
      rw [fixed] at rolled committed
      subst rolled committed
      have decided := dated.roll duration_ne after
      have granted := decided.commit duration_ne (clock.now_le_commit i) amount.toUInt32
      rw [List.cons_append, List.append_assoc]
      exact ⟨granted.limit_eq, granted.duration_eq, granted.started,
        granted.past.trans (clock.lease_le i)⟩

end Dated

/-! ## The next check -/

variable {B : Build} {budget : Budget} {res : ResourceId} {index : Nat} {limit nowMs : UInt32}

/-- A check at the reading finds the window empty: it admits every amount up to the limit, and
where a decision denies such an amount for RATE_LIMIT, another window of the resource refuses. -/
structure Reopens (B : Build) (budget : Budget) (res : ResourceId) (index : Nat)
    (limit nowMs : UInt32) : Prop where
  emptied : ((budget.window res index).roll B.rateImpl nowMs).consumed = 0
  admits : ∀ amount ≤ limit,
    ((budget.window res index).rollAndCheck B.rateImpl nowMs amount).2 = true
  blameless : ∀ (hal : Hal) (op : OpId) (d : Decision), hal.nowMs = nowMs →
    (check B hal budget op true).2.1 = some d → d.reason = .rateLimit →
    d.deniedResource = res → d.requested.toUInt32 ≤ limit →
    ∃ other, other ≠ index ∧
      ((budget.window res other).rollAndCheck B.rateImpl nowMs d.requested.toUInt32).2 = false

theorem reopens_of_emptied (fixed : B.rateImpl = .fixedWindow) (reachable : Reachable B budget)
    (limited : (budget.window res index).limit = limit)
    (emptied : ((budget.window res index).roll .fixedWindow nowMs).consumed = 0) :
    Reopens B budget res index limit nowMs := by
  have admits : ∀ amount ≤ limit,
      ((budget.window res index).rollAndCheck B.rateImpl nowMs amount).2 = true := by
    intro amount amount_le
    rw [RateWindow.rollAndCheck_snd, fixed]
    right
    simp only
    rw [emptied, limited, UInt32.toNat_zero, Nat.zero_add]
    exact UInt32.le_iff_toNat_le.mp amount_le
  refine ⟨fixed ▸ emptied, admits, ?_⟩
  rintro hal op d rfl decided reason rfl requested_le
  rw [check_of_initialized reachable.wellFormed.initialized] at decided
  obtain rfl := Option.some.inj decided
  have truthful := (decide_explained reachable.wellFormed hal op).truthful reachable.sound
  rcases (truthful.rateLimit reason).2.2 with ⟨window, listed, -, refuses⟩
  rcases List.getElem_of_mem listed with ⟨other, inRange, rfl⟩
  have found : budget.window (decide B hal budget op).1.deniedResource other =
      (budget.rateState (decide B hal budget op).1.deniedResource).windows[other] := by
    rw [Budget.window, List.getD_eq_getElem?_getD, List.getElem?_eq_getElem inRange,
      Option.getD_some]
  rw [← found, ← RateWindow.rollAndCheck_snd] at refuses
  refine ⟨other, ?_, by simpa using refuses⟩
  rintro rfl
  exact refuses (admits _ requested_le)

theorem Reachable.timedRun (reachable : Reachable B budget) (events : List TimedEvent) :
    Reachable B ((timedMachine B).run budget events) :=
  Machine.run_invariant' (fun _ timed reached => reached.run [timed.event]) reachable

/-- In the fixed-window build, from the `set_rate_limit` that sets a window of a resource on and
as long as it is not set again, under a real clock that is read modulo 2^32: the window reopens
at every later time at which its duration has passed, modulo 2^32, since its last reset, and at
every other time it is left as it is. -/
theorem window_reopens (fixed : B.rateImpl = .fixedWindow) (reachable : Reachable B budget)
    {set : TimedEvent} {window : UInt32} (call : set.event.call = .setRateLimit res window limit)
    (accepted : ((timedMachine B).reply budget set).status = .ok) {events : List TimedEvent}
    (undisturbed : (meterMachine B res window.toUInt8.toNat).Along (Undisturbed B res window)
      ((timedMachine B).next budget set, ⟨[], set.clock.now⟩) events) {time : Nat} :
    let final := (meterMachine B res window.toUInt8.toNat).run
      ((timedMachine B).next budget set, ⟨[], set.clock.now⟩) events
    let elapsed := time - lastReset set.clock.now final.2.trace
    final.2.now ≤ time →
      (elapsed % 4294967296 ≥ (windowDurationMs window).toNat →
        Reopens B final.1 res window.toUInt8.toNat limit (UInt32.ofNat time)) ∧
      (elapsed % 4294967296 < (windowDurationMs window).toNat →
        (final.1.window res window.toUInt8.toNat).roll B.rateImpl (UInt32.ofNat time) =
          final.1.window res window.toUInt8.toNat) := by
  intro final elapsed later
  rcases configured_of_accepted reachable.fourWindows call accepted with
    ⟨window_le, duration_ne, -⟩
  have opened : Dated set.clock.now limit (windowDurationMs window)
      (configuredWindow B.rateImpl set.event.hal window limit) [] set.clock.now := by
    rw [fixed]
    exact Dated.configured set.now_eq
  have dated : Dated set.clock.now limit (windowDurationMs window)
      (final.1.window res window.toUInt8.toNat) final.2.trace final.2.now :=
    meter_invariant reachable call accepted opened
      (fun _ _ _ _ _ _ held after step => held.step fixed duration_ne after step) undisturbed
  have reached : Reachable B final.1 := by
    rw [show final.1 = _ from meterMachine_run B res _ _ events]
    exact (reachable.timedRun [set]).timedRun events
  have idle := reached.idleUnlimited fixed res window_le
  rw [fixed]
  constructor
  · intro passed
    apply reopens_of_emptied fixed reached dated.limit_eq
    by_cases unlimited : (final.1.window res window.toUInt8.toNat).unlimited = true
    · rw [RateWindow.roll, if_pos unlimited]
      exact idle unlimited
    · simp only [RateWindow.roll, if_neg unlimited]
      rw [RateWindow.restartIfExpired, if_pos ((dated.elapsed_iff later).mpr passed)]
  · intro early
    rw [RateWindow.roll]
    split
    · rfl
    · rw [RateWindow.restartIfExpired, if_neg]
      intro passed
      exact absurd ((dated.elapsed_iff later).mp passed) (Nat.not_le.mpr early)

/-- The op is entered once. -/
def oneEnter : List TimedEvent :=
  [.at 10 (.enter 0 true)]

theorem undisturbed_oneEnter :
    (meterMachine Build.full 0 0).Along (Undisturbed Build.full 0 0)
      ((timedMachine Build.full).next ((machine Build.full).run .sample oneConsumer)
        (.at 0 (.setRateLimit 0 0 2)), ⟨[], 0⟩) oneEnter := by
  refine ⟨⟨by decide +kernel, ?_⟩, trivial⟩
  rintro limit ⟨⟩

theorem window_reopens_oneEnter :
    let set : TimedEvent := .at 0 (.setRateLimit 0 0 2)
    let start := (timedMachine Build.full).next
      ((machine Build.full).run .sample oneConsumer) set
    let final := (meterMachine Build.full 0 0).run (start, ⟨[], 0⟩) oneEnter
    Reopens Build.full final.1 0 0 2 (UInt32.ofNat 4294968296) := by
  intro set start final
  have accepted : ((timedMachine Build.full).reply
      ((machine Build.full).run .sample oneConsumer) set).status = .ok := by decide +kernel
  have reachable := (Reachable.of_started started_sample).run oneConsumer
  have call : set.event.call = .setRateLimit 0 0 2 := rfl
  have later : final.2.now ≤ 4294968296 := by decide +kernel
  have reopens := (window_reopens rfl reachable call accepted undisturbed_oneEnter later).1
  exact reopens (by decide +kernel)

/-- A window of a second is used up at its start and left alone for 49.7 days and 500 ms: the
clock reads 500, and a check of the op is denied for the window, the only one that is set. -/
theorem window_stays_shut :
    let set : TimedEvent := .at 0 (.setRateLimit 0 0 2)
    let start := (timedMachine Build.full).next
      ((machine Build.full).run .sample oneConsumer) set
    let final := (meterMachine Build.full 0 0).run (start, ⟨[], 0⟩) oneEnter
    ((timedMachine Build.full).reply ((machine Build.full).run .sample oneConsumer) set).status =
        .ok ∧
      (meterMachine Build.full 0 0).Along (Undisturbed Build.full 0 0) (start, ⟨[], 0⟩) oneEnter ∧
      lastReset 0 final.2.trace = 0 ∧ final.2.now ≤ 4294967796 ∧
      (windowDurationMs 0).toNat ≤ 4294967796 - 0 ∧
      (check Build.full (Hal.permissive (UInt32.ofNat 4294967796)) final.1 0 true).2.1 =
        some ⟨.reject, .normal, 0, 2, 0, .rateLimit⟩ ∧
      (final.1.window 0 1).unlimited = true ∧ (final.1.window 0 2).unlimited = true ∧
      (final.1.window 0 3).unlimited = true ∧
      ¬Reopens Build.full final.1 0 0 2 (UInt32.ofNat 4294967796) := by
  intro set start final
  refine ⟨by decide +kernel, undisturbed_oneEnter, by decide +kernel, by decide +kernel,
    by decide, by decide +kernel, by decide +kernel, by decide +kernel, by decide +kernel, ?_⟩
  intro reopens
  have consumed : ((final.1.window 0 0).roll Build.full.rateImpl
      (UInt32.ofNat 4294967796)).consumed = 2 := by decide +kernel
  exact absurd (consumed.symm.trans reopens.emptied) (by decide)

end Loxbudget
