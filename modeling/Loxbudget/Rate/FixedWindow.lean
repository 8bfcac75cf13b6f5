import Loxbudget.Rate.Timeline

/-!
# What a fixed window grants over time

A fixed window is reset lazily, by the decision or by the commit of an `enter`, and
compares clock readings by wrapped subtraction. The wrapped difference never exceeds
the real one, so two resets are at least the duration of the window apart; and a
commit counts only what the decision has admitted. So the trace of the window is
metered by its limit and its duration.
-/

namespace Loxbudget

open Metering (Entry Metered current total interval)

/-! ## One window -/

theorem toNat_elapsed {start time : Nat} (later : start ≤ time) :
    (UInt32.ofNat time - UInt32.ofNat start).toNat = (time - start) % 4294967296 := by
  rw [UInt32.toNat_sub, UInt32.toNat_ofNat', UInt32.toNat_ofNat']
  omega

/-- When the duration of a window has passed, the clock reads something else than at its start. -/
theorem RateWindow.ne_start {window : RateWindow} {nowMs : UInt32}
    (duration_ne : window.windowDurationMs ≠ 0)
    (expired : nowMs - window.windowStartMs ≥ window.windowDurationMs) :
    nowMs ≠ window.windowStartMs := by
  intro same
  rw [same, UInt32.sub_self] at expired
  exact duration_ne (UInt32.le_zero_iff.mp expired)

/-- A window whose trace its limit and duration meter, and what it knows about that trace. -/
structure FixedMeter (limit duration : UInt32) (window : RateWindow) (trace : List Entry)
    (now : Nat) : Prop where
  limit_eq : window.limit = limit
  duration_eq : window.windowDurationMs = duration
  metered : Metered limit.toNat duration.toNat trace
  consumed_eq : window.consumed.toNat = current trace
  ordered : ∀ entry ∈ trace, entry.time ≤ now
  started : ∃ start ≤ now, window.windowStartMs = UInt32.ofNat start ∧
    ∀ entry ∈ trace, entry.isReset = true → entry.time ≤ start

namespace FixedMeter

variable {limit duration : UInt32} {window : RateWindow} {trace : List Entry} {now : Nat}

theorem configured {hal : Hal} {setting : UInt32} (reading : hal.nowMs = UInt32.ofNat now) :
    FixedMeter limit (windowDurationMs setting)
      (configuredWindow .fixedWindow hal setting limit) [] now where
  limit_eq := rfl
  duration_eq := rfl
  metered := .nil
  consumed_eq := rfl
  ordered := by simp
  started := ⟨now, le_refl now, reading, by simp⟩

theorem later (meter : FixedMeter limit duration window trace now) {time : Nat}
    (after : now ≤ time) : FixedMeter limit duration window trace time := by
  rcases meter.started with ⟨start, past, reading, resets⟩
  exact { meter with
    ordered := fun entry listed => (meter.ordered entry listed).trans after
    started := ⟨start, past.trans after, reading, resets⟩ }

theorem limited (meter : FixedMeter limit duration window trace now) (limit_ne : limit ≠ 0)
    (duration_ne : duration ≠ 0) : window.unlimited = false := by
  simp [RateWindow.unlimited, meter.limit_eq, meter.duration_eq, limit_ne, duration_ne]

/-- A window is rolled to a later reading: it stays as it is, or it is reset, and then its duration
has passed since the last reset. -/
theorem roll (meter : FixedMeter limit duration window trace now) (limit_ne : limit ≠ 0)
    (duration_ne : duration ≠ 0) {time : Nat} (after : now ≤ time) :
    let rolled := window.roll .fixedWindow (UInt32.ofNat time)
    FixedMeter limit duration rolled (resetBetween time window rolled ++ trace) time := by
  intro rolled
  have limited := meter.limited limit_ne duration_ne
  have rolled_eq : rolled = window.restartIfExpired (UInt32.ofNat time) := by
    simp [rolled, RateWindow.roll, limited]
  rcases meter.started with ⟨start, past, reading, resets⟩
  by_cases expired : UInt32.ofNat time - window.windowStartMs ≥ window.windowDurationMs
  · have restarted : rolled =
        { window with windowStartMs := UInt32.ofNat time, consumed := 0 } := by
      rw [rolled_eq, RateWindow.restartIfExpired, if_pos expired]
    have elapsed := UInt32.le_iff_toNat_le.mp expired
    rw [reading, toNat_elapsed (past.trans after), meter.duration_eq] at elapsed
    have apart : start + duration.toNat ≤ time := by
      have wrapped := Nat.mod_le (time - start) 4294967296
      have ordered := past.trans after
      omega
    have moved : UInt32.ofNat time ≠ window.windowStartMs :=
      RateWindow.ne_start (meter.duration_eq ▸ duration_ne) expired
    have entries : resetBetween time window rolled = [.reset time] := by
      rw [restarted, resetBetween, if_pos moved]
    rw [entries, restarted]
    refine ⟨meter.limit_eq, meter.duration_eq, ?_, rfl, ?_, time, le_refl time, rfl, ?_⟩
    · apply meter.metered.reset
      · exact fun entry listed => (meter.ordered entry listed).trans after
      · intro entry listed isReset
        have before := resets entry listed isReset
        omega
    · intro entry listed
      rcases List.mem_cons.mp listed with rfl | older
      · exact le_refl time
      · exact (meter.ordered entry older).trans after
    · intro entry listed isReset
      rcases List.mem_cons.mp listed with rfl | older
      · exact le_refl time
      · exact (meter.ordered entry older).trans after
  · have kept : rolled = window := by
      rw [rolled_eq, RateWindow.restartIfExpired, if_neg expired]
    rw [kept]
    simpa [resetBetween] using meter.later after

theorem rolledTo (meter : FixedMeter limit duration window trace now) (limit_ne : limit ≠ 0)
    (duration_ne : duration ≠ 0) {time : Nat} (after : now ≤ time) {window' : RateWindow}
    (rolled : window.RolledTo .fixedWindow (UInt32.ofNat time) window') :
    FixedMeter limit duration window' (resetBetween time window window' ++ trace) time := by
  rcases rolled with rfl | rfl
  · simpa [resetBetween] using meter.later after
  · exact meter.roll limit_ne duration_ne after

theorem commit_start (limited : window.unlimited = false) (nowMs amount : UInt32) :
    (window.commit .fixedWindow nowMs amount).windowStartMs =
      (window.roll .fixedWindow nowMs).windowStartMs := by
  simp only [RateWindow.commit, RateWindow.roll, limited, Bool.false_eq_true, if_false]
  split <;> rfl

theorem commit_duration {nowMs amount : UInt32} (limited : window.unlimited = false) :
    (window.commit .fixedWindow nowMs amount).windowDurationMs = window.windowDurationMs := by
  simp only [RateWindow.commit, limited, Bool.false_eq_true, if_false]
  split <;> simp

/-- What an earlier roll has admitted is committed at a later reading. -/
theorem commit (meter : FixedMeter limit duration window trace now) (limit_ne : limit ≠ 0)
    (duration_ne : duration ≠ 0) {time : Nat} (after : now ≤ time) {amount : UInt16}
    (fits : window.consumed.toNat + amount.toNat ≤ limit.toNat) :
    let committed := window.commit .fixedWindow (UInt32.ofNat time) amount.toUInt32
    FixedMeter limit duration committed
      (.grant time amount.toNat :: (resetBetween time window committed ++ trace)) time := by
  intro committed
  have limited := meter.limited limit_ne duration_ne
  have rolled := meter.roll limit_ne duration_ne after
  have consumed := RateWindow.commit_consumed limited (UInt32.ofNat time) amount.toUInt32
  have lower := window.roll_consumed_le (UInt32.ofNat time)
  have limit_lt := limit.toNat_lt
  have exact_consumed : committed.consumed.toNat =
      (window.roll .fixedWindow (UInt32.ofNat time)).consumed.toNat + amount.toNat := by
    rw [consumed, UInt16.toNat_toUInt32]
    omega
  have start_eq := commit_start limited (UInt32.ofNat time) amount.toUInt32
  have entries : resetBetween time window committed =
      resetBetween time window (window.roll .fixedWindow (UInt32.ofNat time)) := by
    rw [resetBetween, resetBetween, start_eq]
  rw [entries]
  refine ⟨?_, ?_, ?_, ?_, ?_, ?_⟩
  · rw [RateWindow.commit_limit, meter.limit_eq]
  · rw [commit_duration limited, meter.duration_eq]
  · apply rolled.metered.grant rolled.ordered
    rw [← rolled.consumed_eq]
    omega
  · rw [exact_consumed, rolled.consumed_eq, current, Nat.add_comm]
  · intro entry listed
    rcases List.mem_cons.mp listed with rfl | older
    · exact le_refl time
    · exact rolled.ordered entry older
  · rcases rolled.started with ⟨start, past, reading, resets⟩
    refine ⟨start, past, start_eq.trans reading, ?_⟩
    intro entry listed isReset
    rcases List.mem_cons.mp listed with rfl | older
    · simp [Entry.isReset] at isReset
    · exact resets entry older isReset

/-- One call keeps the trace metered. -/
theorem step {B : Build} (fixed : B.rateImpl = .fixedWindow) {clock : Clock}
    (meter : FixedMeter limit duration window trace now) (limit_ne : limit ≠ 0)
    (duration_ne : duration ≠ 0) (after : now ≤ clock.now) {entries : List Entry}
    {window' : RateWindow} (step : WindowStep B clock window entries window') :
    FixedMeter limit duration window' (entries ++ trace) clock.lease := by
  cases step with
  | rolled rolled =>
      rw [fixed] at rolled
      exact (meter.rolledTo limit_ne duration_ne after rolled).later
        ((clock.now_le_commit 0).trans (clock.lease_le 0))
  | @granted checked _ i amount admits rolled committed =>
      rw [fixed] at admits rolled committed
      subst rolled committed
      have decided := meter.roll limit_ne duration_ne after
      have fits : (window.roll .fixedWindow (UInt32.ofNat clock.now)).consumed.toNat +
          amount.toNat ≤ limit.toNat := by
        rcases admits with unlimited | fits
        · simp [meter.limited limit_ne duration_ne] at unlimited
        · rw [meter.limit_eq] at fits
          simpa using fits
      have granted := decided.commit limit_ne duration_ne (clock.now_le_commit i) fits
      rw [List.cons_append, List.append_assoc]
      exact granted.later (clock.lease_le i)

end FixedMeter

/-! ## Every run -/

/-- In the fixed-window build, from the `set_rate_limit` that sets a window of a resource on and
as long as it is not set again, under a real clock that is read modulo 2^32: between two resets
of the window at most its limit is granted, and at most twice its limit in any half-open interval
of real time as long as the window. -/
theorem fixed_window_bounds_grants {B : Build} (fixed : B.rateImpl = .fixedWindow)
    {budget : Budget} (reachable : Reachable B budget) {set : TimedEvent} {res : ResourceId}
    {window limit : UInt32} (call : set.event.call = .setRateLimit res window limit)
    (accepted : ((timedMachine B).reply budget set).status = .ok) (limit_ne : limit ≠ 0)
    {events : List TimedEvent}
    (undisturbed : (meterMachine B res window.toUInt8.toNat).Along (Undisturbed B res window)
      ((timedMachine B).next budget set, ⟨[], set.clock.now⟩) events) :
    let trace := ((meterMachine B res window.toUInt8.toNat).run
      ((timedMachine B).next budget set, ⟨[], set.clock.now⟩) events).2.trace
    (∀ newer epoch older, trace = newer ++ epoch ++ older →
        (∀ entry ∈ epoch, entry.isReset = false) → total epoch ≤ limit.toNat) ∧
      ∀ since, total (interval since (since + (windowDurationMs window).toNat) trace) ≤
        2 * limit.toNat := by
  intro trace
  have duration_ne := (configured_of_accepted reachable.fourWindows call accepted).2.1
  have opened : FixedMeter limit (windowDurationMs window)
      (configuredWindow B.rateImpl set.event.hal window limit) [] set.clock.now := by
    rw [fixed]
    exact FixedMeter.configured set.now_eq
  have metered : Metered limit.toNat (windowDurationMs window).toNat trace :=
    (meter_invariant reachable call accepted opened
      (fun _ _ _ _ _ _ held later step => held.step fixed limit_ne duration_ne later step)
      undisturbed).metered
  constructor
  · intro newer epoch older split unbroken
    rw [split] at metered
    exact metered.total_epoch_le unbroken
  · exact metered.total_interval_le

/-- A CONSUMABLE resource, and an op that needs two units of it. -/
def oneConsumer : List Event :=
  [.permissive (.setResource 0 100 1), .permissive (.registerOp (some (.permissive 0))),
    .permissive (.opSetNeed 0 0 2)]

/-- The op is entered twice within a second, and once more after it. -/
def threeEnters : List TimedEvent :=
  [.at 700 (.enter 0 true), .at 900 (.enter 0 true), .at 1600 (.enter 0 true)]

theorem fixed_window_bounds_threeEnters :
    let set : TimedEvent := .at 500 (.setRateLimit 0 0 3)
    let start := (timedMachine Build.full).next
      ((machine Build.full).run .sample oneConsumer) set
    let trace := ((meterMachine Build.full 0 0).run (start, ⟨[], 500⟩) threeEnters).2.trace
    total (interval 700 1700 trace) ≤ 2 * 3 := by
  intro set start trace
  have accepted : ((timedMachine Build.full).reply
      ((machine Build.full).run .sample oneConsumer) set).status = .ok := by decide +kernel
  have undisturbed : (meterMachine Build.full 0 0).Along (Undisturbed Build.full 0 0)
      (start, ⟨[], 500⟩) threeEnters := by
    refine ⟨⟨?_, nofun⟩, ⟨?_, nofun⟩, ⟨?_, nofun⟩, trivial⟩
    all_goals decide +kernel
  have reachable := (Reachable.of_started started_sample).run oneConsumer
  have call : set.event.call = .setRateLimit 0 0 3 := rfl
  exact (fixed_window_bounds_grants rfl reachable call accepted (by decide) undisturbed).2 700

end Loxbudget
