import Loxbudget.Decision.Windows
import Loxbudget.Lib.Metering

/-!
# Rate windows under a real clock

The clock of the HAL shows real time modulo 2^32. A timed event carries, besides the
readings that the call is given, the real times they were taken at, in the order in
which the code takes them.

The meter of a window keeps, beside the instance, what the window has granted and when
it moved its start; the instance never reads it. What one call can do to a window is
stated once (`WindowStep`), for both rate implementations.
-/

namespace Loxbudget

open Metering (Entry)

/-! ## Timed calls -/

/-- The real times, in milliseconds, of the clock readings of one call. -/
structure Clock where
  now : Nat
  audit : Nat
  commit : Nat → Nat
  lease : Nat
  audit_le : now ≤ audit
  commit_le : audit ≤ commit 0
  commit_mono : Monotone commit
  lease_le : ∀ i, commit i ≤ lease

/-- A call whose HAL shows the real clock modulo 2^32. -/
structure TimedEvent where
  event : Event
  clock : Clock
  now_eq : event.hal.nowMs = UInt32.ofNat clock.now
  audit_eq : event.hal.auditNowMs = UInt32.ofNat clock.audit
  commit_eq : ∀ i, event.hal.commitNowMs i = UInt32.ofNat (clock.commit i)
  lease_eq : event.hal.leaseNowMs = UInt32.ofNat clock.lease

theorem Clock.now_le_commit (clock : Clock) (i : Nat) : clock.now ≤ clock.commit i :=
  clock.audit_le.trans (clock.commit_le.trans (clock.commit_mono (Nat.zero_le i)))

/-- The instance as a machine over timed calls. -/
def timedMachine (B : Build) : Machine Budget TimedEvent Reply where
  exec := fun budget timed => exec B budget timed.event

/-- A clock that stands still during a call. -/
def Clock.at (time : Nat) : Clock where
  now := time
  audit := time
  commit := fun _ => time
  lease := time
  audit_le := le_refl time
  commit_le := le_refl time
  commit_mono := monotone_const
  lease_le := fun _ => le_refl time

/-- A call made at a moment, under preconditions that all hold. -/
def TimedEvent.at (time : Nat) (call : Call) : TimedEvent where
  event := ⟨Hal.permissive (UInt32.ofNat time), call⟩
  clock := .at time
  now_eq := rfl
  audit_eq := rfl
  commit_eq := fun _ => rfl
  lease_eq := rfl

/-! ## The meter of a window -/

/-- A window of a resource, by its index. -/
def Budget.window (budget : Budget) (res : ResourceId) (index : Nat) : RateWindow :=
  (budget.rateState res).windows.getD index .zero

instance (B : Build) (budget : Budget) (profile : OpProfile) (res : ResourceId) :
    Decidable (RateLimited B budget profile res) :=
  inferInstanceAs (Decidable (_ ∧ _ ∧ _))

/-- What an `enter` that succeeds grants on a resource under its rate limit: the need of an op
without `LOXBUDGET_OPF_BYPASS_RATE_LIMIT`, while the resource is CONSUMABLE. -/
def Budget.rateGrant (B : Build) (budget : Budget) (op : OpId) (res : ResourceId) : UInt16 :=
  if RateLimited B budget (budget.ops op) res then needOf (budget.needs op) res else 0

/-- The history of a window: its trace, and the time of the last clock reading. -/
structure Meter where
  trace : List Entry
  now : Nat

/-- A window that has moved its start has been reset. -/
def resetBetween (time : Nat) (before after : RateWindow) : List Entry :=
  if after.windowStartMs ≠ before.windowStartMs then [.reset time] else []

/-- What one call adds to the trace of a window. An `enter` looks at the window in its decision,
and once more when it commits. -/
def windowEntries (B : Build) (res : ResourceId) (index : Nat) (before : Budget)
    (timed : TimedEvent) (reply : Reply) (after : Budget) : List Entry :=
  match timed.event.call with
  | .check _ _ =>
      resetBetween timed.clock.now (before.window res index) (after.window res index)
  | .enter op _ =>
      let checked := (check B timed.event.hal before op true).2.2
      let commitAt := timed.clock.commit (needIndex (before.needs op) res)
      let decided :=
        resetBetween timed.clock.now (before.window res index) (checked.window res index)
      if reply.status = .ok ∧ before.rateGrant B op res ≠ 0 then
        .grant commitAt (before.rateGrant B op res).toNat ::
          (resetBetween commitAt (checked.window res index) (after.window res index) ++ decided)
      else decided
  | _ => []

/-- The instance with the meter of one window. -/
def meterMachine (B : Build) (res : ResourceId) (index : Nat) :
    Machine (Budget × Meter) TimedEvent Reply :=
  (timedMachine B).observe fun meter before timed reply after =>
    ⟨windowEntries B res index before timed reply after ++ meter.trace, timed.clock.lease⟩

/-- The meter does not influence the instance. -/
theorem meterMachine_run (B : Build) (res : ResourceId) (index : Nat) (state : Budget × Meter)
    (events : List TimedEvent) :
    ((meterMachine B res index).run state events).1 = (timedMachine B).run state.1 events :=
  (timedMachine B).observe_run_fst _ state

/-- The clock goes on from its last reading, and the window is not set again. -/
def Undisturbed (B : Build) (res : ResourceId) (window : UInt32) (state : Budget × Meter)
    (timed : TimedEvent) : Prop :=
  state.2.now ≤ timed.clock.now ∧
    ∀ limit, timed.event.call = .setRateLimit res window limit →
      ((timedMachine B).reply state.1 timed).status ≠ .ok

/-! ## What one call does to a window -/

variable {B : Build} {budget : Budget} {res : ResourceId} {index : Nat}

theorem RateState.RolledTo.getD {impl : RateImpl} {nowMs : UInt32} {before after : RateState}
    (rolled : before.RolledTo impl nowMs after) (index : Nat) :
    (before.windows.getD index .zero).RolledTo impl nowMs (after.windows.getD index .zero) := by
  have windows := rolled.windows
  generalize before.windows = earlier at windows ⊢
  generalize after.windows = later at windows ⊢
  induction windows generalizing index with
  | nil => exact Or.inl rfl
  | cons head _ ih =>
      cases index with
      | zero => exact head
      | succ index => exact ih index

theorem Booked.window {nowMs : UInt32} {after : Budget} (booked : Booked B nowMs budget after)
    (res : ResourceId) (index : Nat) :
    (budget.window res index).RolledTo B.rateImpl nowMs (after.window res index) :=
  (booked.rolled res).getD index

/-- Every resource has its four windows. -/
def Budget.FourWindows (budget : Budget) : Prop :=
  ∀ res, (budget.rateState res).windows.length = 4

theorem Budget.FourWindows.booked {nowMs : UInt32} {after : Budget} (four : budget.FourWindows)
    (booked : Booked B nowMs budget after) : after.FourWindows := by
  intro res
  rw [← (booked.rolled res).windows.length_eq]
  exact four res

theorem Budget.FourWindows.quiet {nowMs : UInt32} {after : Budget} (four : budget.FourWindows)
    (effect : QuietEffect B nowMs budget after) : after.FourWindows := by
  cases effect with
  | rateLimit res index window fresh =>
      intro other
      by_cases same : other = res
      · subst same
        simpa using four other
      · simpa [Function.update_of_ne same] using four other
  | lifetimeLimit res lifetimeMax =>
      intro other
      by_cases same : other = res
      · subst same
        simpa using four other
      · simpa [Function.update_of_ne same] using four other
  | booked booked => exact four.booked booked
  | _ => exact four

theorem Budget.FourWindows.acquired (four : budget.FourWindows) (wellFormed : WellFormed B budget)
    (hal : Hal) (op : OpId) (slotId : UInt8) : (budget.acquired B hal op slotId).FourWindows := by
  intro res
  have committed := commitNeeds_rateState B hal (budget.ops op) (wellFormed.needs_distinct op) 0
    budget res
  change ((commitNeeds B hal (budget.ops op) 0 (budget.needs op) budget).rateState
    res).windows.length = 4
  by_cases counted : RateLimited B budget (budget.ops op) res ∧ needOf (budget.needs op) res ≠ 0
  · rw [committed.1 counted]
    simpa [RateState.commit] using four res
  · rw [committed.2 counted]
    exact four res

theorem Reachable.fourWindows (reachable : Reachable B budget) : budget.FourWindows := by
  have initially : ∀ start, Started B start → WellFormed B start ∧ start.FourWindows := by
    intro start started
    refine ⟨(Reachable.of_started started).wellFormed, fun res => ?_⟩
    rw [started.fresh.rateState]
    rfl
  have preserved : ∀ budget event, WellFormed B budget ∧ budget.FourWindows →
      WellFormed B ((machine B).next budget event) ∧
        ((machine B).next budget event).FourWindows := by
    rintro budget event ⟨wellFormed, four⟩
    refine ⟨wellFormed.next event, ?_⟩
    rcases next_cases B budget event with
      effect | ⟨op, middle, slotId, booked, -, -, after⟩ | ⟨lease, -, after⟩
    · exact four.quiet effect
    · rw [after]
      exact (four.booked booked).acquired (wellFormed.booked booked) event.hal op slotId
    · rw [after]
      exact four
  exact (reachable.induction initially preserved).2

/-- What one call does to a window that it does not set: it rolls the window or leaves it alone,
or an `enter` rolls it in its decision and commits what the rolled window has admitted. -/
inductive WindowStep (B : Build) (clock : Clock) (before : RateWindow) :
    List Entry → RateWindow → Prop where
  | rolled {after : RateWindow}
      (rolled : before.RolledTo B.rateImpl (UInt32.ofNat clock.now) after) :
      WindowStep B clock before (resetBetween clock.now before after) after
  | granted {checked after : RateWindow} (i : Nat) (amount : UInt16)
      (admits : before.Admits B.rateImpl (UInt32.ofNat clock.now) amount.toUInt32)
      (rolled : checked = before.roll B.rateImpl (UInt32.ofNat clock.now))
      (committed : after = checked.commit B.rateImpl (UInt32.ofNat (clock.commit i))
        amount.toUInt32) :
      WindowStep B clock before
        (.grant (clock.commit i) amount.toNat ::
          (resetBetween (clock.commit i) checked after ++ resetBetween clock.now before checked))
        after

theorem WindowStep.unchanged (B : Build) (clock : Clock) (window : RateWindow) :
    WindowStep B clock window [] window := by
  have step : WindowStep B clock window (resetBetween clock.now window window) window :=
    .rolled (Or.inl rfl)
  simpa [resetBetween] using step

theorem getD_map_of_lt {windows : List RateWindow} (f : RateWindow → RateWindow)
    (inRange : index < windows.length) :
    (windows.map f).getD index .zero = f (windows.getD index .zero) := by
  simp [inRange]

theorem Budget.rateGrant_ne_zero {op : OpId} :
    budget.rateGrant B op res ≠ 0 ↔
      RateLimited B budget (budget.ops op) res ∧ needOf (budget.needs op) res ≠ 0 := by
  simp only [Budget.rateGrant]
  split
  · rename_i limited
    simp [limited]
  · rename_i unlimited
    simp [unlimited]

theorem acquired_window (wellFormed : WellFormed B budget) (four : budget.FourWindows)
    (res : ResourceId) (index_lt : index < 4) (hal : Hal) (op : OpId) (slotId : UInt8) :
    (budget.acquired B hal op slotId).window res index =
      if budget.rateGrant B op res ≠ 0 then
        (budget.window res index).commit B.rateImpl
          (hal.commitNowMs (needIndex (budget.needs op) res))
          (budget.rateGrant B op res).toUInt32
      else budget.window res index := by
  have committed := commitNeeds_rateState B hal (budget.ops op) (wellFormed.needs_distinct op) 0
    budget res
  rw [Nat.zero_add] at committed
  change ((commitNeeds B hal (budget.ops op) 0 (budget.needs op) budget).rateState
    res).windows.getD index .zero = _
  split
  · rename_i counted
    have both := Budget.rateGrant_ne_zero.mp counted
    have amount : budget.rateGrant B op res = needOf (budget.needs op) res := by
      simp [Budget.rateGrant, both.1]
    rw [committed.1 both, amount]
    have inRange : index < (budget.rateState res).windows.length := by
      rw [four res]
      exact index_lt
    simp only [RateState.commit]
    rw [getD_map_of_lt _ inRange]
    rfl
  · rename_i free
    rw [committed.2 fun both => free (Budget.rateGrant_ne_zero.mpr both)]
    rfl

theorem Booked.rateGrant {nowMs : UInt32} {after : Budget} (booked : Booked B nowMs budget after)
    (op : OpId) : after.rateGrant B op res = budget.rateGrant B op res := by
  have limited_iff : RateLimited B after (after.ops op) res ↔
      RateLimited B budget (budget.ops op) res := by
    simp only [RateLimited, booked.resources, booked.ops]
  simp only [Budget.rateGrant, limited_iff, booked.needs]

theorem windowStep_enter (wellFormed : WellFormed B budget) (sound : budget.Sound)
    (four : budget.FourWindows) (index_lt : index < 4) {timed : TimedEvent} {op : OpId}
    {out : Bool} (call : timed.event.call = .enter op out) :
    WindowStep B timed.clock (budget.window res index)
      (windowEntries B res index budget timed ((timedMachine B).reply budget timed)
        ((timedMachine B).next budget timed))
      (((timedMachine B).next budget timed).window res index) := by
  rcases timed with ⟨⟨hal, made⟩, clock, now_eq, audit_eq, commit_eq, lease_eq⟩
  simp only at call now_eq commit_eq ⊢
  subst call
  change WindowStep B clock _
    (windowEntries B res index budget _ ⟨(enter B hal budget op out).1.1, none,
      (enter B hal budget op out).1.2, none, none⟩ (enter B hal budget op out).2)
    ((enter B hal budget op out).2.window res index)
  have booked := check_booked B hal budget op true
  have rolled := booked.window res index
  rw [now_eq] at rolled
  rcases enter_checked B hal budget op out with ⟨failed, after⟩ | ⟨slotId, begun, -, entered⟩
  · rw [after]
    simp only [windowEntries, failed, false_and, if_false]
    exact .rolled rolled
  · have acquired := acquired_window (wellFormed.booked booked) (four.booked booked) res
      index_lt hal op slotId
    rw [booked.rateGrant, booked.needs] at acquired
    simp only [windowEntries, entered, true_and]
    split
    · rename_i granted
      have both := Budget.rateGrant_ne_zero.mp granted
      rcases rolled_of_begun wellFormed sound begun both.1 both.2 with ⟨windows, admits⟩
      have inRange : index < (budget.rateState res).windows.length := by
        rw [four res]
        exact index_lt
      have amount : budget.rateGrant B op res = needOf (budget.needs op) res := by
        simp [Budget.rateGrant, both.1]
      have checked_eq : ((check B hal budget op true).2.2.window res index) =
          (budget.window res index).roll B.rateImpl (UInt32.ofNat clock.now) := by
        rw [Budget.window, windows, getD_map_of_lt _ inRange, now_eq]
        rfl
      have admitted := admits (budget.window res index) (by
        rw [Budget.window, List.getD_eq_getElem?_getD, List.getElem?_eq_getElem inRange]
        exact List.getElem_mem inRange)
      rw [now_eq, ← amount] at admitted
      rw [if_pos granted, commit_eq] at acquired
      exact .granted _ _ admitted checked_eq acquired
    · rename_i free
      rw [if_neg free] at acquired
      rw [acquired]
      exact .rolled rolled

theorem toNat_index {window : UInt32} (window_le : window ≤ 3) :
    window.toUInt8.toNat = window.toNat ∧ window.toNat < 4 := by
  have small := UInt32.le_iff_toNat_le.mp window_le
  simp only [UInt32.reduceToNat] at small
  rw [UInt32.toNat_toUInt8]
  omega

/-- Only the window that the call names is set. -/
theorem setRateLimit_window_ne (hal : Hal) (res' : ResourceId) (window limit : UInt32) {index : Nat}
    (other : res' = res → window.toUInt8.toNat = index →
      (setRateLimit B hal budget res' window limit).1 ≠ .ok) :
    (setRateLimit B hal budget res' window limit).2.window res index = budget.window res index := by
  rcases setRateLimit_cases B hal budget res' window limit with ⟨-, unchanged⟩ | ⟨-, -, stored⟩
  · rw [unchanged]
  · rw [stored] at other ⊢
    by_cases same : res' = res
    · subst same
      have index_ne : window.toUInt8.toNat ≠ index := fun equal => other rfl equal rfl
      simp only [Budget.window, Function.update_self, List.getD_eq_getElem?_getD,
        List.getElem?_set_ne index_ne]
    · simp only [Budget.window, Function.update_of_ne (Ne.symm same)]

theorem setRateLimit_window {window : UInt32} (window_le : window ≤ 3) (hal : Hal)
    (res' : ResourceId) (window' limit : UInt32)
    (other : res' = res → window' = window →
      (setRateLimit B hal budget res' window' limit).1 ≠ .ok) :
    (setRateLimit B hal budget res' window' limit).2.window res window.toUInt8.toNat =
      budget.window res window.toUInt8.toNat := by
  refine setRateLimit_window_ne hal res' window' limit fun same equal => ?_
  rcases setRateLimit_cases B hal budget res' window' limit with
    ⟨refused, -⟩ | ⟨window'_le, -, -⟩
  · exact refused
  · rw [(toNat_index window_le).1, (toNat_index window'_le).1] at equal
    exact other same (UInt32.toNat_inj.mp equal)

theorem setRateLimit_ok {hal : Hal} {window limit : UInt32} (four : budget.FourWindows)
    (accepted : (setRateLimit B hal budget res window limit).1 = .ok) :
    window ≤ 3 ∧ windowDurationMs window ≠ 0 ∧
      (setRateLimit B hal budget res window limit).2.window res window.toUInt8.toNat =
        configuredWindow B.rateImpl hal window limit := by
  rcases setRateLimit_cases B hal budget res window limit with
    ⟨refused, -⟩ | ⟨window_le, duration_ne, stored⟩
  · exact absurd accepted refused
  · have inRange : window.toUInt8.toNat < (budget.rateState res).windows.length := by
      rw [four res, (toNat_index window_le).1]
      exact (toNat_index window_le).2
    refine ⟨window_le, duration_ne, ?_⟩
    rw [stored]
    simp only [Budget.window, Function.update_self, List.getD_eq_getElem?_getD,
      List.getElem?_set_self inRange, Option.getD_some]

/-- Calls other than `check`, `enter` and `set_rate_limit` leave every window alone. -/
theorem next_window_frame (B : Build) (budget : Budget) (event : Event) (res : ResourceId)
    (index : Nat)
    (apart : match event.call with
      | .check _ _ | .enter _ _ | .setRateLimit _ _ _ => False
      | _ => True) :
    ((machine B).next budget event).window res index = budget.window res index := by
  by_cases quiet : event.call.isQuiet = true
  · have writes := next_writes B budget event quiet
    generalize (machine B).next budget event = after at writes ⊢
    rcases event with ⟨hal, call⟩
    cases writes with
    | check => exact apart.elim
    | setRateLimit => exact apart.elim
    | setLifetimeLimit other lifetimeMax rateState windows =>
        simp only [Budget.window, windows]
    | _ => rfl
  · rcases event with ⟨hal, call⟩
    cases call with
    | enter op out => exact apart.elim
    | leave lease =>
        rcases leave_frame budget lease with ⟨resources, leaseSlots, left⟩
        rw [next_leave, left]
        rfl
    | _ => exact absurd rfl quiet

/-- Every call that does not set the window makes one of the steps of `WindowStep`. -/
theorem windowStep_next {meter : Meter} {window : UInt32} {timed : TimedEvent}
    (reachable : Reachable B budget) (window_le : window ≤ 3)
    (undisturbed : Undisturbed B res window (budget, meter) timed) :
    WindowStep B timed.clock (budget.window res window.toUInt8.toNat)
      (windowEntries B res window.toUInt8.toNat budget timed
        ((timedMachine B).reply budget timed) ((timedMachine B).next budget timed))
      (((timedMachine B).next budget timed).window res window.toUInt8.toNat) := by
  have still : ∀ {entries : List Entry} {after : Budget}, entries = [] →
      after.window res window.toUInt8.toNat = budget.window res window.toUInt8.toNat →
      WindowStep B timed.clock (budget.window res window.toUInt8.toNat) entries
        (after.window res window.toUInt8.toNat) := by
    intro entries after none same
    rw [none, same]
    exact WindowStep.unchanged B timed.clock _
  have set := undisturbed.2
  have frame := next_window_frame B budget timed.event res window.toUInt8.toNat
  rcases made : timed.event.call with _ | _
  all_goals rw [made] at frame
  case check op out =>
    have rolled := (check_booked B timed.event.hal budget op out).window res window.toUInt8.toNat
    rw [timed.now_eq] at rolled
    have after : (timedMachine B).next budget timed =
        (check B timed.event.hal budget op out).2.2 := by
      simp [timedMachine, Machine.next, exec, made]
    simp only [windowEntries, made, after]
    exact .rolled rolled
  case enter op out =>
    have index_lt : window.toUInt8.toNat < 4 := by
      rw [(toNat_index window_le).1]
      exact (toNat_index window_le).2
    exact windowStep_enter reachable.wellFormed reachable.sound reachable.fourWindows index_lt
      made
  case setRateLimit res' window' limit =>
    apply still
    · simp only [windowEntries, made]
    · by_cases enabled : B.enableRateWindows = true
      · have after : (timedMachine B).next budget timed =
            (setRateLimit B timed.event.hal budget res' window' limit).2 := by
          simp [timedMachine, Machine.next, exec, made, enabled]
        have status : ((timedMachine B).reply budget timed).status =
            (setRateLimit B timed.event.hal budget res' window' limit).1 := by
          simp [timedMachine, Machine.reply, exec, made, enabled, Reply.ofStatus]
        rw [after]
        apply setRateLimit_window window_le
        rintro rfl rfl
        rw [← status]
        exact set limit made
      · have after : (timedMachine B).next budget timed = budget := by
          simp [timedMachine, Machine.next, exec, made, enabled]
        rw [after]
  all_goals
    apply still
    · simp only [windowEntries, made]
    · exact frame trivial

/-! ## What one call does to a window, whatever its clock readings -/

/-- An accepted `set_rate_limit` of the window. -/
def SetsWindow (B : Build) (res : ResourceId) (window : UInt32) (budget : Budget)
    (event : Event) : Prop :=
  ∃ limit, event.call = .setRateLimit res window limit ∧
    ((machine B).reply budget event).status = .ok

theorem next_setRateLimit (enabled : B.enableRateWindows = true) (budget : Budget) (hal : Hal)
    (res : ResourceId) (window limit : UInt32) :
    ((machine B).reply budget ⟨hal, .setRateLimit res window limit⟩).status =
        (setRateLimit B hal budget res window limit).1 ∧
      (machine B).next budget ⟨hal, .setRateLimit res window limit⟩ =
        (setRateLimit B hal budget res window limit).2 := by
  constructor
  · simp [Machine.reply, machine, exec, enabled, Reply.ofStatus]
  · simp [Machine.next, machine, exec, enabled]

/-- A call that does not set a window rolls it or leaves it alone, and may then commit an
amount. -/
theorem next_window_cases (wellFormed : WellFormed B budget) (four : budget.FourWindows)
    {window : UInt32} (window_le : window ≤ 3) {event : Event}
    (kept : ¬SetsWindow B res window budget event) :
    ∃ checked, (budget.window res window.toUInt8.toNat).RolledTo B.rateImpl event.hal.nowMs
        checked ∧
      (((machine B).next budget event).window res window.toUInt8.toNat = checked ∨
        ∃ nowMs amount, ((machine B).next budget event).window res window.toUInt8.toNat =
          checked.commit B.rateImpl nowMs amount) := by
  have index_lt : window.toUInt8.toNat < 4 := by
    rw [(toNat_index window_le).1]
    exact (toNat_index window_le).2
  have frame := next_window_frame B budget event res window.toUInt8.toNat
  rcases event with ⟨hal, call⟩
  cases call with
  | check op out =>
      have booked := check_booked B hal budget op out
      exact ⟨_, booked.window res _, Or.inl rfl⟩
  | enter op out =>
      rw [next_enter]
      rcases enter_cases B hal budget op out with
        ⟨booked, -⟩ | ⟨middle, slotId, booked, -, -, entered⟩
      · exact ⟨_, booked.window res _, Or.inl rfl⟩
      · rw [entered]
        refine ⟨_, booked.window res _, ?_⟩
        have acquired := acquired_window (wellFormed.booked booked) (four.booked booked) res
          index_lt hal op slotId
        split at acquired
        · exact Or.inr ⟨_, _, acquired⟩
        · exact Or.inl acquired
  | setRateLimit res' window' limit =>
      refine ⟨_, Or.inl rfl, Or.inl ?_⟩
      by_cases enabled : B.enableRateWindows = true
      · rcases next_setRateLimit enabled budget hal res' window' limit with ⟨status, after⟩
        rw [after]
        apply setRateLimit_window window_le
        rintro rfl rfl accepted
        exact kept ⟨limit, rfl, status.trans accepted⟩
      · have after : (machine B).next budget ⟨hal, .setRateLimit res' window' limit⟩ = budget := by
          simp only [Machine.next, machine, exec, if_neg enabled]
        rw [after]
  | _ => exact ⟨_, Or.inl rfl, Or.inl (frame trivial)⟩

/-- What an accepted `set_rate_limit` leaves in its window. -/
theorem next_window_set (four : budget.FourWindows) {hal : Hal} {window limit : UInt32}
    (accepted : ((machine B).reply budget ⟨hal, .setRateLimit res window limit⟩).status = .ok) :
    window ≤ 3 ∧ windowDurationMs window ≠ 0 ∧
      ((machine B).next budget ⟨hal, .setRateLimit res window limit⟩).window res
        window.toUInt8.toNat = configuredWindow B.rateImpl hal window limit := by
  by_cases enabled : B.enableRateWindows = true
  · rcases next_setRateLimit enabled budget hal res window limit with ⟨status, after⟩
    rw [status] at accepted
    rw [after]
    exact setRateLimit_ok four accepted
  · simp [Machine.reply, machine, exec, enabled, Reply.ofStatus] at accepted

/-- The invariant rule for one window: what holds of a cleared window and of one that has just been
set, and is kept by rolls and commits, holds of the window in every reachable state. -/
theorem Reachable.window_invariant {holds : RateWindow → Prop} (cleared : holds .zero)
    (set : ∀ hal window limit, holds (configuredWindow B.rateImpl hal window limit))
    (roll : ∀ window nowMs, holds window → holds (window.roll B.rateImpl nowMs))
    (commit : ∀ window nowMs amount, holds window →
      holds (window.commit B.rateImpl nowMs amount))
    (reachable : Reachable B budget) (res : ResourceId) {window : UInt32} (window_le : window ≤ 3) :
    holds (budget.window res window.toUInt8.toNat) := by
  have initially : ∀ start, Started B start →
      Reachable B start ∧ holds (start.window res window.toUInt8.toNat) := by
    intro start started
    refine ⟨Reachable.of_started started, ?_⟩
    have zero : start.window res window.toUInt8.toNat = .zero := by
      rw [Budget.window, started.fresh.rateState, RateState.zero, List.getD_eq_getElem?_getD,
        List.getElem?_replicate]
      split <;> rfl
    rw [zero]
    exact cleared
  have preserved : ∀ budget event,
      Reachable B budget ∧ holds (budget.window res window.toUInt8.toNat) →
      Reachable B ((machine B).next budget event) ∧
        holds (((machine B).next budget event).window res window.toUInt8.toNat) := by
    rintro budget event ⟨reached, held⟩
    refine ⟨reached.run [event], ?_⟩
    by_cases sets : SetsWindow B res window budget event
    · rcases event with ⟨hal, call⟩
      rcases sets with ⟨limit, rfl, accepted⟩
      rw [(next_window_set reached.fourWindows accepted).2.2]
      exact set hal window limit
    · rcases next_window_cases reached.wellFormed reached.fourWindows window_le sets with
        ⟨checked, rolled, after⟩
      have checked_held : holds checked := by
        rcases rolled with rfl | rfl
        · exact held
        · exact roll _ _ held
      rcases after with after | ⟨nowMs, amount, after⟩
      · rw [after]
        exact checked_held
      · rw [after]
        exact commit _ _ _ checked_held
  exact (reachable.induction initially preserved).2

/-! ## Runs -/

/-- An accepted timed `set_rate_limit` sets its window. -/
theorem configured_of_accepted {set : TimedEvent} {window limit : UInt32}
    (four : budget.FourWindows) (call : set.event.call = .setRateLimit res window limit)
    (accepted : ((timedMachine B).reply budget set).status = .ok) :
    window ≤ 3 ∧ windowDurationMs window ≠ 0 ∧
      ((timedMachine B).next budget set).window res window.toUInt8.toNat =
        configuredWindow B.rateImpl set.event.hal window limit := by
  by_cases enabled : B.enableRateWindows = true
  · have status : ((timedMachine B).reply budget set).status =
        (setRateLimit B set.event.hal budget res window limit).1 := by
      simp [timedMachine, Machine.reply, exec, call, enabled, Reply.ofStatus]
    have after : (timedMachine B).next budget set =
        (setRateLimit B set.event.hal budget res window limit).2 := by
      simp [timedMachine, Machine.next, exec, call, enabled]
    rw [status] at accepted
    rw [after]
    exact setRateLimit_ok four accepted
  · simp [timedMachine, Machine.reply, exec, call, enabled, Reply.ofStatus] at accepted

/-- What the accepted `set_rate_limit` establishes, and every step on the window keeps, holds of
the window and its meter after every run that does not set the window again. -/
theorem meter_invariant {holds : RateWindow → List Entry → Nat → Prop} {set : TimedEvent}
    {window limit : UInt32} (reachable : Reachable B budget)
    (call : set.event.call = .setRateLimit res window limit)
    (accepted : ((timedMachine B).reply budget set).status = .ok)
    (opened : holds (configuredWindow B.rateImpl set.event.hal window limit) [] set.clock.now)
    (kept : ∀ clock before after trace now entries, holds before trace now → now ≤ clock.now →
      WindowStep B clock before entries after → holds after (entries ++ trace) clock.lease)
    {events : List TimedEvent}
    (undisturbed : (meterMachine B res window.toUInt8.toNat).Along (Undisturbed B res window)
      ((timedMachine B).next budget set, ⟨[], set.clock.now⟩) events) :
    let final := (meterMachine B res window.toUInt8.toNat).run
      ((timedMachine B).next budget set, ⟨[], set.clock.now⟩) events
    holds (final.1.window res window.toUInt8.toNat) final.2.trace final.2.now := by
  intro final
  rcases configured_of_accepted reachable.fourWindows call accepted with
    ⟨window_le, -, configured⟩
  have initially : Reachable B ((timedMachine B).next budget set) ∧
      holds (((timedMachine B).next budget set).window res window.toUInt8.toNat) []
        set.clock.now := by
    refine ⟨reachable.run [set.event], ?_⟩
    rw [configured]
    exact opened
  have preserved : ∀ (state : Budget × Meter) (timed : TimedEvent),
      Reachable B state.1 ∧ holds (state.1.window res window.toUInt8.toNat) state.2.trace
        state.2.now →
      Undisturbed B res window state timed →
      Reachable B ((meterMachine B res window.toUInt8.toNat).next state timed).1 ∧
        holds (((meterMachine B res window.toUInt8.toNat).next state timed).1.window res
          window.toUInt8.toNat)
          ((meterMachine B res window.toUInt8.toNat).next state timed).2.trace
          ((meterMachine B res window.toUInt8.toNat).next state timed).2.now := by
    rintro ⟨budget, meter⟩ timed ⟨reached, held⟩ quiet
    exact ⟨reached.run [timed.event],
      kept timed.clock _ _ _ _ _ held quiet.1 (windowStep_next reached window_le quiet)⟩
  exact (Machine.run_invariant preserved initially undisturbed).2

end Loxbudget
