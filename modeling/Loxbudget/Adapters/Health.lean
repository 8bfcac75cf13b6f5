import Loxbudget.Invariant.Instance
import Loxbudget.Lib.Emission
import Loxbudget.Model.Adapters

/-!
# The pressure under microhealth

The adapter has one context for all instances. A reading is taken for an instance when the adapter
is attached to it, and whenever the callback runs while no later attachment has taken its place.
For the instance a reading is a call of `set_pressure`. So its pressure depends on these readings
alone, whatever is called on it in between, and higher readings never lower it.
-/

namespace Loxbudget

variable {B : Build} {Instance Port : Type} [DecidableEq Instance]

/-! ## The map -/

/-- Nothing is asked of the order of the thresholds. -/
theorem mhMap_mono (t : PressureThresholds) {pct pct' : UInt16} (le : pct ≤ pct') :
    (mhMap t pct).level ≤ (mhMap t pct').level := by
  have reaches {threshold : UInt16} (reached : pct ≥ threshold) : pct' ≥ threshold :=
    UInt16.le_trans reached le
  simp only [mhMap]
  split
  · rename_i survival
    exact Nat.le_of_eq (by rw [if_pos (reaches survival)])
  split
  · rename_i critical
    rw [if_pos (reaches critical)]
    split
    · decide
    · decide
  split
  · rename_i elevated
    rw [if_pos (reaches elevated)]
    repeat' split
    all_goals decide
  · exact Nat.zero_le _

theorem ofByte?_raw (pressure : Pressure) :
    Pressure.ofByte? pressure.raw.toUInt8 = some pressure := by
  cases pressure <;> rfl

/-- The pressure that a call sets, if its argument is one. -/
def Call.pressureSet : Call → Option Pressure
  | .setPressure raw => Pressure.ofByte? raw.toUInt8
  | _ => none

theorem pressureSet_eq_none {call : Call} (other : ¬∃ raw, call = .setPressure raw) :
    call.pressureSet = none := by
  cases call with
  | setPressure raw => exact absurd ⟨raw, rfl⟩ other
  | _ => rfl

theorem next_pressure {budget : Budget} (initialized : budget.magic = magicInit) (event : Event) :
    ((machine B).next budget event).pressure = event.call.pressureSet.getD budget.pressure := by
  by_cases sets : ∃ raw, event.call = .setPressure raw
  · rcases event with ⟨hal, call⟩
    rcases sets with ⟨raw, rfl⟩
    change (setPressure budget raw).2.pressure = (Pressure.ofByte? raw.toUInt8).getD budget.pressure
    rcases setPressure_cases budget raw with ⟨pressure, -, known, accepted⟩ | ⟨unknown, -, same⟩
    · rw [accepted, known, Option.getD_some]
    · rw [same, unknown initialized, Option.getD_none]
  · rw [pressureSet_eq_none sets, Option.getD_none]
    exact (next_settings B budget event).1.resolve_right sets

/-! ## Readings -/

/-- The call that the callback makes. -/
def Event.ofReading (t : PressureThresholds) (pct : UInt16) : Event :=
  .permissive (.setPressure (mhMap t pct).raw)

namespace HealthEvent

variable (budget : Instance) (ctx : MicrohealthContext Instance Port)

/-- The context after an event: that of the last attachment with three pointers. -/
def context : HealthEvent Instance Port → MicrohealthContext Instance Port
  | .attach (some budget) (some health) (some t) _ => ⟨some budget, some health, t⟩
  | _ => ctx

/-- The reading that an event takes for an instance, with the thresholds. -/
def readingFor (event : HealthEvent Instance Port) : Option (PressureThresholds × UInt16) :=
  match event with
  | .attach (some other) (some health) (some t) pressurePct =>
      if other = budget then some (t, pressurePct health) else none
  | .change pressurePct =>
      match ctx.health with
      | some health => if ctx.budget = some budget then some (ctx.t, pressurePct health) else none
      | none => none
  | _ => none

/-- The public call on an instance that an event amounts to. -/
def callOn (event : HealthEvent Instance Port) : Option Event :=
  match event with
  | .call other event => if other = budget then some event else none
  | _ => (event.readingFor budget ctx).map fun (t, pct) => .ofReading t pct

/-- The pressure that an event sets on an instance. -/
def pressureSet (event : HealthEvent Instance Port) : Option Pressure :=
  match event with
  | .call other event => if other = budget then event.call.pressureSet else none
  | _ => (event.readingFor budget ctx).map fun (t, pct) => mhMap t pct

end HealthEvent

/-- The readings that a step takes for an instance. -/
def readingsFor (budget : Instance) (station : HealthStation Instance Port)
    (event : HealthEvent Instance Port) : List (PressureThresholds × UInt16) :=
  (event.readingFor budget station.microhealth).toList

namespace HealthStation

variable {station : HealthStation Instance Port} {budget : Instance}

theorem mhOnChange_spec (station : HealthStation Instance Port) (budget : Instance)
    (pressurePct : Port → UInt16) :
    (station.mhOnChange pressurePct).microhealth = station.microhealth ∧
      (station.mhOnChange pressurePct).budgets budget =
        (machine B).run (station.budgets budget)
          ((HealthEvent.change pressurePct).callOn budget station.microhealth).toList := by
  rcases station with ⟨budgets, attached, health, t⟩
  rcases attached with _ | other
  · refine ⟨rfl, ?_⟩
    rcases health with _ | health
    · rfl
    · rfl
  rcases health with _ | health
  · exact ⟨rfl, rfl⟩
  refine ⟨rfl, ?_⟩
  by_cases same : other = budget
  · subst same
    have called : (HealthEvent.change pressurePct).callOn other ⟨some other, some health, t⟩ =
        some (.ofReading t (pressurePct health)) := by
      simp [HealthEvent.callOn, HealthEvent.readingFor]
    rw [called]
    exact Function.update_self _ _ _
  · have called : (HealthEvent.change pressurePct).callOn budget ⟨some other, some health, t⟩ =
        none := by
      simp [HealthEvent.callOn, HealthEvent.readingFor, same]
    rw [called]
    exact Function.update_of_ne (Ne.symm same) _ _

/-- An event does to an instance what its call does, and to the context what the source says. -/
theorem next_spec (station : HealthStation Instance Port) (budget : Instance)
    (event : HealthEvent Instance Port) :
    ((healthMachine B Instance Port).next station event).microhealth =
        event.context station.microhealth ∧
      ((healthMachine B Instance Port).next station event).budgets budget =
        (machine B).run (station.budgets budget)
          (event.callOn budget station.microhealth).toList := by
  cases event with
  | call other event =>
      refine ⟨rfl, ?_⟩
      by_cases same : other = budget
      · subst same
        rw [HealthEvent.callOn, if_pos rfl]
        exact Function.update_self _ _ _
      · rw [HealthEvent.callOn, if_neg same]
        exact Function.update_of_ne (Ne.symm same) _ _
  | attach other health t pressurePct =>
      rcases other with _ | other
      · exact ⟨rfl, rfl⟩
      rcases health with _ | health
      · exact ⟨rfl, rfl⟩
      rcases t with _ | t
      · exact ⟨rfl, rfl⟩
      rcases mhOnChange_spec (B := B)
        { station with microhealth := ⟨some other, some health, t⟩ } budget pressurePct with
        ⟨context, called⟩
      refine ⟨context, called.trans ?_⟩
      simp [HealthEvent.callOn, HealthEvent.readingFor]
  | change pressurePct => exact mhOnChange_spec station budget pressurePct

/-- An event sets the pressure of an instance, or leaves it. -/
theorem pressure_next (station : HealthStation Instance Port)
    (initialized : (station.budgets budget).magic = magicInit)
    (event : HealthEvent Instance Port) :
    (((healthMachine B Instance Port).next station event).budgets budget).pressure =
      (event.pressureSet budget station.microhealth).getD (station.budgets budget).pressure := by
  have taken : event.pressureSet budget station.microhealth =
      (event.callOn budget station.microhealth).bind fun event => event.call.pressureSet := by
    cases event with
    | call other event =>
        simp only [HealthEvent.pressureSet, HealthEvent.callOn]
        split
        · rfl
        · rfl
    | _ =>
        simp only [HealthEvent.pressureSet, HealthEvent.callOn, Option.bind_map]
        cases HealthEvent.readingFor budget station.microhealth _ with
        | none => rfl
        | some reading => exact (ofByte?_raw (mhMap reading.1 reading.2)).symm
  rw [(next_spec station budget event).2, taken]
  cases event.callOn budget station.microhealth with
  | none => rfl
  | some call => exact next_pressure initialized call

theorem magic_next (station : HealthStation Instance Port) (budget : Instance)
    (event : HealthEvent Instance Port) :
    (((healthMachine B Instance Port).next station event).budgets budget).magic =
      (station.budgets budget).magic := by
  rw [(next_spec station budget event).2]
  exact (SameInstance.run B _ _).magic

end HealthStation

/-! ## The reading that counts -/

section

open HealthStation

variable {station station' : HealthStation Instance Port} {budget : Instance}
  {events events' : List (HealthEvent Instance Port)}

/-- While the application does not set the pressure of an instance itself, it is at every moment
the one for the last reading taken for the instance, whatever else is called on the instances and
however often the adapter is attached. -/
theorem pressure_follows_readings (initialized : (station.budgets budget).magic = magicInit)
    (untouched : ∀ event, HealthEvent.call budget event ∈ events →
      event.call.pressureSet = none) :
    (((healthMachine B Instance Port).run station events).budgets budget).pressure =
      match ((healthMachine B Instance Port).emitted (readingsFor budget) station
        events).getLast? with
      | none => (station.budgets budget).pressure
      | some (t, pct) => mhMap t pct := by
  induction events generalizing station with
  | nil => rfl
  | cons event events ih =>
      have later := ih ((magic_next (B := B) station budget event).trans initialized)
        fun call listed => untouched call (List.mem_cons_of_mem _ listed)
      have set : event.pressureSet budget station.microhealth =
          (event.readingFor budget station.microhealth).map fun (t, pct) => mhMap t pct := by
        cases event with
        | call other event =>
            simp only [HealthEvent.pressureSet, HealthEvent.readingFor, Option.map_none]
            split
            · rename_i same
              subst same
              exact untouched event List.mem_cons_self
            · rfl
        | _ => rfl
      rw [Machine.run_cons, later, Machine.emitted_cons, List.getLast?_append,
        pressure_next station initialized, set, readingsFor]
      cases ((healthMachine B Instance Port).emitted (readingsFor budget)
          ((healthMachine B Instance Port).next station event) events).getLast? with
      | some last => rfl
      | none =>
          cases event.readingFor budget station.microhealth with
          | none => rfl
          | some reading => rfl

/-- Two instances, on which nothing has been attached yet. -/
def HealthStation.sample : HealthStation Bool Unit where
  budgets _ := .sample
  microhealth := ⟨none, none, ⟨0, 0, 0⟩⟩

/-- The adapter is attached to one instance and then to the other one, and the reading falls. -/
def attachTwice : List (HealthEvent Bool Unit) :=
  [.attach (some true) (some ()) (some ⟨50, 75, 90⟩) fun _ => 99,
    .attach (some false) (some ()) (some ⟨50, 75, 90⟩) fun _ => 99,
    .call true (.permissive (.check 0 true)), .change fun _ => 10]

/-- The first instance keeps the pressure of the last reading that was taken for it. -/
theorem pressure_follows_readings_attachTwice :
    (((healthMachine Build.full Bool Unit).run .sample attachTwice).budgets true).pressure =
        .survival ∧
      (((healthMachine Build.full Bool Unit).run .sample attachTwice).budgets false).pressure =
        .normal := by
  have untouched (which : Bool) : ∀ event, HealthEvent.call which event ∈ attachTwice →
      event.call.pressureSet = none := by
    intro event listed
    simp only [attachTwice, List.mem_cons, HealthEvent.call.injEq, reduceCtorEq, false_or,
      or_false, List.not_mem_nil] at listed
    rw [listed.2]
    rfl
  have initialized : Budget.sample.magic = magicInit := by decide +kernel
  constructor
  · exact pressure_follows_readings initialized (untouched true)
  · exact pressure_follows_readings initialized (untouched false)

/-! ## Higher readings -/

/-- The events differ in readings that are at most as high, or in calls on the same instance that
set the same pressure. -/
inductive HealthEvent.AtMost :
    HealthEvent Instance Port → HealthEvent Instance Port → Prop
  | call (budget : Instance) {event event' : Event}
      (same : event.call.pressureSet = event'.call.pressureSet) :
      AtMost (.call budget event) (.call budget event')
  | attach (budget : Option Instance) (health : Option Port) (t : Option PressureThresholds)
      {pct pct' : Port → UInt16} (le : ∀ health, pct health ≤ pct' health) :
      AtMost (.attach budget health t pct) (.attach budget health t pct')
  | change {pct pct' : Port → UInt16} (le : ∀ health, pct health ≤ pct' health) :
      AtMost (.change pct) (.change pct')

/-- If one of two pressures is set, so is the other, and it is at least as high. -/
def AtMostAs : Option Pressure → Option Pressure → Prop
  | none, none => True
  | some pressure, some pressure' => pressure.level ≤ pressure'.level
  | _, _ => False

theorem AtMostAs.rfl {set : Option Pressure} : AtMostAs set set := by
  cases set with
  | none => trivial
  | some pressure => exact Nat.le_refl _

theorem AtMostAs.getD {set set' : Option Pressure} (atMost : AtMostAs set set')
    {pressure pressure' : Pressure} (le : pressure.level ≤ pressure'.level) :
    (set.getD pressure).level ≤ (set'.getD pressure').level := by
  cases set with
  | none =>
      cases set' with
      | none => exact le
      | some _ => cases atMost
  | some _ =>
      cases set' with
      | none => cases atMost
      | some _ => exact atMost

theorem HealthEvent.AtMost.pressureSet {event event' : HealthEvent Instance Port}
    (atMost : event.AtMost event') (budget : Instance)
    (ctx : MicrohealthContext Instance Port) :
    AtMostAs (event.pressureSet budget ctx) (event'.pressureSet budget ctx) := by
  cases atMost with
  | call other same =>
      simp only [HealthEvent.pressureSet, same]
      exact .rfl
  | attach other health t le =>
      rcases other with _ | other
      · trivial
      rcases health with _ | health
      · trivial
      rcases t with _ | t
      · trivial
      simp only [HealthEvent.pressureSet, HealthEvent.readingFor]
      split
      · exact mhMap_mono t (le health)
      · trivial
  | change le =>
      rcases ctx with ⟨attached, health, t⟩
      rcases health with _ | health
      · trivial
      simp only [HealthEvent.pressureSet, HealthEvent.readingFor]
      split
      · exact mhMap_mono t (le health)
      · trivial

omit [DecidableEq Instance] in
theorem HealthEvent.AtMost.context {event event' : HealthEvent Instance Port}
    (atMost : event.AtMost event') (ctx : MicrohealthContext Instance Port) :
    event.context ctx = event'.context ctx := by
  cases atMost with
  | call => rfl
  | attach other health t _ =>
      rcases other with _ | other
      · rfl
      rcases health with _ | health
      · rfl
      rcases t with _ | t
      · rfl
      · rfl
  | change => rfl

/-- Higher readings never lead to a lower pressure of an instance, in whatever builds the two runs
are made, and whatever else is called that sets the same pressures or none. -/
theorem pressure_monotone_in_readings {B' : Build}
    (initialized : (station.budgets budget).magic = magicInit)
    (initialized' : (station'.budgets budget).magic = magicInit)
    (context : station.microhealth = station'.microhealth)
    (le : (station.budgets budget).pressure.level ≤ (station'.budgets budget).pressure.level)
    (atMost : List.Forall₂ HealthEvent.AtMost events events') :
    (((healthMachine B Instance Port).run station events).budgets budget).pressure.level ≤
      (((healthMachine B' Instance Port).run station' events').budgets budget).pressure.level := by
  induction atMost generalizing station station' with
  | nil => exact le
  | @cons event event' _ _ first _ ih =>
      apply ih
      · exact (magic_next station budget event).trans initialized
      · exact (magic_next station' budget event').trans initialized'
      · rw [(next_spec station budget event).1, (next_spec station' budget event').1, ← context]
        exact first.context _
      · rw [pressure_next station initialized, pressure_next station' initialized', ← context]
        exact (first.pressureSet budget _).getD le

theorem pressure_monotone_in_readings_sample :
    (((healthMachine Build.full Bool Unit).run .sample
        [.attach (some true) (some ()) (some ⟨50, 75, 90⟩) fun _ => 40,
          .change fun _ => 60]).budgets true).pressure.level ≤
      (((healthMachine Build.full Bool Unit).run .sample
        [.attach (some true) (some ()) (some ⟨50, 75, 90⟩) fun _ => 55,
          .change fun _ => 80]).budgets true).pressure.level := by
  have initialized : Budget.sample.magic = magicInit := by decide +kernel
  refine pressure_monotone_in_readings initialized initialized rfl (Nat.le_refl _) ?_
  refine .cons (.attach _ _ _ ?_) (.cons (.change ?_) .nil)
  · intro _
    decide
  · intro _
    decide

end

end Loxbudget
