import Loxbudget.Adapters.Log
import Loxbudget.Invariant.Instance
import Loxbudget.Journal.Accounting
import Loxbudget.Lib.Emission

/-!
# What the decision hooks deliver

A decision hook is called once for each decision, and what it passes on depends on the decision,
on the context of its adapter and on whether the instance in the context has been initialised. So
as long as nobody attaches the adapter again, what arrives at the other library is the list of the
decisions, translated one by one, however the calls on the instances are interleaved.
-/

namespace Loxbudget

variable {B : Build}

/-! ## Decisions of a run -/

/-- An instance whose calls come with what the HAL answers while the decision hook runs. -/
def hookedMachine (B : Build) : Machine Budget (Event × Hal) Reply where
  exec budget event := exec B budget event.1

/-- A decision as the decision hook gets it, with what the HAL answers there. -/
structure Made where
  op : OpId
  decision : Decision
  reading : Hal

/-- The decision of a call. -/
def decisionsMade (B : Build) (budget : Budget) (event : Event × Hal) : List Made :=
  (decisionMade B budget event.1).toList.map fun (op, d) => ⟨op, d, event.2⟩

/-- The decisions of a run, in their order. -/
abbrev decisionsOf (B : Build) (budget : Budget) (events : List (Event × Hal)) : List Made :=
  (hookedMachine B).emitted (decisionsMade B) budget events

/-- A call without a decision leaves the counters and the hook alone. -/
theorem next_undecided {budget : Budget} {event : Event}
    (undecided : decisionMade B budget event = none) :
    ∃ ring head count, ((machine B).next budget event).journal =
      { budget.journal with auditRing := ring, auditHead := head, auditCount := count } := by
  by_cases clears : event.call = .auditClear
  · rcases event with ⟨hal, call⟩
    change call = .auditClear at clears
    subst clears
    by_cases audit : B.enableAuditTrail = true
    · rcases next_auditClear audit hal budget with ⟨after, -⟩ | after
      · rw [after]
        exact ⟨_, _, _, rfl⟩
      · rw [after]
        exact ⟨_, _, _, rfl⟩
    · have after : (machine B).next budget ⟨hal, .auditClear⟩ = budget := by
        simp [Machine.next, machine, exec, audit]
      rw [after]
      exact ⟨_, _, _, rfl⟩
  · exact ⟨_, _, _, (next_journal_of_none undecided clears).2⟩

/-- The hook is called with the decision of the call, if there is one. -/
theorem next_hookCalls (budget : Budget) (event : Event) :
    ((machine B).next budget event).journal.hookCalls =
      (if budget.decisionHook then (decisionMade B budget event).toList.map Prod.swap else []) ++
        budget.journal.hookCalls := by
  cases made : decisionMade B budget event with
  | none =>
      rcases next_undecided made with ⟨ring, head, count, journal⟩
      rw [journal]
      simp
  | some decided =>
      rcases next_of_decided made with ⟨resources, rateState, leaseSlots, after⟩
      rcases accounted_frame B event.hal decided.1 decided.2 budget with ⟨ring, head, count, frame⟩
      rw [after, frame]
      simp only [Option.toList_some, List.map_cons, List.map_nil]
      split
      · rfl
      · rfl

theorem hookCallsMade_next (budget : Budget) (event : Event) :
    hookCallsMade budget ((machine B).next budget event) =
      if budget.decisionHook then (decisionMade B budget event).toList.map Prod.swap else [] := by
  rw [hookCallsMade, next_hookCalls, List.length_append, Nat.add_sub_cancel, List.take_left]
  cases decisionMade B budget event with
  | none => simp
  | some decided => split <;> rfl

/-- What a decision adds to the denials. -/
def Made.countDenial (denials : UInt32) (made : Made) : UInt32 :=
  denials + countIf (!made.decision.action.allows)

theorem next_totalDenials (budget : Budget) (event : Event × Hal) :
    ((hookedMachine B).next budget event).journal.totalDenials =
      (decisionsMade B budget event).foldl Made.countDenial budget.journal.totalDenials := by
  change ((machine B).next budget event.1).journal.totalDenials = _
  rw [decisionsMade]
  cases made : decisionMade B budget event.1 with
  | none =>
      rcases next_undecided made with ⟨ring, head, count, journal⟩
      rw [journal]
      rfl
  | some decided =>
      rcases next_of_decided made with ⟨resources, rateState, leaseSlots, after⟩
      rcases accounted_frame B event.1.hal decided.1 decided.2 budget with
        ⟨ring, head, count, frame⟩
      rw [after, frame]
      rfl

theorem run_totalDenials (budget : Budget) (events : List (Event × Hal)) :
    ((hookedMachine B).run budget events).journal.totalDenials =
      (decisionsOf B budget events).foldl Made.countDenial budget.journal.totalDenials :=
  Machine.run_summary (fun budget : Budget => budget.journal.totalDenials) Made.countDenial
    next_totalDenials

/-! ## Stations -/

theorem setDecisionHook_cases (budget : Budget) (hook : Bool) :
    setDecisionHook budget hook = (.ok, { budget with decisionHook := hook }) ∨
      (setDecisionHook budget hook).1 ≠ .ok ∧ (setDecisionHook budget hook).2 = budget := by
  simp only [setDecisionHook]
  split
  · rename_i invalid
    exact Or.inr ⟨invalid, rfl⟩
  · exact Or.inl rfl

namespace Station

variable {Instance Port : Type} [DecidableEq Instance] {station station' : Station Instance Port}
  {budget : Instance} {hook : Hook} {event : StationEvent Instance Port}

theorem setHook_cases (station : Station Instance Port) (budget : Option Instance) (hook : Hook) :
    station.setHook budget hook = station ∨
      ∃ b, budget = some b ∧ station.setHook budget hook =
        { station with
          budgets := Function.update station.budgets b
            { station.budgets b with decisionHook := true }
          hooks := Function.update station.hooks b (some hook) } := by
  cases budget with
  | none => exact Or.inl rfl
  | some b =>
      rcases setDecisionHook_cases (station.budgets b) true with accepted | ⟨refused, -⟩
      · right
        refine ⟨b, rfl, ?_⟩
        simp only [setHook, accepted, if_true]
      · left
        simp only [setHook, if_neg refused]

/-- What an event does to the instances and their hooks: nothing, a public call on an instance, or
the setting of its hook. -/
inductive Moves (B : Build) (station : Station Instance Port) : Station Instance Port → Prop
  | contexts (loxguard : LoxguardContext Instance Port) (nvlog : NvlogContext Instance Port)
      (microbus : MicrobusContext Port) (microlog : MicrologContext Port) :
      Moves B station
        { station with
          loxguard := loxguard, nvlog := nvlog, microbus := microbus, microlog := microlog }
  | calls (budget : Instance) (event : Event)
      (other : ∀ given, event.call ≠ .setDecisionHook given) :
      Moves B station
        { station with
          budgets := Function.update station.budgets budget
            ((machine B).next (station.budgets budget) event) }
  | sets (budget : Instance) (hook : Option Hook) (loxguard : LoxguardContext Instance Port)
      (nvlog : NvlogContext Instance Port) (microbus : MicrobusContext Port)
      (microlog : MicrologContext Port) :
      Moves B station
        { station with
          budgets := Function.update station.budgets budget
            { station.budgets budget with decisionHook := hook.isSome }
          hooks := Function.update station.hooks budget hook
          loxguard := loxguard, nvlog := nvlog, microbus := microbus, microlog := microlog }

theorem moves_setHook (budget : Option Instance) (hook : Hook)
    (loxguard : LoxguardContext Instance Port) (nvlog : NvlogContext Instance Port)
    (microbus : MicrobusContext Port) (microlog : MicrologContext Port) :
    Moves B station (({ station with
      loxguard := loxguard, nvlog := nvlog, microbus := microbus,
      microlog := microlog } : Station Instance Port).setHook budget hook) := by
  rcases setHook_cases ({ station with
      loxguard := loxguard, nvlog := nvlog, microbus := microbus,
      microlog := microlog } : Station Instance Port) budget hook with same | ⟨b, -, set⟩
  · rw [same]
    exact .contexts _ _ _ _
  · rw [set]
    exact .sets b (some hook) _ _ _ _

theorem publicCall_snd (event : Event) {reading : Hal}
    (other : ∀ given, event.call ≠ .setDecisionHook given) :
    (station.publicCall B budget event reading).2 =
      { station with
        budgets := Function.update station.budgets budget
          ((machine B).next (station.budgets budget) event) } := by
  rcases event with ⟨hal, call⟩
  cases call with
  | setDecisionHook given => exact absurd rfl (other given)
  | _ => rfl

theorem moves_publicCall (budget : Instance) (event : Event) (reading : Hal) :
    Moves B station (station.publicCall B budget event reading).2 := by
  rcases event with ⟨hal, call⟩
  by_cases sets : ∃ given, call = .setDecisionHook given
  · rcases sets with ⟨given, rfl⟩
    rcases setDecisionHook_cases (station.budgets budget) given with accepted | ⟨refused, same⟩
    · simp only [publicCall, Loxbudget.exec, accepted, Reply.ofStatus, if_true]
      have isSome : given = (if given = true then some Hook.application else none).isSome := by
        cases given <;> rfl
      nth_rewrite 1 [isSome]
      exact .sets budget _ _ _ _ _
    · simp only [publicCall, Loxbudget.exec, Reply.ofStatus, if_neg refused, same,
        Function.update_eq_self]
      exact .contexts _ _ _ _
  · have other : ∀ given, call ≠ .setDecisionHook given :=
      fun given same => sets ⟨given, same⟩
    rw [publicCall_snd ⟨hal, call⟩ other]
    exact .calls budget ⟨hal, call⟩ other

theorem moves (station : Station Instance Port) (event : StationEvent Instance Port) :
    Moves B station ((stationMachine B Instance Port).next station event) := by
  cases event with
  | call budget event reading => exact moves_publicCall budget event reading
  | attachLoxguard budget guard => exact moves_setHook budget _ _ _ _ _
  | attachNvlog budget log minSeverity => exact moves_setHook budget _ _ _ _ _
  | attachMicrobus budget bus => exact moves_setHook budget _ _ _ _ _
  | attachMicrolog budget log minAction => exact moves_setHook budget _ _ _ _ _
  | microbusSetPressure budget bus pressure =>
      rcases budget with _ | budget
      · exact .contexts _ _ _ _
      rcases bus with _ | bus
      · exact .contexts _ _ _ _
      · exact .calls budget (.permissive (.setPressure pressure)) (fun _ same => by cases same)

/-- An instance has a decision hook if and only if the function is known. -/
def Consistent (station : Station Instance Port) : Prop :=
  ∀ budget, (station.budgets budget).decisionHook = (station.hooks budget).isSome

theorem Consistent.next (consistent : station.Consistent)
    (event : StationEvent Instance Port) :
    ((stationMachine B Instance Port).next station event).Consistent := by
  intro other
  have moves := moves (B := B) station event
  generalize (stationMachine B Instance Port).next station event = after at moves ⊢
  cases moves with
  | contexts => exact consistent other
  | calls budget event kept =>
      by_cases same : other = budget
      · subst same
        have settings := (next_settings B (station.budgets other) event).2.resolve_right
          fun ⟨given, sets⟩ => kept given sets
        simp only [Function.update_self, settings]
        exact consistent other
      · simp only [Function.update_of_ne same]
        exact consistent other
  | sets budget hook =>
      by_cases same : other = budget
      · subst same
        simp only [Function.update_self]
      · simp only [Function.update_of_ne same]
        exact consistent other

theorem magic_next (other : Instance) :
    (((stationMachine B Instance Port).next station event).budgets other).magic =
      (station.budgets other).magic := by
  have moves := moves (B := B) station event
  generalize (stationMachine B Instance Port).next station event = after at moves ⊢
  cases moves with
  | contexts => rfl
  | calls budget event kept =>
      by_cases same : other = budget
      · subst same
        simp only [Function.update_self]
        exact (SameInstance.next B _ event).magic
      · simp only [Function.update_of_ne same]
  | sets budget hook =>
      by_cases same : other = budget
      · subst same
        simp only [Function.update_self]
      · simp only [Function.update_of_ne same]

/-! ## What a hook passes on -/

/-- The context of an adapter is the same. -/
def SameContext (hook : Hook) (station station' : Station Instance Port) : Prop :=
  match hook with
  | .loxguard => station'.loxguard = station.loxguard
  | .nvlog => station'.nvlog = station.nvlog
  | .microbus => station'.microbus = station.microbus
  | .microlog => station'.microlog = station.microlog
  | .application => True

omit [DecidableEq Instance] in
theorem takeSnapshot_eq (reading : Hal) (budget : Instance) :
    station.takeSnapshot reading budget =
      if (station.budgets budget).magic = magicInit then some reading.nowMs else none := by
  simp only [takeSnapshot, snapshot, Bool.true_eq_false, if_false]
  split
  · rename_i invalid
    rw [if_neg fun initialized => invalid (validate_eq_ok.mpr initialized)]
    rfl
  · rename_i valid
    rw [if_pos (validate_eq_ok.mp (not_not.mp valid))]
    rfl

omit [DecidableEq Instance] in
theorem onDecision_congr (context : SameContext hook station station')
    (magic : ∀ other, (station'.budgets other).magic = (station.budgets other).magic)
    (reading : Hal) (d : Decision) (op : OpId) :
    station'.onDecision reading hook d op = station.onDecision reading hook d op := by
  have snapshots : station'.takeSnapshot reading = station.takeSnapshot reading := by
    funext other
    rw [takeSnapshot_eq, takeSnapshot_eq, magic]
  cases hook with
  | loxguard =>
      change station'.loxguard = station.loxguard at context
      rw [onDecision, onDecision, snapshots, context]
  | nvlog =>
      change station'.nvlog = station.nvlog at context
      rw [onDecision, onDecision, snapshots, context]
  | microbus =>
      change station'.microbus = station.microbus at context
      rw [onDecision, onDecision, context]
  | microlog =>
      change station'.microlog = station.microlog at context
      rw [onDecision, onDecision, context]
  | application => rfl

end Station

/-! ## Delivery over runs -/

namespace StationEvent

variable {Instance Port : Type} [DecidableEq Instance]

/-- The public call on an instance that an event makes, other than to set a hook for an
adapter. -/
def callOn (budget : Instance) : StationEvent Instance Port → Option (Event × Hal)
  | .call other event reading => if other = budget then some (event, reading) else none
  | .microbusSetPressure (some other) (some _) pressure =>
      if other = budget then some (.permissive (.setPressure pressure), .permissive 0) else none
  | _ => none

/-- The event neither sets the decision hook of an instance nor attaches the adapter of the hook
to any. -/
def Keeps (hook : Hook) (budget : Instance) : StationEvent Instance Port → Prop
  | .call other event _ => other = budget → ∀ given, event.call ≠ .setDecisionHook given
  | .attachLoxguard other _ => hook ≠ .loxguard ∧ other ≠ some budget
  | .attachNvlog other _ _ => hook ≠ .nvlog ∧ other ≠ some budget
  | .attachMicrobus other _ => hook ≠ .microbus ∧ other ≠ some budget
  | .attachMicrolog other _ _ => hook ≠ .microlog ∧ other ≠ some budget
  | .microbusSetPressure _ _ _ => True

end StationEvent

namespace Station

variable {Instance Port : Type} [DecidableEq Instance] {station : Station Instance Port}
  {budget : Instance} {hook : Hook} {events : List (StationEvent Instance Port)}

/-- What the decision hook of an instance passes on in an event. -/
def hookWrites (B : Build) (budget : Instance) (station : Station Instance Port) :
    StationEvent Instance Port → List (Write Port)
  | .call other event reading =>
      if other = budget then (station.publicCall B other event reading).1.writes else []
  | _ => []

/-- An instance, its hook and the context of an adapter are as they were. -/
structure Spared (hook : Hook) (budget : Instance) (station station' : Station Instance Port) :
    Prop where
  state : station'.budgets budget = station.budgets budget
  hooked : station'.hooks budget = station.hooks budget
  context : SameContext hook station station'

theorem spared_setHook {other : Option Instance} {changed : Station Instance Port} {hook' : Hook}
    (elsewhere : other ≠ some budget) (spared : Spared hook budget station changed) :
    Spared hook budget station (changed.setHook other hook') := by
  rcases setHook_cases changed other hook' with same | ⟨b, rfl, set⟩
  · rw [same]
    exact spared
  · have ne : budget ≠ b := fun same => elsewhere (by rw [same])
    rw [set]
    refine ⟨?_, ?_, ?_⟩
    · simp only [Function.update_of_ne ne]
      exact spared.state
    · simp only [Function.update_of_ne ne]
      exact spared.hooked
    · have context := spared.context
      cases hook <;> exact context

omit [DecidableEq Instance] in
theorem SameContext.of_frame (budgets : Instance → Budget) (hooks : Instance → Option Hook) :
    SameContext hook station { station with budgets := budgets, hooks := hooks } := by
  cases hook with
  | application => trivial
  | _ => exact rfl

theorem spared_publicCall {other : Instance} {event : Event} {reading : Hal}
    (elsewhere : other ≠ budget) :
    Spared hook budget station (station.publicCall B other event reading).2 := by
  have ne : budget ≠ other := Ne.symm elsewhere
  refine ⟨?_, ?_, .of_frame _ _⟩
  · simp only [publicCall, Function.update_of_ne ne]
  · rcases event with ⟨hal, call⟩
    cases call with
    | setDecisionHook given =>
        simp only [publicCall]
        split
        · rw [Function.update_of_ne ne]
        · rfl
    | _ => rfl

/-- What the decision hook of an instance makes of a decision. -/
def passOn (station : Station Instance Port) (hook : Hook) (made : Made) : List (Write Port) :=
  station.onDecision made.reading hook made.decision made.op

theorem publicCall_writes (hooked : station.hooks budget = some hook)
    (set : (station.budgets budget).decisionHook = true) (event : Event) (reading : Hal) :
    (station.publicCall B budget event reading).1.writes =
      (decisionsMade B (station.budgets budget) (event, reading)).flatMap
        (station.passOn hook) := by
  have calls := hookCallsMade_next (B := B) (station.budgets budget) event
  change hookCallsMade (station.budgets budget)
    (Loxbudget.exec B (station.budgets budget) event).2 = _ at calls
  simp only [publicCall, hooked, calls, set, if_true, decisionsMade, List.flatMap_map]
  rfl

/-- The effect of an event on an instance is that of its image, and the hook passes on the
decision of that image. -/
structure Delivers (B : Build) (hook : Hook) (budget : Instance) (station : Station Instance Port)
    (event : StationEvent Instance Port) : Prop where
  state : ((stationMachine B Instance Port).next station event).budgets budget =
    (hookedMachine B).run (station.budgets budget) (event.callOn budget).toList
  hooked : ((stationMachine B Instance Port).next station event).hooks budget =
    station.hooks budget
  context : SameContext hook station ((stationMachine B Instance Port).next station event)
  writes : hookWrites B budget station event =
    (decisionsOf B (station.budgets budget) (event.callOn budget).toList).flatMap
      (station.passOn hook)

theorem Spared.delivers {event : StationEvent Instance Port}
    (spared : Spared hook budget station ((stationMachine B Instance Port).next station event))
    (elsewhere : event.callOn budget = none) (silent : hookWrites B budget station event = []) :
    Delivers B hook budget station event where
  state := by
    rw [elsewhere]
    exact spared.state
  hooked := spared.hooked
  context := spared.context
  writes := by
    rw [elsewhere, silent]
    rfl

theorem delivers_setHook {event : StationEvent Instance Port} {other : Option Instance}
    {changed : Station Instance Port} {hook' : Hook}
    (sets : (stationMachine B Instance Port).next station event = changed.setHook other hook')
    (elsewhere : other ≠ some budget) (spared : Spared hook budget station changed)
    (callOn : event.callOn budget = none) (silent : hookWrites B budget station event = []) :
    Delivers B hook budget station event := by
  apply Spared.delivers
  · rw [sets]
    exact spared_setHook elsewhere spared
  · exact callOn
  · exact silent

theorem delivers_publicCall (hooked : station.hooks budget = some hook)
    (set : (station.budgets budget).decisionHook = true) {event : Event} {reading : Hal}
    (other : ∀ given, event.call ≠ .setDecisionHook given) :
    Delivers B hook budget station (.call budget event reading) := by
  have image : (StationEvent.call budget event reading : StationEvent Instance Port).callOn budget =
      some (event, reading) := if_pos rfl
  have after : (stationMachine B Instance Port).next station (.call budget event reading) = _ :=
    publicCall_snd _ other
  refine ⟨?_, ?_, ?_, ?_⟩
  · rw [after, image]
    exact Function.update_self _ _ _
  · rw [after]
  · rw [after]
    exact .of_frame _ _
  · rw [image, hookWrites, if_pos rfl, publicCall_writes hooked set]
    rw [Option.toList_some, decisionsOf, Machine.emitted_cons, Machine.emitted_nil, List.append_nil]

theorem delivers_of_keeps (consistent : station.Consistent)
    (hooked : station.hooks budget = some hook) {event : StationEvent Instance Port}
    (keeps : event.Keeps hook budget) : Delivers B hook budget station event := by
  have set : (station.budgets budget).decisionHook = true := by
    rw [consistent budget, hooked]
    rfl
  cases event with
  | call other event reading =>
      by_cases same : other = budget
      · subst same
        exact delivers_publicCall hooked set (keeps rfl)
      · exact Spared.delivers (spared_publicCall same) (if_neg same) (if_neg same)
  | attachLoxguard other guard =>
      refine delivers_setHook rfl keeps.2 ⟨rfl, rfl, ?_⟩ rfl rfl
      cases hook with
      | loxguard => exact absurd rfl keeps.1
      | application => trivial
      | _ => exact rfl
  | attachNvlog other log minSeverity =>
      refine delivers_setHook rfl keeps.2 ⟨rfl, rfl, ?_⟩ rfl rfl
      cases hook with
      | nvlog => exact absurd rfl keeps.1
      | application => trivial
      | _ => exact rfl
  | attachMicrobus other bus =>
      refine delivers_setHook rfl keeps.2 ⟨rfl, rfl, ?_⟩ rfl rfl
      cases hook with
      | microbus => exact absurd rfl keeps.1
      | application => trivial
      | _ => exact rfl
  | attachMicrolog other log minAction =>
      refine delivers_setHook rfl keeps.2 ⟨rfl, rfl, ?_⟩ rfl rfl
      cases hook with
      | microlog => exact absurd rfl keeps.1
      | application => trivial
      | _ => exact rfl
  | microbusSetPressure other bus pressure =>
      rcases other with _ | other
      · exact Spared.delivers ⟨rfl, rfl, .of_frame _ _⟩ rfl rfl
      rcases bus with _ | bus
      · exact Spared.delivers ⟨rfl, rfl, .of_frame _ _⟩ rfl rfl
      by_cases same : other = budget
      · subst same
        have image : (StationEvent.microbusSetPressure (some other) (some bus) pressure :
            StationEvent Instance Port).callOn other =
            some (.permissive (.setPressure pressure), .permissive 0) := if_pos rfl
        refine ⟨?_, rfl, .of_frame _ _, ?_⟩
        · rw [image]
          exact Function.update_self _ _ _
        · rw [image]
          rfl
      · refine Spared.delivers ⟨?_, rfl, .of_frame _ _⟩ (if_neg same) rfl
        exact Function.update_of_ne (Ne.symm same) _ _

/-- The hook of an instance passes on what it did at the start. -/
structure Serving (hook : Hook) (budget : Instance) (start station : Station Instance Port) :
    Prop where
  consistent : station.Consistent
  hooked : station.hooks budget = some hook
  context : SameContext hook start station
  magic : ∀ other, (station.budgets other).magic = (start.budgets other).magic

omit [DecidableEq Instance] in
theorem Serving.passOn {start : Station Instance Port}
    (serving : Serving hook budget start station) :
    station.passOn hook = start.passOn hook := by
  funext made
  exact onDecision_congr serving.context serving.magic _ _ _

omit [DecidableEq Instance] in
theorem SameContext.trans {between after : Station Instance Port}
    (first : SameContext hook station between) (second : SameContext hook between after) :
    SameContext hook station after := by
  cases hook with
  | application => trivial
  | _ => exact Eq.trans second first

theorem Serving.next {start : Station Instance Port} (serving : Serving hook budget start station)
    {event : StationEvent Instance Port} (delivers : Delivers B hook budget station event) :
    Serving hook budget start ((stationMachine B Instance Port).next station event) where
  consistent := serving.consistent.next event
  hooked := delivers.hooked.trans serving.hooked
  context := serving.context.trans delivers.context
  magic other := (magic_next other).trans (serving.magic other)

theorem run_delivers (consistent : station.Consistent) (hooked : station.hooks budget = some hook)
    (keeps : ∀ event ∈ events, event.Keeps hook budget) :
    let calls := events.filterMap (StationEvent.callOn budget)
    Serving hook budget station ((stationMachine B Instance Port).run station events) ∧
      ((stationMachine B Instance Port).run station events).budgets budget =
        (hookedMachine B).run (station.budgets budget) calls ∧
      (stationMachine B Instance Port).emitted (hookWrites B budget) station events =
        (decisionsOf B (station.budgets budget) calls).flatMap (station.passOn hook) := by
  have initially : Serving hook budget station station :=
    ⟨consistent, hooked, .of_frame _ _, fun _ => rfl⟩
  refine Machine.run_part (fun after : Station Instance Port => after.budgets budget) _ _ ?_
    initially keeps
  intro after event serving keeps
  have delivers := delivers_of_keeps (B := B) serving.consistent serving.hooked keeps
  refine ⟨serving.next delivers, delivers.state, ?_⟩
  rw [← serving.passOn]
  exact delivers.writes

/-- Whatever else happens to the instances, as long as nobody sets the hook of an instance or
attaches its adapter again, the instance does what the calls on it do, its hook passes on the
decisions among them, each once and in their order, and it stays set. -/
theorem hook_delivers (consistent : station.Consistent) (hooked : station.hooks budget = some hook)
    (keeps : ∀ event ∈ events, event.Keeps hook budget) :
    let calls := events.filterMap (StationEvent.callOn budget)
    let after := (stationMachine B Instance Port).run station events
    after.budgets budget = (hookedMachine B).run (station.budgets budget) calls ∧
      (stationMachine B Instance Port).emitted (hookWrites B budget) station events =
        (decisionsOf B (station.budgets budget) calls).flatMap (station.passOn hook) ∧
      after.hooks budget = some hook ∧ (after.budgets budget).decisionHook = true := by
  intro calls after
  rcases run_delivers (B := B) consistent hooked keeps with ⟨serving, state, writes⟩
  refine ⟨state, writes, serving.hooked, ?_⟩
  rw [serving.consistent budget, serving.hooked]
  rfl

/-- Two instances of which one has `nvlog`. -/
def samplePair : Station Bool Nat where
  budgets which := { Budget.sample with decisionHook := which }
  hooks which := if which then some .nvlog else none
  loxguard := ⟨none, none⟩
  nvlog := ⟨some true, some 7, 2⟩
  microbus := ⟨none⟩
  microlog := ⟨none, 0⟩

theorem samplePair_consistent : samplePair.Consistent
  | true => rfl
  | false => rfl

/-- Calls on both instances, with an attachment to the other one in between. -/
def sampleEvents : List (StationEvent Bool Nat) :=
  [.call true (.permissive (.check 3 true)) (.permissive 5), .attachLoxguard (some false) (some 8),
    .microbusSetPressure (some true) (some 6) 2,
    .call false (.permissive (.enter 3 true)) (.permissive 6),
    .call true (.permissive (.enter 3 true)) (.permissive 7)]

theorem sampleEvents_keep (other : hook ≠ .loxguard) :
    ∀ event ∈ sampleEvents, event.Keeps hook true := by
  simp [sampleEvents, StationEvent.Keeps, Event.permissive, other]

theorem hook_delivers_sample :
    let calls := sampleEvents.filterMap (StationEvent.callOn true)
    let after := (stationMachine Build.full Bool Nat).run samplePair sampleEvents
    after.budgets true = (hookedMachine Build.full).run (samplePair.budgets true) calls ∧
      (stationMachine Build.full Bool Nat).emitted (hookWrites Build.full true) samplePair
          sampleEvents =
        (decisionsOf Build.full (samplePair.budgets true) calls).flatMap
          (samplePair.passOn .nvlog) ∧
      after.hooks true = some .nvlog ∧ (after.budgets true).decisionHook = true :=
  hook_delivers samplePair_consistent rfl (sampleEvents_keep (by decide))

end Station

end Loxbudget
