import Loxbudget.Adapters.Delivery

/-!
# What the adapters write

With a least severity of 2 `nvlog` gets as many records as the instance counts denials; the lines
of `microlog` give the decisions back; `loxguard` is flushed right after each record of a lockdown
and at no other time. The context of an adapter is shared: whoever attaches it last has the
records of every instance that it was attached to before.
-/

namespace Loxbudget

open Scan

/-- What `lb__nv_on_decision_` passes on when its snapshot succeeds. -/
def nvlogRecord {Port : Type} (log : Port) (made : Made) : Write Port :=
  .nvlogWrite log (nvSeverity made.decision.action)
    (.ofDecision made.reading.nowMs made.decision made.op)

/-- Whether a decision is severe enough for the log. -/
def Made.atLeast (minSeverity : UInt8) (made : Made) : Bool :=
  minSeverity ≤ nvSeverity made.decision.action

namespace Station

variable {B : Build} {Instance Port : Type} [DecidableEq Instance]
  {station : Station Instance Port} {budget : Instance} {hook : Hook}
  {events : List (StationEvent Instance Port)}

/-! ## Attachments -/

theorem setHook_nvlog (budget : Option Instance) (hook : Hook) :
    (station.setHook budget hook).nvlog = station.nvlog := by
  rcases setHook_cases station budget hook with same | ⟨b, -, set⟩
  · rw [same]
  · rw [set]

theorem setHook_microlog (budget : Option Instance) (hook : Hook) :
    (station.setHook budget hook).microlog = station.microlog := by
  rcases setHook_cases station budget hook with same | ⟨b, -, set⟩
  · rw [same]
  · rw [set]

/-- An attachment of an adapter to another instance does not take the hook away. -/
theorem setHook_hooked {other : Option Instance} (hooked : station.hooks budget = some hook) :
    (station.setHook other hook).hooks budget = some hook := by
  rcases setHook_cases station other hook with same | ⟨b, -, set⟩
  · rw [same, hooked]
  · rw [set]
    by_cases same : budget = b
    · subst same
      exact Function.update_self _ _ _
    · exact (Function.update_of_ne same _ _).trans hooked

theorem setHook_of_initialized (station : Station Instance Port) (hook : Hook)
    (initialized : (station.budgets budget).magic = magicInit) :
    (station.setHook (some budget) hook).hooks budget = some hook ∧
      (station.setHook (some budget) hook).budgets budget =
        { station.budgets budget with decisionHook := true } := by
  have valid := validate_eq_ok.mpr initialized
  have accepted : setDecisionHook (station.budgets budget) true =
      (.ok, { station.budgets budget with decisionHook := true }) := by
    simp only [setDecisionHook, if_neg (not_not.mpr valid)]
  simp only [setHook, accepted, if_true]
  exact ⟨Function.update_self _ _ _, Function.update_self _ _ _⟩

/-! ## Records of nvlog -/

omit [DecidableEq Instance] in
theorem passOn_nvlog {other : Instance} {log : Port} {minSeverity : UInt8}
    (context : station.nvlog = ⟨some other, some log, minSeverity⟩)
    (initialized : (station.budgets other).magic = magicInit) (decisions : List Made) :
    decisions.flatMap (station.passOn .nvlog) =
      (decisions.filter (Made.atLeast minSeverity)).map (nvlogRecord log) := by
  induction decisions with
  | nil => rfl
  | cons made decisions ih =>
      have snapshot : station.takeSnapshot made.reading other = some made.reading.nowMs := by
        rw [takeSnapshot_eq, if_pos initialized]
      rw [List.flatMap_cons, ih, List.filter_cons, passOn, onDecision, context]
      simp only [nvOnDecision, snapshot]
      by_cases severe : minSeverity ≤ nvSeverity made.decision.action
      · rw [if_neg (UInt8.not_lt.mpr severe), if_pos (by simpa [Made.atLeast] using severe)]
        rfl
      · rw [if_pos (UInt8.not_le.mp severe), if_neg (by simpa [Made.atLeast] using severe)]
        rfl

omit [DecidableEq Instance] in
theorem passOn_nvlog_nothing
    (context : station.nvlog.budget = none ∨ station.nvlog.log = none ∨
      ∃ other, station.nvlog.budget = some other ∧ (station.budgets other).magic ≠ magicInit)
    (decisions : List Made) : decisions.flatMap (station.passOn .nvlog) = [] := by
  apply List.flatMap_eq_nil_iff.mpr
  intro made _
  rw [passOn, onDecision, nvOnDecision.eq_def]
  rcases context with none | none | ⟨other, given, uninitialized⟩
  · rw [none]
  · rw [none]
    cases station.nvlog.budget <;> rfl
  · rw [given]
    cases station.nvlog.log with
    | none => rfl
    | some log =>
        simp only [takeSnapshot_eq, if_neg uninitialized]
        split
        · rfl
        · rfl

/-- Whoever attaches `nvlog` last has the records of every instance it was attached to: they go to
the new log under the new severity, or nowhere if the attachment names no log or no initialised
instance. -/
theorem last_attachment_takes_over (consistent : station.Consistent)
    (hooked : station.hooks budget = some .nvlog) (other : Option Instance) (log : Option Port)
    (minSeverity : UInt8) (keeps : ∀ event ∈ events, event.Keeps .nvlog budget) :
    let start := (stationMachine B Instance Port).next station (.attachNvlog other log minSeverity)
    (stationMachine B Instance Port).emitted (hookWrites B budget) start events =
      match other, log with
      | some other, some log =>
          if (station.budgets other).magic = magicInit then
            ((decisionsOf B (start.budgets budget)
              (events.filterMap (StationEvent.callOn budget))).filter
                (Made.atLeast minSeverity)).map (nvlogRecord log)
          else []
      | _, _ => [] := by
  intro start
  have context : start.nvlog = ⟨other, log, minSeverity⟩ := setHook_nvlog other .nvlog
  have hooked : start.hooks budget = some .nvlog := setHook_hooked hooked
  have magic (another : Instance) : (start.budgets another).magic = _ := magic_next another
  rw [(run_delivers (consistent.next _) hooked keeps).2.2]
  rcases other with _ | other
  · exact passOn_nvlog_nothing (Or.inl (by rw [context])) _
  rcases log with _ | log
  · exact passOn_nvlog_nothing (Or.inr (Or.inl (by rw [context]))) _
  by_cases initialized : (station.budgets other).magic = magicInit
  · simp only [if_pos initialized]
    exact passOn_nvlog context ((magic other).trans initialized) _
  · simp only [if_neg initialized]
    refine passOn_nvlog_nothing (Or.inr (Or.inr ⟨other, by rw [context], ?_⟩)) _
    rw [magic other]
    exact initialized

theorem last_attachment_takes_over_sample :
    let start := (stationMachine Build.full Bool Nat).next samplePair
      (.attachNvlog (some false) (some 9) 3)
    (stationMachine Build.full Bool Nat).emitted (hookWrites Build.full true) start sampleEvents =
      ((decisionsOf Build.full (start.budgets true)
        (sampleEvents.filterMap (StationEvent.callOn true))).filter (Made.atLeast 3)).map
          (nvlogRecord 9) :=
  last_attachment_takes_over samplePair_consistent rfl (some false) (some 9) 3
    (sampleEvents_keep (by decide))

theorem atLeast_two (made : Made) : made.atLeast 2 = !made.decision.action.allows := by
  rw [Made.atLeast]
  cases made.decision.action <;> rfl

theorem foldl_countDenial (decisions : List Made) (denials : UInt32) :
    decisions.foldl Made.countDenial denials =
      denials + UInt32.ofNat (decisions.filter (Made.atLeast 2)).length := by
  induction decisions generalizing denials with
  | nil => simp
  | cons made decisions ih =>
      rw [List.foldl_cons, ih, Made.countDenial, List.filter_cons, atLeast_two]
      cases made.decision.action.allows with
      | true => simp [countIf]
      | false =>
          simp only [countIf, Bool.not_false, if_true, List.length_cons, UInt32.ofNat_add]
          rw [UInt32.add_assoc, UInt32.add_comm 1]
          rfl

/-- Attached with a least severity of 2, `nvlog` gets exactly one record for each denial that the
instance counts. -/
theorem nvlog_counts_denials (consistent : station.Consistent)
    (initialized : (station.budgets budget).magic = magicInit) (log : Port)
    (keeps : ∀ event ∈ events, event.Keeps .nvlog budget) :
    let start := (stationMachine B Instance Port).next station (.attachNvlog budget log 2)
    let records := (stationMachine B Instance Port).emitted (hookWrites B budget) start events
    (((stationMachine B Instance Port).run start events).budgets budget).journal.totalDenials =
      (station.budgets budget).journal.totalDenials + UInt32.ofNat records.length := by
  intro start records
  have context : start.nvlog = ⟨some budget, some log, 2⟩ := setHook_nvlog (some budget) .nvlog
  have set : start.hooks budget = some .nvlog ∧ start.budgets budget = _ :=
    setHook_of_initialized { station with nvlog := ⟨budget, log, 2⟩ } .nvlog initialized
  have magic : (start.budgets budget).magic = magicInit := (magic_next budget).trans initialized
  rcases run_delivers (B := B) (consistent.next _) set.1 keeps with ⟨-, state, writes⟩
  have records_eq : records = _ := writes.trans (passOn_nvlog context magic _)
  rw [state, run_totalDenials, foldl_countDenial, records_eq, List.length_map, set.2]

theorem nvlog_counts_denials_sample :
    let start := (stationMachine Build.full Bool Nat).next samplePair
      (.attachNvlog (some true) (some 9) 2)
    let records := (stationMachine Build.full Bool Nat).emitted (hookWrites Build.full true) start
      sampleEvents
    (((stationMachine Build.full Bool Nat).run start
        sampleEvents).budgets true).journal.totalDenials =
      (samplePair.budgets true).journal.totalDenials + UInt32.ofNat records.length :=
  nvlog_counts_denials samplePair_consistent (by decide +kernel) 9 (sampleEvents_keep (by decide))

/-! ## Lines of microlog -/

omit [DecidableEq Instance] in
theorem passOn_microlog {log : Port} {minAction : UInt32}
    (context : station.microlog = ⟨some log, minAction⟩) (decisions : List Made) :
    decisions.flatMap (station.passOn .microlog) =
      (decisions.filter fun made => minAction ≤ made.decision.action.raw).map fun made =>
        .micrologWrite log (micrologMessage made.decision made.op) := by
  induction decisions with
  | nil => rfl
  | cons made decisions ih =>
      rw [List.flatMap_cons, ih, List.filter_cons, passOn, onDecision, context]
      simp only [mlOnDecision]
      by_cases severe : minAction ≤ made.decision.action.raw
      · rw [if_neg (UInt32.not_lt.mpr severe), if_pos (by simpa using severe)]
        rfl
      · rw [if_pos (UInt32.not_le.mp severe), if_neg (by simpa using severe)]
        rfl

/-- Scanning the log gives back, in their order, the op, the action, the pressure and the reason of
all decisions whose action is not below the least one. -/
theorem microlog_replays (consistent : station.Consistent)
    (initialized : (station.budgets budget).magic = magicInit) (log : Port) (minAction : UInt32)
    (keeps : ∀ event ∈ events, event.Keeps .microlog budget) :
    let start := (stationMachine B Instance Port).next station
      (.attachMicrolog budget log minAction)
    let decisions := decisionsOf B (start.budgets budget)
      (events.filterMap (StationEvent.callOn budget))
    ∃ lines : List (List Char),
      (stationMachine B Instance Port).emitted (hookWrites B budget) start events =
        lines.map (.micrologWrite log) ∧
      lines.map (scan messageFormat) =
        (decisions.filter fun made => minAction ≤ made.decision.action.raw).map fun made =>
          messageValues made.decision made.op := by
  intro start decisions
  have context : start.microlog = ⟨some log, minAction⟩ := setHook_microlog (some budget) .microlog
  have set : start.hooks budget = some .microlog ∧ start.budgets budget = _ :=
    setHook_of_initialized { station with microlog := ⟨log, minAction⟩ } .microlog initialized
  have writes := (run_delivers (B := B) (consistent.next _) set.1 keeps).2.2
  refine ⟨(decisions.filter fun made => minAction ≤ made.decision.action.raw).map fun made =>
    micrologMessage made.decision made.op, ?_, ?_⟩
  · rw [List.map_map]
    exact writes.trans (passOn_microlog context decisions)
  · simp only [List.map_map, Function.comp_def, scan_micrologMessage]

theorem microlog_replays_sample :
    let start := (stationMachine Build.full Bool Nat).next samplePair
      (.attachMicrolog (some true) (some 9) 1)
    let decisions := decisionsOf Build.full (start.budgets true)
      (sampleEvents.filterMap (StationEvent.callOn true))
    ∃ lines : List (List Char), (stationMachine Build.full Bool Nat).emitted
        (hookWrites Build.full true) start sampleEvents = lines.map (.micrologWrite 9) ∧
      lines.map (scan messageFormat) =
        (decisions.filter fun made => 1 ≤ made.decision.action.raw).map fun made =>
          messageValues made.decision made.op :=
  microlog_replays samplePair_consistent (by decide +kernel) 9 1 (sampleEvents_keep (by decide))

/-! ## Flushes of loxguard -/

/-- A call that is neither a record of a lockdown for `loxguard` nor a flush. -/
def IsOrdinary : Write Port → Prop
  | .loxguardPush _ record => record.action ≠ Action.lockdown.raw.toUInt8
  | .loxguardFlush _ => False
  | _ => True

/-- Each record of a lockdown is followed by a flush of the same guard, and nothing else is flushed
at any time. -/
inductive Flushed : List (Write Port) → Prop
  | nil : Flushed []
  | ordinary {write : Write Port} {writes : List (Write Port)} (ordinary : IsOrdinary write)
      (flushed : Flushed writes) : Flushed (write :: writes)
  | lockdown {guard : Port} {record : AdapterRecord} {writes : List (Write Port)}
      (locks : record.action = Action.lockdown.raw.toUInt8) (flushed : Flushed writes) :
      Flushed (.loxguardPush guard record :: .loxguardFlush guard :: writes)

theorem Flushed.append {first second : List (Write Port)} (flushed : Flushed first)
    (later : Flushed second) : Flushed (first ++ second) := by
  induction flushed with
  | nil => exact later
  | ordinary ordinary _ ih => exact .ordinary ordinary ih
  | lockdown locks _ ih => exact .lockdown locks ih

theorem Flushed.flatMap {Cause : Type*} {causes : List Cause} {effect : Cause → List (Write Port)}
    (each : ∀ cause, Flushed (effect cause)) : Flushed (causes.flatMap effect) := by
  induction causes with
  | nil => exact .nil
  | cons cause causes ih => exact (each cause).append ih

omit [DecidableEq Instance] in
theorem lgOnDecision_flushed (takeSnapshot : Instance → Option UInt32)
    (ctx : LoxguardContext Instance Port) (d : Decision) (op : OpId) :
    Flushed (lgOnDecision takeSnapshot ctx d op) := by
  simp only [lgOnDecision]
  split
  · split
    · exact .nil
    split
    · exact .nil
    by_cases locks : d.action = .lockdown
    · rw [if_pos locks]
      refine .lockdown ?_ .nil
      rw [AdapterRecord.ofDecision, locks]
    · rw [if_neg locks]
      refine .ordinary ?_ .nil
      change d.action.raw.toUInt8 ≠ _
      generalize d.action = action at locks ⊢
      cases action with
      | lockdown => exact absurd rfl locks
      | _ => decide
  · exact .nil

omit [DecidableEq Instance] in
theorem onDecision_flushed (reading : Hal) (hook : Hook) (d : Decision) (op : OpId) :
    Flushed (station.onDecision reading hook d op) := by
  cases hook with
  | loxguard => exact lgOnDecision_flushed _ _ d op
  | nvlog =>
      simp only [onDecision, nvOnDecision]
      repeat' split
      all_goals first | exact .nil | exact .ordinary trivial .nil
  | microbus =>
      simp only [onDecision, mbOnDecision]
      repeat' split
      all_goals first | exact .nil | exact .ordinary trivial .nil
  | microlog =>
      simp only [onDecision, mlOnDecision]
      repeat' split
      all_goals first | exact .nil | exact .ordinary trivial .nil
  | application => exact .nil

/-- In every run of any instances with any adapters, each record of a lockdown is followed at once
by a flush of the same guard, and nothing else causes a flush. -/
theorem lockdowns_flushed (station : Station Instance Port)
    (events : List (StationEvent Instance Port)) :
    Flushed ((stationMachine B Instance Port).emitted
      (fun station event => ((stationMachine B Instance Port).reply station event).writes)
      station events) := by
  apply Machine.emitted_induction
  · exact .nil
  · exact fun _ _ => Flushed.append
  · intro station event
    cases event with
    | call budget event reading =>
        change Flushed (station.publicCall B budget event reading).1.writes
        simp only [publicCall]
        split
        · exact .nil
        · exact .flatMap fun _ => onDecision_flushed _ _ _ _
    | microbusSetPressure budget bus pressure =>
        change Flushed (station.microbusSetPressure budget bus pressure).1.writes
        simp only [microbusSetPressure]
        repeat' split
        all_goals first | exact .nil | exact .ordinary trivial .nil
    | _ => exact .nil

end Station

end Loxbudget
