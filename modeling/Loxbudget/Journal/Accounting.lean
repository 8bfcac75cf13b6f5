import Loxbudget.Decision.Admission
import Loxbudget.Journal.Trail

/-!
# Every decision is accounted exactly once

`loxbudget_check` repeats its bookkeeping at each of its exits. Here it is stated once:
`Budget.accounted` counts a decision, records it and calls the hook, and
`decide_accounted` shows that every exit does exactly this with the decision that it
returns. What `enter` does after its decision leaves the journal alone.

Over runs, the records since the last `audit_clear` are kept in a history that the
instance never reads, and `audit_get_recent` reads the beginning of that history.
-/

namespace Loxbudget

/-! ## The bookkeeping of one decision -/

/-- What a condition adds to a 32-bit counter. -/
def countIf (condition : Bool) : UInt32 :=
  if condition then 1 else 0

/-- The counters after a decision. -/
def Journal.counted (d : Decision) (journal : Journal) : Journal :=
  { journal with
    totalDecisions := journal.totalDecisions + 1
    totalGrants := journal.totalGrants + countIf d.action.allows
    totalDenials := journal.totalDenials + countIf (!d.action.allows)
    totalDegradations := journal.totalDegradations + countIf (d.action = .allowDegraded) }

/-- A decision is counted, recorded and handed to the hook. -/
def Budget.accounted (B : Build) (hal : Hal) (op : OpId) (d : Decision) (budget : Budget) :
    Budget :=
  (({ budget with journal := budget.journal.counted d }).auditRecord B hal op d).callDecisionHook
    op d

theorem deny_snd (B : Build) (hal : Hal) (op : OpId) {d : Decision} (budget : Budget)
    (denies : d.action.allows = false) :
    (budget.deny B hal op d).2 = budget.accounted B hal op d := by
  have full : d.action ≠ .allowDegraded := by
    intro degraded
    simp [degraded, Action.allows] at denies
  simp [Budget.deny, Budget.accounted, Journal.counted, countIf, denies, full]

theorem grant_snd (B : Build) (hal : Hal) (op : OpId) {d : Decision} (budget : Budget)
    (allows : d.action.allows = true) :
    (budget.grant B hal op d).2 = budget.accounted B hal op d := by
  by_cases degraded : d.action = .allowDegraded
  · simp [Budget.grant, Budget.accounted, Journal.counted, countIf, degraded, Action.allows]
  · simp [Budget.grant, Budget.accounted, Journal.counted, countIf, allows, degraded]

theorem accounted_rateState (B : Build) (hal : Hal) (op : OpId) (d : Decision) (budget : Budget)
    (rateState : ResourceId → RateState) :
    Budget.accounted B hal op d { budget with rateState := rateState } =
      { budget.accounted B hal op d with rateState := rateState } := by
  simp only [Budget.accounted, Budget.auditRecord]
  split
  · simp only [Budget.callDecisionHook]
    split <;> rfl
  · simp only [Budget.callDecisionHook]
    split <;> rfl

theorem decide_exit (B : Build) (hal : Hal) (budget : Budget) (op : OpId) :
    ∃ rateState, (decide B hal budget op).2 =
      Budget.accounted B hal op (decide B hal budget op).1
        { budget with rateState := rateState } := by
  simp only [decide]
  split
  · exact ⟨budget.rateState, deny_snd B hal op budget rfl⟩
  rename_i profile _
  split
  · exact ⟨budget.rateState, deny_snd B hal op budget rfl⟩
  split
  · rename_i blocked
    refine ⟨budget.rateState, deny_snd B hal op budget ?_⟩
    rcases blocked with waits | rejects | locks
    · simp [waits, Action.allows]
    · simp [rejects, Action.allows]
    · simp [locks, Action.allows]
  rename_i unblocked
  split
  · exact ⟨budget.rateState, deny_snd B hal op budget rfl⟩
  split
  · rename_i pass d checked
    exact ⟨pass.rateState, deny_snd B hal op _ (checkNeeds_denies (congrArg Prod.snd checked))⟩
  rename_i pass checked
  split
  · rename_i d cascaded
    exact ⟨pass.rateState, deny_snd B hal op _ (checkCascade_denies cascaded)⟩
  · exact ⟨pass.rateState, grant_snd B hal op _
      (allows_iff.mpr (allows_of_not_blocked unblocked))⟩

/-- Every exit of `loxbudget_check` accounts the decision that it returns; besides, it has only
rolled windows. -/
theorem decide_accounted (B : Build) (hal : Hal) (budget : Budget) (op : OpId) :
    (decide B hal budget op).2 =
      { budget.accounted B hal op (decide B hal budget op).1 with
        rateState := (decide B hal budget op).2.rateState } := by
  rcases decide_exit B hal budget op with ⟨rateState, exited⟩
  rw [accounted_rateState] at exited
  rw [exited]

/-- What one decision leaves in the journal. -/
structure Accounted (hal : Hal) (op : OpId) (d : Decision) (before after : Budget) : Prop where
  decisions : after.journal.totalDecisions = before.journal.totalDecisions + 1
  grants : after.journal.totalGrants = before.journal.totalGrants + countIf d.action.allows
  denials : after.journal.totalDenials = before.journal.totalDenials + countIf (!d.action.allows)
  degradations : after.journal.totalDegradations =
    before.journal.totalDegradations + countIf (d.action = .allowDegraded)
  record : after.trail =
    (DecisionRecord.ofDecision hal op d :: before.trail).take before.auditSize.toNat
  hook : after.journal.hookCalls =
    if before.decisionHook then (d, op) :: before.journal.hookCalls
    else before.journal.hookCalls

theorem auditRecord_frame (B : Build) (hal : Hal) (op : OpId) (d : Decision)
    (budget : Budget) :
    ∃ ring head count, budget.auditRecord B hal op d =
      { budget with
        journal := { budget.journal with
          auditRing := ring, auditHead := head, auditCount := count } } := by
  simp only [Budget.auditRecord]
  split
  · exact ⟨_, _, _, rfl⟩
  · exact ⟨_, _, _, rfl⟩

theorem accounted_frame (B : Build) (hal : Hal) (op : OpId) (d : Decision) (budget : Budget) :
    ∃ ring head count, budget.accounted B hal op d =
      { budget with
        journal := { budget.journal.counted d with
          auditRing := ring
          auditHead := head
          auditCount := count
          hookCalls := if budget.decisionHook then (d, op) :: budget.journal.hookCalls
            else budget.journal.hookCalls } } := by
  rcases auditRecord_frame B hal op d { budget with journal := budget.journal.counted d } with
    ⟨ring, head, count, frame⟩
  refine ⟨ring, head, count, ?_⟩
  rw [Budget.accounted, frame]
  by_cases hooked : budget.decisionHook = true
  · simp only [Budget.callDecisionHook, if_pos hooked]
    rfl
  · simp only [Budget.callDecisionHook, if_neg hooked]
    rfl

theorem accounted_trails {B : Build} (audit : B.enableAuditTrail = true) (hal : Hal) (op : OpId)
    (d : Decision) {budget : Budget} {history : List DecisionRecord}
    (trails : budget.Trails history) :
    (budget.accounted B hal op d).Trails (.ofDecision hal op d :: history) := by
  have counted : ({ budget with journal := budget.journal.counted d } : Budget).Trails history :=
    trails.of_frame rfl rfl rfl rfl
  have recorded := counted.auditRecord audit hal op d
  rw [Budget.accounted, Budget.callDecisionHook]
  split
  · exact recorded.of_frame rfl rfl rfl rfl
  · exact recorded

theorem accounted_spec {B : Build} (audit : B.enableAuditTrail = true) (hal : Hal) (op : OpId)
    (d : Decision) {budget : Budget} {history : List DecisionRecord}
    (trails : budget.Trails history) : Accounted hal op d budget (budget.accounted B hal op d) := by
  have recorded := accounted_trails audit hal op d trails
  rcases accounted_frame B hal op d budget with ⟨ring, head, count, frame⟩
  have size : (budget.accounted B hal op d).auditSize = budget.auditSize := by
    rw [frame]
  have record : (budget.accounted B hal op d).trail =
      (DecisionRecord.ofDecision hal op d :: budget.trail).take budget.auditSize.toNat := by
    rw [recorded.trail_eq, trails.trail_eq, size]
    cases budget.auditSize.toNat with
    | zero => rfl
    | succ size =>
        simp only [List.take_succ_cons, List.cons.injEq, true_and, List.take_take]
        congr 1
        omega
  exact
    { decisions := congrArg (·.journal.totalDecisions) frame
      grants := congrArg (·.journal.totalGrants) frame
      denials := congrArg (·.journal.totalDenials) frame
      degradations := congrArg (·.journal.totalDegradations) frame
      record := record
      hook := congrArg (·.journal.hookCalls) frame }

theorem Accounted.of_journal {hal : Hal} {op : OpId} {d : Decision} {before after after' : Budget}
    (accounted : Accounted hal op d before after) (journal : after'.journal = after.journal)
    (size : after'.auditSize = after.auditSize) : Accounted hal op d before after' := by
  have trail : after'.trail = after.trail := by
    simp only [Budget.trail, Budget.recentIndex, journal, size]
  rcases accounted with ⟨decisions, grants, denials, degradations, record, hook⟩
  rw [← journal] at decisions grants denials degradations hook
  rw [← trail] at record
  exact ⟨decisions, grants, denials, degradations, record, hook⟩

/-! ## The calls that decide -/

theorem enter_journal (B : Build) (hal : Hal) (budget : Budget) (op : OpId) (out : Bool) :
    ∃ resources rateState leaseSlots, (enter B hal budget op out).2 =
      { (check B hal budget op true).2.2 with
        resources := resources, rateState := rateState, leaseSlots := leaseSlots } := by
  rcases enter_checked B hal budget op out with ⟨-, after⟩ | ⟨slotId, -, -, entered⟩
  · rw [after]
    exact ⟨_, _, _, rfl⟩
  · rw [entered]
    exact ⟨_, _, _, rfl⟩

/-- The decision that a call makes, with its op. -/
def decisionMade (B : Build) (budget : Budget) (event : Event) : Option (OpId × Decision) :=
  match event.call with
  | .check op out => (check B event.hal budget op out).2.1.map (op, ·)
  | .enter op _ => (check B event.hal budget op true).2.1.map (op, ·)
  | _ => none

/-- `loxbudget_audit_clear` empties the ring, and leaves the counters alone. -/
theorem next_auditClear {B : Build} (audit : B.enableAuditTrail = true) (hal : Hal)
    (budget : Budget) :
    let after := (machine B).next budget ⟨hal, .auditClear⟩
    (after = budget ∧ (budget.magic = magicInit → budget.auditSize = 0)) ∨
      after = { budget with
        journal := { budget.journal with
          auditHead := 0
          auditCount := 0
          auditRing := List.replicate budget.auditSize.toNat .zero } } := by
  intro after
  have after_eq : after = (auditClear budget).2 := by
    simp [after, Machine.next, machine, exec, audit]
  rw [after_eq]
  simp only [auditClear]
  split
  · rename_i invalid
    exact Or.inl ⟨rfl, fun initialized => absurd (validate_eq_ok.mpr initialized) invalid⟩
  split
  · rename_i size_eq
    exact Or.inl ⟨rfl, fun _ => size_eq⟩
  · exact Or.inr rfl

theorem check_of_undecided {B : Build} {hal : Hal} {budget : Budget} {op : OpId} {out : Bool}
    (undecided : (check B hal budget op out).2.1 = none) :
    (check B hal budget op out).2.2 = budget := by
  simp only [check] at undecided ⊢
  split
  · rfl
  rename_i given
  split
  · rfl
  rename_i valid
  rw [if_neg given, if_neg valid] at undecided
  simp at undecided

/-- A call that makes no decision leaves the journal alone, unless it clears the ring. -/
theorem next_journal_of_none {B : Build} {budget : Budget} {event : Event}
    (undecided : decisionMade B budget event = none) (keeps : event.call ≠ .auditClear) :
    ((machine B).next budget event).auditSize = budget.auditSize ∧
      ((machine B).next budget event).journal = budget.journal := by
  by_cases quiet : event.call.isQuiet = true
  · have writes := next_writes B budget event quiet
    rcases event with ⟨hal, call⟩
    by_cases checks : ∃ op out, call = .check op out
    · rcases checks with ⟨op, out, rfl⟩
      have unchanged := check_of_undecided (Option.map_eq_none_iff.mp undecided)
      change (check B hal budget op out).2.2.auditSize = _ ∧
        (check B hal budget op out).2.2.journal = _
      rw [unchanged]
      exact ⟨rfl, rfl⟩
    · generalize (machine B).next budget ⟨hal, call⟩ = after at writes ⊢
      cases writes with
      | check op out => exact absurd ⟨op, out, rfl⟩ checks
      | auditClear => exact absurd rfl keeps
      | _ => exact ⟨rfl, rfl⟩
  · rcases event with ⟨hal, call⟩
    cases call with
    | enter op out =>
        rcases enter_journal B hal budget op out with ⟨resources, rateState, leaseSlots, entered⟩
        rw [next_enter, entered, check_of_undecided (Option.map_eq_none_iff.mp undecided)]
        exact ⟨rfl, rfl⟩
    | leave lease =>
        rcases leave_frame budget lease with ⟨resources, leaseSlots, left⟩
        rw [next_leave, left]
        exact ⟨rfl, rfl⟩
    | _ => exact absurd rfl quiet

/-- A call that makes a decision accounts it; besides, it changes resources, windows and lease
slots only. -/
theorem next_of_decided {B : Build} {budget : Budget} {event : Event} {op : OpId} {d : Decision}
    (decided : decisionMade B budget event = some (op, d)) :
    ∃ resources rateState leaseSlots, (machine B).next budget event =
      { budget.accounted B event.hal op d with
        resources := resources, rateState := rateState, leaseSlots := leaseSlots } := by
  have frame (op : OpId) (d : Decision)
      (checked : (check B event.hal budget op true).2.1 = some d) :
      ∃ rateState, (check B event.hal budget op true).2.2 =
        { budget.accounted B event.hal op d with rateState := rateState } := by
    by_cases valid : budget.validate = .ok
    · rw [check_of_initialized (validate_eq_ok.mp valid)] at checked ⊢
      obtain rfl := Option.some.inj checked
      exact ⟨_, decide_accounted B event.hal budget op⟩
    · simp [check, valid] at checked
  rcases event with ⟨hal, call⟩
  cases call with
  | check op' out =>
      simp only [decisionMade, Option.map_eq_some_iff, Prod.mk.injEq] at decided
      rcases decided with ⟨d', checked, rfl, rfl⟩
      cases out with
      | false => simp [check] at checked
      | true =>
          rcases frame op' d' checked with ⟨rateState, after⟩
          exact ⟨_, rateState, _, after⟩
  | enter op' out =>
      simp only [decisionMade, Option.map_eq_some_iff, Prod.mk.injEq] at decided
      rcases decided with ⟨d', checked, rfl, rfl⟩
      rcases frame op' d' checked with ⟨rateState, after⟩
      rcases enter_journal B hal budget op' out with ⟨resources, rates, leaseSlots, entered⟩
      refine ⟨resources, rates, leaseSlots, ?_⟩
      rw [next_enter, entered, after]
  | _ => simp [decisionMade] at decided

/-! ## Runs with a history of the records -/

/-- A decision is added to the history, and clearing the ring empties it. -/
def recordDecision (B : Build) (history : List DecisionRecord) (before : Budget) (event : Event)
    (reply : Reply) : List DecisionRecord :=
  match decisionMade B before event with
  | some (op, d) => .ofDecision event.hal op d :: history
  | none => if event.call = .auditClear ∧ reply.status = .ok then [] else history

/-- The instance with the records of its decisions since `init` or the last `audit_clear`, newest
first. -/
def auditMachine (B : Build) : Machine (Budget × List DecisionRecord) Event Reply :=
  (machine B).observe fun history before event reply _ =>
    recordDecision B history before event reply

/-- The history does not influence the instance. -/
theorem auditMachine_run (B : Build) (state : Budget × List DecisionRecord)
    (events : List Event) :
    ((auditMachine B).run state events).1 = (machine B).run state.1 events :=
  (machine B).observe_run_fst _ state

/-- One call keeps the ring in step with the history. -/
theorem Budget.Trails.next {B : Build} (audit : B.enableAuditTrail = true) {budget : Budget}
    {history : List DecisionRecord} (trails : budget.Trails history)
    (initialized : budget.magic = magicInit) (event : Event) :
    ((machine B).next budget event).Trails
      (recordDecision B history budget event ((machine B).reply budget event)) := by
  cases made : decisionMade B budget event with
  | some decided =>
      rcases decided with ⟨op, d⟩
      have accounted := accounted_trails audit event.hal op d trails
      rcases next_of_decided made with ⟨resources, rateState, leaseSlots, after⟩
      rw [after]
      simp only [recordDecision, made]
      exact accounted.of_frame rfl rfl rfl rfl
  | none =>
      by_cases clears : event.call = .auditClear
      · rcases event with ⟨hal, call⟩
        simp only at clears
        subst clears
        rcases next_auditClear audit hal budget with ⟨after, unused⟩ | after
        · have size_eq := unused initialized
          rw [after]
          exact ⟨trails.size_pow2, trails.ring_length, fun size_ne => absurd size_eq size_ne,
            trails.unused⟩
        · have status : ((machine B).reply budget ⟨hal, .auditClear⟩).status = .ok := by
            have valid := validate_eq_ok.mpr initialized
            simp only [Machine.reply, machine, exec, audit, if_true, auditClear,
              if_neg (not_not.mpr valid)]
            split <;> rfl
          rw [after]
          simp only [recordDecision, made, status, and_self, if_true]
          exact trails.cleared
      · rcases next_journal_of_none made clears with ⟨size, journal⟩
        simp only [recordDecision, made, clears, false_and, if_false]
        apply trails.of_frame size <;> rw [journal]

theorem Started.journal {B : Build} {start : Budget} (started : Started B start) :
    isPow2OrZeroU8 start.auditSize = true ∧
      start.journal = ⟨0, 0, 0, 0, 0, 0, List.replicate start.auditSize.toNat .zero, []⟩ := by
  rcases started with ⟨hal, previous, args, success⟩
  rcases init_ok success with ⟨valid, cfg, given, fits⟩
  rw [init, if_neg (not_not.mpr valid), given] at success
  simp only [if_neg fits, Prod.mk.injEq, true_and] at success
  subst success
  refine ⟨?_, rfl⟩
  simp only [validateInitArgs, given] at valid
  repeat' split at valid
  all_goals simp_all

theorem Started.trails {B : Build} {start : Budget} (started : Started B start) :
    start.Trails [] := by
  rcases started.journal with ⟨pow2, journal⟩
  refine ⟨pow2, by simp [journal], fun size_ne => ?_, fun _ => by rw [journal]⟩
  rw [journal]
  apply Ring.Holds.empty
  simpa using (toNat_sub_one size_ne).1

theorem auditMachine_trails {B : Build} (audit : B.enableAuditTrail = true) {start : Budget}
    (started : Started B start) (events : List Event) :
    ((machine B).run start events).Trails ((auditMachine B).run (start, []) events).2 := by
  rw [← auditMachine_run B (start, []) events]
  have initially : WellFormed B start ∧ start.Trails [] :=
    ⟨(Reachable.of_started started).wellFormed, started.trails⟩
  have preserved : ∀ state event, WellFormed B state.1 ∧ state.1.Trails state.2 →
      WellFormed B ((auditMachine B).next state event).1 ∧
        ((auditMachine B).next state event).1.Trails ((auditMachine B).next state event).2 :=
    fun state event kept => ⟨kept.1.next event, kept.2.next audit kept.1.initialized event⟩
  exact (Machine.run_invariant' preserved initially).2

theorem Reachable.trails {B : Build} (audit : B.enableAuditTrail = true) {budget : Budget}
    (reachable : Reachable B budget) : ∃ history, budget.Trails history := by
  rcases reachable with ⟨start, started, events, rfl⟩
  exact ⟨_, auditMachine_trails audit started events⟩

/-- The count of records to copy, narrowed to a byte. -/
theorem Budget.Trails.copied_toNat {budget : Budget} {history : List DecisionRecord}
    (trails : budget.Trails history) (size_ne : budget.auditSize ≠ 0) (maxRecords : UInt64) :
    (if maxRecords < budget.journal.auditCount.toUInt64 then maxRecords
      else budget.journal.auditCount.toUInt64).toUInt8.toNat =
      min maxRecords.toNat (min budget.auditSize.toNat history.length) := by
  have count_eq := (trails.holds size_ne).count_eq
  have count_lt := budget.journal.auditCount.toNat_lt
  rw [trails.ring_length] at count_eq
  rw [UInt64.toNat_toUInt8]
  split
  · rename_i fewer
    rw [UInt64.lt_iff_toNat_lt, UInt8.toNat_toUInt64] at fewer
    omega
  · rename_i enough
    rw [UInt64.lt_iff_toNat_lt, UInt8.toNat_toUInt64] at enough
    rw [UInt8.toNat_toUInt64]
    omega

/-- After any run from a successful `init`, `audit_get_recent` returns the newest records written
since then or since the last `audit_clear`, newest first, and changes nothing. -/
theorem audit_recent_refines {B : Build} (audit : B.enableAuditTrail = true) {start : Budget}
    (started : Started B start) (events : List Event) (maxRecords : UInt64) :
    let budget := (machine B).run start events
    let history := ((auditMachine B).run (start, []) events).2
    let amount := min maxRecords.toNat (min budget.auditSize.toNat history.length)
    auditGetRecent budget true maxRecords true =
      (.ok, some ⟨history.take amount, UInt64.ofNat amount⟩, budget) := by
  intro budget history amount
  have trails : budget.Trails history := auditMachine_trails audit started events
  have valid : budget.validate = .ok :=
    validate_eq_ok.mpr ((Reachable.of_started started).run events).wellFormed.initialized
  simp only [auditGetRecent, Bool.true_eq_false, if_false, if_neg (not_not.mpr valid), or_false]
  by_cases nothing : budget.auditSize = 0 ∨ maxRecords = 0
  · have amount_eq : amount = 0 := by
      rcases nothing with size_eq | max_eq
      · simp [amount, size_eq]
      · simp [amount, max_eq]
    rw [if_pos nothing, amount_eq]
    rfl
  · rw [not_or] at nothing
    have copied := trails.copied_toNat nothing.1 maxRecords
    have held := trails.holds nothing.1
    have count_eq := held.count_eq
    have size_lt := budget.auditSize.toNat_lt
    rw [trails.ring_length] at count_eq
    have few : amount ≤ budget.journal.auditCount.toNat := by omega
    have read := held.read few DecisionRecord.zero
    rw [trails.ring_length] at read
    have records : (List.range amount).map (fun i =>
        budget.journal.auditRing.getD (budget.recentIndex (UInt8.ofNat i)).toNat .zero) =
        history.take amount := by
      rw [← read]
      apply List.map_congr_left
      intro age listed
      have early : age < budget.journal.auditCount.toNat :=
        (List.mem_range.mp listed).trans_le few
      rw [trails.recentIndex_toNat nothing.1 early]
    have count : ∀ v : UInt8, v.toNat = amount → v.toUInt64 = UInt64.ofNat amount := by
      intro v same
      apply UInt64.toNat_inj.mp
      rw [← same]
      simp
    rw [if_neg (not_or.mpr nothing), copied, records, count _ copied]

/-- The sample arguments with a ring of two audit records. -/
def InitArgs.audited : InitArgs :=
  { InitArgs.sample with cfg := some ⟨8, 16, 4, 2, 0, none⟩ }

/-- The instance that these arguments start in the default build. -/
def Budget.audited : Budget :=
  (init Build.full (Hal.permissive 0) .zero .audited).2

theorem started_audited : Started Build.full .audited :=
  ⟨Hal.permissive 0, .zero, .audited, Prod.ext (by decide +kernel) rfl⟩

/-- Three decisions on ops that are not registered. -/
def threeChecks : List Event :=
  [.permissive (.check 7 true), .permissive (.check 8 true), .permissive (.enter 9 true)]

theorem audit_recent_threeChecks :
    (auditGetRecent ((machine Build.full).run .audited threeChecks) true 5 true).2.1 =
      some ⟨[⟨0, 9, 0xFF, 0, 0, .reject, .normal, .unknownOp⟩,
        ⟨0, 8, 0xFF, 0, 0, .reject, .normal, .unknownOp⟩], 2⟩ :=
  (congrArg (·.2.1) (audit_recent_refines rfl started_audited threeChecks 5)).trans
    (by decide +kernel)

/-! ## Every decision is accounted -/

/-- In every reachable state, counted modulo 2^32, every decision was a grant or a denial. -/
theorem Reachable.decisions_eq {B : Build} {budget : Budget} (reachable : Reachable B budget) :
    budget.journal.totalDecisions =
      budget.journal.totalGrants + budget.journal.totalDenials := by
  apply reachable.induction
  · intro start started
    rw [started.journal.2]
    rfl
  · intro budget event balanced
    cases made : decisionMade B budget event with
    | some decided =>
        rcases next_of_decided made with ⟨resources, rateState, leaseSlots, after⟩
        rcases accounted_frame B event.hal decided.1 decided.2 budget with
          ⟨ring, head, count, frame⟩
        rw [after, frame]
        simp only [Journal.counted, balanced, countIf]
        cases decided.2.action.allows
        · simp only [Bool.not_false, Bool.false_eq_true, if_true, if_false, UInt32.add_zero]
          rw [UInt32.add_assoc]
        · simp only [Bool.not_true, Bool.false_eq_true, if_true, if_false, UInt32.add_zero]
          rw [UInt32.add_assoc, UInt32.add_assoc, UInt32.add_comm 1]
    | none =>
        by_cases clears : event.call = .auditClear
        · rcases event with ⟨hal, call⟩
          simp only at clears
          subst clears
          by_cases audit : B.enableAuditTrail = true
          · rcases next_auditClear audit hal budget with ⟨after, -⟩ | after
            · rw [after]
              exact balanced
            · rw [after]
              exact balanced
          · have after : (machine B).next budget ⟨hal, .auditClear⟩ = budget := by
              simp [Machine.next, machine, exec, audit]
            rw [after]
            exact balanced
        · rw [(next_journal_of_none made clears).2]
          exact balanced

/-- In every reachable state of a build with the audit trail, `check` with an output and `enter`
account the decision on the op exactly once, whether or not `enter` then fails. -/
theorem decision_accounted_once {B : Build} (audit : B.enableAuditTrail = true) {budget : Budget}
    (reachable : Reachable B budget) (hal : Hal) (op : OpId) :
    ∃ d after, check B hal budget op true = (.ok, some d, after) ∧
      Accounted hal op d budget after ∧
      (∀ out, Accounted hal op d budget (enter B hal budget op out).2) ∧
      budget.journal.totalDecisions =
        budget.journal.totalGrants + budget.journal.totalDenials := by
  have initialized := reachable.wellFormed.initialized
  rcases reachable.trails audit with ⟨history, trails⟩
  have spec := accounted_spec audit hal op (decide B hal budget op).1 trails
  have decided := decide_accounted B hal budget op
  refine ⟨_, _, check_of_initialized initialized, ?_, ?_, reachable.decisions_eq⟩
  · rw [decided]
    exact spec.of_journal rfl rfl
  · intro out
    rcases enter_journal B hal budget op out with ⟨resources, rateState, leaseSlots, entered⟩
    rw [entered, check_of_initialized initialized, decided]
    exact spec.of_journal rfl rfl

theorem decision_accounted_oneOp :
    let budget := (machine Build.full).run .audited oneOp
    ∃ d after, check Build.full (Hal.permissive 0) budget 0 true = (.ok, some d, after) ∧
      Accounted (Hal.permissive 0) 0 d budget after ∧
      (∀ out, Accounted (Hal.permissive 0) 0 d budget
        (enter Build.full (Hal.permissive 0) budget 0 out).2) ∧
      budget.journal.totalDecisions =
        budget.journal.totalGrants + budget.journal.totalDenials :=
  decision_accounted_once rfl ((Reachable.of_started started_audited).run oneOp)
    (Hal.permissive 0) 0

end Loxbudget
