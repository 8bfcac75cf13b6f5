import Loxbudget.Rate.FixedWindow

/-!
# What a check leaves behind

`loxbudget_check` is announced as a query, but it rolls the windows that it looks at,
and the roll stays. In the fixed-window build this is a change only if it restarts an
expired window: the next window then begins at the time of the query. As long as no
inserted check does this, a run of `enter` and `leave` calls is answered as without
the checks.
-/

namespace Loxbudget

/-! ## When a check restarts a window -/

/-- The window limits something, and its duration has passed at the reading. -/
def RateWindow.Expired (window : RateWindow) (nowMs : UInt32) : Prop :=
  window.unlimited = false ∧ window.windowDurationMs ≤ nowMs - window.windowStartMs

instance (window : RateWindow) (nowMs : UInt32) : Decidable (window.Expired nowMs) :=
  inferInstanceAs (Decidable (_ ∧ _))

/-- The loop over the windows comes to an expired one, past windows that admit the amount. -/
def WindowsRestart (nowMs amount : UInt32) : List RateWindow → Prop
  | [] => False
  | window :: later =>
      window.Expired nowMs ∨
        window.Admits .fixedWindow nowMs amount ∧ WindowsRestart nowMs amount later

variable (B : Build) (hal : Hal) (budget : Budget) (profile : OpProfile)

/-- The check of a need gets to its windows, and to an expired one among them. -/
structure NeedRestarts (need : Need) : Prop where
  amount_ne : need.amount ≠ 0
  limited : RateLimited B budget profile need.resource
  fits : (budget.resources need.resource).Fits need.amount
  lifetime : (budget.rateState need.resource).AdmitsLifetime need.amount.toUInt32
  windows : WindowsRestart hal.nowMs need.amount.toUInt32
    (budget.rateState need.resource).windows

/-- The loop over the needs comes to one that restarts a window, past needs that are admitted. -/
def NeedsRestart : List Need → Prop
  | [] => False
  | need :: later =>
      NeedRestarts B hal budget profile need ∨
        (need.amount ≠ 0 → NeedAdmitted B hal budget profile need) ∧ NeedsRestart later

/-- A check gets past the gates and to an expired window. -/
structure CheckRestarts (op : OpId) : Prop where
  initialized : budget.magic = magicInit
  registered : budget.profile op = some (budget.ops op)
  gates : PassesGates hal budget (budget.ops op)
  needs : NeedsRestart B hal budget (budget.ops op) (budget.needs op)

variable {B hal budget profile} {out : Decision}

theorem RateWindow.roll_eq_self_iff (window : RateWindow) (nowMs : UInt32) :
    window.roll .fixedWindow nowMs = window ↔ ¬window.Expired nowMs := by
  by_cases limited : window.unlimited = true
  · simp [roll, Expired, limited]
  · have limited' : window.unlimited = false := by simpa using limited
    simp only [roll, limited', Bool.false_eq_true, if_false, restartIfExpired, Expired, true_and]
    by_cases expired : nowMs - window.windowStartMs ≥ window.windowDurationMs
    · rw [if_pos expired]
      simp only [expired, not_true, iff_false]
      intro same
      have duration_ne : window.windowDurationMs ≠ 0 := by
        intro none
        simp [unlimited, none] at limited'
      exact ne_start duration_ne expired (congrArg RateWindow.windowStartMs same)
    · rw [if_neg expired]
      simpa using expired

theorem rollWindows_eq_self_iff (nowMs amount : UInt32) (windows : List RateWindow) :
    (RateState.rollWindows .fixedWindow nowMs amount windows).1 = windows ↔
      ¬WindowsRestart nowMs amount windows := by
  induction windows with
  | nil => simp [RateState.rollWindows, WindowsRestart]
  | cons window later ih =>
      have rolled_eq := window.rollAndCheck_fst .fixedWindow nowMs amount
      have admits_iff := window.rollAndCheck_snd .fixedWindow nowMs amount
      have kept_iff := window.roll_eq_self_iff nowMs
      simp only [RateState.rollWindows, WindowsRestart]
      rcases checked : window.rollAndCheck .fixedWindow nowMs amount with ⟨rolled, admitted⟩
      rw [checked] at rolled_eq admits_iff
      simp only at rolled_eq admits_iff
      subst rolled_eq
      cases admitted with
      | false =>
          have refused := mt admits_iff.mpr (by simp)
          simp [kept_iff, refused]
      | true =>
          simp [kept_iff, ih, admits_iff.mp rfl]

theorem checkNeed_rateState_iff (fixed : B.rateImpl = .fixedWindow) {need : Need}
    {pass : NeedsPass} (amount_ne : need.amount ≠ 0)
    (configured : need.resource < budget.maxResources ∧ budget.resCfg need.resource = true)
    (sound : (budget.resources need.resource).Sound)
    (unrolled : pass.rateState need.resource = budget.rateState need.resource) :
    (checkNeed B hal budget profile out need pass).1.rateState need.resource =
        pass.rateState need.resource ↔
      ¬NeedRestarts B hal budget profile need := by
  have inTable : ¬(need.resource ≥ budget.maxResources ∨
      budget.resCfg need.resource = false) := by
    simp [configured.2, UInt8.not_le.mpr configured.1]
  simp only [checkNeed, if_neg amount_ne, if_neg inTable, unrolled, fixed]
  by_cases limited : RateLimited B budget profile need.resource
  · have notState : ¬(budget.resources need.resource).kind = .state := by
      rw [limited.2.2]
      simp
    have applies : B.enableRateWindows = true ∧ profile.has opfBypassRateLimit = false ∧
        (budget.resources need.resource).kind = .consumable := limited
    simp only [if_neg notState, if_pos applies]
    by_cases short : (budget.resources need.resource).available < need.amount
    · rw [if_pos short]
      simp only [unrolled, true_iff]
      intro restarts
      exact absurd ((sound.fits_iff need.amount).mp restarts.fits) (UInt16.not_le.mpr short)
    rw [if_neg short]
    have fits := (sound.fits_iff need.amount).mpr (UInt16.not_lt.mp short)
    by_cases spent : (budget.rateState need.resource).lifetimeExhausted
        need.amount.toUInt32 = true
    · rw [if_pos spent]
      simp only [unrolled, true_iff]
      intro restarts
      have lifetime := (RateState.lifetimeExhausted_eq_false _ _).mpr restarts.lifetime
      simp [lifetime] at spent
    rw [if_neg spent]
    have lifetime := (RateState.lifetimeExhausted_eq_false _ _).mp (by simpa using spent)
    have kept_iff := rollWindows_eq_self_iff hal.nowMs need.amount.toUInt32
      (budget.rateState need.resource).windows
    have restarts_iff : NeedRestarts B hal budget profile need ↔
        WindowsRestart hal.nowMs need.amount.toUInt32
          (budget.rateState need.resource).windows :=
      ⟨fun restarts => restarts.windows,
        fun windows => ⟨amount_ne, limited, fits, lifetime, windows⟩⟩
    have updated : ∀ windows : List RateWindow,
        { budget.rateState need.resource with windows := windows } =
            budget.rateState need.resource ↔
          windows = (budget.rateState need.resource).windows := by
      intro windows
      constructor
      · exact fun same => congrArg RateState.windows same
      · rintro rfl
        rfl
    rw [restarts_iff, ← kept_iff, ← updated]
    split <;> simp only [Function.update_self]
  · have skipped : ¬(B.enableRateWindows = true ∧ profile.has opfBypassRateLimit = false ∧
        (budget.resources need.resource).kind = .consumable) := limited
    have kept : ¬NeedRestarts B hal budget profile need := fun restarts =>
      limited restarts.limited
    simp only [if_neg skipped, kept, not_false_eq_true, iff_true]
    repeat' split
    all_goals exact unrolled

/-- The loop over the needs leaves every window as it is exactly if it restarts none. -/
theorem checkNeeds_rateState_iff (fixed : B.rateImpl = .fixedWindow) {needs : List Need}
    {pass : NeedsPass} (distinct : DistinctNeeds needs)
    (configured : ∀ need ∈ needs, need.amount ≠ 0 →
      need.resource < budget.maxResources ∧ budget.resCfg need.resource = true)
    (sound : budget.Sound)
    (unrolled : ∀ need ∈ needs, need.amount ≠ 0 →
      pass.rateState need.resource = budget.rateState need.resource) :
    (checkNeeds B hal budget profile out needs pass).1.rateState = pass.rateState ↔
      ¬NeedsRestart B hal budget profile needs := by
  induction needs generalizing pass with
  | nil => simp [checkNeeds, NeedsRestart]
  | cons need needs ih =>
      have rest := (List.pairwise_cons.mp distinct).2
      have configuredRest : ∀ other ∈ needs, other.amount ≠ 0 →
          other.resource < budget.maxResources ∧ budget.resCfg other.resource = true :=
        fun other listed => configured other (List.mem_cons_of_mem _ listed)
      by_cases free : need.amount = 0
      · have skipped : ¬NeedRestarts B hal budget profile need := fun restarts =>
          restarts.amount_ne free
        simp only [checkNeeds, NeedsRestart]
        rw [checkNeed_of_free free]
        simp only
        rw [ih rest configuredRest fun other listed =>
          unrolled other (List.mem_cons_of_mem _ listed)]
        simp [skipped, free]
      · have here := unrolled need List.mem_cons_self free
        have inTable := configured need List.mem_cons_self free
        have passed_iff : (checkNeed B hal budget profile out need pass).2 = none ↔
            NeedAdmitted B hal budget profile need :=
          checkNeed_eq_none_iff free inTable (sound need.resource) here
        have kept_iff : (checkNeed B hal budget profile out need pass).1.rateState
            need.resource = pass.rateState need.resource ↔
            ¬NeedRestarts B hal budget profile need :=
          checkNeed_rateState_iff fixed free inTable (sound need.resource) here
        have elsewhere : ∀ resource, resource ≠ need.resource →
            (checkNeed B hal budget profile out need pass).1.rateState resource =
              pass.rateState resource := fun _ => checkNeed_rateState_of_ne
        have unrolledRest : ∀ other ∈ needs, other.amount ≠ 0 →
            (checkNeed B hal budget profile out need pass).1.rateState other.resource =
              budget.rateState other.resource := checkNeed_unrolled distinct free unrolled
        have once := needOf_tail_eq_zero distinct free
        simp only [checkNeeds, NeedsRestart]
        rcases checked : checkNeed B hal budget profile out need pass with ⟨pass', denied⟩
        rw [checked] at passed_iff kept_iff elsewhere unrolledRest
        simp only at passed_iff kept_iff elsewhere unrolledRest
        have whole_iff : pass'.rateState = pass.rateState ↔
            pass'.rateState need.resource = pass.rateState need.resource := by
          refine ⟨fun same => congrFun same _, fun same => funext fun resource => ?_⟩
          by_cases named : resource = need.resource
          · rw [named, same]
          · exact elsewhere resource named
        cases denied with
        | some d =>
            have refused := mt passed_iff.mpr (by simp)
            simp [whole_iff, kept_iff, refused, free]
        | none =>
            have admitted := passed_iff.mp rfl
            simp only
            by_cases restarts : NeedRestarts B hal budget profile need
            · -- the restarted window is not looked at again
              simp only [restarts, true_or, not_true, iff_false]
              intro same
              have final := congrFun same need.resource
              rw [checkNeeds_rateState_of_not_needed once] at final
              exact kept_iff.mp final restarts
            · have same := whole_iff.mpr (kept_iff.mpr restarts)
              rw [← same, ih rest configuredRest unrolledRest]
              simp [restarts, admitted]

/-! ## The whole check -/

theorem deny_rateState (op : OpId) (d : Decision) :
    (budget.deny B hal op d).2.rateState = budget.rateState := by
  rw [deny_frame]

theorem grant_rateState (op : OpId) (d : Decision) :
    (budget.grant B hal op d).2.rateState = budget.rateState := by
  rw [grant_frame]

/-- Before the gates are passed, no window is looked at. -/
theorem decide_rateState_of_not_gates {op : OpId}
    (shut : ∀ profile, budget.profile op = some profile → ¬PassesGates hal budget profile) :
    (decide B hal budget op).2.rateState = budget.rateState := by
  simp only [decide]
  rcases registered : budget.profile op with _ | profile
  · exact deny_rateState op _
  simp only
  split
  · exact deny_rateState op _
  rename_i unlocked
  split
  · exact deny_rateState op _
  rename_i unblocked
  rcases queried : budget.halPreconditions hal profile with _ | reason
  · refine absurd ⟨allows_of_not_blocked unblocked, ?_, queried⟩ (shut profile registered)
    intro lockdown
    simpa [lockdown] using unlocked
  · exact deny_rateState op _

theorem decide_rateState_of_gates {op : OpId} (registered : budget.profile op = some profile)
    (gates : PassesGates hal budget profile) :
    (decide B hal budget op).2.rateState =
      (checkNeeds B hal budget profile (budget.openDecision profile) (budget.needs op)
        ⟨budget.rateState, fun _ => 0⟩).1.rateState := by
  rw [decide_of_gates registered gates]
  rcases checkNeeds B hal budget profile (budget.openDecision profile) (budget.needs op)
    ⟨budget.rateState, fun _ => 0⟩ with ⟨pass, _ | d⟩
  · simp only
    split
    · exact deny_rateState op _
    · exact grant_rateState op _
  · exact deny_rateState op _

/-- A check changes the rate windows exactly if it restarts one. -/
theorem check_rateState_iff (hal : Hal) (fixed : B.rateImpl = .fixedWindow)
    (wellFormed : WellFormed B budget)
    (sound : budget.Sound) (op : OpId) :
    (check B hal budget op true).2.2.rateState = budget.rateState ↔
      ¬CheckRestarts B hal budget op := by
  by_cases initialized : budget.magic = magicInit
  swap
  · have invalid : budget.validate ≠ .ok := mt validate_eq_ok.mp initialized
    simp only [check, if_pos invalid, Bool.true_eq_false, if_false, true_iff]
    exact fun restarts => initialized restarts.initialized
  rw [check_of_initialized initialized]
  by_cases gates : ∃ profile, budget.profile op = some profile ∧ PassesGates hal budget profile
  · rcases gates with ⟨profile, registered, gates⟩
    obtain rfl := profile_eq_ops registered
    have restarts_iff : CheckRestarts B hal budget op ↔
        NeedsRestart B hal budget (budget.ops op) (budget.needs op) :=
      ⟨fun restarts => restarts.needs,
        fun needs => ⟨initialized, registered, gates, needs⟩⟩
    rw [decide_rateState_of_gates registered gates, restarts_iff]
    exact checkNeeds_rateState_iff fixed (wellFormed.needs_distinct op)
      (wellFormed.needs_configured op) sound fun _ _ _ => rfl
  · have shut : ∀ profile, budget.profile op = some profile →
        ¬PassesGates hal budget profile := fun profile registered passes =>
      gates ⟨profile, registered, passes⟩
    simp only [decide_rateState_of_not_gates shut, true_iff]
    exact fun restarts => shut _ restarts.registered restarts.gates

/-! ## Nothing reads the journal back -/

theorem decide_journal (B : Build) (hal : Hal) (budget : Budget) (journal : Journal) (op : OpId) :
    (decide B hal { budget with journal := journal } op).1 = (decide B hal budget op).1 ∧
      (decide B hal { budget with journal := journal } op).2.rateState =
        (decide B hal budget op).2.rateState := by
  have profile_eq : ({ budget with journal := journal } : Budget).profile op =
      budget.profile op := rfl
  have preconditions : ∀ profile,
      ({ budget with journal := journal } : Budget).halPreconditions hal profile =
        budget.halPreconditions hal profile := fun _ => rfl
  simp only [decide, profile_eq, preconditions, checkNeeds_booked]
  split
  · simp only [deny_fst, deny_rateState, and_self]
  split
  · simp only [deny_fst, deny_rateState, and_self]
  split
  · simp only [deny_fst, deny_rateState, and_self]
  split
  · simp only [deny_fst, deny_rateState, and_self]
  split
  · simp only [deny_fst, deny_rateState, and_self]
  rename_i pass checked
  simp only [checkCascade_booked]
  split
  · simp only [deny_fst, deny_rateState, and_self]
  · simp only [grant_fst, grant_rateState, and_self]

theorem commitNeeds_journal (B : Build) (hal : Hal) (profile : OpProfile) (i : Nat)
    (needs : List Need) (budget : Budget) (journal : Journal) :
    commitNeeds B hal profile i needs { budget with journal := journal } =
      { commitNeeds B hal profile i needs budget with journal := journal } := by
  induction needs generalizing i budget with
  | nil => rfl
  | cons need needs ih =>
      have here : commitNeed B hal profile i { budget with journal := journal } need =
          { commitNeed B hal profile i budget need with journal := journal } := by
        simp only [commitNeed]
        split <;> rfl
      rw [commitNeeds, commitNeeds, here, ih]

/-- Instances that differ in the journal only. -/
def SameButJournal (first second : Budget) : Prop :=
  ∃ journal, first = { second with journal := journal }

namespace SameButJournal

variable {first second : Budget}

theorem of_check (same : SameButJournal first second) (B : Build) (hal : Hal) (op : OpId) :
    (check B hal first op true).1 = (check B hal second op true).1 ∧
      (check B hal first op true).2.1 = (check B hal second op true).2.1 ∧
      SameButJournal (check B hal first op true).2.2 (check B hal second op true).2.2 := by
  rcases same with ⟨journal, rfl⟩
  have decided := decide_journal B hal second journal op
  have first_frame := (decide_booked B hal { second with journal := journal } op).frame
  have second_frame := (decide_booked B hal second op).frame
  have validate : ({ second with journal := journal } : Budget).validate = second.validate := rfl
  simp only [check, Bool.true_eq_false, if_false, validate]
  split
  · exact ⟨rfl, rfl, journal, rfl⟩
  · refine ⟨rfl, congrArg some decided.1,
      (decide B hal { second with journal := journal } op).2.journal, ?_⟩
    generalize (decide B hal { second with journal := journal } op).2 = first' at *
    generalize (decide B hal second op).2 = second' at *
    rw [first_frame, second_frame, decided.2]

theorem of_enterCommit (same : SameButJournal first second) (B : Build) (hal : Hal) (op : OpId) :
    (enterCommit B hal first op).1 = (enterCommit B hal second op).1 ∧
      SameButJournal (enterCommit B hal first op).2 (enterCommit B hal second op).2 := by
  rcases same with ⟨journal, rfl⟩
  have free : ({ second with journal := journal } : Budget).freeSlot = second.freeSlot := rfl
  simp only [enterCommit, free]
  split
  · exact ⟨rfl, journal, rfl⟩
  · refine ⟨?_, journal, ?_⟩
    · rw [commitNeeds_journal]
      rfl
    · rw [commitNeeds_journal]
      rfl

theorem of_enter (same : SameButJournal first second) (B : Build) (hal : Hal) (op : OpId)
    (out : Bool) :
    (enter B hal first op out).1 = (enter B hal second op out).1 ∧
      SameButJournal (enter B hal first op out).2 (enter B hal second op out).2 := by
  have checked := same.of_check B hal op
  simp only [enter, enterBegin]
  generalize check B hal first op true = firstReply at checked ⊢
  generalize check B hal second op true = secondReply at checked ⊢
  rcases firstReply with ⟨status, d, first'⟩
  rcases secondReply with ⟨status', d', second'⟩
  simp only at checked ⊢
  rcases checked with ⟨rfl, rfl, same'⟩
  rcases d with _ | d
  · exact ⟨rfl, same'⟩
  · have profile : first'.profile op = second'.profile op := by
      rcases same' with ⟨journal, rfl⟩
      rfl
    have fits : (first'.needs op).all first'.needFits =
        (second'.needs op).all second'.needFits := by
      rcases same' with ⟨journal, rfl⟩
      rfl
    simp only [profile, fits]
    split_ifs
    · exact ⟨rfl, same'⟩
    · exact ⟨rfl, same'⟩
    · exact ⟨rfl, same'⟩
    · exact ⟨rfl, same'⟩
    · exact same'.of_enterCommit B hal op

theorem of_leave (same : SameButJournal first second) (lease : Lease) :
    (leave first lease).1 = (leave second lease).1 ∧
      SameButJournal (leave first lease).2 (leave second lease).2 := by
  rcases same with ⟨journal, rfl⟩
  have validate : ({ second with journal := journal } : Budget).validate = second.validate := rfl
  have magic : ({ second with journal := journal } : Budget).leaseMagicForId lease.id =
      second.leaseMagicForId lease.id := rfl
  have profile : ({ second with journal := journal } : Budget).profile lease.op =
      second.profile lease.op := rfl
  have slot : ({ second with journal := journal } : Budget).leaseSlot lease.id =
      second.leaseSlot lease.id := rfl
  simp only [leave, validate, magic, profile, slot, releaseNeeds_frame]
  split_ifs
  · exact ⟨rfl, journal, rfl⟩
  · exact ⟨rfl, journal, rfl⟩
  · exact ⟨rfl, journal, rfl⟩
  · exact ⟨rfl, journal, rfl⟩
  · exact ⟨rfl, journal, rfl⟩
  · exact ⟨rfl, journal, rfl⟩

end SameButJournal

/-! ## Runs with and without checks -/

/-- The calls that take and return leases. -/
def Call.isLeaseCall : Call → Bool
  | .enter _ _ | .leave _ => true
  | _ => false

def Call.isCheck : Call → Bool
  | .check _ _ => true
  | _ => false

/-- A check that writes its decision and restarts a window. -/
def RestartsWindow (B : Build) (budget : Budget) (event : Event) : Prop :=
  ∃ op, event.call = .check op true ∧ CheckRestarts B event.hal budget op

/-- A check that restarts no window changes nothing but the journal. -/
theorem next_check_of_gentle (fixed : B.rateImpl = .fixedWindow) (reachable : Reachable B budget)
    {event : Event} {op : OpId} {given : Bool} (call : event.call = .check op given)
    (gentle : ¬RestartsWindow B budget event) :
    SameButJournal ((machine B).next budget event) budget := by
  have after : (machine B).next budget event = (check B event.hal budget op given).2.2 := by
    simp [machine, Machine.next, exec, call]
  rw [after]
  cases given with
  | false => exact ⟨budget.journal, rfl⟩
  | true =>
      have kept := (check_rateState_iff event.hal fixed reachable.wellFormed
        reachable.sound op).mpr fun restarts => gentle ⟨op, call, restarts⟩
      have frame := (check_booked B event.hal budget op true).frame
      rw [kept] at frame
      exact ⟨_, frame⟩

/-- In the fixed-window build, from every reachable state: if no inserted check restarts a window,
a run of `enter` and `leave` calls returns the statuses that it returns without the checks. -/
theorem checks_keep_statuses (fixed : B.rateImpl = .fixedWindow) (reachable : Reachable B budget)
    {events : List Event}
    (calls : ∀ event ∈ events, event.call.isLeaseCall = true ∨ event.call.isCheck = true)
    (gentle : (machine B).Along (fun budget event => ¬RestartsWindow B budget event) budget
      events) :
    (((machine B).transcript budget events).filter fun step => step.1.call.isLeaseCall).map
        (fun step => step.2.status) =
      ((machine B).transcript budget
        (events.filter fun event => event.call.isLeaseCall)).map fun step => step.2.status := by
  have steps : (machine B).Along (fun budget event => ¬RestartsWindow B budget event ∧
      (event.call.isLeaseCall = true ∨ event.call.isCheck = true)) budget events :=
    Machine.along_and.mpr
      ⟨gentle, Machine.along_of_forall_mem fun event listed _ => calls event listed⟩
  refine Machine.transcript_hiding (fun event => event.call.isLeaseCall)
    (fun reply => reply.status)
    (fun state shadow => Reachable B state ∧ SameButJournal state shadow)
    ?_ ?_ ⟨reachable, budget.journal, rfl⟩ steps
  · rintro state shadow event ⟨reached, journal, same⟩ ⟨kept, isCall⟩ hidden
    rcases isCall with isLeaseCall | isCheck
    · exact absurd (hidden.symm.trans isLeaseCall) Bool.false_ne_true
    · rcases call : event.call with _ | _
      case check op given =>
        rcases next_check_of_gentle fixed reached call kept with ⟨journal', after⟩
        refine ⟨reached.run [event], journal', ?_⟩
        rw [after, same]
      all_goals simp [Call.isCheck, call] at isCheck
  · rintro state shadow ⟨hal, call⟩ ⟨reached, same⟩ - isLeaseCall
    cases call with
    | enter op given =>
        have entered := same.of_enter B hal op given
        exact ⟨congrArg Prod.fst entered.1, reached.run [_], entered.2⟩
    | leave lease =>
        have left := same.of_leave lease
        exact ⟨left.1, reached.run [_], left.2⟩
    | _ => simp [Call.isLeaseCall] at isLeaseCall

/-! ## A window of a second -/

/-- The op is entered twice within a second, with a look before each. -/
def gentleChecks : List Event :=
  [⟨Hal.permissive 500, .check 0 true⟩, ⟨Hal.permissive 2000, .enter 0 true⟩,
    ⟨Hal.permissive 2600, .check 0 true⟩, ⟨Hal.permissive 2900, .enter 0 true⟩]

theorem WindowsRestart.expired {nowMs amount : UInt32} {windows : List RateWindow}
    (restarts : WindowsRestart nowMs amount windows) :
    ∃ window ∈ windows, window.Expired nowMs := by
  induction windows with
  | nil => exact restarts.elim
  | cons window later ih =>
      rcases restarts with expired | ⟨-, restarts⟩
      · exact ⟨window, List.mem_cons_self, expired⟩
      · rcases ih restarts with ⟨other, listed, expired⟩
        exact ⟨other, List.mem_cons_of_mem _ listed, expired⟩

theorem NeedsRestart.expired {needs : List Need}
    (restarts : NeedsRestart B hal budget profile needs) :
    ∃ need ∈ needs, ∃ window ∈ (budget.rateState need.resource).windows,
      window.Expired hal.nowMs := by
  induction needs with
  | nil => exact restarts.elim
  | cons need later ih =>
      rcases restarts with here | ⟨-, restarts⟩
      · exact ⟨need, List.mem_cons_self, here.windows.expired⟩
      · rcases ih restarts with ⟨other, listed, expired⟩
        exact ⟨other, List.mem_cons_of_mem _ listed, expired⟩

theorem CheckRestarts.expired {op : OpId} (restarts : CheckRestarts B hal budget op) :
    ∃ need ∈ budget.needs op, ∃ window ∈ (budget.rateState need.resource).windows,
      window.Expired hal.nowMs :=
  restarts.needs.expired

theorem checks_keep_gentleChecks :
    let budget := (machine Build.full).run .sample
      (oneConsumer ++ [.permissive (.setRateLimit 0 0 2)])
    (((machine Build.full).transcript budget gentleChecks).filter
        fun step => step.1.call.isLeaseCall).map (fun step => step.2.status) =
      ((machine Build.full).transcript budget
        (gentleChecks.filter fun event => event.call.isLeaseCall)).map
          fun step => step.2.status := by
  intro budget
  have reachable : Reachable Build.full budget := (Reachable.of_started started_sample).run _
  refine checks_keep_statuses rfl reachable (by decide) ⟨?_, ?_, ?_, ?_, trivial⟩
  · rintro ⟨op, call, restarts⟩
    cases call
    exact absurd restarts.expired (by decide +kernel)
  · rintro ⟨op, call, -⟩
    cases call
  · rintro ⟨op, call, restarts⟩
    cases call
    exact absurd restarts.expired (by decide +kernel)
  · rintro ⟨op, call, -⟩
    cases call

/-- A check 1500 ms after the start of a window of one second, and two `enter`s after it. -/
def restartingCheck : List Event :=
  [⟨Hal.permissive 1500, .check 0 true⟩, ⟨Hal.permissive 2000, .enter 0 true⟩,
    ⟨Hal.permissive 2600, .enter 0 true⟩]

/-- The check moves the boundary of the window between the two `enter`s, so that both are
granted; without it the second one is denied. -/
theorem check_changes_status :
    let budget := (machine Build.full).run .sample
      (oneConsumer ++ [.permissive (.setRateLimit 0 0 2)])
    Reachable Build.full budget ∧
      (((machine Build.full).transcript budget restartingCheck).filter
          fun step => step.1.call.isLeaseCall).map (fun step => step.2.status) = [.ok, .ok] ∧
      ((machine Build.full).transcript budget
        (restartingCheck.filter fun event => event.call.isLeaseCall)).map
          (fun step => step.2.status) = [.ok, .badState] := by
  intro budget
  refine ⟨(Reachable.of_started started_sample).run _, ?_, ?_⟩
  all_goals decide +kernel

end Loxbudget
