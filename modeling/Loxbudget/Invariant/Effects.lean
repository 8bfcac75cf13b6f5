import Loxbudget.Cascade.Registration
import Loxbudget.Invariant.Rates

/-!
# What one public call can change

Every later argument about runs starts from the inversion lemmas of this file:
a call other than `enter` and `leave` has a `QuietEffect`, an `enter` either
books a decision or reserves in the state that the booking left, and a `leave`
either changes nothing or releases one slot. The constructors carry the guards
under which the code takes the branch.
-/

namespace Loxbudget

/-! ## Decisions only roll windows and write the journal -/

/-- The state after a decision has been booked: windows have been rolled to the clock reading of
the call, and the journal has been written. -/
structure Booked (B : Build) (nowMs : UInt32) (before after : Budget) : Prop where
  frame : after = { before with rateState := after.rateState, journal := after.journal }
  rolled : ∀ resource, (before.rateState resource).RolledTo B.rateImpl nowMs
    (after.rateState resource)

namespace Booked

variable {B : Build} {nowMs : UInt32} {before after : Budget}

theorem refl (B : Build) (nowMs : UInt32) (budget : Budget) : Booked B nowMs budget budget :=
  ⟨rfl, fun _ => RateState.RolledTo.refl _ _ _⟩

theorem magic (booked : Booked B nowMs before after) : after.magic = before.magic := by
  rw [booked.frame]

theorem resources (booked : Booked B nowMs before after) :
    after.resources = before.resources := by
  rw [booked.frame]

theorem needs (booked : Booked B nowMs before after) : after.needs = before.needs := by
  rw [booked.frame]

theorem leaseSlots (booked : Booked B nowMs before after) :
    after.leaseSlots = before.leaseSlots := by
  rw [booked.frame]

theorem leaseSlot (booked : Booked B nowMs before after) (id : UInt8) :
    after.leaseSlot id = before.leaseSlot id := by
  rw [booked.frame]
  rfl

theorem maxLeases (booked : Booked B nowMs before after) :
    after.maxLeases = before.maxLeases := by
  rw [booked.frame]

theorem ops (booked : Booked B nowMs before after) : after.ops = before.ops := by
  rw [booked.frame]

theorem profile (booked : Booked B nowMs before after) (op : OpId) :
    after.profile op = before.profile op := by
  rw [booked.frame]
  rfl

theorem leaseMagicForId (booked : Booked B nowMs before after) (id : UInt8) :
    after.leaseMagicForId id = before.leaseMagicForId id := by
  rw [booked.frame]
  rfl

end Booked

theorem auditRecord_eq (B : Build) (hal : Hal) (op : OpId) (d : Decision) (budget : Budget) :
    budget.auditRecord B hal op d =
      { budget with journal := (budget.auditRecord B hal op d).journal } := by
  simp only [Budget.auditRecord]
  split <;> rfl

theorem callDecisionHook_eq (op : OpId) (d : Decision) (budget : Budget) :
    budget.callDecisionHook op d =
      { budget with journal := (budget.callDecisionHook op d).journal } := by
  simp only [Budget.callDecisionHook]
  split <;> rfl

theorem deny_frame (B : Build) (hal : Hal) (op : OpId) (d : Decision) (budget : Budget) :
    (budget.deny B hal op d).2 =
      { budget with journal := (budget.deny B hal op d).2.journal } := by
  simp only [Budget.deny]
  rw [callDecisionHook_eq, auditRecord_eq]

theorem grant_frame (B : Build) (hal : Hal) (op : OpId) (d : Decision) (budget : Budget) :
    (budget.grant B hal op d).2 =
      { budget with journal := (budget.grant B hal op d).2.journal } := by
  simp only [Budget.grant]
  rw [callDecisionHook_eq, auditRecord_eq]

/-- Writing the journal after the windows have been rolled. -/
theorem Booked.of_journal {B : Build} {nowMs : UInt32} {before budget after : Budget}
    (booked : Booked B nowMs before budget)
    (frame : after = { budget with journal := after.journal }) : Booked B nowMs before after := by
  refine ⟨?_, ?_⟩
  · rw [frame, booked.frame]
  · intro resource
    rw [frame]
    exact booked.rolled resource

theorem deny_booked (B : Build) (hal : Hal) (op : OpId) (d : Decision) {before budget : Budget}
    (booked : Booked B hal.nowMs before budget) :
    Booked B hal.nowMs before (budget.deny B hal op d).2 :=
  booked.of_journal (deny_frame B hal op d budget)

theorem grant_booked (B : Build) (hal : Hal) (op : OpId) (d : Decision) {before budget : Budget}
    (booked : Booked B hal.nowMs before budget) :
    Booked B hal.nowMs before (budget.grant B hal op d).2 :=
  booked.of_journal (grant_frame B hal op d budget)

@[simp]
theorem deny_fst (B : Build) (hal : Hal) (op : OpId) (d : Decision) (budget : Budget) :
    (budget.deny B hal op d).1 = d := rfl

@[simp]
theorem grant_fst (B : Build) (hal : Hal) (op : OpId) (d : Decision) (budget : Budget) :
    (budget.grant B hal op d).1 = d := rfl

/-- The check of one need leaves the windows as they are or rolls those of its resource. -/
theorem checkNeed_rateState (B : Build) (hal : Hal) (budget : Budget) (profile : OpProfile)
    (out : Decision) (need : Need) (pass : NeedsPass) :
    (checkNeed B hal budget profile out need pass).1.rateState = pass.rateState ∨
      (checkNeed B hal budget profile out need pass).1.rateState =
        Function.update pass.rateState need.resource
          { pass.rateState need.resource with
            windows := (RateState.rollWindows B.rateImpl hal.nowMs need.amount.toUInt32
              (pass.rateState need.resource).windows).1 } := by
  simp only [checkNeed]
  split
  · exact Or.inl rfl
  split
  · exact Or.inl rfl
  split
  · split
    · exact Or.inl rfl
    · exact Or.inl rfl
  split
  · exact Or.inl rfl
  split
  · split
    · exact Or.inl rfl
    split
    · exact Or.inr rfl
    · exact Or.inr rfl
  · exact Or.inl rfl

theorem checkNeed_rolled (B : Build) (hal : Hal) (budget : Budget) (profile : OpProfile)
    (out : Decision) (need : Need) (pass : NeedsPass) (resource : ResourceId) :
    (pass.rateState resource).RolledTo B.rateImpl hal.nowMs
      ((checkNeed B hal budget profile out need pass).1.rateState resource) := by
  have same := RateState.RolledTo.refl B.rateImpl hal.nowMs (pass.rateState resource)
  rcases checkNeed_rateState B hal budget profile out need pass with kept | rolled
  · rw [kept]
    exact same
  · rw [rolled]
    by_cases isNeeded : resource = need.resource
    · subst isNeeded
      rw [Function.update_self]
      exact ⟨RateState.rollWindows_fst _ _ _ _, rfl, rfl⟩
    · rw [Function.update_of_ne isNeeded]
      exact same

theorem checkNeeds_rolled (B : Build) (hal : Hal) (budget : Budget) (profile : OpProfile)
    (out : Decision) (needs : List Need) (pass : NeedsPass) (resource : ResourceId) :
    (pass.rateState resource).RolledTo B.rateImpl hal.nowMs
      ((checkNeeds B hal budget profile out needs pass).1.rateState resource) := by
  induction needs generalizing pass with
  | nil => exact RateState.RolledTo.refl _ _ _
  | cons need needs ih =>
      have now := checkNeed_rolled B hal budget profile out need pass resource
      simp only [checkNeeds]
      rcases checked : checkNeed B hal budget profile out need pass with ⟨pass', denied⟩
      rw [checked] at now
      cases denied with
      | some d => exact now
      | none => exact now.trans (ih pass')

theorem decide_booked (B : Build) (hal : Hal) (budget : Budget) (op : OpId) :
    Booked B hal.nowMs budget (decide B hal budget op).2 := by
  have unrolled := Booked.refl B hal.nowMs budget
  unfold decide
  simp only
  cases budget.profile op with
  | none => exact deny_booked B hal op _ unrolled
  | some profile =>
      simp only
      split
      · exact deny_booked B hal op _ unrolled
      split
      · exact deny_booked B hal op _ unrolled
      cases budget.halPreconditions hal profile with
      | some reason => exact deny_booked B hal op _ unrolled
      | none =>
          simp only
          have rolled := checkNeeds_rolled B hal budget profile
            ⟨profile.mappedAction budget.pressure, budget.pressure, 0xFF, 0, 0, .ok⟩
            (budget.needs op) ⟨budget.rateState, fun _ => 0⟩
          rcases checked : checkNeeds B hal budget profile
            ⟨profile.mappedAction budget.pressure, budget.pressure, 0xFF, 0, 0, .ok⟩
            (budget.needs op) ⟨budget.rateState, fun _ => 0⟩ with ⟨pass, denied⟩
          rw [checked] at rolled
          have rolledBudget :
              Booked B hal.nowMs budget { budget with rateState := pass.rateState } :=
            ⟨rfl, rolled⟩
          cases denied with
          | some d => exact deny_booked B hal op _ rolledBudget
          | none =>
              simp only
              split
              · exact deny_booked B hal op _ rolledBudget
              · exact grant_booked B hal op _ rolledBudget

theorem check_booked (B : Build) (hal : Hal) (budget : Budget) (op : OpId) (out : Bool) :
    Booked B hal.nowMs budget (check B hal budget op out).2.2 := by
  simp only [check]
  split
  · exact Booked.refl _ _ _
  split
  · exact Booked.refl _ _ _
  · exact decide_booked B hal budget op

theorem enterBegin_snd (B : Build) (hal : Hal) (budget : Budget) (op : OpId) (out : Bool) :
    (enterBegin B hal budget op out).2 = (check B hal budget op true).2.2 := by
  simp only [enterBegin]
  rcases check B hal budget op true with ⟨status, decision | d, after⟩
  · rfl
  · simp only
    repeat' split
    all_goals rfl

theorem enterBegin_booked (B : Build) (hal : Hal) (budget : Budget) (op : OpId) (out : Bool) :
    Booked B hal.nowMs budget (enterBegin B hal budget op out).2 := by
  rw [enterBegin_snd]
  exact check_booked B hal budget op true

/-! ## Commit and release as changes of the resource table -/

/-- The resource part of the commit loop. -/
def commitResources (needs : List Need) (table : ResourceId → Resource) :
    ResourceId → Resource :=
  needs.foldl
    (fun table need =>
      if need.amount = 0 then table
      else Function.update table need.resource ((table need.resource).commit need.amount))
    table

/-- The resource part of the release loop. -/
def releaseResources (needs : List Need) (table : ResourceId → Resource) :
    ResourceId → Resource :=
  needs.foldl
    (fun table need =>
      if need.amount = 0 then table
      else Function.update table need.resource ((table need.resource).release need.amount))
    table

theorem commitNeeds_frame (B : Build) (hal : Hal) (profile : OpProfile) (i : Nat)
    (needs : List Need) (budget : Budget) :
    commitNeeds B hal profile i needs budget =
      { budget with
        resources := commitResources needs budget.resources
        rateState := (commitNeeds B hal profile i needs budget).rateState } := by
  induction needs generalizing i budget with
  | nil => rfl
  | cons need needs ih =>
      rw [commitNeeds, ih]
      by_cases free : need.amount = 0
      · simp [commitNeed, free, commitResources]
      · simp [commitNeed, free, commitResources]

theorem releaseNeeds_frame (needs : List Need) (budget : Budget) :
    releaseNeeds needs budget =
      { budget with resources := releaseResources needs budget.resources } := by
  induction needs generalizing budget with
  | nil => rfl
  | cons need needs ih =>
      rw [releaseNeeds, ih]
      by_cases free : need.amount = 0
      · simp [releaseNeed, free, releaseResources]
      · simp [releaseNeed, free, releaseResources]

/-- The state after the critical section of `enter` has taken the slot `slotId`. -/
def Budget.acquired (B : Build) (hal : Hal) (op : OpId) (slotId : UInt8) (budget : Budget) :
    Budget :=
  { budget with
    resources := commitResources (budget.needs op) budget.resources
    rateState := (commitNeeds B hal (budget.ops op) 0 (budget.needs op) budget).rateState
    leaseSlots := budget.leaseSlots.set slotId.toNat
      ⟨budget.leaseMagicForId slotId, true, budget.pressure⟩ }

/-- The state after `leave` has released the slot of an accepted lease. -/
def Budget.released (lease : Lease) (budget : Budget) : Budget :=
  { budget with
    resources := releaseResources (budget.needs lease.op) budget.resources
    leaseSlots := budget.leaseSlots.set lease.id.toNat
      { budget.leaseSlot lease.id with active := false, magic := 0 } }

/-- The lease that `enter` hands out for a slot. -/
def Budget.issuedLease (hal : Hal) (op : OpId) (slotId : UInt8) (budget : Budget) : Lease :=
  ⟨hal.leaseNowMs, budget.leaseMagicForId slotId, slotId, op⟩

theorem enterCommit_of_free (B : Build) (hal : Hal) (budget : Budget) (op : OpId)
    {slotId : UInt8} (free : budget.freeSlot = some slotId) :
    enterCommit B hal budget op =
      ((.ok, some (budget.issuedLease hal op slotId)), budget.acquired B hal op slotId) := by
  simp only [enterCommit]
  rw [free]
  simp only
  rw [commitNeeds_frame]
  rfl

theorem enterCommit_of_full (B : Build) (hal : Hal) (budget : Budget) (op : OpId)
    (full : budget.freeSlot = none) :
    enterCommit B hal budget op = ((.noSpace, none), budget) := by
  simp only [enterCommit]
  rw [full]

/-- What `enterBegin` has established when it goes on to the critical section. -/
structure Cleared (budget : Budget) (op : OpId) : Prop where
  initialized : budget.magic = magicInit
  registered : (budget.profile op).isSome
  needsFit : ∀ need ∈ budget.needs op, budget.needFits need = true

theorem validate_eq_ok {budget : Budget} : budget.validate = .ok ↔ budget.magic = magicInit := by
  simp [Budget.validate]

theorem check_of_initialized {B : Build} {hal : Hal} {budget : Budget} {op : OpId}
    (initialized : budget.magic = magicInit) :
    check B hal budget op true =
      (.ok, some (decide B hal budget op).1, (decide B hal budget op).2) := by
  simp [check, validate_eq_ok.mpr initialized]

/-- `enterBegin` goes on to the critical section only after an allowing decision, in the state that
the decision left. -/
theorem enterBegin_decided {B : Build} {hal : Hal} {budget after : Budget} {op : OpId}
    {out : Bool} (begun : enterBegin B hal budget op out = (none, after)) :
    budget.magic = magicInit ∧ out = true ∧ after = (decide B hal budget op).2 ∧
      (decide B hal budget op).1.action.allows = true ∧ (after.profile op).isSome = true ∧
      (after.needs op).all after.needFits = true := by
  by_cases initialized : budget.magic = magicInit
  · simp only [enterBegin, check_of_initialized initialized] at begun
    split at begun
    · simp at begun
    split at begun
    · simp at begun
    split at begun
    · simp at begun
    split at begun
    · simp at begun
    rename_i given registered allowed fits
    obtain rfl : (decide B hal budget op).2 = after := by simpa using begun
    refine ⟨initialized, by simpa using given, rfl, by simpa using allowed, ?_,
      by simpa using fits⟩
    simpa [Option.isNone_iff_eq_none, Option.isSome_iff_ne_none] using registered
  · simp [enterBegin, check, Budget.validate, initialized] at begun

theorem enterBegin_cleared {B : Build} {hal : Hal} {budget after : Budget} {op : OpId}
    {out : Bool} (begun : enterBegin B hal budget op out = (none, after)) :
    Cleared after op := by
  rcases enterBegin_decided begun with ⟨initialized, -, rfl, -, registered, fits⟩
  refine ⟨?_, registered, List.all_eq_true.mp fits⟩
  rw [(decide_booked B hal budget op).magic, initialized]

theorem check_status_ne_ok {B : Build} {hal : Hal} {budget : Budget} {op : OpId} {out : Bool}
    (undecided : (check B hal budget op out).2.1 = none) :
    (check B hal budget op out).1 ≠ .ok := by
  simp only [check] at undecided ⊢
  split
  · simp
  rename_i given
  split
  · rename_i invalid
    exact invalid
  · rename_i valid
    simp [if_neg given, if_neg valid] at undecided

/-- `enter` fails in the state that its decision leaves, or goes on from there and takes a slot. -/
theorem enter_checked (B : Build) (hal : Hal) (budget : Budget) (op : OpId) (out : Bool) :
    let checked := (check B hal budget op true).2.2
    ((enter B hal budget op out).1.1 ≠ .ok ∧ (enter B hal budget op out).2 = checked) ∨
      ∃ slotId, enterBegin B hal budget op out = (none, checked) ∧
        checked.freeSlot = some slotId ∧
        enter B hal budget op out =
          ((.ok, some (checked.issuedLease hal op slotId)), checked.acquired B hal op slotId) := by
  intro checked
  have same := enterBegin_snd B hal budget op out
  simp only [enter]
  rcases begun : enterBegin B hal budget op out with ⟨early, middle⟩
  rw [begun] at same
  obtain rfl : middle = checked := same
  cases early with
  | some reply =>
      left
      refine ⟨?_, rfl⟩
      have undecided : (check B hal budget op true).2.1 = none →
          (check B hal budget op true).1 ≠ .ok := check_status_ne_ok
      simp only [enterBegin] at begun
      rcases decided : check B hal budget op true with ⟨status, decision | d, after⟩
      · rw [decided] at begun undecided
        simp only [Prod.mk.injEq, Option.some.injEq] at begun
        rw [← begun.1]
        exact undecided rfl
      · rw [decided] at begun
        simp only at begun
        repeat' split at begun
        all_goals simp only [Prod.mk.injEq, Option.some.injEq, reduceCtorEq, false_and] at begun
        all_goals simp [← begun.1]
  | none =>
      simp only
      rcases free : checked.freeSlot with _ | slotId
      · left
        rw [enterCommit_of_full B hal checked op free]
        exact ⟨by simp, rfl⟩
      · right
        exact ⟨slotId, trivial, rfl, enterCommit_of_free B hal checked op free⟩

theorem enter_cases (B : Build) (hal : Hal) (budget : Budget) (op : OpId) (out : Bool) :
    (Booked B hal.nowMs budget (enter B hal budget op out).2 ∧
        (enter B hal budget op out).1.1 ≠ .ok) ∨
      ∃ middle slotId, Booked B hal.nowMs budget middle ∧ Cleared middle op ∧
        middle.freeSlot = some slotId ∧
        enter B hal budget op out =
          ((.ok, some (middle.issuedLease hal op slotId)),
            middle.acquired B hal op slotId) := by
  have booked := check_booked B hal budget op true
  rcases enter_checked B hal budget op out with ⟨failed, after⟩ | ⟨slotId, begun, free, entered⟩
  · left
    rw [after]
    exact ⟨booked, failed⟩
  · right
    exact ⟨_, slotId, booked, enterBegin_cleared begun, free, entered⟩

/-- The tests that `leave` makes before it releases anything. -/
structure Accepts (budget : Budget) (lease : Lease) : Prop where
  initialized : budget.magic = magicInit
  idInRange : lease.id < budget.maxLeases
  magic : lease.magic = budget.leaseMagicForId lease.id
  registered : (budget.profile lease.op).isSome
  active : (budget.leaseSlot lease.id).active = true
  slotMagic : (budget.leaseSlot lease.id).magic = lease.magic

theorem leave_of_accepts {budget : Budget} {lease : Lease} (accepts : Accepts budget lease) :
    leave budget lease = (.ok, budget.released lease) := by
  have valid := validate_eq_ok.mpr accepts.initialized
  have registered : ¬(budget.profile lease.op).isNone = true := by
    have isSome := accepts.registered
    cases profile : budget.profile lease.op with
    | none => simp [profile] at isSome
    | some _ => simp
  have slot : ¬((budget.leaseSlot lease.id).active = false ∨
      (budget.leaseSlot lease.id).magic ≠ lease.magic) := by
    simp [accepts.active, accepts.slotMagic]
  unfold leave
  rw [if_neg (not_not.mpr valid), if_neg (UInt8.not_le.mpr accepts.idInRange),
    if_neg (not_not.mpr accepts.magic), if_neg registered, if_neg slot]
  simp only
  rw [releaseNeeds_frame]
  rfl

theorem leave_of_not_accepts {budget : Budget} {lease : Lease}
    (refuses : ¬Accepts budget lease) :
    (leave budget lease).1 ≠ .ok ∧ (leave budget lease).2 = budget := by
  simp only [leave]
  split
  · rename_i invalid
    exact ⟨invalid, rfl⟩
  split
  · simp
  split
  · simp
  split
  · simp
  split
  · simp
  · rename_i valid inRange magic registered slot
    exfalso
    apply refuses
    simp only [not_or, Bool.not_eq_false, not_not] at slot
    refine ⟨validate_eq_ok.mp (not_not.mp valid), UInt8.not_le.mp inRange, not_not.mp magic,
      ?_, slot.1, slot.2⟩
    cases profile : budget.profile lease.op with
    | none => simp [profile] at registered
    | some _ => simp

theorem leave_frame (budget : Budget) (lease : Lease) :
    ∃ resources leaseSlots, (leave budget lease).2 =
      { budget with resources := resources, leaseSlots := leaseSlots } := by
  by_cases accepts : Accepts budget lease
  · rw [leave_of_accepts accepts]
    exact ⟨_, _, rfl⟩
  · rw [(leave_of_not_accepts accepts).2]
    exact ⟨_, _, rfl⟩

theorem leave_eq_ok {budget : Budget} {lease : Lease} :
    (leave budget lease).1 = .ok ↔ Accepts budget lease := by
  constructor
  · intro status
    by_contra refuses
    exact (leave_of_not_accepts refuses).1 status
  · intro accepts
    rw [leave_of_accepts accepts]

theorem leave_eq_badState {budget : Budget} {lease : Lease} (initialized : budget.magic = magicInit)
    (idInRange : lease.id < budget.maxLeases) (refuses : ¬Accepts budget lease) :
    (leave budget lease).1 = .badState := by
  have valid := validate_eq_ok.mpr initialized
  by_contra other
  apply refuses
  rw [← leave_eq_ok]
  simp only [leave] at other ⊢
  rw [if_neg (not_not.mpr valid), if_neg (UInt8.not_le.mpr idInRange)] at other ⊢
  split at other
  · exact absurd rfl other
  split at other
  · exact absurd rfl other
  split at other
  · exact absurd rfl other
  · rename_i magic registered slot
    rw [if_neg magic, if_neg registered, if_neg slot]

/-- `yield_check` makes the same tests as `leave`. -/
theorem yieldCheck_status {budget : Budget} {lease : Lease} :
    (yieldCheck budget lease true).1 = (leave budget lease).1 := by
  unfold yieldCheck leave
  rw [if_neg (by simp)]
  by_cases invalid : budget.validate ≠ .ok
  · rw [if_pos invalid, if_pos invalid]
  rw [if_neg invalid, if_neg invalid]
  by_cases outside : lease.id ≥ budget.maxLeases
  · rw [if_pos outside, if_pos outside]
  rw [if_neg outside, if_neg outside]
  by_cases forged : lease.magic ≠ budget.leaseMagicForId lease.id
  · rw [if_pos forged, if_pos forged]
  rw [if_neg forged, if_neg forged]
  cases budget.profile lease.op with
  | none => rfl
  | some profile =>
      simp only [Option.isNone_some, Bool.false_eq_true, if_false]
      by_cases stale : (budget.leaseSlot lease.id).active = false ∨
          (budget.leaseSlot lease.id).magic ≠ lease.magic
      · rw [if_pos stale, if_pos stale]
      · rw [if_neg stale, if_neg stale]
        split
        · rfl
        split <;> rfl

/-! ## The other calls -/

/-- The call neither acquires nor releases a lease. -/
def Call.isQuiet : Call → Bool
  | .enter _ _ | .leave _ => false
  | _ => true

/-- The need list after `op_set_need` has updated an entry, or inserted one. -/
def NeedSet (resource : ResourceId) (amount : UInt16) (before after : List Need) : Prop :=
  updateNeed resource amount before = some after ∨
    updateNeed resource amount before = none ∧ insertNeed resource amount before = some after

/-- The edge table after `op_may_trigger` has updated an edge, or appended one that closes no
cycle as far as `pathExists` sees. -/
def EdgeSet (B : Build) (maxOps : UInt8) (edge : Edge) (before after : List Edge) : Prop :=
  updateEdge edge.parent edge.child edge.weightQ8 before = some after ∨
    updateEdge edge.parent edge.child edge.weightQ8 before = none ∧
      before.length < B.causalityMaxEdges % 65536 ∧
      pathExists B maxOps (before ++ [edge]) edge.child edge.parent = false ∧
      after = before ++ [edge]

/-- What a call other than `enter` and `leave` can change. -/
inductive QuietEffect (B : Build) (nowMs : UInt32) (before : Budget) : Budget → Prop where
  | unchanged : QuietEffect B nowMs before before
  | resource (id : ResourceId) (limit : UInt16) (kind : ResourceKind)
      (inRange : id < before.maxResources) :
      QuietEffect B nowMs before
        { before with
          resources := Function.update before.resources id ⟨limit, 0, 0, 0, kind⟩
          resCfg := Function.update before.resCfg id true }
  | register (id : OpId) (profile : OpProfile) (inRange : id < before.maxOps)
      (fresh : before.opCfg id = false) :
      QuietEffect B nowMs before
        { before with
          ops := Function.update before.ops id profile
          opCfg := Function.update before.opCfg id true
          needs := Function.update before.needs id (List.replicate B.maxNeedsPerOp ⟨0, 0⟩) }
  | need (op : OpId) (resource : ResourceId) (amount : UInt16) (needs : List Need)
      (opInRange : op < before.maxOps) (registered : before.opCfg op = true)
      (resourceInRange : resource < before.maxResources)
      (configured : before.resCfg resource = true) (amount_ne : amount ≠ 0)
      (set : NeedSet resource amount (before.needs op) needs) :
      QuietEffect B nowMs before
        { before with needs := Function.update before.needs op needs }
  | trigger (edge : Edge) (edges : List Edge) (hasStorage : before.causalityHasStorage B = true)
      (parentInRange : edge.parent < before.maxOps) (childInRange : edge.child < before.maxOps)
      (parent_ne : edge.parent ≠ edge.child) (parentRegistered : before.opCfg edge.parent = true)
      (childRegistered : before.opCfg edge.child = true)
      (set : EdgeSet B before.maxOps edge before.edges edges) :
      QuietEffect B nowMs before { before with edges := edges }
  | rateLimit (res : ResourceId) (index : Nat) (window : RateWindow)
      (fresh : B.rateImpl = .fixedWindow → window.consumed = 0) :
      QuietEffect B nowMs before
        { before with
          rateState := Function.update before.rateState res
            { before.rateState res with windows := (before.rateState res).windows.set index window } }
  | lifetimeLimit (res : ResourceId) (lifetimeMax : UInt32) :
      QuietEffect B nowMs before
        { before with
          rateState := Function.update before.rateState res
            { before.rateState res with limitLifetime := lifetimeMax } }
  | pressure (pressure : Pressure) :
      QuietEffect B nowMs before { before with pressure := pressure }
  | hook (hook : Bool) : QuietEffect B nowMs before { before with decisionHook := hook }
  | booked {after : Budget} (booked : Booked B nowMs before after) :
      QuietEffect B nowMs before after
  | journal (journal : Journal) : QuietEffect B nowMs before { before with journal := journal }

theorem profile_isSome {budget : Budget} {op : OpId} :
    (budget.profile op).isSome = true ↔ op < budget.maxOps ∧ budget.opCfg op = true := by
  simp only [Budget.profile]
  split
  · rename_i outside
    simp [UInt8.not_lt.mpr outside]
  · rename_i inside
    split
    · rename_i unregistered
      simp [unregistered]
    · rename_i registered
      simpa [UInt8.not_le.mp inside] using registered

theorem QuietEffect.slots {B : Build} {nowMs : UInt32} {before after : Budget}
    (effect : QuietEffect B nowMs before after) :
    after.leaseSlots = before.leaseSlots ∧ after.maxLeases = before.maxLeases ∧
      ∀ id, after.leaseMagicForId id = before.leaseMagicForId id := by
  cases effect with
  | booked booked =>
      rw [booked.frame]
      exact ⟨rfl, rfl, fun _ => rfl⟩
  | _ => exact ⟨rfl, rfl, fun _ => rfl⟩

theorem QuietEffect.registered {B : Build} {nowMs : UInt32} {before after : Budget} {op : OpId}
    (effect : QuietEffect B nowMs before after)
    (registered : (before.profile op).isSome = true) : (after.profile op).isSome = true := by
  rw [profile_isSome] at registered ⊢
  cases effect with
  | register id profile inRange fresh =>
      refine ⟨registered.1, ?_⟩
      by_cases same : op = id
      · simp [same]
      · simpa [Function.update_of_ne same] using registered.2
  | booked booked =>
      rw [booked.frame]
      exact registered
  | _ => exact registered

/-! ## The calls that configure -/

theorem setPressure_cases (budget : Budget) (raw : UInt32) :
    (∃ pressure, budget.magic = magicInit ∧ Pressure.ofByte? raw.toUInt8 = some pressure ∧
        setPressure budget raw = (.ok, { budget with pressure := pressure })) ∨
      (budget.magic = magicInit → Pressure.ofByte? raw.toUInt8 = none) ∧
        (setPressure budget raw).1 ≠ .ok ∧ (setPressure budget raw).2 = budget := by
  simp only [setPressure]
  split
  · rename_i invalid
    exact Or.inr ⟨fun initialized => absurd (validate_eq_ok.mpr initialized) invalid, invalid, rfl⟩
  rename_i valid
  split
  · rename_i unknown
    exact Or.inr ⟨fun _ => unknown, by simp, rfl⟩
  · rename_i pressure known
    exact Or.inl ⟨pressure, validate_eq_ok.mp (not_not.mp valid), known, rfl⟩

theorem setPressure_effect (B : Build) (nowMs : UInt32) (budget : Budget) (pressure : UInt32) :
    QuietEffect B nowMs budget (setPressure budget pressure).2 := by
  rcases setPressure_cases budget pressure with ⟨_, -, -, accepted⟩ | ⟨-, -, same⟩
  · rw [accepted]
    exact .pressure _
  · rw [same]
    exact .unchanged

theorem setDecisionHook_effect (B : Build) (nowMs : UInt32) (budget : Budget) (hook : Bool) :
    QuietEffect B nowMs budget (setDecisionHook budget hook).2 := by
  simp only [setDecisionHook]
  split
  · exact .unchanged
  · exact .hook _

theorem setResource_cases (budget : Budget) (id : ResourceId) (limit : UInt16) (raw : UInt32) :
    (∃ kind, budget.magic = magicInit ∧ id < budget.maxResources ∧
        ResourceKind.ofByte? raw.toUInt8 = some kind ∧
        setResource budget id limit raw =
          (.ok, { budget with
            resources := Function.update budget.resources id ⟨limit, 0, 0, 0, kind⟩
            resCfg := Function.update budget.resCfg id true })) ∨
      (budget.magic = magicInit → id < budget.maxResources →
          ResourceKind.ofByte? raw.toUInt8 = none) ∧
        (setResource budget id limit raw).1 ≠ .ok ∧
        (setResource budget id limit raw).2 = budget := by
  simp only [setResource]
  split
  · rename_i invalid
    exact Or.inr ⟨fun initialized => absurd (validate_eq_ok.mpr initialized) invalid, invalid, rfl⟩
  rename_i valid
  split
  · rename_i outside
    exact Or.inr ⟨fun _ inRange => absurd inRange (UInt8.not_lt.mpr outside), by simp, rfl⟩
  rename_i inRange
  split
  · rename_i unknown
    exact Or.inr ⟨fun _ _ => unknown, by simp, rfl⟩
  · rename_i kind known
    exact Or.inl ⟨kind, validate_eq_ok.mp (not_not.mp valid), UInt8.not_le.mp inRange, known, rfl⟩

theorem setResource_effect (B : Build) (nowMs : UInt32) (budget : Budget) (id : ResourceId)
    (limit : UInt16) (kind : UInt32) :
    QuietEffect B nowMs budget (setResource budget id limit kind).2 := by
  rcases setResource_cases budget id limit kind with
    ⟨_, -, inRange, -, accepted⟩ | ⟨-, -, same⟩
  · rw [accepted]
    exact .resource id limit _ inRange
  · rw [same]
    exact .unchanged

/-- An op is registered under an id that no op has, with a clear list, or not at all. -/
theorem registerOp_cases (B : Build) (budget : Budget) (profile : Option RawProfile) :
    (∃ raw parsed, profile = some raw ∧ raw.opId < budget.maxOps ∧
        budget.opCfg raw.opId = false ∧
        registerOp B budget profile =
          (.ok,
            { budget with
              ops := Function.update budget.ops raw.opId parsed
              opCfg := Function.update budget.opCfg raw.opId true
              needs := Function.update budget.needs raw.opId
                (List.replicate B.maxNeedsPerOp ⟨0, 0⟩) })) ∨
      (registerOp B budget profile).1 ≠ .ok ∧ (registerOp B budget profile).2 = budget := by
  simp only [registerOp]
  cases profile with
  | none => exact Or.inr ⟨by simp, rfl⟩
  | some raw =>
      simp only
      split
      · rename_i invalid
        exact Or.inr ⟨invalid, rfl⟩
      split
      · exact Or.inr ⟨by simp, rfl⟩
      rename_i inRange
      split
      · exact Or.inr ⟨by simp, rfl⟩
      split
      · exact Or.inr ⟨by simp, rfl⟩
      rename_i parsed _
      split
      · exact Or.inr ⟨by simp, rfl⟩
      rename_i fresh
      split
      · exact Or.inr ⟨by simp, rfl⟩
      · exact Or.inl ⟨raw, parsed, rfl, UInt8.not_le.mp inRange, by simpa using fresh, rfl⟩

theorem registerOp_effect (B : Build) (nowMs : UInt32) (budget : Budget)
    (profile : Option RawProfile) :
    QuietEffect B nowMs budget (registerOp B budget profile).2 := by
  rcases registerOp_cases B budget profile with
    ⟨raw, parsed, -, inRange, fresh, registered⟩ | ⟨-, refused⟩
  · rw [registered]
    exact .register raw.opId parsed inRange fresh
  · rw [refused]
    exact .unchanged

theorem opSetNeed_effect (B : Build) (nowMs : UInt32) (budget : Budget) (op : OpId)
    (resource : ResourceId) (amount : UInt16) :
    QuietEffect B nowMs budget (opSetNeed budget op resource amount).2 := by
  simp only [opSetNeed]
  split
  · exact .unchanged
  split
  · exact .unchanged
  rename_i inRange
  split
  · exact .unchanged
  rename_i amount_ne
  split
  · exact .unchanged
  rename_i registered
  split
  · exact .unchanged
  rename_i configured
  simp only [not_or, ge_iff_le, UInt8.not_le, Bool.not_eq_false] at inRange registered configured
  split
  · rename_i needs updated
    exact .need op resource amount needs inRange.1 registered inRange.2 configured amount_ne
      (Or.inl updated)
  · rename_i missing
    split
    · rename_i needs inserted
      exact .need op resource amount needs inRange.1 registered inRange.2 configured amount_ne
        (Or.inr ⟨missing, inserted⟩)
    · exact .unchanged

theorem opMayTrigger_effect (B : Build) (nowMs : UInt32) (budget : Budget) (parent child : OpId)
    (kind : UInt32) :
    QuietEffect B nowMs budget (opMayTrigger B budget parent child kind).2 := by
  rcases opMayTrigger_cases B budget parent child kind with
    ⟨passes, edges, updated, after⟩ | ⟨new, closes, after⟩ | ⟨-, after⟩
  · rw [after]
    exact .trigger ⟨parent, child, kind.toUInt8⟩ edges passes.hasStorage passes.parentInRange
      passes.childInRange passes.parent_ne passes.parentRegistered passes.childRegistered
      (Or.inl updated)
  · rw [after]
    exact .trigger ⟨parent, child, kind.toUInt8⟩ _ new.hasStorage new.parentInRange
      new.childInRange new.parent_ne new.parentRegistered new.childRegistered
      (Or.inr ⟨updateEdge_eq_none.mpr new.fresh, new.room, closes, rfl⟩)
  · rw [after]
    exact .unchanged

/-- What `set_rate_limit` stores in a window. -/
def configuredWindow (impl : RateImpl) (hal : Hal) (window limit : UInt32) : RateWindow :=
  ⟨hal.nowMs, windowDurationMs window,
    match impl with
    | .tokenBucket => (limit.toUInt64 <<< 16).toUInt32
    | .fixedWindow => 0, limit⟩

theorem setRateLimit_cases (B : Build) (hal : Hal) (budget : Budget) (res : ResourceId)
    (window limit : UInt32) :
    ((setRateLimit B hal budget res window limit).1 ≠ .ok ∧
        (setRateLimit B hal budget res window limit).2 = budget) ∨
      window ≤ 3 ∧ windowDurationMs window ≠ 0 ∧
        setRateLimit B hal budget res window limit =
          (.ok, { budget with
            rateState := Function.update budget.rateState res
              { budget.rateState res with
                windows := (budget.rateState res).windows.set window.toUInt8.toNat
                  (configuredWindow B.rateImpl hal window limit) } }) := by
  simp only [setRateLimit]
  split
  · rename_i invalid
    exact Or.inl ⟨invalid, rfl⟩
  split
  · exact Or.inl ⟨by simp, rfl⟩
  split
  · exact Or.inl ⟨by simp, rfl⟩
  rename_i declared
  split
  · exact Or.inl ⟨by simp, rfl⟩
  split
  · exact Or.inl ⟨by simp, rfl⟩
  split
  · exact Or.inl ⟨by simp, rfl⟩
  rename_i duration
  refine Or.inr ⟨UInt32.not_lt.mp declared, duration, ?_⟩
  cases B.rateImpl <;> rfl

theorem setRateLimit_effect (B : Build) (hal : Hal) (nowMs : UInt32) (budget : Budget)
    (res : ResourceId) (window limit : UInt32) :
    QuietEffect B nowMs budget (setRateLimit B hal budget res window limit).2 := by
  rcases setRateLimit_cases B hal budget res window limit with ⟨-, same⟩ | ⟨-, -, accepted⟩
  · rw [same]
    exact .unchanged
  · rw [accepted]
    refine .rateLimit res window.toUInt8.toNat _ ?_
    intro fixed
    simp [configuredWindow, fixed]

theorem setLifetimeLimit_cases (budget : Budget) (res : ResourceId) (lifetimeMax : UInt32) :
    ((setLifetimeLimit budget res lifetimeMax).1 ≠ .ok ∧
        (setLifetimeLimit budget res lifetimeMax).2 = budget) ∨
      setLifetimeLimit budget res lifetimeMax =
        (.ok, { budget with
          rateState := Function.update budget.rateState res
            { budget.rateState res with limitLifetime := lifetimeMax } }) := by
  simp only [setLifetimeLimit]
  split
  · rename_i invalid
    exact Or.inl ⟨invalid, rfl⟩
  split
  · exact Or.inl ⟨by simp, rfl⟩
  split
  · exact Or.inl ⟨by simp, rfl⟩
  split
  · exact Or.inl ⟨by simp, rfl⟩
  · exact Or.inr rfl

theorem setLifetimeLimit_effect (B : Build) (nowMs : UInt32) (budget : Budget)
    (res : ResourceId) (lifetimeMax : UInt32) :
    QuietEffect B nowMs budget (setLifetimeLimit budget res lifetimeMax).2 := by
  rcases setLifetimeLimit_cases budget res lifetimeMax with ⟨-, same⟩ | accepted
  · rw [same]
    exact .unchanged
  · rw [accepted]
    exact .lifetimeLimit res lifetimeMax

theorem auditClear_effect (B : Build) (nowMs : UInt32) (budget : Budget) :
    QuietEffect B nowMs budget (auditClear budget).2 := by
  simp only [auditClear]
  split
  · exact .unchanged
  split
  · exact .unchanged
  · exact .journal _

theorem next_quiet (B : Build) (budget : Budget) (event : Event)
    (quiet : event.call.isQuiet = true) :
    QuietEffect B event.hal.nowMs budget ((machine B).next budget event) := by
  rcases event with ⟨hal, call⟩
  cases call with
  | setResource id limit kind => exact setResource_effect B _ budget id limit kind
  | registerOp profile => exact registerOp_effect B _ budget profile
  | opSetNeed op resource amount => exact opSetNeed_effect B _ budget op resource amount
  | opMayTrigger parent child kind =>
      simp only [Machine.next, machine, exec]
      split
      · exact opMayTrigger_effect B _ budget parent child kind
      · exact .unchanged
  | setRateLimit res window limit =>
      simp only [Machine.next, machine, exec]
      split
      · exact setRateLimit_effect B hal _ budget res window limit
      · exact .unchanged
  | setLifetimeLimit res lifetimeMax =>
      simp only [Machine.next, machine, exec]
      split
      · exact setLifetimeLimit_effect B _ budget res lifetimeMax
      · exact .unchanged
  | setPressure pressure => exact setPressure_effect B _ budget pressure
  | setDecisionHook hook => exact setDecisionHook_effect B _ budget hook
  | check op out => exact .booked (check_booked B hal budget op out)
  | enter op out => simp [Call.isQuiet] at quiet
  | leave lease => simp [Call.isQuiet] at quiet
  | yieldCheck lease out => exact .unchanged
  | snapshot out => exact .unchanged
  | auditClear =>
      simp only [Machine.next, machine, exec]
      split
      · exact auditClear_effect B _ budget
      · exact .unchanged

/-- The fields that a call writes which moves no lease. -/
inductive Call.Writes (before : Budget) : Call → Budget → Prop
  | setResource (id : ResourceId) (limit : UInt16) (kind : UInt32)
      (resources : ResourceId → Resource) (resCfg : ResourceId → Bool)
      (written : resources = before.resources ∨
        ∃ kind', resources = Function.update before.resources id ⟨limit, 0, 0, 0, kind'⟩) :
      Writes before (.setResource id limit kind)
        { before with resources := resources, resCfg := resCfg }
  | registerOp (profile : Option RawProfile) (ops : OpId → OpProfile) (opCfg : OpId → Bool)
      (needs : OpId → List Need) :
      Writes before (.registerOp profile)
        { before with ops := ops, opCfg := opCfg, needs := needs }
  | opSetNeed (op : OpId) (resource : ResourceId) (amount : UInt16) (needs : OpId → List Need) :
      Writes before (.opSetNeed op resource amount) { before with needs := needs }
  | opMayTrigger (parent child : OpId) (kind : UInt32) (edges : List Edge) :
      Writes before (.opMayTrigger parent child kind) { before with edges := edges }
  | setRateLimit (res : ResourceId) (window limit : UInt32)
      (rateState : ResourceId → RateState) :
      Writes before (.setRateLimit res window limit) { before with rateState := rateState }
  | setLifetimeLimit (res : ResourceId) (lifetimeMax : UInt32)
      (rateState : ResourceId → RateState)
      (windows : ∀ res, (rateState res).windows = (before.rateState res).windows) :
      Writes before (.setLifetimeLimit res lifetimeMax) { before with rateState := rateState }
  | setPressure (raw : UInt32) (pressure : Pressure) :
      Writes before (.setPressure raw) { before with pressure := pressure }
  | setDecisionHook (hook decisionHook : Bool) :
      Writes before (.setDecisionHook hook) { before with decisionHook := decisionHook }
  | check (op : OpId) (out : Bool) (rateState : ResourceId → RateState) (journal : Journal) :
      Writes before (.check op out) { before with rateState := rateState, journal := journal }
  | yieldCheck (lease : Lease) (out : Bool) : Writes before (.yieldCheck lease out) before
  | snapshot (out : Bool) : Writes before (.snapshot out) before
  | auditClear (journal : Journal) : Writes before .auditClear { before with journal := journal }

theorem next_writes (B : Build) (budget : Budget) (event : Event)
    (quiet : event.call.isQuiet = true) :
    event.call.Writes budget ((machine B).next budget event) := by
  rcases event with ⟨hal, call⟩
  cases call with
  | setResource id limit kind =>
      change Call.Writes budget _ (setResource budget id limit kind).2
      rcases setResource_cases budget id limit kind with ⟨_, -, -, -, accepted⟩ | ⟨-, -, same⟩
      · rw [accepted]
        exact .setResource id limit kind _ _ (Or.inr ⟨_, rfl⟩)
      · rw [same]
        exact .setResource id limit kind _ _ (Or.inl rfl)
  | registerOp profile =>
      change Call.Writes budget _ (registerOp B budget profile).2
      rcases registerOp_cases B budget profile with ⟨_, _, -, -, -, accepted⟩ | ⟨-, same⟩
      · rw [accepted]
        exact .registerOp _ _ _ _
      · rw [same]
        exact .registerOp _ _ _ _
  | opSetNeed op resource amount =>
      change Call.Writes budget _ (opSetNeed budget op resource amount).2
      simp only [opSetNeed]
      repeat' split
      all_goals exact .opSetNeed op resource amount _
  | opMayTrigger parent child kind =>
      simp only [Machine.next, machine, exec]
      split
      · rcases opMayTrigger_cases B budget parent child kind with
          ⟨-, edges, -, after⟩ | ⟨-, -, after⟩ | ⟨-, after⟩
        all_goals rw [after]
        all_goals exact .opMayTrigger parent child kind _
      · exact .opMayTrigger parent child kind _
  | setRateLimit res window limit =>
      simp only [Machine.next, machine, exec]
      split
      · rcases setRateLimit_cases B hal budget res window limit with
          ⟨-, same⟩ | ⟨-, -, accepted⟩
        · rw [same]
          exact .setRateLimit res window limit _
        · rw [accepted]
          exact .setRateLimit res window limit _
      · exact .setRateLimit res window limit _
  | setLifetimeLimit res lifetimeMax =>
      simp only [Machine.next, machine, exec]
      split
      · rcases setLifetimeLimit_cases budget res lifetimeMax with ⟨-, same⟩ | accepted
        · rw [same]
          exact .setLifetimeLimit res lifetimeMax _ fun _ => rfl
        · rw [accepted]
          refine .setLifetimeLimit res lifetimeMax _ ?_
          intro other
          by_cases same : other = res
          · subst same
            simp
          · simp [Function.update_of_ne same]
      · exact .setLifetimeLimit res lifetimeMax _ fun _ => rfl
  | setPressure pressure =>
      change Call.Writes budget _ (setPressure budget pressure).2
      rcases setPressure_cases budget pressure with ⟨_, -, -, accepted⟩ | ⟨-, -, same⟩
      · rw [accepted]
        exact .setPressure pressure _
      · rw [same]
        exact .setPressure pressure _
  | setDecisionHook hook =>
      change Call.Writes budget _ (setDecisionHook budget hook).2
      simp only [setDecisionHook]
      split
      all_goals exact .setDecisionHook hook _
  | check op out =>
      have booked := check_booked B hal budget op out
      change Call.Writes budget _ (check B hal budget op out).2.2
      rw [booked.frame]
      exact .check op out _ _
  | enter op out => exact absurd quiet Bool.false_ne_true
  | leave lease => exact absurd quiet Bool.false_ne_true
  | yieldCheck lease out => exact .yieldCheck lease out
  | snapshot out => exact .snapshot out
  | auditClear =>
      simp only [Machine.next, machine, exec, auditClear]
      repeat' split
      all_goals exact .auditClear _

theorem next_enter (B : Build) (budget : Budget) (hal : Hal) (op : OpId) (out : Bool) :
    (machine B).next budget ⟨hal, .enter op out⟩ = (enter B hal budget op out).2 := rfl

theorem reply_enter (B : Build) (budget : Budget) (hal : Hal) (op : OpId) (out : Bool) :
    (machine B).reply budget ⟨hal, .enter op out⟩ =
      ⟨(enter B hal budget op out).1.1, none, (enter B hal budget op out).1.2, none, none⟩ := rfl

theorem next_leave (B : Build) (budget : Budget) (hal : Hal) (lease : Lease) :
    (machine B).next budget ⟨hal, .leave lease⟩ = (leave budget lease).2 := rfl

/-- Every public call has a quiet effect, acquires a slot after a booked decision, or releases the
slot of a lease it has accepted. -/
theorem next_cases (B : Build) (budget : Budget) (event : Event) :
    QuietEffect B event.hal.nowMs budget ((machine B).next budget event) ∨
      (∃ op middle slotId, Booked B event.hal.nowMs budget middle ∧ Cleared middle op ∧
        middle.freeSlot = some slotId ∧
        (machine B).next budget event = middle.acquired B event.hal op slotId) ∨
      ∃ lease, Accepts budget lease ∧ (machine B).next budget event = budget.released lease := by
  by_cases quiet : event.call.isQuiet = true
  · exact Or.inl (next_quiet B budget event quiet)
  · rcases event with ⟨hal, call⟩
    cases call with
    | enter op out =>
        rcases enter_cases B hal budget op out with
          ⟨booked, -⟩ | ⟨middle, slotId, booked, cleared, free, entered⟩
        · exact Or.inl (.booked booked)
        · refine Or.inr (Or.inl ⟨op, middle, slotId, booked, cleared, free, ?_⟩)
          rw [next_enter, entered]
    | leave lease =>
        by_cases accepts : Accepts budget lease
        · refine Or.inr (Or.inr ⟨lease, accepts, ?_⟩)
          rw [next_leave, leave_of_accepts accepts]
        · left
          rw [next_leave, (leave_of_not_accepts accepts).2]
          exact .unchanged
    | _ => simp [Call.isQuiet] at quiet

end Loxbudget
