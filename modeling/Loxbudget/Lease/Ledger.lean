import Loxbudget.Invariant.Capacity
import Loxbudget.Lease.Tokens
import Mathlib.Algebra.GroupWithZero.Nat
import Mathlib.Data.List.Nodup

/-!
# The ledger of outstanding leases

The abstract side of the lease machine: the tokens that have been handed out and not
left, each with what its own `enter` added to `reserved`, what all successful enters
have needed so far, and the highest value that each counter has had. The instance
never reads the ledger.

`Tracks` relates the slot table to the ledger over every run in which `leave` is
called with outstanding tokens only. It says nothing about amounts, so it holds
however the tables are reconfigured in between.
-/

namespace Loxbudget

/-- An outstanding token, with what its `enter` added to the reserved counters. -/
structure Holding where
  lease : Lease
  added : ResourceId → Nat

/-- The abstract state of the lease machine. -/
structure Ledger where
  outstanding : List Holding
  granted : ResourceId → Nat
  peak : ResourceId → Nat

/-- The ledger of an instance on which no op has been entered. -/
def Ledger.empty : Ledger :=
  ⟨[], fun _ => 0, fun _ => 0⟩

/-- A successful `enter`: the token becomes outstanding, and the needs of its op are granted. -/
def Ledger.issue (token : Lease) (before after : Budget) (ledger : Ledger) : Ledger :=
  { ledger with
    outstanding :=
      ⟨token, fun resource =>
        (after.resources resource).reserved.toNat -
          (before.resources resource).reserved.toNat⟩ :: ledger.outstanding
    granted := fun resource =>
      ledger.granted resource + (needOf (after.needs token.op) resource).toNat }

/-- A successful `leave`: the token is no longer outstanding. -/
def Ledger.consume (token : Lease) (ledger : Ledger) : Ledger :=
  { ledger with
    outstanding := ledger.outstanding.eraseP fun holding => holding.lease = token }

/-- Every step takes note of the counters. -/
def Ledger.watch (after : Budget) (ledger : Ledger) : Ledger :=
  { ledger with
    peak := fun resource => max (ledger.peak resource) (after.resources resource).counter }

/-- How a call with its reply changes the ledger. -/
def Ledger.record (ledger : Ledger) (before : Budget) (event : Event) (reply : Reply)
    (after : Budget) : Ledger :=
  match issuedToken (event.call, reply), consumedToken (event.call, reply) with
  | some token, _ => (ledger.issue token before after).watch after
  | none, some token => (ledger.consume token).watch after
  | none, none => ledger.watch after

/-- The instance with its ledger. -/
def ledgerMachine (B : Build) : Machine (Budget × Ledger) Event Reply :=
  (machine B).observe Ledger.record

/-- The ledger does not influence the instance. -/
theorem ledgerMachine_run (B : Build) (state : Budget × Ledger) (events : List Event) :
    ((ledgerMachine B).run state events).1 = (machine B).run state.1 events :=
  (machine B).observe_run_fst _ state

/-- `leave` is called with outstanding tokens only. -/
def Disciplined (state : Budget × Ledger) (event : Event) : Prop :=
  match event.call with
  | .leave lease => ∃ holding ∈ state.2.outstanding, holding.lease = lease
  | _ => True

/-- The call changes the tables that say what an op needs and what a resource is. -/
def Call.configures : Call → Bool
  | .setResource _ _ _ | .registerOp _ | .opSetNeed _ _ _ => true
  | _ => false

/-- The slot table holds exactly the outstanding tokens. -/
structure Tracks (B : Build) (state : Budget × Ledger) : Prop where
  wellFormed : WellFormed B state.1
  ids_nodup : (state.2.outstanding.map (·.lease.id)).Nodup
  active_iff : ∀ id, (state.1.leaseSlot id).active = true ↔
    id ∈ state.2.outstanding.map (·.lease.id)
  tokens : ∀ holding ∈ state.2.outstanding,
    holding.lease.magic = state.1.leaseMagicForId holding.lease.id ∧
      (state.1.profile holding.lease.op).isSome = true
  active_count : state.1.leaseSlots.countP (·.active) = state.2.outstanding.length

/-! ## One step -/

theorem operating_frame (B : Build) (budget : Budget) (event : Event)
    (quiet : event.call.isQuiet = true) (operates : event.call.configures = false) :
    ((machine B).next budget event).resources = budget.resources ∧
      ((machine B).next budget event).needs = budget.needs := by
  have writes := next_writes B budget event quiet
  generalize (machine B).next budget event = after at writes ⊢
  rcases event with ⟨hal, call⟩
  cases writes with
  | setResource => exact absurd operates Bool.true_eq_false.mp
  | registerOp => exact absurd operates Bool.true_eq_false.mp
  | opSetNeed => exact absurd operates Bool.true_eq_false.mp
  | _ => exact ⟨rfl, rfl⟩

/-- The resources after a call that moves no lease: only `set_resource` changes them. -/
theorem quiet_resources (B : Build) (budget : Budget) (event : Event)
    (quiet : event.call.isQuiet = true) :
    ((machine B).next budget event).resources = budget.resources ∨
      ∃ id limit kind kind', event.call = .setResource id limit kind ∧
        ((machine B).next budget event).resources =
          Function.update budget.resources id ⟨limit, 0, 0, 0, kind'⟩ := by
  have writes := next_writes B budget event quiet
  generalize (machine B).next budget event = after at writes ⊢
  rcases event with ⟨hal, call⟩
  cases writes with
  | setResource id limit kind resources resCfg written =>
      rcases written with kept | ⟨kind', set⟩
      · exact Or.inl kept
      · exact Or.inr ⟨id, limit, kind, kind', rfl, set⟩
  | _ => exact Or.inl rfl

theorem Tracks.accepts {B : Build} {state : Budget × Ledger} (tracks : Tracks B state)
    {holding : Holding} (held : holding ∈ state.2.outstanding) :
    Accepts state.1 holding.lease := by
  have active := (tracks.active_iff holding.lease.id).mpr (List.mem_map_of_mem held)
  have inRange := lt_of_active active
  rw [tracks.wellFormed.slots_length] at inRange
  have token := tracks.tokens holding held
  exact ⟨tracks.wellFormed.initialized, UInt8.lt_iff_toNat_lt.mpr inRange, token.1, token.2,
    active, (tracks.wellFormed.slots_magic _ active).trans token.1.symm⟩

/-! ## What a step records -/

theorem Ledger.record_issued {ledger : Ledger} {before after : Budget} {event : Event}
    {reply : Reply} {token : Lease} (issued : issuedToken (event.call, reply) = some token) :
    ledger.record before event reply after = (ledger.issue token before after).watch after := by
  simp only [Ledger.record, issued]

theorem Ledger.record_consumed {ledger : Ledger} {before after : Budget} {event : Event}
    {reply : Reply} {token : Lease} (unissued : issuedToken (event.call, reply) = none)
    (consumed : consumedToken (event.call, reply) = some token) :
    ledger.record before event reply after = (ledger.consume token).watch after := by
  simp only [Ledger.record, unissued, consumed]

theorem Ledger.record_silent {ledger : Ledger} {before after : Budget} {event : Event}
    {reply : Reply} (unissued : issuedToken (event.call, reply) = none)
    (unconsumed : consumedToken (event.call, reply) = none) :
    ledger.record before event reply after = ledger.watch after := by
  simp only [Ledger.record, unissued, unconsumed]

theorem Ledger.record_quiet {ledger : Ledger} {before after : Budget} {event : Event}
    {reply : Reply} (quiet : event.call.isQuiet = true) :
    ledger.record before event reply after = ledger.watch after := by
  rcases event with ⟨hal, call⟩
  cases call with
  | enter op out => exact absurd quiet Bool.false_ne_true
  | leave lease => exact absurd quiet Bool.false_ne_true
  | _ => exact Ledger.record_silent rfl rfl

theorem Ledger.consume_outstanding {ledger : Ledger} {held : Holding}
    (listed : held ∈ ledger.outstanding) :
    ∃ front holding back, ledger.outstanding = front ++ holding :: back ∧
      holding.lease = held.lease ∧
      ledger.consume held.lease = { ledger with outstanding := front ++ back } := by
  rcases List.exists_of_eraseP (p := fun holding => holding.lease = held.lease) listed
    (by simp) with ⟨holding, front, back, -, same, split, erased⟩
  refine ⟨front, holding, back, split, by simpa using same, ?_⟩
  simp only [Ledger.consume, erased]

/-- An `enter` that fails leaves the ledger alone; one that succeeds issues its token. -/
theorem enter_recorded (B : Build) (hal : Hal) (budget : Budget) (ledger : Ledger) (op : OpId)
    (out : Bool) :
    let event : Event := ⟨hal, .enter op out⟩
    let after := (machine B).next budget event
    let ledger' := ((ledgerMachine B).next (budget, ledger) event).2
    (Booked B hal.nowMs budget after ∧ ledger' = ledger.watch after) ∨
      ∃ middle slotId, Booked B hal.nowMs budget middle ∧ Cleared middle op ∧
        middle.freeSlot = some slotId ∧ after = middle.acquired B hal op slotId ∧
        ledger' = (ledger.issue (middle.issuedLease hal op slotId) budget after).watch
          after := by
  intro event after ledger'
  have after_eq : after = (enter B hal budget op out).2 := rfl
  have reply_eq := reply_enter B budget hal op out
  rcases enter_cases B hal budget op out with
    ⟨booked, failed⟩ | ⟨middle, slotId, booked, cleared, free, entered⟩
  · left
    rw [← after_eq] at booked
    have unissued : issuedToken (event.call, (machine B).reply budget event) = none := by
      simp [issuedToken, event, reply_eq, failed]
    exact ⟨booked, Ledger.record_silent unissued rfl⟩
  · right
    have issued : issuedToken (event.call, (machine B).reply budget event) =
        some (middle.issuedLease hal op slotId) := by
      simp [issuedToken, event, reply_eq, entered]
    exact ⟨middle, slotId, booked, cleared, free, by rw [after_eq, entered],
      Ledger.record_issued issued⟩

/-- A `leave` with an outstanding token succeeds, and consumes it. -/
theorem Tracks.leave_recorded {B : Build} {budget : Budget} {ledger : Ledger} {held : Holding}
    (tracks : Tracks B (budget, ledger)) (hal : Hal) (listed : held ∈ ledger.outstanding) :
    let event : Event := ⟨hal, .leave held.lease⟩
    let after := (machine B).next budget event
    after = budget.released held.lease ∧
      ((ledgerMachine B).next (budget, ledger) event).2 =
        (ledger.consume held.lease).watch after := by
  intro event after
  have left_eq := leave_of_accepts (tracks.accepts listed)
  constructor
  · change (leave budget held.lease).2 = _
    rw [left_eq]
  · apply Ledger.record_consumed
    · rfl
    · change consumedToken (.leave held.lease, .ofStatus (leave budget held.lease).1) = _
      rw [left_eq]
      rfl

theorem Tracks.next_cases {B : Build} {budget : Budget} {ledger : Ledger} {event : Event}
    (tracks : Tracks B (budget, ledger)) (disciplined : Disciplined (budget, ledger) event) :
    let after := (machine B).next budget event
    let ledger' := ((ledgerMachine B).next (budget, ledger) event).2
    (QuietEffect B event.hal.nowMs budget after ∧
        (after.resources = budget.resources ∨
          ∃ id limit kind kind', event.call = .setResource id limit kind ∧
            after.resources = Function.update budget.resources id ⟨limit, 0, 0, 0, kind'⟩) ∧
        (event.call.configures = false → after.needs = budget.needs) ∧
        ledger' = ledger.watch after) ∨
      (∃ op middle slotId, Booked B event.hal.nowMs budget middle ∧ Cleared middle op ∧
        middle.freeSlot = some slotId ∧ after = middle.acquired B event.hal op slotId ∧
        ledger' = (ledger.issue (middle.issuedLease event.hal op slotId) budget after).watch
          after) ∨
      ∃ front holding back, ledger.outstanding = front ++ holding :: back ∧
        event.call = .leave holding.lease ∧ Accepts budget holding.lease ∧
        after = budget.released holding.lease ∧
        ledger' = Ledger.watch after { ledger with outstanding := front ++ back } := by
  intro after ledger'
  by_cases quiet : event.call.isQuiet = true
  · left
    exact ⟨next_quiet B budget event quiet, quiet_resources B budget event quiet,
      fun operates => (operating_frame B budget event quiet operates).2,
      Ledger.record_quiet quiet⟩
  · rcases event with ⟨hal, call⟩
    cases call with
    | enter op out =>
        rcases enter_recorded B hal budget ledger op out with
          ⟨booked, recorded⟩ | ⟨middle, slotId, entered⟩
        · left
          exact ⟨.booked booked, Or.inl booked.resources, fun _ => booked.needs, recorded⟩
        · right
          left
          exact ⟨op, middle, slotId, entered⟩
    | leave lease =>
        right
        right
        rcases disciplined with ⟨held, listed, rfl⟩
        rcases tracks.leave_recorded hal listed with ⟨released, recorded⟩
        rcases Ledger.consume_outstanding listed with ⟨front, holding, back, split, same, consumed⟩
        rw [consumed] at recorded
        refine ⟨front, holding, back, split, by rw [same], ?_, ?_, recorded⟩
        · rw [same]
          exact tracks.accepts listed
        · rw [same]
          exact released
    | _ => exact absurd rfl quiet

/-! ## The slot table tracks the ledger -/

theorem Tracks.of_unused {B : Build} {budget : Budget} (wellFormed : WellFormed B budget)
    (unused : ∀ id, (budget.leaseSlot id).active = false) : Tracks B (budget, .empty) where
  wellFormed := wellFormed
  ids_nodup := List.nodup_nil
  active_iff := by simp [Ledger.empty, unused]
  tokens := by simp [Ledger.empty]
  active_count := by
    have few := wellFormed.slots_few
    simp only [Ledger.empty, List.length_nil, List.countP_eq_zero, Bool.not_eq_true]
    intro slot listed
    rcases List.mem_iff_getElem.mp listed with ⟨index, inRange, rfl⟩
    have inactive := unused (UInt8.ofNat index)
    have exact_id : (UInt8.ofNat index).toNat = index := by
      rw [UInt8.toNat_ofNat']
      omega
    simp only [Budget.leaseSlot] at inactive
    rw [exact_id, List.getD_eq_getElem?_getD, List.getElem?_eq_getElem inRange] at inactive
    exact inactive

theorem Tracks.silent {B : Build} {budget after : Budget} {ledger ledger' : Ledger}
    (tracks : Tracks B (budget, ledger)) (wellFormed : WellFormed B after)
    (slots : after.leaseSlots = budget.leaseSlots ∧ after.maxLeases = budget.maxLeases ∧
      ∀ id, after.leaseMagicForId id = budget.leaseMagicForId id)
    (registered : ∀ op, (budget.profile op).isSome = true → (after.profile op).isSome = true)
    (outstanding : ledger'.outstanding = ledger.outstanding) : Tracks B (after, ledger') where
  wellFormed := wellFormed
  ids_nodup := by
    simp only [outstanding]
    exact tracks.ids_nodup
  active_iff := by
    intro id
    have before := tracks.active_iff id
    simp only [Budget.leaseSlot] at before ⊢
    simp only [outstanding, slots.1] at before ⊢
    exact before
  tokens := by
    intro holding listed
    simp only [outstanding] at listed
    have before := tracks.tokens holding listed
    simp only [slots.2.2]
    exact ⟨before.1, registered _ before.2⟩
  active_count := by
    simp only [outstanding, slots.1]
    exact tracks.active_count

theorem countP_active_set {slots : List LeaseSlot} {index : Nat} (slot : LeaseSlot)
    (inRange : index < slots.length) :
    (slots.set index slot).countP (·.active) + (if (slots.getD index .zero).active then 1 else 0) =
      slots.countP (·.active) + if slot.active then 1 else 0 := by
  have counted : 0 < slots.countP (·.active) ∨ (slots.getD index .zero).active = false := by
    by_cases active : (slots.getD index .zero).active = true
    · left
      rw [List.getD_eq_getElem?_getD, List.getElem?_eq_getElem inRange] at active
      exact List.countP_pos_iff.mpr ⟨_, List.getElem_mem inRange, active⟩
    · right
      simpa using active
  rw [List.countP_set inRange]
  rw [List.getD_eq_getElem?_getD, List.getElem?_eq_getElem inRange] at counted ⊢
  simp only [Option.getD_some] at counted ⊢
  split
  · rename_i active
    have positive := counted.resolve_right (by simp [active])
    omega
  · omega

theorem Tracks.acquired {B : Build} {budget middle : Budget} {ledger ledger' : Ledger}
    {hal : Hal} {op : OpId} {slotId : UInt8} {nowMs : UInt32} {holding : Holding}
    (tracks : Tracks B (budget, ledger)) (booked : Booked B nowMs budget middle)
    (cleared : Cleared middle op) (free : middle.freeSlot = some slotId)
    (lease : holding.lease = middle.issuedLease hal op slotId)
    (outstanding : ledger'.outstanding = holding :: ledger.outstanding) :
    Tracks B (middle.acquired B hal op slotId, ledger') := by
  have wellFormed := tracks.wellFormed.booked booked
  rcases freeSlot_spec wellFormed.slots_few free with ⟨inRange, inactive⟩
  have id_eq : holding.lease.id = slotId := by
    rw [lease]
    rfl
  have fresh : slotId ∉ ledger.outstanding.map (·.lease.id) := by
    rw [← tracks.active_iff slotId, ← booked.leaseSlot, inactive]
    simp
  refine ⟨wellFormed.acquired hal op slotId, ?_, ?_, ?_, ?_⟩
  · simp only [outstanding, List.map_cons, List.nodup_cons, id_eq]
    exact ⟨fresh, tracks.ids_nodup⟩
  · intro id
    simp only [outstanding, List.map_cons, List.mem_cons, id_eq]
    by_cases same : id = slotId
    · subst same
      rw [acquired_leaseSlot_self inRange]
      simp
    · rw [acquired_leaseSlot_of_ne same, booked.leaseSlot, tracks.active_iff id]
      simp [same]
  · intro other listed
    simp only [outstanding, List.mem_cons] at listed
    have magic : (middle.acquired B hal op slotId).leaseMagicForId other.lease.id =
        middle.leaseMagicForId other.lease.id := rfl
    have profile : (middle.acquired B hal op slotId).profile other.lease.op =
        middle.profile other.lease.op := rfl
    simp only [magic, profile]
    rcases listed with rfl | earlier
    · rw [lease]
      exact ⟨rfl, cleared.registered⟩
    · have before := tracks.tokens other earlier
      rw [booked.leaseMagicForId, booked.profile]
      exact before
  · have counted := countP_active_set
      ⟨middle.leaseMagicForId slotId, true, middle.pressure⟩ inRange
    have before := tracks.active_count
    simp only [Budget.leaseSlot] at inactive
    simp only [inactive, Bool.false_eq_true, if_false, if_true] at counted
    simp only [outstanding, List.length_cons] at before ⊢
    rw [← before, ← booked.leaseSlots]
    exact counted

theorem Tracks.released {B : Build} {budget : Budget} {ledger ledger' : Ledger}
    {front back : List Holding} {holding : Holding} (tracks : Tracks B (budget, ledger))
    (accepts : Accepts budget holding.lease)
    (split : ledger.outstanding = front ++ holding :: back)
    (outstanding : ledger'.outstanding = front ++ back) :
    Tracks B (budget.released holding.lease, ledger') := by
  have ids_nodup := tracks.ids_nodup
  simp only [split, List.map_append, List.map_cons] at ids_nodup
  have apart := List.nodup_middle.mp ids_nodup
  rw [List.nodup_cons, ← List.map_append] at apart
  refine ⟨tracks.wellFormed.released holding.lease, ?_, ?_, ?_, ?_⟩
  · simp only [outstanding]
    exact apart.2
  · intro id
    simp only [outstanding]
    by_cases same : id = holding.lease.id
    · subst same
      rw [released_leaseSlot_self accepts.active]
      simpa using apart.1
    · rw [released_leaseSlot_of_ne same, tracks.active_iff id]
      simp [split, same]
  · intro other listed
    simp only [outstanding] at listed
    have earlier : other ∈ ledger.outstanding := by
      rw [split]
      simp only [List.mem_append, List.mem_cons] at listed ⊢
      tauto
    exact tracks.tokens other earlier
  · have inRange := lt_of_active accepts.active
    have active := accepts.active
    have counted := countP_active_set
      { budget.leaseSlot holding.lease.id with active := false, magic := 0 } inRange
    have before := tracks.active_count
    simp only [Budget.leaseSlot] at active
    simp only [active, Bool.false_eq_true, if_false, if_true] at counted
    simp only [split, outstanding, List.length_append, List.length_cons] at before ⊢
    have after : (budget.released holding.lease).leaseSlots.countP (·.active) + 1 =
        budget.leaseSlots.countP (·.active) := counted
    omega

/-- Every disciplined call keeps the slot table in step with the ledger. -/
theorem Tracks.next {B : Build} {state : Budget × Ledger} {event : Event}
    (tracks : Tracks B state) (disciplined : Disciplined state event) :
    Tracks B ((ledgerMachine B).next state event) := by
  rcases state with ⟨budget, ledger⟩
  have pair : (ledgerMachine B).next (budget, ledger) event =
      ((machine B).next budget event, ((ledgerMachine B).next (budget, ledger) event).2) := rfl
  rw [pair]
  rcases tracks.next_cases disciplined with ⟨effect, -, -, recorded⟩ |
    ⟨op, middle, slotId, booked, cleared, free, after, recorded⟩ |
    ⟨front, holding, back, split, -, accepts, after, recorded⟩
  · exact tracks.silent (tracks.wellFormed.quiet effect) effect.slots
      (fun _ => effect.registered) (by rw [recorded]; rfl)
  · rw [recorded, after]
    exact tracks.acquired booked cleared free rfl rfl
  · rw [recorded, after]
    exact tracks.released accepts split rfl

/-! ## The reserved counters -/

/-- Every reserved counter is the sum of what the outstanding enters added to it. -/
def Balanced (state : Budget × Ledger) : Prop :=
  ∀ resource, (state.1.resources resource).reserved.toNat =
    (state.2.outstanding.map (·.added resource)).sum

theorem Balanced.acquired {B : Build} {budget middle : Budget} {ledger ledger' : Ledger}
    {hal : Hal} {op : OpId} {slotId : UInt8} {nowMs : UInt32} {holding : Holding}
    (balanced : Balanced (budget, ledger)) (wellFormed : WellFormed B budget)
    (sound : budget.Sound) (booked : Booked B nowMs budget middle) (cleared : Cleared middle op)
    (added : ∀ resource, holding.added resource =
      ((middle.acquired B hal op slotId).resources resource).reserved.toNat -
        (budget.resources resource).reserved.toNat)
    (outstanding : ledger'.outstanding = holding :: ledger.outstanding) :
    Balanced (middle.acquired B hal op slotId, ledger') := by
  intro resource
  have before := balanced resource
  have committed := (commitResources_exact ((wellFormed.booked booked).needs_distinct op)
    (cleared.fits (sound.booked booked)) (sound.booked booked) resource).2.1
  have same : (middle.resources resource).reserved = (budget.resources resource).reserved := by
    rw [booked.resources]
  simp only [outstanding, List.map_cons, List.sum_cons, added] at before ⊢
  rw [← before]
  have after : ((middle.acquired B hal op slotId).resources resource).reserved.toNat = _ :=
    committed
  rw [same] at after
  omega

/-- A `leave` that lowers every counter by what its own enter added keeps the balance. -/
theorem Balanced.released {budget : Budget} {ledger ledger' : Ledger}
    {front back : List Holding} {holding : Holding} (balanced : Balanced (budget, ledger))
    (split : ledger.outstanding = front ++ holding :: back)
    (outstanding : ledger'.outstanding = front ++ back)
    (lowered : ∀ resource,
      ((budget.released holding.lease).resources resource).reserved.toNat +
        holding.added resource = (budget.resources resource).reserved.toNat) :
    Balanced (budget.released holding.lease, ledger') := by
  intro resource
  have before := balanced resource
  have exactly := lowered resource
  simp only [split, outstanding, List.map_append, List.map_cons, List.sum_append,
    List.sum_cons] at before ⊢
  omega

theorem Balanced.silent {budget after : Budget} {ledger ledger' : Ledger}
    (balanced : Balanced (budget, ledger)) (resources : after.resources = budget.resources)
    (outstanding : ledger'.outstanding = ledger.outstanding) : Balanced (after, ledger') := by
  intro resource
  simp only [resources, outstanding]
  exact balanced resource

/-- What a resource has reserved beyond the part of one holding belongs to the others. -/
theorem Balanced.added_le {budget : Budget} {ledger : Ledger} {front back : List Holding}
    {holding : Holding} (balanced : Balanced (budget, ledger))
    (split : ledger.outstanding = front ++ holding :: back) (resource : ResourceId) :
    (budget.resources resource).reserved.toNat =
      holding.added resource + ((front ++ back).map (·.added resource)).sum := by
  have before := balanced resource
  simp only [split, List.map_append, List.map_cons, List.sum_append, List.sum_cons]
    at before ⊢
  omega

end Loxbudget
