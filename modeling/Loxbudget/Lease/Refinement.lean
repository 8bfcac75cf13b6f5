import Loxbudget.Lease.Ledger

/-!
# The lease machine refines the ledger

Once the tables are configured, the slots and counters of an instance are determined
by the abstract ledger: what `leave` takes away, although it is looked up again in
the need table, is what the `enter` of that token added.
-/

namespace Loxbudget

/-- No op has been entered: the counters are at zero and no slot is active. -/
structure Unused (budget : Budget) : Prop where
  counters : ∀ resource, (budget.resources resource).used = 0 ∧
    (budget.resources resource).reserved = 0 ∧ (budget.resources resource).highWatermark = 0
  slots : ∀ id, (budget.leaseSlot id).active = false

theorem Unused.of_fresh {B : Build} {budget : Budget} (fresh : Fresh B budget) :
    Unused budget where
  counters := by
    intro resource
    rw [fresh.resources]
    exact ⟨rfl, rfl, rfl⟩
  slots := fresh.inactive

theorem Unused.next {B : Build} {budget : Budget} {event : Event} (unused : Unused budget)
    (quiet : event.call.isQuiet = true) : Unused ((machine B).next budget event) := by
  have effect := next_quiet B budget event quiet
  constructor
  · intro resource
    rcases quiet_resources B budget event quiet with same | ⟨id, limit, kind, kind', -, changed⟩
    · rw [same]
      exact unused.counters resource
    · rw [changed]
      by_cases named : resource = id
      · subst named
        simp
      · rw [Function.update_of_ne named]
        exact unused.counters resource
  · intro id
    simp only [Budget.leaseSlot]
    rw [effect.slots.1]
    exact unused.slots id

/-- The instance agrees with its ledger. -/
structure Mirrors (B : Build) (state : Budget × Ledger) : Prop where
  tracks : Tracks B state
  sound : state.1.Sound
  balanced : Balanced state
  added : ∀ holding ∈ state.2.outstanding, ∀ resource,
    (state.1.resources resource).kind = .reusable →
    holding.added resource = (needOf (state.1.needs holding.lease.op) resource).toNat
  used : ∀ resource, (state.1.resources resource).kind = .consumable →
    (state.1.resources resource).used.toNat = state.2.granted resource
  peak : ∀ resource, (state.1.resources resource).kind ≠ .state →
    (state.1.resources resource).highWatermark.toNat = state.2.peak resource

theorem Mirrors.of_unused {B : Build} {budget : Budget} (wellFormed : WellFormed B budget)
    (sound : budget.Sound) (unused : Unused budget) : Mirrors B (budget, .empty) where
  tracks := Tracks.of_unused wellFormed unused.slots
  sound := sound
  balanced := by
    intro resource
    simp [Ledger.empty, (unused.counters resource).2.1]
  added := by simp [Ledger.empty]
  used := by
    intro resource _
    simp [Ledger.empty, (unused.counters resource).1]
  peak := by
    intro resource _
    simp [Ledger.empty, (unused.counters resource).2.2]

theorem Mirrors.silent {B : Build} {budget after : Budget} {ledger ledger' : Ledger}
    (mirrors : Mirrors B (budget, ledger)) (tracks : Tracks B (after, ledger'))
    (resources : after.resources = budget.resources) (needs : after.needs = budget.needs)
    (recorded : ledger' = ledger.watch after) : Mirrors B (after, ledger') := by
  subst recorded
  refine ⟨tracks, ?_, mirrors.balanced.silent resources rfl, ?_, ?_, ?_⟩
  · intro resource
    simp only [resources]
    exact mirrors.sound resource
  · intro holding listed resource kind
    simp only [resources] at kind
    simp only [needs]
    exact mirrors.added holding listed resource kind
  · intro resource kind
    simp only [resources] at kind ⊢
    exact mirrors.used resource kind
  · intro resource kind
    have peak := mirrors.peak resource
    have counter_le := (mirrors.sound resource).counter_le
    simp only [resources, Ledger.watch] at kind peak counter_le ⊢
    rw [← peak kind, Nat.max_eq_left counter_le]

theorem Mirrors.acquired {B : Build} {budget middle : Budget} {ledger : Ledger}
    {hal : Hal} {op : OpId} {slotId : UInt8} {nowMs : UInt32}
    (mirrors : Mirrors B (budget, ledger)) (booked : Booked B nowMs budget middle)
    (cleared : Cleared middle op) (free : middle.freeSlot = some slotId) :
    Mirrors B (middle.acquired B hal op slotId,
      (ledger.issue (middle.issuedLease hal op slotId) budget
        (middle.acquired B hal op slotId)).watch (middle.acquired B hal op slotId)) := by
  have wellFormed := mirrors.tracks.wellFormed
  have sound : middle.Sound := mirrors.sound.booked booked
  have needs : (middle.acquired B hal op slotId).needs = budget.needs := booked.needs
  have exactly : ∀ resource,
      ((middle.acquired B hal op slotId).resources resource).kind =
          (budget.resources resource).kind ∧
        ((middle.acquired B hal op slotId).resources resource).reserved.toNat =
          (budget.resources resource).reserved.toNat +
            (if (budget.resources resource).kind = .reusable then
              (needOf (budget.needs op) resource).toNat else 0) ∧
        ((middle.acquired B hal op slotId).resources resource).used.toNat =
          (budget.resources resource).used.toNat +
            (if (budget.resources resource).kind = .consumable then
              (needOf (budget.needs op) resource).toNat else 0) ∧
        ((budget.resources resource).kind ≠ .state →
          ((middle.acquired B hal op slotId).resources resource).highWatermark.toNat =
            max (budget.resources resource).highWatermark.toNat
              ((middle.acquired B hal op slotId).resources resource).counter) := by
    intro resource
    rw [← booked.resources, ← booked.needs]
    exact commitResources_exact ((wellFormed.booked booked).needs_distinct op)
      (cleared.fits sound) sound resource
  refine ⟨mirrors.tracks.acquired booked cleared free rfl rfl,
    sound.acquired hal slotId (wellFormed.booked booked) cleared,
    mirrors.balanced.acquired wellFormed mirrors.sound booked cleared (fun _ => rfl) rfl,
    ?_, ?_, ?_⟩
  · intro holding listed resource kind
    rw [(exactly resource).1] at kind
    simp only [needs]
    rcases List.mem_cons.mp listed with rfl | earlier
    · have reserved := (exactly resource).2.1
      rw [if_pos kind] at reserved
      simp only [reserved, Budget.issuedLease]
      omega
    · exact mirrors.added holding earlier resource kind
  · intro resource kind
    rw [(exactly resource).1] at kind
    have before := mirrors.used resource kind
    have used := (exactly resource).2.2.1
    rw [if_pos kind] at used
    simp only [Ledger.watch, Ledger.issue, needs, used, Budget.issuedLease] at before ⊢
    rw [before]
  · intro resource kind
    rw [(exactly resource).1] at kind
    have before := mirrors.peak resource kind
    simp only [Ledger.watch, Ledger.issue] at before ⊢
    rw [(exactly resource).2.2.2 kind, before]

theorem Mirrors.released {B : Build} {budget : Budget} {ledger : Ledger}
    {front back : List Holding} {holding : Holding} (mirrors : Mirrors B (budget, ledger))
    (accepts : Accepts budget holding.lease)
    (split : ledger.outstanding = front ++ holding :: back) :
    Mirrors B (budget.released holding.lease, Ledger.watch (budget.released holding.lease)
      { ledger with outstanding := front ++ back }) := by
  have wellFormed := mirrors.tracks.wellFormed
  have listed : holding ∈ ledger.outstanding := by
    rw [split]
    simp
  have exactly : ∀ resource, ((budget.released holding.lease).resources resource).kind =
        (budget.resources resource).kind ∧
      ((budget.released holding.lease).resources resource).used =
        (budget.resources resource).used ∧
      ((budget.released holding.lease).resources resource).highWatermark =
        (budget.resources resource).highWatermark ∧
      ((budget.released holding.lease).resources resource).reserved.toNat =
        if (budget.resources resource).kind = .reusable then
          (budget.resources resource).reserved.toNat -
            (needOf (budget.needs holding.lease.op) resource).toNat
        else (budget.resources resource).reserved.toNat :=
    releaseResources_exact budget.resources (wellFormed.needs_distinct holding.lease.op)
  have lowered : ∀ resource,
      ((budget.released holding.lease).resources resource).reserved.toNat +
        holding.added resource = (budget.resources resource).reserved.toNat := by
    intro resource
    have total := mirrors.balanced.added_le split resource
    have reserved := (exactly resource).2.2.2
    by_cases kind : (budget.resources resource).kind = .reusable
    · have added := mirrors.added holding listed resource kind
      rw [if_pos kind] at reserved
      simp only at added
      omega
    · have idle := (mirrors.sound resource).reserved_idle kind
      rw [if_neg kind] at reserved
      simp only at idle
      omega
  refine ⟨mirrors.tracks.released accepts split rfl,
    mirrors.sound.released holding.lease wellFormed,
    mirrors.balanced.released split rfl lowered, ?_, ?_, ?_⟩
  · intro other kept resource kind
    simp only [(exactly resource).1] at kind
    refine mirrors.added other ?_ resource kind
    simp only [Ledger.watch, List.mem_append] at kept
    simp only [split, List.mem_append, List.mem_cons]
    tauto
  · intro resource kind
    simp only [(exactly resource).1] at kind
    simp only [(exactly resource).2.1]
    exact mirrors.used resource kind
  · intro resource kind
    simp only [(exactly resource).1] at kind
    have before := mirrors.peak resource kind
    have counter_le := (mirrors.sound.released holding.lease wellFormed resource).counter_le
    rw [(exactly resource).2.2.1] at counter_le
    simp only [Ledger.watch, (exactly resource).2.2.1] at before ⊢
    rw [before] at counter_le ⊢
    exact (Nat.max_eq_left counter_le).symm

/-- A disciplined call that configures nothing keeps the instance in agreement with its ledger. -/
theorem Mirrors.next {B : Build} {state : Budget × Ledger} {event : Event}
    (mirrors : Mirrors B state) (operates : event.call.configures = false)
    (disciplined : Disciplined state event) :
    Mirrors B ((ledgerMachine B).next state event) := by
  rcases state with ⟨budget, ledger⟩
  have tracks := mirrors.tracks.next disciplined
  have pair : (ledgerMachine B).next (budget, ledger) event =
      ((machine B).next budget event, ((ledgerMachine B).next (budget, ledger) event).2) := rfl
  rw [pair] at tracks ⊢
  rcases mirrors.tracks.next_cases disciplined with ⟨effect, resources, needs, recorded⟩ |
    ⟨op, middle, slotId, booked, cleared, free, after, recorded⟩ |
    ⟨front, holding, back, split, -, accepts, after, recorded⟩
  · rcases resources with same | ⟨id, limit, kind, kind', call, -⟩
    · exact mirrors.silent tracks same (needs operates) recorded
    · simp [call, Call.configures] at operates
  · rw [recorded, after]
    exact mirrors.acquired booked cleared free
  · rw [recorded, after]
    exact mirrors.released accepts split

/-! ## Every run -/

/-- What the ledger says of the instance. -/
structure Refines (budget : Budget) (ledger : Ledger) : Prop where
  reserved : ∀ resource, (budget.resources resource).kind = .reusable →
    (budget.resources resource).reserved.toNat =
      (ledger.outstanding.map fun holding =>
        (needOf (budget.needs holding.lease.op) resource).toNat).sum
  used : ∀ resource, (budget.resources resource).kind = .consumable →
    (budget.resources resource).used.toNat = ledger.granted resource
  highWatermark : ∀ resource, (budget.resources resource).kind ≠ .state →
    (budget.resources resource).highWatermark.toNat = ledger.peak resource
  distinct : (ledger.outstanding.map (·.lease.id)).Nodup
  inRange : ∀ holding ∈ ledger.outstanding, holding.lease.id < budget.maxLeases
  activeLeaseCount : ∀ hal, ∃ out, snapshot hal budget true = (.ok, some out) ∧
    out.activeLeaseCount.toNat = ledger.outstanding.length
  drained : ledger.outstanding = [] → ∀ resource, (budget.resources resource).reserved = 0

theorem Mirrors.refines {B : Build} {budget : Budget} {ledger : Ledger}
    (mirrors : Mirrors B (budget, ledger)) : Refines budget ledger where
  reserved := by
    intro resource kind
    have balanced := mirrors.balanced resource
    simp only at balanced
    rw [balanced]
    refine congrArg List.sum (List.map_congr_left ?_)
    intro holding listed
    exact mirrors.added holding listed resource kind
  used := mirrors.used
  highWatermark := mirrors.peak
  distinct := mirrors.tracks.ids_nodup
  inRange := fun _ listed => (mirrors.tracks.accepts listed).idInRange
  activeLeaseCount := by
    intro hal
    have wellFormed := mirrors.tracks.wellFormed
    have valid : budget.validate = .ok := validate_eq_ok.mpr wellFormed.initialized
    have count := mirrors.tracks.active_count
    have counted : budget.leaseSlots.countP (·.active) ≤ budget.leaseSlots.length :=
      List.countP_le_length
    have few := budget.maxLeases.toNat_lt
    have slots : budget.leaseSlots.length = budget.maxLeases.toNat := wellFormed.slots_length
    simp only [snapshot]
    rw [if_neg (by simp), if_neg (not_not.mpr valid)]
    refine ⟨_, rfl, ?_⟩
    simp only [UInt8.toNat_ofNat'] at count ⊢
    omega
  drained := by
    intro returned resource
    have balanced := mirrors.balanced resource
    simp only [returned, List.map_nil, List.sum_nil] at balanced
    exact UInt16.toNat_inj.mp balanced

/-- The code accepts the token. -/
def LeaveAccepted (B : Build) (state : Budget × Ledger) (event : Event) : Prop :=
  match event.call with
  | .leave _ => ((machine B).reply state.1 event).status = .ok
  | _ => True

theorem Mirrors.leave_accepted {B : Build} {state : Budget × Ledger} {event : Event}
    (mirrors : Mirrors B state) (disciplined : Disciplined state event) :
    LeaveAccepted B state event := by
  rcases event with ⟨hal, call⟩
  cases call with
  | leave lease =>
      rcases disciplined with ⟨holding, listed, rfl⟩
      exact leave_eq_ok.mpr (mirrors.tracks.accepts listed)
  | _ => trivial

/-- After `init` and the configuration of the tables, every run that leaves outstanding tokens only
has its leaves accepted and keeps the instance in agreement with the ledger. -/
theorem lease_machine_refines_ledger {B : Build} {start : Budget} (started : Started B start)
    {setup operations : List Event} (unentered : ∀ event ∈ setup, event.call.isQuiet = true)
    (operates : ∀ event ∈ operations, event.call.configures = false)
    (disciplined : (ledgerMachine B).Along Disciplined
      ((machine B).run start setup, .empty) operations) :
    Refines ((ledgerMachine B).run ((machine B).run start setup, .empty) operations).1
        ((ledgerMachine B).run ((machine B).run start setup, .empty) operations).2 ∧
      (ledgerMachine B).Along (LeaveAccepted B)
        ((machine B).run start setup, .empty) operations := by
  have reachable : Reachable B ((machine B).run start setup) :=
    (Reachable.of_started started).run setup
  have quietRun : (machine B).Along (fun _ event => event.call.isQuiet = true) start setup :=
    Machine.along_of_forall_mem fun event listed _ => unentered event listed
  have unused : Unused ((machine B).run start setup) :=
    Machine.run_invariant (fun _ _ before quiet => before.next quiet)
      (Unused.of_fresh started.fresh) quietRun
  have initially := Mirrors.of_unused reachable.wellFormed reachable.sound unused
  have steps : (ledgerMachine B).Along
      (fun state event => event.call.configures = false ∧ Disciplined state event)
      ((machine B).run start setup, .empty) operations :=
    Machine.along_and.mpr
      ⟨Machine.along_of_forall_mem fun event listed _ => operates event listed, disciplined⟩
  have preserved : ∀ state event, Mirrors B state →
      event.call.configures = false ∧ Disciplined state event →
      Mirrors B ((ledgerMachine B).next state event) :=
    fun _ _ mirrors step => mirrors.next step.1 step.2
  refine ⟨(Machine.run_invariant preserved initially steps).refines, ?_⟩
  exact Machine.along_of_along preserved
    (fun _ _ mirrors step => mirrors.leave_accepted step.2) initially steps

theorem lease_machine_refines_ledger_oneOp :
    Refines
        ((ledgerMachine Build.full).run ((machine Build.full).run .sample oneOp, .empty)
          enterAndLeave).1
        ((ledgerMachine Build.full).run ((machine Build.full).run .sample oneOp, .empty)
          enterAndLeave).2 ∧
      (ledgerMachine Build.full).Along (LeaveAccepted Build.full)
        ((machine Build.full).run .sample oneOp, .empty) enterAndLeave :=
  lease_machine_refines_ledger started_sample (by decide +kernel) (by decide +kernel)
    ⟨trivial, trivial, List.mem_map.mp (by decide +kernel), trivial⟩

end Loxbudget
