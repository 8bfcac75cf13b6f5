import Loxbudget.Decision.Load
import Loxbudget.Lease.Refinement

/-!
# No lease is leaked

The outstanding leases may be given back in any order: each is accepted, and nothing stays
reserved. A slot is taken for each outstanding lease and for nothing else, so that an op that is
allowed can be entered as long as fewer leases are outstanding than there are slots.
-/

namespace Loxbudget

variable {B : Build} {budget : Budget} {ledger : Ledger}

/-! ## Giving everything back -/

/-- Calls that give leases back, in their order. -/
def leaveAll (leases : List (Hal × Lease)) : List Event :=
  leases.map fun (hal, lease) => ⟨hal, .leave lease⟩

/-- A lease of the ledger is given back, and the others are left. -/
theorem Tracks.leave_outstanding {state : Budget × Ledger} (tracks : Tracks B state) (hal : Hal)
    {lease : Lease} (listed : lease ∈ state.2.outstanding.map Holding.lease) :
    let next := (ledgerMachine B).next state ⟨hal, .leave lease⟩
    Disciplined state ⟨hal, .leave lease⟩ ∧ Accepts state.1 lease ∧
      (state.2.outstanding.map Holding.lease).Perm
        (lease :: next.2.outstanding.map Holding.lease) := by
  rcases state with ⟨budget, ledger⟩
  rcases List.mem_map.mp listed with ⟨held, mem, rfl⟩
  rcases Ledger.consume_outstanding mem with ⟨front, holding, back, split, same, consumed⟩
  refine ⟨⟨held, mem, rfl⟩, tracks.accepts mem, ?_⟩
  rw [(tracks.leave_recorded hal mem).2, consumed]
  change (ledger.outstanding.map _).Perm (_ :: (front ++ back).map _)
  rw [split, List.map_append, List.map_append, List.map_cons, same]
  exact List.perm_middle

theorem leave_used (wellFormed : WellFormed B budget) (lease : Lease) (resource : ResourceId) :
    ((leave budget lease).2.resources resource).used = (budget.resources resource).used := by
  by_cases accepts : Accepts budget lease
  · rw [leave_of_accepts accepts]
    exact (releaseResources_exact budget.resources (wellFormed.needs_distinct lease.op)
      resource).2.1
  · rw [(leave_of_not_accepts accepts).2]

/-- The leases of the ledger, in any order, are accepted one by one, until none is outstanding. -/
theorem leaveAll_accepted {state : Budget × Ledger} (mirrors : Mirrors B state)
    {leases : List (Hal × Lease)}
    (all : (leases.map Prod.snd).Perm (state.2.outstanding.map Holding.lease)) :
    let after := (ledgerMachine B).run state (leaveAll leases)
    Mirrors B after ∧ after.2.outstanding = [] ∧
      (∀ step ∈ (machine B).transcript state.1 (leaveAll leases), step.2.status = .ok) ∧
      ∀ resource, (after.1.resources resource).used = (state.1.resources resource).used := by
  induction leases generalizing state with
  | nil =>
      have none : state.2.outstanding = [] := by simpa using all.symm
      exact ⟨mirrors, none, fun step listed => absurd listed List.not_mem_nil, fun _ => rfl⟩
  | cons first leases ih =>
      rcases first with ⟨hal, lease⟩
      have listed : lease ∈ state.2.outstanding.map Holding.lease :=
        all.subset List.mem_cons_self
      rcases mirrors.tracks.leave_outstanding hal listed with ⟨disciplined, accepts, left⟩
      rcases ih (mirrors.next rfl disciplined) (all.trans left).cons_inv with
        ⟨mirrors', none, accepted, used⟩
      refine ⟨mirrors', none, ?_, ?_⟩
      · intro step listed
        rcases List.mem_cons.mp listed with rfl | later
        · exact leave_eq_ok.mpr accepts
        · exact accepted step later
      · intro resource
        exact (used resource).trans (leave_used mirrors.tracks.wellFormed lease resource)

section Runs

variable {start : Budget} {setup operations : List Event}

/-- The instance with its ledger after a setup and a run of operations. -/
abbrev operated (B : Build) (start : Budget) (setup operations : List Event) : Budget × Ledger :=
  (ledgerMachine B).run ((machine B).run start setup, .empty) operations

theorem mirrors_operated (started : Started B start)
    (unentered : ∀ event ∈ setup, event.call.isQuiet = true)
    (operates : ∀ event ∈ operations, event.call.configures = false)
    (disciplined : (ledgerMachine B).Along Disciplined ((machine B).run start setup, .empty)
      operations) : Mirrors B (operated B start setup operations) := by
  have reachable : Reachable B ((machine B).run start setup) :=
    (Reachable.of_started started).run setup
  have quiet : (machine B).Along (fun _ event => event.call.isQuiet = true) start setup :=
    Machine.along_of_forall_mem fun event listed _ => unentered event listed
  have unused : Unused ((machine B).run start setup) :=
    Machine.run_invariant (fun _ _ before quiet => before.next quiet)
      (Unused.of_fresh started.fresh) quiet
  have preserved : ∀ state event, Mirrors B state →
      event.call.configures = false ∧ Disciplined state event →
      Mirrors B ((ledgerMachine B).next state event) :=
    fun _ _ mirrors step => mirrors.next step.1 step.2
  apply Machine.run_invariant preserved
  · exact Mirrors.of_unused reachable.wellFormed reachable.sound unused
  · exact Machine.along_and.mpr
      ⟨Machine.along_of_forall_mem fun event listed _ => operates event listed, disciplined⟩

/-- After `init`, the configuration of the tables and any run that leaves outstanding tokens only,
the outstanding leases can be given back in any order: every `leave` is accepted, then nothing is
reserved and no slot is active, and what was consumed is still consumed. -/
theorem leases_drain (started : Started B start)
    (unentered : ∀ event ∈ setup, event.call.isQuiet = true)
    (operates : ∀ event ∈ operations, event.call.configures = false)
    (disciplined : (ledgerMachine B).Along Disciplined ((machine B).run start setup, .empty)
      operations) {leases : List (Hal × Lease)}
    (all : (leases.map Prod.snd).Perm
      ((operated B start setup operations).2.outstanding.map Holding.lease)) :
    let state := (operated B start setup operations).1
    let after := (machine B).run state (leaveAll leases)
    (∀ step ∈ (machine B).transcript state (leaveAll leases), step.2.status = .ok) ∧
      (∀ resource, (after.resources resource).reserved = 0) ∧
      (∀ id, (after.leaseSlot id).active = false) ∧
      ∀ resource, (after.resources resource).used = (state.resources resource).used := by
  intro state after
  have mirrors := mirrors_operated started unentered operates disciplined
  rcases leaveAll_accepted mirrors all with ⟨mirrors', none, accepted, used⟩
  rw [ledgerMachine_run] at used
  have pair : (ledgerMachine B).run (operated B start setup operations) (leaveAll leases) =
      (after, ((ledgerMachine B).run (operated B start setup operations) (leaveAll leases)).2) :=
    Prod.ext (ledgerMachine_run B _ _) rfl
  rw [pair] at mirrors' none
  refine ⟨accepted, mirrors'.refines.drained none, ?_, used⟩
  intro id
  have active_iff := mirrors'.tracks.active_iff id
  simp only at active_iff none
  rw [none] at active_iff
  simpa using active_iff

/-- Two leases of one op, and a third one that has been given back. -/
def twoHeld : List Event :=
  [.permissive (.enter 0 true), .permissive (.enter 0 true),
    .permissive (.leave ⟨0, 0x1000, 0, 0⟩), .permissive (.enter 0 true)]

theorem twoHeld_disciplined :
    (ledgerMachine Build.full).Along Disciplined ((machine Build.full).run .sample oneOp, .empty)
      twoHeld :=
  ⟨trivial, trivial, List.mem_map.mp (by decide +kernel), trivial, trivial⟩

theorem leases_drain_twoHeld :
    let state := (operated Build.full .sample oneOp twoHeld).1
    let leases := [(Hal.permissive 5, ⟨0, 0x1001, 1, 0⟩), (Hal.permissive 6, ⟨0, 0x1000, 0, 0⟩)]
    let after := (machine Build.full).run state (leaveAll leases)
    (∀ step ∈ (machine Build.full).transcript state (leaveAll leases), step.2.status = .ok) ∧
      (∀ resource, (after.resources resource).reserved = 0) ∧
      (∀ id, (after.leaseSlot id).active = false) ∧
      ∀ resource, (after.resources resource).used = (state.resources resource).used :=
  leases_drain started_sample (by decide +kernel) (by decide +kernel)
    twoHeld_disciplined (by decide +kernel)

end Runs

/-! ## Room for another lease -/

/-- In every run that leaves outstanding tokens only, however the tables are reconfigured, `enter`
succeeds if and only if `check` allows the op and fewer leases are outstanding than there are
slots. -/
theorem enter_ok_iff_room {start : Budget} (started : Started B start) {events : List Event}
    (disciplined : (ledgerMachine B).Along Disciplined (start, .empty) events) (hal : Hal)
    (op : OpId) :
    let state := (ledgerMachine B).run (start, .empty) events
    (enter B hal state.1 op true).1.1 = .ok ↔
      (∃ action, AllowsAs B hal state.1 op action) ∧
        state.2.outstanding.length < state.1.maxLeases.toNat := by
  intro state
  have preserved : ∀ state event, Tracks B state → Disciplined state event →
      Tracks B ((ledgerMachine B).next state event) := fun _ _ tracks step => tracks.next step
  have tracks : Tracks B state := Machine.run_invariant preserved
    (Tracks.of_unused started.fresh.wellFormed started.fresh.inactive) disciplined
  have reachable : Reachable B state.1 := by
    rw [ledgerMachine_run]
    exact (Reachable.of_started started).run events
  have wellFormed := tracks.wellFormed
  have booked := decide_booked B hal state.1 op
  have allows_iff : (∃ action, AllowsAs B hal state.1 op action) ↔
      (decide B hal state.1 op).1.action.allows = true := by
    simp [AllowsAs, check_of_initialized wellFormed.initialized]
  rw [allows_iff]
  cases allowed : (decide B hal state.1 op).1.action.allows with
  | false =>
      rw [enter_of_denied wellFormed.initialized allowed]
      simp
  | true =>
      have reached : enter B hal state.1 op true =
          enterCommit B hal (decide B hal state.1 op).2 op := by
        simp only [enter, enterBegin_of_allowed wellFormed reachable.sound allowed]
      have full_iff : (decide B hal state.1 op).2.freeSlot = none ↔
          state.1.maxLeases.toNat ≤ state.2.outstanding.length := by
        rw [freeSlot_eq_none_iff, booked.leaseSlots, ← tracks.active_count,
          ← wellFormed.slots_length, ← List.countP_eq_length]
        exact ⟨fun full => full.ge, fun full => Nat.le_antisymm List.countP_le_length full⟩
      cases free : (decide B hal state.1 op).2.freeSlot with
      | none =>
          have full := full_iff.mp free
          rw [reached, enterCommit_of_full B hal _ op free]
          simp only [reduceCtorEq, true_and, false_iff]
          omega
      | some slotId =>
          have room : ¬state.1.maxLeases.toNat ≤ state.2.outstanding.length := by
            rw [← full_iff, free]
            simp
          rw [reached, enterCommit_of_free B hal _ op free]
          simp only [true_and, true_iff]
          omega

theorem enter_ok_iff_room_twoHeld :
    let state := (ledgerMachine Build.full).run (.sample, .empty) (oneOp ++ twoHeld)
    (enter Build.full (Hal.permissive 0) state.1 0 true).1.1 = .ok ↔
      (∃ action, AllowsAs Build.full (Hal.permissive 0) state.1 0 action) ∧
        state.2.outstanding.length < state.1.maxLeases.toNat :=
  have disciplined : (ledgerMachine Build.full).Along Disciplined (.sample, .empty)
      (oneOp ++ twoHeld) :=
    ⟨trivial, trivial, trivial, trivial, trivial, List.mem_map.mp (by decide +kernel), trivial,
      trivial⟩
  enter_ok_iff_room started_sample disciplined (Hal.permissive 0) 0

end Loxbudget
