import Loxbudget.Lease.Refinement
import Mathlib.Algebra.Order.BigOperators.Group.List
import Mathlib.Algebra.Order.Group.Nat

/-!
# Reconfiguring an op while its leases are out

`leave` looks up what it returns in the need table of the op, as the table stands at
that moment. If `op_set_need` has been called since the `enter`, the amounts can
differ. The reserved counters stay exact precisely along the runs in which every
`leave` still finds the amounts that its own `enter` added, or finds a larger one
where the subtraction is cut off at zero because nothing else is reserved.

Nothing is asked of the run. A spent token whose slot is in use again, and a call of
`set_resource` that clears the counter of a resource while leases are out, have their
place in the condition.
-/

namespace Loxbudget

/-- What the outstanding leases have reserved of a resource. -/
def Ledger.held (ledger : Ledger) (resource : ResourceId) : Nat :=
  (ledger.outstanding.map (·.added resource)).sum

/-- A `leave` lowers every REUSABLE counter by what the `enter` of its token added. -/
def LowersExactly (state : Budget × Ledger) (event : Event) (after : Budget) : Prop :=
  ∀ holding ∈ state.2.outstanding, event.call = .leave holding.lease → ∀ resource,
    (state.1.resources resource).kind = .reusable →
    (after.resources resource).reserved.toNat + holding.added resource =
      (state.1.resources resource).reserved.toNat

/-- A `leave` lowers the counters by what its own `enter` added; after every call a REUSABLE counter
covers what the outstanding leases reserved, and is zero when there are none. -/
def ReturnsExactly (B : Build) (state : Budget × Ledger) (event : Event) : Prop :=
  let after := (ledgerMachine B).next state event
  LowersExactly state event after.1 ∧ ∀ resource,
    (after.1.resources resource).kind = .reusable →
    after.2.held resource ≤ (after.1.resources resource).reserved.toNat ∧
      (after.2.outstanding = [] → (after.1.resources resource).reserved = 0)

/-- A call of `set_resource` that makes a resource REUSABLE comes while no outstanding lease
reserves any of it. -/
def ResetsIdle (state : Budget × Ledger) (event : Event) : Prop :=
  match event.call with
  | .setResource id _ raw => id < state.1.maxResources →
      ResourceKind.ofByte? raw.toUInt8 = some .reusable →
      ∀ holding ∈ state.2.outstanding, holding.added id = 0
  | _ => True

/-- What a `leave` finds of a REUSABLE resource. An accepted token that is outstanding: its op
needs what its `enter` added, or more than that while nothing else is reserved. An accepted token
that is not outstanding: nothing to return. A refused token: nothing was reserved under it. -/
structure FindsNeed (state : Budget × Ledger) (lease : Lease) (resource : ResourceId) : Prop where
  own : Accepts state.1 lease → ∀ holding ∈ state.2.outstanding, holding.lease = lease →
    (needOf (state.1.needs lease.op) resource).toNat = holding.added resource ∨
      holding.added resource < (needOf (state.1.needs lease.op) resource).toNat ∧
        state.2.held resource = holding.added resource
  spent : Accepts state.1 lease → (∀ holding ∈ state.2.outstanding, holding.lease ≠ lease) →
    (needOf (state.1.needs lease.op) resource).toNat = 0 ∨ state.2.held resource = 0
  refused : ¬Accepts state.1 lease → ∀ holding ∈ state.2.outstanding, holding.lease = lease →
    holding.added resource = 0

/-- Every `leave` finds what its own `enter` added. -/
def FindsItsNeeds (state : Budget × Ledger) (event : Event) : Prop :=
  ∀ lease, event.call = .leave lease → ∀ resource,
    (state.1.resources resource).kind = .reusable → FindsNeed state lease resource

/-! ## One step -/

/-- Every REUSABLE counter is what the outstanding leases have reserved. -/
def BalancedReusable (state : Budget × Ledger) : Prop :=
  ∀ resource, (state.1.resources resource).kind = .reusable →
    (state.1.resources resource).reserved.toNat = state.2.held resource

/-- The invariant along the runs whose leaves find their needs. -/
structure Kept (B : Build) (state : Budget × Ledger) : Prop where
  reachable : Reachable B state.1
  balanced : BalancedReusable state

theorem Kept.of_started {B : Build} {start : Budget} (started : Started B start) :
    Kept B (start, .empty) where
  reachable := .of_started started
  balanced := by
    intro resource _
    rw [started.fresh.resources]
    rfl

theorem ReturnsExactly.drained {B : Build} {state : Budget × Ledger} {event : Event}
    (returns : ReturnsExactly B state event) (resource : ResourceId)
    (kind : (((ledgerMachine B).next state event).1.resources resource).kind = .reusable)
    (returned : ((ledgerMachine B).next state event).2.outstanding = []) :
    (((ledgerMachine B).next state event).1.resources resource).reserved = 0 :=
  (returns.2 resource kind).2 returned

theorem Ledger.added_le_held {ledger : Ledger} {holding : Holding}
    (listed : holding ∈ ledger.outstanding) (resource : ResourceId) :
    holding.added resource ≤ ledger.held resource :=
  List.single_le_sum (fun _ _ => Nat.zero_le _) _ (List.mem_map_of_mem listed)

theorem Ledger.held_eq_zero {ledger : Ledger} {resource : ResourceId} :
    ledger.held resource = 0 ↔ ∀ holding ∈ ledger.outstanding, holding.added resource = 0 := by
  simp only [held, List.sum_eq_zero_iff_forall_eq_nat, List.forall_mem_map]

theorem Ledger.held_consume {ledger : Ledger} {held : Holding}
    (listed : held ∈ ledger.outstanding) :
    ∃ holding ∈ ledger.outstanding, holding.lease = held.lease ∧ ∀ resource,
      ledger.held resource =
        holding.added resource + (ledger.consume held.lease).held resource := by
  rcases Ledger.consume_outstanding listed with ⟨front, holding, back, split, same, consumed⟩
  refine ⟨holding, by simp [split], same, ?_⟩
  intro resource
  simp only [Ledger.held, consumed, split, List.map_append, List.map_cons, List.sum_append,
    List.sum_cons]
  omega

theorem Ledger.consume_of_spent {ledger : Ledger} {lease : Lease}
    (spent : ∀ holding ∈ ledger.outstanding, holding.lease ≠ lease) :
    ledger.consume lease = ledger := by
  rw [Ledger.consume, List.eraseP_of_forall_not]
  intro holding listed
  simpa using spent holding listed

/-- A token is that of an outstanding lease, whose part leaves the sum with it, or it is spent. -/
theorem Ledger.consume_cases (ledger : Ledger) (lease : Lease) :
    (∃ holding ∈ ledger.outstanding, holding.lease = lease ∧ ∀ resource,
        ledger.held resource = holding.added resource + (ledger.consume lease).held resource) ∨
      (∀ holding ∈ ledger.outstanding, holding.lease ≠ lease) ∧
        ledger.consume lease = ledger := by
  by_cases outstanding : ∃ holding ∈ ledger.outstanding, holding.lease = lease
  · rcases outstanding with ⟨held, listed, rfl⟩
    exact Or.inl (Ledger.held_consume listed)
  · have spent : ∀ holding ∈ ledger.outstanding, holding.lease ≠ lease :=
      fun holding listed same => outstanding ⟨holding, listed, same⟩
    exact Or.inr ⟨spent, Ledger.consume_of_spent spent⟩

/-- What an accepted `leave` makes of a REUSABLE counter. -/
theorem released_reserved {B : Build} {budget : Budget} (reachable : Reachable B budget)
    (lease : Lease) (resource : ResourceId) :
    ((budget.released lease).resources resource).kind = (budget.resources resource).kind ∧
      ((budget.resources resource).kind = .reusable →
        ((budget.released lease).resources resource).reserved.toNat =
          (budget.resources resource).reserved.toNat -
            (needOf (budget.needs lease.op) resource).toNat) := by
  rcases releaseResources_exact budget.resources (reachable.wellFormed.needs_distinct lease.op)
    resource with ⟨kind, -, -, reserved⟩
  refine ⟨kind, ?_⟩
  intro reusable
  rw [if_pos reusable] at reserved
  exact reserved

/-- How a call moves the REUSABLE counters and the ledger. -/
inductive Moved (B : Build) (state : Budget × Ledger) (event : Event)
    (after : Budget × Ledger) : Prop
  | balanced (other : ∀ lease, event.call ≠ .leave lease) (resets : ResetsIdle state event)
      (balanced : BalancedReusable after)
  | reset (id : ResourceId) (limit : UInt16) (raw : UInt32) (kind : ResourceKind)
      (call : event.call = .setResource id limit raw) (inRange : id < state.1.maxResources)
      (known : ResourceKind.ofByte? raw.toUInt8 = some kind)
      (resources : after.1.resources =
        Function.update state.1.resources id ⟨limit, 0, 0, 0, kind⟩)
      (held : after.2.held = state.2.held)
  | left (lease : Lease) (call : event.call = .leave lease) (accepts : Accepts state.1 lease)
      (released : after.1 = state.1.released lease)
      (held : after.2.held = (state.2.consume lease).held)
  | refused (lease : Lease) (call : event.call = .leave lease) (refuses : ¬Accepts state.1 lease)
      (same : after.1 = state.1) (held : after.2.held = state.2.held)

theorem BalancedReusable.of_same {budget after : Budget} {ledger ledger' : Ledger}
    (balanced : BalancedReusable (budget, ledger)) (resources : after.resources = budget.resources)
    (held : ledger'.held = ledger.held) : BalancedReusable (after, ledger') := by
  intro resource kind
  simp only [resources, held] at kind ⊢
  exact balanced resource kind

theorem Kept.moved_enter {B : Build} {budget : Budget} {ledger : Ledger}
    (kept : Kept B (budget, ledger)) (hal : Hal) (op : OpId) (out : Bool) :
    Moved B (budget, ledger) ⟨hal, .enter op out⟩
      ((ledgerMachine B).next (budget, ledger) ⟨hal, .enter op out⟩) := by
  have pair : (ledgerMachine B).next (budget, ledger) ⟨hal, .enter op out⟩ =
      ((machine B).next budget ⟨hal, .enter op out⟩,
        ((ledgerMachine B).next (budget, ledger) ⟨hal, .enter op out⟩).2) := rfl
  refine .balanced (by simp) trivial ?_
  rw [pair]
  rcases enter_recorded B hal budget ledger op out with
    ⟨booked, recorded⟩ | ⟨middle, slotId, booked, cleared, -, after, recorded⟩
  · rw [recorded]
    exact kept.balanced.of_same booked.resources rfl
  · rw [recorded, after]
    intro resource kind
    have sound := kept.reachable.sound.booked booked
    rcases commitResources_exact ((kept.reachable.wellFormed.booked booked).needs_distinct op)
      (cleared.fits sound) sound resource with ⟨sameKind, reserved, -⟩
    have reusable : (middle.resources resource).kind = .reusable := sameKind.symm.trans kind
    rw [if_pos reusable] at reserved
    have before := kept.balanced resource (by rw [← booked.resources]; exact reusable)
    have committed : ((middle.acquired B hal op slotId).resources resource).reserved.toNat =
        (middle.resources resource).reserved.toNat +
          (needOf (middle.needs op) resource).toNat := reserved
    rw [booked.resources] at committed
    simp only [Ledger.held, Ledger.watch, Ledger.issue, List.map_cons, List.sum_cons] at before ⊢
    omega

theorem moved_leave {B : Build} {budget : Budget} {ledger : Ledger} (hal : Hal)
    (lease : Lease) :
    Moved B (budget, ledger) ⟨hal, .leave lease⟩
      ((ledgerMachine B).next (budget, ledger) ⟨hal, .leave lease⟩) := by
  have status : consumedToken (.leave lease, (machine B).reply budget ⟨hal, .leave lease⟩) =
      if (leave budget lease).1 = .ok then some lease else none := rfl
  by_cases accepts : Accepts budget lease
  · rw [leave_of_accepts accepts, if_pos rfl] at status
    refine .left lease rfl accepts ?_ ?_
    · change (leave budget lease).2 = _
      rw [leave_of_accepts accepts]
    · change (Ledger.record _ _ _ _ _).held = _
      rw [Ledger.record_consumed rfl status]
      rfl
  · rcases leave_of_not_accepts accepts with ⟨failed, same⟩
    rw [if_neg failed] at status
    refine .refused lease rfl accepts same ?_
    change (Ledger.record _ _ _ _ _).held = _
    rw [Ledger.record_silent rfl status]
    rfl

theorem Kept.moved {B : Build} {state : Budget × Ledger} (kept : Kept B state) (event : Event) :
    Moved B state event ((ledgerMachine B).next state event) := by
  rcases state with ⟨budget, ledger⟩
  rcases event with ⟨hal, call⟩
  by_cases quiet : call.isQuiet = true
  swap
  · cases call with
    | enter op out => exact kept.moved_enter hal op out
    | leave lease => exact moved_leave hal lease
    | _ => exact absurd rfl quiet
  have recorded : (ledgerMachine B).next (budget, ledger) ⟨hal, call⟩ =
      ((machine B).next budget ⟨hal, call⟩,
        ledger.watch ((machine B).next budget ⟨hal, call⟩)) :=
    Prod.ext rfl (Ledger.record_quiet quiet)
  rw [recorded]
  have other : ∀ lease, call ≠ .leave lease := by
    intro lease left
    rw [left] at quiet
    cases quiet
  by_cases sets : ∃ id limit raw, call = .setResource id limit raw
  · rcases sets with ⟨id, limit, raw, rfl⟩
    have next_eq : (machine B).next budget ⟨hal, .setResource id limit raw⟩ =
        (setResource budget id limit raw).2 := rfl
    rcases setResource_cases budget id limit raw with
      ⟨kind, -, inRange, known, accepted⟩ | ⟨unknown, -, same⟩
    · refine .reset id limit raw kind rfl inRange known ?_ rfl
      rw [next_eq, accepted]
    · refine .balanced other ?_ ?_
      · intro inRange reusable
        rw [unknown kept.reachable.wellFormed.initialized inRange] at reusable
        cases reusable
      · rw [next_eq, same]
        exact kept.balanced.of_same rfl rfl
  · have resets : ResetsIdle (budget, ledger) ⟨hal, call⟩ := by
      cases call with
      | setResource id limit raw => exact absurd ⟨id, limit, raw, rfl⟩ sets
      | _ => trivial
    refine .balanced other resets ?_
    rcases quiet_resources B budget ⟨hal, call⟩ quiet with same | ⟨id, limit, raw, _, named, -⟩
    · exact kept.balanced.of_same same rfl
    · exact absurd ⟨id, limit, raw, named⟩ sets

theorem LowersExactly.of_other {state : Budget × Ledger} {event : Event} {after : Budget}
    (other : ∀ lease, event.call ≠ .leave lease) : LowersExactly state event after :=
  fun holding _ left => absurd left (other holding.lease)

theorem FindsItsNeeds.of_other {state : Budget × Ledger} {event : Event}
    (other : ∀ lease, event.call ≠ .leave lease) : FindsItsNeeds state event :=
  fun lease left => absurd left (other lease)

/-- What the counters must do in a step. -/
def CountersCover (state : Budget × Ledger) (event : Event) (after : Budget × Ledger) : Prop :=
  LowersExactly state event after.1 ∧ ∀ resource,
    (after.1.resources resource).kind = .reusable →
    after.2.held resource ≤ (after.1.resources resource).reserved.toNat

theorem Kept.reset_iff {B : Build} {state after : Budget × Ledger} {event : Event}
    {id : ResourceId} {limit : UInt16} {raw : UInt32} {kind : ResourceKind} (kept : Kept B state)
    (call : event.call = .setResource id limit raw) (inRange : id < state.1.maxResources)
    (known : ResourceKind.ofByte? raw.toUInt8 = some kind)
    (resources : after.1.resources = Function.update state.1.resources id ⟨limit, 0, 0, 0, kind⟩)
    (held : after.2.held = state.2.held) :
    ResetsIdle state event ↔ CountersCover state event after := by
  have resets : ResetsIdle state event ↔ (kind = .reusable → state.2.held id = 0) := by
    simp only [ResetsIdle, call, known, Option.some.injEq, Ledger.held_eq_zero]
    exact ⟨fun idle => idle inRange, fun idle _ => idle⟩
  rw [resets]
  constructor
  · intro idle
    refine ⟨.of_other (by simp [call]), ?_⟩
    intro resource reusable
    rw [resources] at reusable ⊢
    rw [held]
    by_cases same : resource = id
    · subst same
      rw [Function.update_self] at reusable
      rw [idle reusable]
      exact Nat.zero_le _
    · rw [Function.update_of_ne same] at reusable ⊢
      exact (kept.balanced resource reusable).ge
  · rintro ⟨-, covers⟩ reusable
    have covered := covers id (by rw [resources, Function.update_self]; exact reusable)
    rw [resources, Function.update_self, held] at covered
    exact Nat.le_zero.mp covered

theorem Kept.left_iff {B : Build} {state after : Budget × Ledger} {event : Event} {lease : Lease}
    (kept : Kept B state) (call : event.call = .leave lease) (accepts : Accepts state.1 lease)
    (released : after.1 = state.1.released lease)
    (held : after.2.held = (state.2.consume lease).held) :
    FindsItsNeeds state event ↔ CountersCover state event after := by
  constructor
  · intro finds
    constructor
    · intro holding listed left resource reusable
      obtain rfl : lease = holding.lease := by
        rw [call] at left
        exact Call.leave.inj left
      have reserved := (released_reserved kept.reachable holding.lease resource).2 reusable
      have balanced := kept.balanced resource reusable
      have part := Ledger.added_le_held listed resource
      have found := (finds _ call resource reusable).own accepts holding listed rfl
      rw [released, reserved, balanced]
      omega
    · intro resource reusable
      rw [released] at reusable ⊢
      rw [(released_reserved kept.reachable lease resource).1] at reusable
      have reserved := (released_reserved kept.reachable lease resource).2 reusable
      have balanced := kept.balanced resource reusable
      rw [reserved, balanced, held]
      rcases state.2.consume_cases lease with ⟨holding, here, same, split⟩ | ⟨spent, same⟩
      · have found := (finds _ call resource reusable).own accepts holding here same
        rw [split resource] at found ⊢
        omega
      · have nothing := (finds _ call resource reusable).spent accepts spent
        rw [same]
        omega
  · rintro ⟨lowers, covers⟩ other left resource reusable
    obtain rfl : lease = other := by
      rw [call] at left
      exact Call.leave.inj left
    have reserved := (released_reserved kept.reachable lease resource).2 reusable
    have balanced := kept.balanced resource reusable
    refine ⟨?_, ?_, fun refuses => absurd accepts refuses⟩
    · rintro - holding listed rfl
      have lowered := lowers holding listed call resource reusable
      have part := Ledger.added_le_held listed resource
      rw [released, reserved, balanced] at lowered
      omega
    · intro _ spent
      have covered := covers resource (by
        rw [released, (released_reserved kept.reachable lease resource).1]
        exact reusable)
      rw [released, reserved, balanced, held, Ledger.consume_of_spent spent] at covered
      omega

theorem Kept.refused_iff {B : Build} {state after : Budget × Ledger} {event : Event}
    {lease : Lease} (kept : Kept B state) (call : event.call = .leave lease)
    (refuses : ¬Accepts state.1 lease) (same : after.1 = state.1)
    (held : after.2.held = state.2.held) :
    FindsItsNeeds state event ↔ CountersCover state event after := by
  constructor
  · intro finds
    constructor
    · intro holding listed left resource reusable
      obtain rfl : lease = holding.lease := by
        rw [call] at left
        exact Call.leave.inj left
      rw [same, (finds _ call resource reusable).refused refuses holding listed rfl]
      rfl
    · intro resource reusable
      rw [same] at reusable ⊢
      rw [held]
      exact (kept.balanced resource reusable).ge
  · rintro ⟨lowers, -⟩ other left resource reusable
    obtain rfl : lease = other := by
      rw [call] at left
      exact Call.leave.inj left
    refine ⟨fun accepts => absurd accepts refuses, fun accepts => absurd accepts refuses, ?_⟩
    rintro - holding listed rfl
    have lowered := lowers holding listed call resource reusable
    rw [same] at lowered
    exact Nat.add_eq_left.mp lowered

/-- The step condition is exact. -/
theorem Kept.condition_iff {B : Build} {state after : Budget × Ledger} {event : Event}
    (kept : Kept B state) (moved : Moved B state event after) :
    ResetsIdle state event ∧ FindsItsNeeds state event ↔ CountersCover state event after := by
  cases moved with
  | balanced other resets balanced =>
      apply iff_of_true ⟨resets, .of_other other⟩
      exact ⟨.of_other other, fun resource reusable => (balanced resource reusable).ge⟩
  | reset id limit raw kind call inRange known resources held =>
      rw [← kept.reset_iff call inRange known resources held]
      exact and_iff_left (.of_other (by simp [call]))
  | left lease call accepts released held =>
      rw [← kept.left_iff call accepts released held]
      exact and_iff_right (by simp [ResetsIdle, call])
  | refused lease call refuses same held =>
      rw [← kept.refused_iff call refuses same held]
      exact and_iff_right (by simp [ResetsIdle, call])

/-- A counter never holds more than the outstanding leases have reserved. -/
theorem Kept.reserved_le {B : Build} {state after : Budget × Ledger} {event : Event}
    (kept : Kept B state) (moved : Moved B state event after)
    (lowers : LowersExactly state event after.1) (resource : ResourceId)
    (reusable : (after.1.resources resource).kind = .reusable) :
    (after.1.resources resource).reserved.toNat ≤ after.2.held resource := by
  cases moved with
  | balanced _ _ balanced => exact (balanced resource reusable).le
  | reset id limit raw kind call inRange known resources held =>
      rw [resources] at reusable ⊢
      rw [held]
      by_cases same : resource = id
      · rw [same, Function.update_self]
        exact Nat.zero_le _
      · rw [Function.update_of_ne same] at reusable ⊢
        exact (kept.balanced resource reusable).le
  | left lease call accepts released held =>
      rw [released, (released_reserved kept.reachable lease resource).1] at reusable
      have reserved := (released_reserved kept.reachable lease resource).2 reusable
      have balanced := kept.balanced resource reusable
      rw [held]
      rcases state.2.consume_cases lease with ⟨holding, here, same, split⟩ | ⟨-, same⟩
      · have lowered := lowers holding here (by rw [same]; exact call) resource reusable
        have whole := split resource
        omega
      · rw [same, released, reserved, balanced]
        exact Nat.sub_le _ _
  | refused lease call refuses same held =>
      rw [same] at reusable ⊢
      rw [held]
      exact (kept.balanced resource reusable).le

theorem Kept.covers_iff {B : Build} {state : Budget × Ledger} {event : Event}
    (kept : Kept B state) :
    CountersCover state event ((ledgerMachine B).next state event) ↔
      ReturnsExactly B state event := by
  constructor
  · rintro ⟨lowers, covers⟩
    refine ⟨lowers, fun resource reusable => ⟨covers resource reusable, ?_⟩⟩
    intro returned
    have upper := kept.reserved_le (kept.moved event) lowers resource reusable
    rw [Ledger.held, returned, List.map_nil, List.sum_nil] at upper
    exact UInt16.toNat_inj.mp (Nat.le_zero.mp upper)
  · rintro ⟨lowers, covers⟩
    exact ⟨lowers, fun resource reusable => (covers resource reusable).1⟩

theorem Kept.next {B : Build} {state : Budget × Ledger} {event : Event} (kept : Kept B state)
    (condition : ResetsIdle state event ∧ FindsItsNeeds state event) :
    Kept B ((ledgerMachine B).next state event) where
  reachable := kept.reachable.run [event]
  balanced := by
    intro resource reusable
    rcases (kept.condition_iff (kept.moved event)).mp condition with ⟨lowers, covers⟩
    exact Nat.le_antisymm (kept.reserved_le (kept.moved event) lowers resource reusable)
      (covers resource reusable)

/-! ## Every run -/

/-- Over every run since `init`: every `leave` lowers the REUSABLE counters by exactly what its own
`enter` added, and they never fall below what the outstanding leases reserved, exactly if every
`leave` finds the needs that its `enter` added and resources are reset while idle. -/
theorem leave_returns_exactly {B : Build} {start : Budget} (started : Started B start)
    (events : List Event) :
    (ledgerMachine B).Along (ReturnsExactly B) (start, .empty) events ↔
      (ledgerMachine B).Along
        (fun state event => ResetsIdle state event ∧ FindsItsNeeds state event)
        (start, .empty) events := by
  have preserved : ∀ state event, Kept B state →
      ResetsIdle state event ∧ FindsItsNeeds state event →
      Kept B ((ledgerMachine B).next state event) :=
    fun _ _ kept condition => kept.next condition
  have agree : ∀ state event, Kept B state →
      (ResetsIdle state event ∧ FindsItsNeeds state event ↔ ReturnsExactly B state event) :=
    fun _ event kept => (kept.condition_iff (kept.moved event)).trans kept.covers_iff
  exact (Machine.along_iff_along preserved agree (Kept.of_started started)).symm

/-- The need of an op is lowered while its lease is out. -/
def loweredNeed : List Event :=
  oneOp ++ [.permissive (.enter 0 true), .permissive (.opSetNeed 0 0 3)]

/-- The token of that lease. -/
def loweredToken : Lease := ⟨0, 0x1000, 0, 0⟩

theorem disciplined_loweredNeed :
    (ledgerMachine Build.full).Along
      (fun state event => Disciplined state event ∧ ResetsIdle state event)
      (.sample, .empty) (loweredNeed ++ [.permissive (.leave loweredToken)]) := by
  have idle : ResetsIdle (.sample, .empty) (.permissive (.setResource 0 10 0)) := by
    simp [ResetsIdle, Event.permissive, Ledger.empty]
  exact ⟨⟨trivial, idle⟩, ⟨trivial, trivial⟩, ⟨trivial, trivial⟩, ⟨trivial, trivial⟩,
    ⟨trivial, trivial⟩, ⟨List.mem_map.mp (by decide +kernel), trivial⟩, trivial⟩

/-- A lease whose op needs less than it did is left, and part of its reservation stays behind. -/
theorem leave_leaves_remainder :
    ¬∀ (B : Build) (start : Budget), Started B start → ∀ events,
      (ledgerMachine B).Along (fun state event => Disciplined state event ∧ ResetsIdle state event)
        (start, .empty) events →
      (ledgerMachine B).Along (ReturnsExactly B) (start, .empty) events := by
  intro always
  have run := always Build.full .sample started_sample _ disciplined_loweredNeed
  have last := ((Machine.along_append _ _ _ _ _).mp run).2.1
  have drained := last.drained 0 (by decide +kernel) (by decide +kernel)
  revert drained
  decide +kernel

theorem leave_returns_exactly_loweredNeed :
    (ledgerMachine Build.full).Along (ReturnsExactly Build.full) (.sample, .empty)
        (loweredNeed ++ [.permissive (.leave loweredToken)]) ↔
      (ledgerMachine Build.full).Along
        (fun state event => ResetsIdle state event ∧ FindsItsNeeds state event) (.sample, .empty)
        (loweredNeed ++ [.permissive (.leave loweredToken)]) :=
  leave_returns_exactly started_sample _

end Loxbudget
