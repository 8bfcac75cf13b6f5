import Loxbudget.Decision.Windows

/-!
# What an `enter` does with the decision of `check`

`loxbudget_enter` decides through `loxbudget_check`, validates the needs a second
time and then reserves. In the reachable states the second pass finds nothing that
the first has missed, so the status is told by the decision and the lease slots.
`Entered` is the effect of an `enter` that succeeds; one that fails has booked its
decision and no more.
-/

namespace Loxbudget

variable {B : Build} {hal : Hal} {budget : Budget} {op : OpId}

/-! ## The lowest inactive slot -/

theorem freeSlot_eq_none_iff :
    budget.freeSlot = none ↔ ∀ slot ∈ budget.leaseSlots, slot.active = true := by
  simp [Budget.freeSlot]

theorem freeSlot_lowest {slotId id : UInt8} (few : budget.leaseSlots.length ≤ 256)
    (free : budget.freeSlot = some slotId) (lower : id < slotId) :
    (budget.leaseSlot id).active = true := by
  simp only [Budget.freeSlot] at free
  rcases Option.map_eq_some_iff.mp free with ⟨index, found, rfl⟩
  rcases List.findIdx?_eq_some_iff_getElem.mp found with ⟨inRange, -, taken⟩
  have exact_id : (UInt8.ofNat index).toNat = index := by
    rw [UInt8.toNat_ofNat']
    omega
  have before : id.toNat < index := by
    rw [← exact_id]
    exact UInt8.lt_iff_toNat_lt.mp lower
  simp only [Budget.leaseSlot]
  rw [List.getD_eq_getElem?_getD, List.getElem?_eq_getElem (before.trans inRange)]
  simpa using taken id.toNat before

/-! ## The second pass over the needs -/

/-- The two passes of `enter` over the needs agree: what the decision has admitted, Phase A finds
to fit. -/
theorem Admissible.needsFit {profile : OpProfile} (sound : budget.Sound)
    (admissible : Admissible B hal budget op profile) :
    ∀ need ∈ budget.needs op, budget.needFits need = true := by
  intro need listed
  simp only [Budget.needFits]
  by_cases free : need.amount = 0
  · rw [if_pos free]
  have admitted := admissible.needs need listed free
  rw [if_neg free]
  by_cases isState : (budget.resources need.resource).kind = .state
  · rw [if_pos isState]
    simpa using admitted.stateLimit isState
  · rw [if_neg isState]
    have fits := (sound need.resource).fits_iff need.amount
    simpa using fits.mp (admitted.fits isState)

theorem Booked.needFits {nowMs : UInt32} {after : Budget} (booked : Booked B nowMs budget after)
    (need : Need) : after.needFits need = budget.needFits need := by
  simp only [Budget.needFits, booked.resources]

theorem enterBegin_of_allowed (wellFormed : WellFormed B budget) (sound : budget.Sound)
    (allowed : (decide B hal budget op).1.action.allows = true) :
    enterBegin B hal budget op true = (none, (decide B hal budget op).2) := by
  have booked := decide_booked B hal budget op
  rcases decide_cases hal wellFormed sound op with ⟨profile, out, admissible, -⟩ | ⟨denied, -⟩
  · have registered : ((decide B hal budget op).2.profile op).isNone = false := by
      rw [booked.profile, admissible.registered]
      rfl
    have fits : ((decide B hal budget op).2.needs op).all (decide B hal budget op).2.needFits =
        true := by
      rw [List.all_eq_true, booked.needs]
      intro need listed
      rw [booked.needFits]
      exact admissible.needsFit sound need listed
    simp [enterBegin, check_of_initialized wellFormed.initialized, registered, allowed, fits]
  · exact absurd (denied.symm.trans allowed) Bool.false_ne_true

theorem enter_of_denied (initialized : budget.magic = magicInit)
    (denied : (decide B hal budget op).1.action.allows = false) :
    (enter B hal budget op true).1.1 = .badState := by
  have begun : ∃ lease, enterBegin B hal budget op true =
      (some (.badState, lease), (decide B hal budget op).2) := by
    simp only [enterBegin, check_of_initialized initialized, Bool.true_eq_false, if_false]
    split
    · exact ⟨_, rfl⟩
    · exact ⟨_, rfl⟩
  rcases begun with ⟨lease, begun⟩
  simp only [enter, begun]

/-! ## A successful enter -/

/-- What a successful `enter` of an op makes of the tables, when it takes the slot `slotId`. -/
structure Entered (op : OpId) (slotId : UInt8) (before after : Budget) : Prop where
  inactive : slotId < before.maxLeases ∧ (before.leaseSlot slotId).active = false
  lowest : ∀ id < slotId, (before.leaseSlot id).active = true
  taken : after.leaseSlot slotId = ⟨before.leaseMagicForId slotId, true, before.pressure⟩
  slots : ∀ id ≠ slotId, after.leaseSlot id = before.leaseSlot id
  slots_length : after.leaseSlots.length = before.leaseSlots.length
  reserved : ∀ need ∈ before.needs op, need.amount ≠ 0 →
    (before.resources need.resource).kind = .reusable →
    (after.resources need.resource).reserved.toNat =
        (before.resources need.resource).reserved.toNat + need.amount.toNat ∧
      (after.resources need.resource).used = (before.resources need.resource).used ∧
      (after.resources need.resource).limit = (before.resources need.resource).limit ∧
      (after.resources need.resource).kind = (before.resources need.resource).kind
  used : ∀ need ∈ before.needs op, need.amount ≠ 0 →
    (before.resources need.resource).kind = .consumable →
    (after.resources need.resource).used.toNat =
        (before.resources need.resource).used.toNat + need.amount.toNat ∧
      (after.resources need.resource).reserved = (before.resources need.resource).reserved ∧
      (after.resources need.resource).limit = (before.resources need.resource).limit ∧
      (after.resources need.resource).kind = (before.resources need.resource).kind
  untouched : ∀ resource,
    (∀ need ∈ before.needs op, need.amount ≠ 0 → need.resource = resource →
      (before.resources resource).kind = .state) →
    after.resources resource = before.resources resource
  needs : after.needs = before.needs
  profiles : after.ops = before.ops ∧ after.opCfg = before.opCfg
  resCfg : after.resCfg = before.resCfg
  pressure : after.pressure = before.pressure
  edges : after.edges = before.edges

theorem Resource.commit_reusable {resource : Resource} {amount : UInt16}
    (kind : resource.kind = .reusable) (fits : resource.Fits amount) :
    (resource.commit amount).reserved.toNat = resource.reserved.toNat + amount.toNat ∧
      (resource.commit amount).used = resource.used ∧
      (resource.commit amount).limit = resource.limit := by
  have exact_add := (Resource.commit_exact fun _ => fits).1
  rw [kind, if_pos rfl] at exact_add
  refine ⟨exact_add, ?_, ?_⟩
  · simp [Resource.commit, kind]
  · simp [Resource.commit, kind]

theorem Resource.commit_consumable {resource : Resource} {amount : UInt16}
    (kind : resource.kind = .consumable) (fits : resource.Fits amount) :
    (resource.commit amount).used.toNat = resource.used.toNat + amount.toNat ∧
      (resource.commit amount).reserved = resource.reserved ∧
      (resource.commit amount).limit = resource.limit := by
  have exact_add := (Resource.commit_exact fun _ => fits).2
  rw [kind, if_pos rfl] at exact_add
  refine ⟨exact_add, ?_, ?_⟩
  · simp [Resource.commit, kind]
  · simp [Resource.commit, kind]

theorem commitResources_of_mem {needs : List Need} (distinct : DistinctNeeds needs)
    (table : ResourceId → Resource) {need : Need} (listed : need ∈ needs)
    (amount_ne : need.amount ≠ 0) :
    commitResources needs table need.resource =
      (table need.resource).commit need.amount := by
  rw [commitResources_apply distinct, needOf_of_mem distinct listed amount_ne,
    if_neg amount_ne]

/-- The effect of taking a slot in a state that Phase A has cleared. -/
theorem entered_acquired (hal : Hal) {slotId : UInt8} (wellFormed : WellFormed B budget)
    (sound : budget.Sound) (cleared : Cleared budget op) (free : budget.freeSlot = some slotId) :
    Entered op slotId budget (budget.acquired B hal op slotId) := by
  have distinct := wellFormed.needs_distinct op
  have fits := cleared.fits sound
  rcases freeSlot_spec wellFormed.slots_few free with ⟨inRange, inactive⟩
  have length := wellFormed.slots_length
  refine ⟨⟨?_, inactive⟩, ?_, ?_, ?_, ?_, ?_, ?_, ?_, rfl, ⟨rfl, rfl⟩, rfl, rfl, rfl⟩
  · rw [UInt8.lt_iff_toNat_lt, ← length]
    exact inRange
  · intro id lower
    exact freeSlot_lowest wellFormed.slots_few free lower
  · exact acquired_leaseSlot_self inRange
  · intro id other
    exact acquired_leaseSlot_of_ne other
  · simp [Budget.acquired]
  · intro need listed amount_ne kind
    have room := fits need listed amount_ne (by simp [kind])
    have committed := Resource.commit_reusable kind room
    simp only [Budget.acquired]
    rw [commitResources_of_mem distinct _ listed amount_ne]
    exact ⟨committed.1, committed.2.1, committed.2.2, Resource.commit_kind _ _⟩
  · intro need listed amount_ne kind
    have room := fits need listed amount_ne (by simp [kind])
    have committed := Resource.commit_consumable kind room
    simp only [Budget.acquired]
    rw [commitResources_of_mem distinct _ listed amount_ne]
    exact ⟨committed.1, committed.2.1, committed.2.2, Resource.commit_kind _ _⟩
  · intro resource onlyState
    simp only [Budget.acquired]
    rw [commitResources_apply distinct]
    by_cases notNeeded : needOf (budget.needs op) resource = 0
    · rw [if_pos notNeeded]
    · rcases exists_mem_of_needOf_ne notNeeded with ⟨need, listed, -, amount_ne, rfl⟩
      have isState := onlyState need listed amount_ne rfl
      rw [if_neg notNeeded]
      simp [Resource.commit, isState]

/-! ## The two calls compared -/

theorem Entered.of_booked {nowMs : UInt32} {middle after : Budget} {slotId : UInt8}
    (booked : Booked B nowMs budget middle) (entered : Entered op slotId middle after) :
    Entered op slotId budget after := by
  have frame := booked.frame
  generalize middle.rateState = rateState at frame
  generalize middle.journal = journal at frame
  subst frame
  exact ⟨entered.inactive, entered.lowest, entered.taken, entered.slots, entered.slots_length,
    entered.reserved, entered.used, entered.untouched, entered.needs, entered.profiles,
    entered.resCfg, entered.pressure, entered.edges⟩

/-- With clock and HAL answers held fixed, `enter` succeeds exactly if `check` allows the op and a
slot is inactive, and does then what `Entered` says; it answers NO_SPACE exactly if `check` allows
the op and every slot is active, and BAD_STATE exactly if `check` does not allow it. -/
theorem enter_agrees_with_check {B : Build} {budget : Budget} (reachable : Reachable B budget)
    (hal : Hal) (op : OpId) :
    ∃ d, (check B hal budget op true).2.1 = some d ∧
      ((enter B hal budget op true).1.1 = .ok ↔
        (d.action = .allowFull ∨ d.action = .allowDegraded) ∧
          ∃ slot ∈ budget.leaseSlots, slot.active = false) ∧
      ((enter B hal budget op true).1.1 = .noSpace ↔
        (d.action = .allowFull ∨ d.action = .allowDegraded) ∧
          ∀ slot ∈ budget.leaseSlots, slot.active = true) ∧
      ((enter B hal budget op true).1.1 = .badState ↔
        ¬(d.action = .allowFull ∨ d.action = .allowDegraded)) ∧
      ((enter B hal budget op true).1.1 = .ok →
        ∃ slotId, Entered op slotId budget (enter B hal budget op true).2 ∧
          (enter B hal budget op true).1.2 = some (budget.issuedLease hal op slotId)) := by
  have wellFormed := reachable.wellFormed
  have sound := reachable.sound
  have booked := decide_booked B hal budget op
  refine ⟨(decide B hal budget op).1, ?_, ?_⟩
  · rw [check_of_initialized wellFormed.initialized]
  simp only [← allows_iff]
  cases allowed : (decide B hal budget op).1.action.allows with
  | false =>
      have status := enter_of_denied wellFormed.initialized allowed
      simp [status]
  | true =>
      have begun := enterBegin_of_allowed wellFormed sound allowed
      have reached : enter B hal budget op true =
          enterCommit B hal (decide B hal budget op).2 op := by
        simp only [enter, begun]
      rcases free : (decide B hal budget op).2.freeSlot with _ | slotId
      · have full := freeSlot_eq_none_iff.mp free
        rw [booked.leaseSlots] at full
        rw [reached, enterCommit_of_full B hal _ op free]
        have none_free : ¬∃ slot ∈ budget.leaseSlots, slot.active = false := by
          rintro ⟨slot, listed, inactive⟩
          exact absurd ((full slot listed).symm.trans inactive) Bool.true_eq_false.mp
        simp only [reduceCtorEq, true_and, false_iff, true_iff, not_true, IsEmpty.forall_iff,
          and_true]
        exact ⟨none_free, full⟩
      · have entered := (entered_acquired hal (wellFormed.booked booked) (sound.booked booked)
          (enterBegin_cleared begun) free).of_booked booked
        have slot := freeSlot_spec (wellFormed.booked booked).slots_few free
        have listed : (decide B hal budget op).2.leaseSlot slotId ∈ budget.leaseSlots := by
          rw [← booked.leaseSlots, Budget.leaseSlot, List.getD_eq_getElem?_getD,
            List.getElem?_eq_getElem slot.1]
          exact List.getElem_mem slot.1
        have some_free : ∃ slot ∈ budget.leaseSlots, slot.active = false :=
          ⟨_, listed, slot.2⟩
        have none_full : ¬∀ slot ∈ budget.leaseSlots, slot.active = true := fun full =>
          absurd ((full _ listed).symm.trans slot.2) Bool.true_eq_false.mp
        rw [reached, enterCommit_of_free B hal _ op free]
        simp only [reduceCtorEq, true_and, false_iff, true_iff, not_true, forall_const]
        refine ⟨some_free, none_full, slotId, entered, ?_⟩
        simp only [Budget.issuedLease, booked.leaseMagicForId]

theorem enter_agrees_with_check_oneOp :
    let budget := (machine Build.full).run .sample oneOp
    ∃ slotId, Entered 0 slotId budget (enter Build.full (Hal.permissive 0) budget 0 true).2 := by
  intro budget
  have reachable : Reachable Build.full budget := (Reachable.of_started started_sample).run oneOp
  have accepted : (enter Build.full (Hal.permissive 0) budget 0 true).1.1 = .ok := by
    decide +kernel
  rcases enter_agrees_with_check reachable (Hal.permissive 0) 0 with ⟨d, -, -, -, -, enters⟩
  rcases enters accepted with ⟨slotId, entered, -⟩
  exact ⟨slotId, entered⟩

end Loxbudget
