import Loxbudget.Invariant.Effects
import Loxbudget.Lib.Slots

/-!
# The tables stay well formed

The invariant of the configuration tables over every run of public calls: an op
never lists a resource twice, what it lists is configured, an active lease slot
carries the magic of its own index, and recorded edges join registered ops.

Because a need list is free of duplicates, it is a finite map from resources to
amounts, `needOf`, and the commit and release loops act on each resource at most
once.
-/

namespace Loxbudget

/-! ## Need lists as maps -/

/-- The amount that a need list asks of a resource. -/
def needOf : List Need → ResourceId → UInt16
  | [], _ => 0
  | need :: rest, resource =>
      if need.amount ≠ 0 ∧ need.resource = resource then need.amount else needOf rest resource

theorem needOf_cons (need : Need) (needs : List Need) (resource : ResourceId) :
    needOf (need :: needs) resource =
      if need.amount ≠ 0 ∧ need.resource = resource then need.amount
      else needOf needs resource := rfl

theorem needOf_cons_of_free {need : Need} (free : need.amount = 0) (needs : List Need)
    (resource : ResourceId) : needOf (need :: needs) resource = needOf needs resource := by
  rw [needOf_cons, if_neg fun used => used.1 free]

theorem needOf_cons_of_ne {need : Need} {resource : ResourceId} (other : need.resource ≠ resource)
    (needs : List Need) : needOf (need :: needs) resource = needOf needs resource := by
  rw [needOf_cons, if_neg fun named => other named.2]

theorem needOf_cons_self {need : Need} (amount_ne : need.amount ≠ 0) (needs : List Need) :
    needOf (need :: needs) need.resource = need.amount := by
  rw [needOf_cons, if_pos ⟨amount_ne, rfl⟩]

/-- No two entries in use name the same resource. -/
def DistinctNeeds (needs : List Need) : Prop :=
  needs.Pairwise fun need need' =>
    need.amount ≠ 0 → need'.amount ≠ 0 → need.resource ≠ need'.resource

theorem needOf_eq_zero {needs : List Need} {resource : ResourceId} :
    needOf needs resource = 0 ↔
      ∀ need ∈ needs, need.amount ≠ 0 → need.resource ≠ resource := by
  induction needs with
  | nil => simp [needOf]
  | cons need needs ih =>
      simp only [needOf]
      by_cases found : need.amount ≠ 0 ∧ need.resource = resource
      · simp [found]
      · simp only [found, if_false, ih, List.mem_cons, forall_eq_or_imp]
        tauto

theorem needOf_cons_eq_zero {need : Need} {needs : List Need} {resource : ResourceId} :
    needOf (need :: needs) resource = 0 ↔
      (need.amount ≠ 0 → need.resource ≠ resource) ∧ needOf needs resource = 0 := by
  rw [needOf_eq_zero, needOf_eq_zero, List.forall_mem_cons]

theorem needOf_of_mem {needs : List Need} (distinct : DistinctNeeds needs) {need : Need}
    (listed : need ∈ needs) (amount_ne : need.amount ≠ 0) :
    needOf needs need.resource = need.amount := by
  induction needs with
  | nil => simp at listed
  | cons first rest ih =>
      have apart := List.pairwise_cons.mp distinct
      simp only [needOf]
      rcases List.mem_cons.mp listed with rfl | later
      · simp [amount_ne]
      · by_cases first_ne : first.amount = 0
        · simpa [first_ne] using ih apart.2 later
        · have other := apart.1 need later first_ne amount_ne
          simpa [other] using ih apart.2 later

theorem exists_mem_of_needOf_ne {needs : List Need} {resource : ResourceId}
    (needed : needOf needs resource ≠ 0) :
    ∃ need ∈ needs, need.amount = needOf needs resource ∧ need.amount ≠ 0 ∧
      need.resource = resource := by
  induction needs with
  | nil => simp [needOf] at needed
  | cons need needs ih =>
      simp only [needOf] at needed ⊢
      by_cases found : need.amount ≠ 0 ∧ need.resource = resource
      · simp only [found, ne_eq, not_false_eq_true, and_self, if_true]
        exact ⟨need, List.mem_cons_self, rfl, found.1, found.2⟩
      · simp only [found, if_false] at needed ⊢
        rcases ih needed with ⟨other, listed, facts⟩
        exact ⟨other, List.mem_cons_of_mem _ listed, facts⟩

theorem commitResources_cons (need : Need) (needs : List Need)
    (table : ResourceId → Resource) :
    commitResources (need :: needs) table =
      commitResources needs
        (if need.amount = 0 then table
          else Function.update table need.resource
            ((table need.resource).commit need.amount)) := rfl

theorem releaseResources_cons (need : Need) (needs : List Need)
    (table : ResourceId → Resource) :
    releaseResources (need :: needs) table =
      releaseResources needs
        (if need.amount = 0 then table
          else Function.update table need.resource
            ((table need.resource).release need.amount)) := rfl

theorem commitResources_of_not_needed {needs : List Need} {resource : ResourceId}
    (table : ResourceId → Resource) (notNeeded : needOf needs resource = 0) :
    commitResources needs table resource = table resource := by
  induction needs generalizing table with
  | nil => rfl
  | cons need needs ih =>
      rcases needOf_cons_eq_zero.mp notNeeded with ⟨absent, later⟩
      rw [commitResources_cons, ih _ later]
      by_cases free : need.amount = 0
      · simp [free]
      · have other := absent free
        simp [free, Function.update_of_ne (Ne.symm other)]

theorem releaseResources_of_not_needed {needs : List Need} {resource : ResourceId}
    (table : ResourceId → Resource) (notNeeded : needOf needs resource = 0) :
    releaseResources needs table resource = table resource := by
  induction needs generalizing table with
  | nil => rfl
  | cons need needs ih =>
      rcases needOf_cons_eq_zero.mp notNeeded with ⟨absent, later⟩
      rw [releaseResources_cons, ih _ later]
      by_cases free : need.amount = 0
      · simp [free]
      · have other := absent free
        simp [free, Function.update_of_ne (Ne.symm other)]

theorem needOf_tail_eq_zero {need : Need} {needs : List Need}
    (distinct : DistinctNeeds (need :: needs)) (amount_ne : need.amount ≠ 0) :
    needOf needs need.resource = 0 := by
  have apart := (List.pairwise_cons.mp distinct).1
  exact needOf_eq_zero.mpr fun other listed other_ne =>
    Ne.symm (apart other listed amount_ne other_ne)

theorem commitResources_apply {needs : List Need} (distinct : DistinctNeeds needs)
    (table : ResourceId → Resource) (resource : ResourceId) :
    commitResources needs table resource =
      if needOf needs resource = 0 then table resource
      else (table resource).commit (needOf needs resource) := by
  induction needs generalizing table with
  | nil => rfl
  | cons need needs ih =>
      have rest := (List.pairwise_cons.mp distinct).2
      rw [commitResources_cons]
      by_cases free : need.amount = 0
      · simpa [free, needOf] using ih rest table
      · by_cases named : need.resource = resource
        · subst named
          have once := needOf_tail_eq_zero distinct free
          rw [commitResources_of_not_needed _ once]
          simp [free, needOf]
        · rw [if_neg free, ih rest]
          simp [named, needOf, Function.update_of_ne (Ne.symm named)]

@[simp]
theorem Resource.release_zero (resource : Resource) : resource.release 0 = resource := by
  simp only [Resource.release]
  split <;> simp

theorem releaseResources_apply {needs : List Need} (distinct : DistinctNeeds needs)
    (table : ResourceId → Resource) (resource : ResourceId) :
    releaseResources needs table resource =
      (table resource).release (needOf needs resource) := by
  induction needs generalizing table with
  | nil => simp [releaseResources, needOf]
  | cons need needs ih =>
      have rest := (List.pairwise_cons.mp distinct).2
      rw [releaseResources_cons]
      by_cases free : need.amount = 0
      · simpa [free, needOf] using ih rest table
      · by_cases named : need.resource = resource
        · subst named
          have once := needOf_tail_eq_zero distinct free
          rw [releaseResources_of_not_needed _ once]
          simp [free, needOf]
        · rw [if_neg free, ih rest]
          simp [named, needOf, Function.update_of_ne (Ne.symm named)]

/-! ## Setting a need -/

theorem updateNeed_eq (resource : ResourceId) (amount : UInt16) (needs : List Need) :
    updateNeed resource amount needs =
      Slots.replaceFirst (fun need => need.amount ≠ 0 ∧ need.resource = resource)
        (fun need => { need with amount := amount }) needs := by
  induction needs with
  | nil => rfl
  | cons need needs ih => rw [updateNeed, Slots.replaceFirst, ih]

theorem insertNeed_eq (resource : ResourceId) (amount : UInt16) (needs : List Need) :
    insertNeed resource amount needs =
      Slots.replaceFirst (fun need => need.amount = 0) (fun _ => ⟨resource, amount⟩) needs := by
  induction needs with
  | nil => rfl
  | cons need needs ih => rw [insertNeed, Slots.replaceFirst, ih]

theorem updateNeed_eq_none {resource : ResourceId} {amount : UInt16} {needs : List Need} :
    updateNeed resource amount needs = none ↔ needOf needs resource = 0 := by
  rw [updateNeed_eq, Slots.replaceFirst_eq_none, needOf_eq_zero]
  exact forall₂_congr fun _ _ => not_and

/-- A set need list differs from the old one in one entry: the one of the resource, or the first
free one if the resource was not listed. -/
theorem NeedSet.split {resource : ResourceId} {amount : UInt16} {before after : List Need}
    (set : NeedSet resource amount before after) :
    ∃ front need back, before = front ++ need :: back ∧
      after = front ++ ⟨resource, amount⟩ :: back ∧
      (need.amount ≠ 0 ∧ need.resource = resource ∨
        need.amount = 0 ∧ needOf before resource = 0 ∧ ∀ other ∈ front, other.amount ≠ 0) := by
  rcases set with updated | ⟨missing, inserted⟩
  · rw [updateNeed_eq] at updated
    rcases Slots.replaceFirst_eq_some updated with ⟨front, need, back, rfl, rfl, listed, -⟩
    exact ⟨front, need, back, rfl, by rw [← listed.2], Or.inl listed⟩
  · rw [insertNeed_eq] at inserted
    rcases Slots.replaceFirst_eq_some inserted with ⟨front, need, back, rfl, rfl, free, used⟩
    exact ⟨front, need, back, rfl, rfl, Or.inr ⟨free, updateNeed_eq_none.mp missing, used⟩⟩

theorem NeedSet.length {resource : ResourceId} {amount : UInt16} {before after : List Need}
    (set : NeedSet resource amount before after) : after.length = before.length := by
  rcases set.split with ⟨front, need, back, rfl, rfl, -⟩
  simp

theorem NeedSet.mem {resource : ResourceId} {amount : UInt16} {before after : List Need}
    (set : NeedSet resource amount before after) {need : Need} (listed : need ∈ after) :
    need ∈ before ∨ need = ⟨resource, amount⟩ := by
  rcases set.split with ⟨front, entry, back, rfl, rfl, -⟩
  simp only [List.mem_append, List.mem_cons] at listed ⊢
  tauto

/-- The entries other than the one that is set do not name the resource. -/
theorem NeedSet.distinct {resource : ResourceId} {amount : UInt16} {before after : List Need}
    (set : NeedSet resource amount before after) (distinct : DistinctNeeds before) :
    DistinctNeeds after := by
  rcases set.split with ⟨front, entry, back, rfl, rfl, kind⟩
  simp only [DistinctNeeds] at distinct ⊢
  rw [List.pairwise_append, List.pairwise_cons] at distinct ⊢
  rcases distinct with ⟨inFront, ⟨entryBack, inBack⟩, across⟩
  have others : ∀ other, other ∈ front ∨ other ∈ back → other.amount ≠ 0 →
      other.resource ≠ resource := by
    intro other listed other_ne
    rcases kind with ⟨entry_ne, rfl⟩ | ⟨-, absent, -⟩
    · rcases listed with inFront' | inBack'
      · exact across other inFront' entry List.mem_cons_self other_ne entry_ne
      · exact Ne.symm (entryBack other inBack' entry_ne other_ne)
    · refine needOf_eq_zero.mp absent other ?_ other_ne
      simp only [List.mem_append, List.mem_cons]
      tauto
  refine ⟨inFront, ⟨?_, inBack⟩, ?_⟩
  · intro other listed _ other_ne
    exact Ne.symm (others other (Or.inr listed) other_ne)
  · intro other inFront' target listed other_ne target_ne
    rcases List.mem_cons.mp listed with rfl | inBack'
    · exact others other (Or.inl inFront') other_ne
    · exact across other inFront' target (List.mem_cons_of_mem _ inBack') other_ne target_ne

theorem needOf_append_cons {front back : List Need} {entry : Need} {resource : ResourceId}
    (other : ¬(entry.amount ≠ 0 ∧ entry.resource = resource)) :
    needOf (front ++ entry :: back) resource = needOf (front ++ back) resource := by
  induction front with
  | nil => rw [List.nil_append, needOf_cons, if_neg other, List.nil_append]
  | cons first front ih =>
      rw [List.cons_append, List.cons_append, needOf_cons, needOf_cons, ih]

theorem NeedSet.needOf {resource : ResourceId} {amount : UInt16} {before after : List Need}
    (set : NeedSet resource amount before after) (distinct : DistinctNeeds before)
    (amount_ne : amount ≠ 0) :
    needOf after = Function.update (needOf before) resource amount := by
  have distinctAfter := set.distinct distinct
  rcases set.split with ⟨front, entry, back, rfl, rfl, kind⟩
  funext other
  by_cases same : other = resource
  · subst same
    rw [Function.update_self]
    have listed : (⟨other, amount⟩ : Need) ∈ front ++ ⟨other, amount⟩ :: back := by simp
    exact needOf_of_mem distinctAfter listed amount_ne
  · rw [Function.update_of_ne same]
    have entry_other : ¬(entry.amount ≠ 0 ∧ entry.resource = other) := by
      rintro ⟨entry_ne, rfl⟩
      rcases kind with ⟨-, named⟩ | ⟨free, -⟩
      · exact same named
      · exact entry_ne free
    have set_other : ¬((⟨resource, amount⟩ : Need).amount ≠ 0 ∧ resource = other) :=
      fun named => same named.2.symm
    rw [needOf_append_cons entry_other, needOf_append_cons set_other]

theorem distinctNeeds_replicate (count : Nat) : DistinctNeeds (List.replicate count ⟨0, 0⟩) :=
  List.pairwise_replicate.mpr (Or.inr fun free => absurd rfl free)

/-! ## Lease slots -/

theorem leaseSlot_set_self {budget : Budget} {id : UInt8} {slot : LeaseSlot}
    (inRange : id.toNat < budget.leaseSlots.length) :
    (budget.leaseSlots.set id.toNat slot).getD id.toNat .zero = slot := by
  simp [List.getD_eq_getElem?_getD, inRange]

theorem leaseSlot_set_ne {budget : Budget} {id other : UInt8} {slot : LeaseSlot}
    (other_ne : other ≠ id) :
    (budget.leaseSlots.set id.toNat slot).getD other.toNat .zero = budget.leaseSlot other := by
  have apart : id.toNat ≠ other.toNat := fun same => other_ne (UInt8.toNat_inj.mp same).symm
  simp [Budget.leaseSlot, List.getD_eq_getElem?_getD, apart]

theorem lt_of_active {budget : Budget} {id : UInt8}
    (active : (budget.leaseSlot id).active = true) : id.toNat < budget.leaseSlots.length := by
  by_contra outside
  have missing : budget.leaseSlot id = .zero := by
    simp [Budget.leaseSlot, List.getD_eq_getElem?_getD, List.getElem?_eq_none (Nat.le_of_not_lt outside)]
  simp [missing, LeaseSlot.zero] at active

theorem freeSlot_spec {budget : Budget} {slotId : UInt8}
    (few : budget.leaseSlots.length ≤ 256) (free : budget.freeSlot = some slotId) :
    slotId.toNat < budget.leaseSlots.length ∧ (budget.leaseSlot slotId).active = false := by
  simp only [Budget.freeSlot] at free
  rcases Option.map_eq_some_iff.mp free with ⟨index, found, rfl⟩
  rcases List.findIdx?_eq_some_iff_getElem.mp found with ⟨inRange, inactive, -⟩
  have exact_id : (UInt8.ofNat index).toNat = index := by
    rw [UInt8.toNat_ofNat']
    omega
  refine ⟨by rwa [exact_id], ?_⟩
  simp only [Budget.leaseSlot]
  rw [exact_id, List.getD_eq_getElem?_getD, List.getElem?_eq_getElem inRange]
  simpa using inactive

theorem acquired_leaseSlot_self {B : Build} {hal : Hal} {op : OpId} {slotId : UInt8}
    {budget : Budget} (inRange : slotId.toNat < budget.leaseSlots.length) :
    (budget.acquired B hal op slotId).leaseSlot slotId =
      ⟨budget.leaseMagicForId slotId, true, budget.pressure⟩ :=
  leaseSlot_set_self inRange

theorem acquired_leaseSlot_of_ne {B : Build} {hal : Hal} {op : OpId} {slotId id : UInt8}
    {budget : Budget} (other : id ≠ slotId) :
    (budget.acquired B hal op slotId).leaseSlot id = budget.leaseSlot id :=
  leaseSlot_set_ne other

theorem released_leaseSlot_self {lease : Lease} {budget : Budget}
    (active : (budget.leaseSlot lease.id).active = true) :
    ((budget.released lease).leaseSlot lease.id).active = false := by
  have slot : (budget.released lease).leaseSlot lease.id = _ :=
    leaseSlot_set_self (lt_of_active active)
  rw [slot]

theorem released_leaseSlot_of_ne {lease : Lease} {id : UInt8} {budget : Budget}
    (other : id ≠ lease.id) : (budget.released lease).leaseSlot id = budget.leaseSlot id :=
  leaseSlot_set_ne other

/-! ## The fresh instance -/

/-- What `init` leaves in the tables. -/
structure Fresh (B : Build) (budget : Budget) : Prop where
  initialized : budget.magic = magicInit
  resources : budget.resources = fun _ => .zero
  resCfg : budget.resCfg = fun _ => false
  opCfg : budget.opCfg = fun _ => false
  needs : budget.needs = fun _ => List.replicate B.maxNeedsPerOp ⟨0, 0⟩
  leaseSlots : budget.leaseSlots = List.replicate budget.maxLeases.toNat .zero
  rateState : budget.rateState = fun _ => .zero
  edges : budget.edges = []

theorem Started.fresh {B : Build} {budget : Budget} (started : Started B budget) :
    Fresh B budget := by
  rcases started with ⟨hal, previous, args, success⟩
  rcases init_ok success with ⟨valid, cfg, given, fits⟩
  rw [init, if_neg (not_not.mpr valid), given] at success
  simp only [if_neg fits, Prod.mk.injEq, true_and] at success
  subst success
  exact ⟨rfl, rfl, rfl, rfl, rfl, rfl, rfl, rfl⟩

theorem Fresh.inactive {B : Build} {budget : Budget} (fresh : Fresh B budget) (id : UInt8) :
    (budget.leaseSlot id).active = false := by
  rw [← Bool.not_eq_true]
  intro active
  have inRange := lt_of_active active
  rw [fresh.leaseSlots, List.length_replicate] at inRange
  simp [Budget.leaseSlot, fresh.leaseSlots, inRange, LeaseSlot.zero] at active

/-! ## The invariant -/

/-- The invariant of the configuration and lease tables. -/
structure WellFormed (B : Build) (budget : Budget) : Prop where
  initialized : budget.magic = magicInit
  needs_length : ∀ op, (budget.needs op).length = B.maxNeedsPerOp
  needs_distinct : ∀ op, DistinctNeeds (budget.needs op)
  needs_configured : ∀ op, ∀ need ∈ budget.needs op, need.amount ≠ 0 →
    need.resource < budget.maxResources ∧ budget.resCfg need.resource = true
  slots_length : budget.leaseSlots.length = budget.maxLeases.toNat
  slots_magic : ∀ id, (budget.leaseSlot id).active = true →
    (budget.leaseSlot id).magic = budget.leaseMagicForId id
  edges_inRange : ∀ edge ∈ budget.edges,
    edge.parent < budget.maxOps ∧ edge.child < budget.maxOps
  edges_registered : ∀ edge ∈ budget.edges,
    budget.opCfg edge.parent = true ∧ budget.opCfg edge.child = true
  edges_stored : budget.edges ≠ [] → budget.causalityHasStorage B = true

theorem Fresh.wellFormed {B : Build} {budget : Budget} (fresh : Fresh B budget) :
    WellFormed B budget where
  initialized := fresh.initialized
  needs_length := fun op => by simp [fresh.needs]
  needs_distinct := fun op => by simpa [fresh.needs] using distinctNeeds_replicate _
  needs_configured := by
    intro op need listed amount_ne
    rw [fresh.needs] at listed
    rw [List.eq_of_mem_replicate listed] at amount_ne
    exact absurd rfl amount_ne
  slots_length := by simp [fresh.leaseSlots]
  slots_magic := fun id active => absurd active (by simp [fresh.inactive])
  edges_inRange := by simp [fresh.edges]
  edges_registered := by simp [fresh.edges]
  edges_stored := fun nonempty => absurd fresh.edges nonempty

theorem update_true {Id : Type} [DecidableEq Id] {configured : Id → Bool} {id other : Id}
    (before : configured other = true) : Function.update configured id true other = true := by
  by_cases same : other = id
  · rw [same, Function.update_self]
  · rw [Function.update_of_ne same, before]

theorem updateEdge_mem {parent child : OpId} {weight : UInt8} {before after : List Edge}
    (updated : updateEdge parent child weight before = some after) {edge : Edge}
    (listed : edge ∈ after) : edge ∈ before ∨ edge = ⟨parent, child, weight⟩ := by
  induction before generalizing after with
  | nil => simp [updateEdge] at updated
  | cons first before ih =>
      simp only [updateEdge] at updated
      by_cases found : first.parent = parent ∧ first.child = child
      · simp only [found, and_self, if_true, Option.some.injEq] at updated
        subst updated
        rcases List.mem_cons.mp listed with rfl | later
        · exact Or.inr rfl
        · exact Or.inl (List.mem_cons_of_mem _ later)
      · simp only [found, if_false, Option.map_eq_some_iff] at updated
        rcases updated with ⟨rest, updated, rfl⟩
        rcases List.mem_cons.mp listed with rfl | later
        · exact Or.inl List.mem_cons_self
        · rcases ih updated later with old | new
          · exact Or.inl (List.mem_cons_of_mem _ old)
          · exact Or.inr new

namespace WellFormed

variable {B : Build} {budget : Budget}

theorem slots_few (wellFormed : WellFormed B budget) : budget.leaseSlots.length ≤ 256 := by
  have bound := budget.maxLeases.toNat_lt
  rw [wellFormed.slots_length]
  omega

/-- A change of the fields that the invariant does not read. -/
theorem of_frame {after : Budget} (wellFormed : WellFormed B budget)
    (frame : after = { budget with
      pressure := after.pressure
      decisionHook := after.decisionHook
      journal := after.journal
      resources := after.resources
      rateState := after.rateState }) : WellFormed B after := by
  rw [frame]
  exact ⟨wellFormed.initialized, wellFormed.needs_length, wellFormed.needs_distinct,
    wellFormed.needs_configured, wellFormed.slots_length, wellFormed.slots_magic,
    wellFormed.edges_inRange, wellFormed.edges_registered, wellFormed.edges_stored⟩

theorem booked {nowMs : UInt32} {after : Budget} (wellFormed : WellFormed B budget)
    (booked : Booked B nowMs budget after) : WellFormed B after := by
  apply wellFormed.of_frame
  rw [booked.frame]

theorem quiet {nowMs : UInt32} {after : Budget} (wellFormed : WellFormed B budget)
    (effect : QuietEffect B nowMs budget after) : WellFormed B after := by
  cases effect with
  | unchanged => exact wellFormed
  | resource id limit kind inRange =>
      refine ⟨wellFormed.initialized, wellFormed.needs_length, wellFormed.needs_distinct, ?_,
        wellFormed.slots_length, wellFormed.slots_magic, wellFormed.edges_inRange,
        wellFormed.edges_registered, wellFormed.edges_stored⟩
      intro op need listed amount_ne
      have configured := wellFormed.needs_configured op need listed amount_ne
      exact ⟨configured.1, update_true configured.2⟩
  | register id profile inRange fresh =>
      refine ⟨wellFormed.initialized, ?_, ?_, ?_, wellFormed.slots_length,
        wellFormed.slots_magic, wellFormed.edges_inRange, ?_, wellFormed.edges_stored⟩
      · intro op
        by_cases same : op = id
        · simp [same]
        · simpa [Function.update_of_ne same] using wellFormed.needs_length op
      · intro op
        by_cases same : op = id
        · simpa [same] using distinctNeeds_replicate B.maxNeedsPerOp
        · simpa [Function.update_of_ne same] using wellFormed.needs_distinct op
      · intro op need listed amount_ne
        by_cases same : op = id
        · simp only [same, Function.update_self] at listed
          rw [List.eq_of_mem_replicate listed] at amount_ne
          exact absurd rfl amount_ne
        · simp only [Function.update_of_ne same] at listed
          exact wellFormed.needs_configured op need listed amount_ne
      · intro edge listed
        have registered := wellFormed.edges_registered edge listed
        exact ⟨update_true registered.1, update_true registered.2⟩
  | need op resource amount needs opInRange registered resourceInRange configured amount_ne set =>
      refine ⟨wellFormed.initialized, ?_, ?_, ?_, wellFormed.slots_length,
        wellFormed.slots_magic, wellFormed.edges_inRange, wellFormed.edges_registered,
        wellFormed.edges_stored⟩
      · intro other
        by_cases same : other = op
        · simpa [same] using set.length.trans (wellFormed.needs_length op)
        · simpa [Function.update_of_ne same] using wellFormed.needs_length other
      · intro other
        by_cases same : other = op
        · simpa [same] using set.distinct (wellFormed.needs_distinct op)
        · simpa [Function.update_of_ne same] using wellFormed.needs_distinct other
      · intro other need listed need_ne
        by_cases same : other = op
        · simp only [same, Function.update_self] at listed
          rcases set.mem listed with old | rfl
          · exact wellFormed.needs_configured op need old need_ne
          · exact ⟨resourceInRange, configured⟩
        · simp only [Function.update_of_ne same] at listed
          exact wellFormed.needs_configured other need listed need_ne
  | trigger edge edges hasStorage parentInRange childInRange parent_ne parentRegistered
      childRegistered set =>
      have origin : ∀ other ∈ edges, other ∈ budget.edges ∨ other = edge := by
        intro other listed
        rcases set with updated | ⟨-, -, -, rfl⟩
        · exact updateEdge_mem updated listed
        · simpa using listed
      refine ⟨wellFormed.initialized, wellFormed.needs_length, wellFormed.needs_distinct,
        wellFormed.needs_configured, wellFormed.slots_length, wellFormed.slots_magic, ?_, ?_,
        fun _ => hasStorage⟩
      · intro other listed
        rcases origin other listed with old | rfl
        · exact wellFormed.edges_inRange other old
        · exact ⟨parentInRange, childInRange⟩
      · intro other listed
        rcases origin other listed with old | rfl
        · exact wellFormed.edges_registered other old
        · exact ⟨parentRegistered, childRegistered⟩
  | rateLimit res index window fresh => exact wellFormed.of_frame rfl
  | lifetimeLimit res lifetimeMax => exact wellFormed.of_frame rfl
  | pressure pressure => exact wellFormed.of_frame rfl
  | hook hook => exact wellFormed.of_frame rfl
  | booked booked => exact wellFormed.booked booked
  | journal journal => exact wellFormed.of_frame rfl

theorem setSlot (slotId : UInt8) {slot : LeaseSlot} {after : Budget}
    (wellFormed : WellFormed B budget)
    (frame : after = { budget with
      resources := after.resources
      rateState := after.rateState
      leaseSlots := budget.leaseSlots.set slotId.toNat slot })
    (magic : slot.active = true → slot.magic = budget.leaseMagicForId slotId) :
    WellFormed B after := by
  rw [frame]
  refine ⟨wellFormed.initialized, wellFormed.needs_length, wellFormed.needs_distinct,
    wellFormed.needs_configured, ?_, ?_, wellFormed.edges_inRange,
    wellFormed.edges_registered, wellFormed.edges_stored⟩
  · simpa using wellFormed.slots_length
  · intro id active
    by_cases same : id = slotId
    · subst same
      have inRange := lt_of_active active
      simp only [List.length_set] at inRange
      unfold Budget.leaseSlot at active ⊢
      simp only at active ⊢
      rw [leaseSlot_set_self inRange] at active ⊢
      exact magic active
    · unfold Budget.leaseSlot at active ⊢
      simp only at active ⊢
      rw [leaseSlot_set_ne same] at active ⊢
      exact wellFormed.slots_magic id active

theorem acquired (hal : Hal) (op : OpId) (slotId : UInt8) (wellFormed : WellFormed B budget) :
    WellFormed B (budget.acquired B hal op slotId) :=
  wellFormed.setSlot slotId rfl fun _ => rfl

theorem released (lease : Lease) (wellFormed : WellFormed B budget) :
    WellFormed B (budget.released lease) := by
  apply wellFormed.setSlot lease.id rfl
  simp

theorem next (event : Event) (wellFormed : WellFormed B budget) :
    WellFormed B ((machine B).next budget event) := by
  rcases next_cases B budget event with
    effect | ⟨op, middle, slotId, booked, -, -, after⟩ | ⟨lease, -, after⟩
  · exact wellFormed.quiet effect
  · rw [after]
    exact (wellFormed.booked booked).acquired event.hal op slotId
  · rw [after]
    exact wellFormed.released lease

end WellFormed

theorem Reachable.wellFormed {B : Build} {budget : Budget} (reachable : Reachable B budget) :
    WellFormed B budget :=
  reachable.induction (fun _ started => started.fresh.wellFormed)
    fun _ event wellFormed => wellFormed.next event

/-! ## The edge table -/

variable {B : Build} {budget : Budget}

/-- No other call changes the edge table, and a build without causality has none. -/
theorem next_edges (budget : Budget) (event : Event)
    (other : B.enableCausality = true → ∀ parent child kind,
      event.call ≠ .opMayTrigger parent child kind) :
    ((machine B).next budget event).edges = budget.edges := by
  by_cases quiet : event.call.isQuiet = true
  · have writes := next_writes B budget event quiet
    rcases event with ⟨hal, call⟩
    by_cases registers : ∃ parent child kind, call = .opMayTrigger parent child kind
    · rcases registers with ⟨parent, child, kind, rfl⟩
      cases enabled : B.enableCausality with
      | true => exact absurd rfl (other enabled parent child kind)
      | false => simp only [Machine.next, machine, exec, enabled, Bool.false_eq_true, if_false]
    · generalize (machine B).next budget ⟨hal, call⟩ = after at writes ⊢
      cases writes with
      | opMayTrigger parent child kind => exact absurd ⟨parent, child, kind, rfl⟩ registers
      | _ => rfl
  · rcases event with ⟨hal, call⟩
    cases call with
    | enter op out =>
        rw [next_enter]
        rcases enter_cases B hal budget op out with
          ⟨booked, -⟩ | ⟨middle, slotId, booked, -, -, entered⟩
        · rw [booked.frame]
        · rw [entered, booked.frame]
          rfl
    | leave lease =>
        rcases leave_frame budget lease with ⟨resources, leaseSlots, left⟩
        rw [next_leave, left]
    | _ => exact absurd rfl quiet

/-- A call leaves the edge table alone, or it is an `op_may_trigger` that updates an edge, or
appends one that closes no cycle as far as the search sees. -/
theorem next_edges_cases (B : Build) (budget : Budget) (event : Event) :
    ((machine B).next budget event).edges = budget.edges ∨
      B.enableCausality = true ∧ ∃ parent child kind,
        event.call = .opMayTrigger parent child kind ∧
        ((budget.MayRelate B parent child kind ∧
            updateEdge parent child kind.toUInt8 budget.edges =
              some ((machine B).next budget event).edges) ∨
          budget.NewPair B parent child kind ∧
            pathExists B budget.maxOps (budget.edges ++ [⟨parent, child, kind.toUInt8⟩])
              child parent = false ∧
            ((machine B).next budget event).edges =
              budget.edges ++ [⟨parent, child, kind.toUInt8⟩]) := by
  by_cases registers : B.enableCausality = true ∧
      ∃ parent child kind, event.call = .opMayTrigger parent child kind
  · rcases event with ⟨hal, call⟩
    rcases registers with ⟨enabled, parent, child, kind, rfl⟩
    rw [next_opMayTrigger hal enabled]
    rcases opMayTrigger_cases B budget parent child kind with
      ⟨passes, edges, updated, after⟩ | ⟨new, missed, after⟩ | ⟨-, after⟩
    · rw [after]
      exact Or.inr ⟨enabled, parent, child, kind, rfl, Or.inl ⟨passes, updated⟩⟩
    · rw [after]
      exact Or.inr ⟨enabled, parent, child, kind, rfl, Or.inr ⟨new, missed, rfl⟩⟩
    · rw [after]
      exact Or.inl rfl
  · left
    exact next_edges budget event fun enabled parent child kind called =>
      registers ⟨enabled, parent, child, kind, called⟩

theorem next_edges_mem {event : Event} {edge : Edge}
    (listed : edge ∈ ((machine B).next budget event).edges) :
    edge ∈ budget.edges ∨ B.enableCausality = true ∧
      ∃ kind, budget.MayRelate B edge.parent edge.child kind := by
  rcases next_edges_cases B budget event with
    same | ⟨enabled, parent, child, kind, -, ⟨passes, updated⟩ | ⟨new, -, after⟩⟩
  · rw [same] at listed
    exact Or.inl listed
  · rcases updateEdge_mem updated listed with old | rfl
    · exact Or.inl old
    · exact Or.inr ⟨enabled, kind, passes⟩
  · rw [after] at listed
    rcases List.mem_append.mp listed with old | added
    · exact Or.inl old
    · rw [List.mem_singleton.mp added]
      exact Or.inr ⟨enabled, kind, new.toMayRelate⟩

/-- Edges are recorded only where the build has causality, and none is a loop. -/
def EdgesProper (B : Build) (budget : Budget) : Prop :=
  ∀ edge ∈ budget.edges, B.enableCausality = true ∧ edge.parent ≠ edge.child

theorem Reachable.edgesProper (reachable : Reachable B budget) : EdgesProper B budget := by
  refine reachable.induction ?_ ?_
  · intro start started edge listed
    rw [started.fresh.edges] at listed
    exact absurd listed List.not_mem_nil
  · intro budget event proper edge listed
    rcases next_edges_mem listed with old | ⟨enabled, kind, passes⟩
    · exact proper edge old
    · exact ⟨enabled, passes.parent_ne⟩

end Loxbudget
