import Loxbudget.Invariant.Tables

/-!
# No resource is overcommitted

The counters of every resource stay within its limit, over every run of public
calls. `enter` validates each need on its own and then adds all of them, so the
argument rests on the need list naming a resource at most once: what the
validation has seen of a resource is still true when its turn comes.
-/

namespace Loxbudget

/-- The counters of a resource, as exact integers. -/
structure Resource.Sound (resource : Resource) : Prop where
  capacity : resource.used.toNat + resource.reserved.toNat ≤ resource.limit.toNat
  highWatermark_le : resource.highWatermark.toNat ≤ resource.limit.toNat
  reserved_le : resource.kind = .reusable →
    resource.reserved.toNat ≤ resource.highWatermark.toNat
  used_le : resource.kind = .consumable → resource.used.toNat ≤ resource.highWatermark.toNat
  reserved_idle : resource.kind ≠ .reusable → resource.reserved.toNat = 0

/-- The amount fits what the resource has left, as exact integers. -/
def Resource.Fits (resource : Resource) (amount : UInt16) : Prop :=
  resource.used.toNat + resource.reserved.toNat + amount.toNat ≤ resource.limit.toNat

/-- `loxbudget_available_u16_` is subtraction cut off at zero. -/
theorem availableU16_toNat (limit used reserved : UInt16) :
    (availableU16 limit used reserved).toNat =
      limit.toNat - used.toNat - reserved.toNat := by
  have limit_lt := limit.toNat_lt
  have used_lt := used.toNat_lt
  have reserved_lt := reserved.toNat_lt
  have first : (if used.toUInt32 > limit.toUInt32 then 0
      else limit.toUInt32 - used.toUInt32).toNat = limit.toNat - used.toNat := by
    split
    · rename_i exceeds
      have exceeds' := UInt32.lt_iff_toNat_lt.mp exceeds
      simp only [UInt16.toNat_toUInt32] at exceeds'
      simp only [UInt32.toNat_zero]
      omega
    · rename_i within
      rw [UInt32.toNat_sub_of_le _ _ (UInt32.not_lt.mp within)]
      simp
  unfold availableU16
  simp only
  generalize (if used.toUInt32 > limit.toUInt32 then 0
      else limit.toUInt32 - used.toUInt32) = left at first ⊢
  split
  · rename_i exceeds
    have exceeds' := UInt32.lt_iff_toNat_lt.mp exceeds
    simp only [UInt16.toNat_toUInt32] at exceeds'
    simp only [UInt32.toNat_toUInt16, UInt32.toNat_zero]
    omega
  · rename_i within
    rw [UInt32.toNat_toUInt16, UInt32.toNat_sub_of_le _ _ (UInt32.not_lt.mp within)]
    simp only [UInt16.toNat_toUInt32]
    omega

theorem Resource.Sound.available_toNat {resource : Resource} (sound : resource.Sound) :
    resource.available.toNat + resource.used.toNat + resource.reserved.toNat =
      resource.limit.toNat := by
  have capacity := sound.capacity
  simp only [Resource.available]
  rw [availableU16_toNat]
  omega

theorem Resource.Sound.fits_iff {resource : Resource} (sound : resource.Sound)
    (amount : UInt16) : resource.Fits amount ↔ amount ≤ resource.available := by
  have available := sound.available_toNat
  simp only [Resource.Fits]
  rw [UInt16.le_iff_toNat_le]
  omega

/-! ## One resource -/

theorem Resource.Sound.fresh (limit : UInt16) (kind : ResourceKind) :
    Resource.Sound ⟨limit, 0, 0, 0, kind⟩ where
  capacity := by simp
  highWatermark_le := by simp
  reserved_le := by simp
  used_le := by simp
  reserved_idle := by simp

theorem Resource.toNat_add_of_fits {resource : Resource} {amount counter : UInt16}
    (fits : resource.Fits amount)
    (counter_le : counter.toNat ≤ resource.used.toNat + resource.reserved.toNat) :
    (counter + amount).toNat = counter.toNat + amount.toNat := by
  have limit_lt := resource.limit.toNat_lt
  simp only [Resource.Fits] at fits
  rw [UInt16.toNat_add]
  omega

theorem toNat_ite_max (counter highWatermark : UInt16) :
    (if counter > highWatermark then counter else highWatermark).toNat =
      max counter.toNat highWatermark.toNat := by
  split
  · rename_i above
    have above' := UInt16.lt_iff_toNat_lt.mp above
    omega
  · rename_i below
    have below' := UInt16.le_iff_toNat_le.mp (UInt16.not_lt.mp below)
    omega

theorem Resource.Sound.commit {resource : Resource} {amount : UInt16} (sound : resource.Sound)
    (fits : resource.kind ≠ .state → resource.Fits amount) : (resource.commit amount).Sound := by
  have highWatermark_le := sound.highWatermark_le
  simp only [Resource.commit]
  cases kind : resource.kind with
  | reusable =>
      have room := fits (by simp [kind])
      have exact_add := Resource.toNat_add_of_fits room (Nat.le_add_left _ _)
      simp only [Resource.Fits] at room
      refine ⟨?_, ?_, ?_, ?_, ?_⟩
      · simp only [exact_add]
        omega
      · simp only [toNat_ite_max, exact_add]
        omega
      · simp only [toNat_ite_max, exact_add]
        omega
      · simp
      · simp
  | consumable =>
      have room := fits (by simp [kind])
      have exact_add := Resource.toNat_add_of_fits room (Nat.le_add_right _ _)
      simp only [Resource.Fits] at room
      refine ⟨?_, ?_, ?_, ?_, ?_⟩
      · simp only [exact_add]
        omega
      · simp only [toNat_ite_max, exact_add]
        omega
      · simp
      · simp only [toNat_ite_max, exact_add]
        omega
      · exact fun _ => sound.reserved_idle (by simp [kind])
  | state => exact sound

theorem Resource.release_reserved_toNat (resource : Resource) (amount : UInt16) :
    (resource.release amount).reserved.toNat =
      if resource.kind = .reusable then resource.reserved.toNat - amount.toNat
      else resource.reserved.toNat := by
  simp only [Resource.release]
  split
  · simp only
    split
    · rename_i enough
      rw [UInt16.toNat_sub_of_le _ _ enough]
    · rename_i tooMuch
      have tooMuch' := UInt16.lt_iff_toNat_lt.mp (UInt16.not_le.mp tooMuch)
      simp only [UInt16.toNat_zero]
      omega
  · rfl

theorem Resource.release_frame (resource : Resource) (amount : UInt16) :
    resource.release amount = { resource with reserved := (resource.release amount).reserved } := by
  simp only [Resource.release]
  split <;> rfl

theorem Resource.Sound.release {resource : Resource} (sound : resource.Sound)
    (amount : UInt16) : (resource.release amount).Sound := by
  have capacity := sound.capacity
  have reserved := resource.release_reserved_toNat amount
  have lower : (resource.release amount).reserved.toNat ≤ resource.reserved.toNat := by
    rw [reserved]
    split <;> omega
  rw [resource.release_frame amount]
  refine ⟨?_, sound.highWatermark_le, ?_, sound.used_le, ?_⟩
  · simp only
    omega
  · intro kind
    have reserved_le := sound.reserved_le kind
    simp only
    omega
  · intro kind
    have idle := sound.reserved_idle kind
    simp only
    omega

/-! ## The whole table -/

/-- The counters of every resource are sound. -/
def Budget.Sound (budget : Budget) : Prop :=
  ∀ resource, (budget.resources resource).Sound

/-- What Phase A of `enter` has validated: every amount fits its resource. -/
def NeedsFit (needs : List Need) (table : ResourceId → Resource) : Prop :=
  ∀ need ∈ needs, need.amount ≠ 0 → (table need.resource).kind ≠ .state →
    (table need.resource).Fits need.amount

theorem Cleared.fits {budget : Budget} {op : OpId} (cleared : Cleared budget op)
    (sound : budget.Sound) : NeedsFit (budget.needs op) budget.resources := by
  intro need listed amount_ne kind_ne
  have fits := cleared.needsFit need listed
  rw [(sound need.resource).fits_iff]
  simpa [Budget.needFits, amount_ne, kind_ne] using fits

theorem commitResources_sound {needs : List Need} {table : ResourceId → Resource}
    (distinct : DistinctNeeds needs) (fits : NeedsFit needs table)
    (sound : ∀ resource, (table resource).Sound) (resource : ResourceId) :
    (commitResources needs table resource).Sound := by
  rw [commitResources_apply distinct]
  split
  · exact sound resource
  · rename_i needed
    rcases exists_mem_of_needOf_ne needed with ⟨need, listed, amount, amount_ne, rfl⟩
    rw [← amount]
    exact (sound need.resource).commit (fits need listed amount_ne)

theorem releaseResources_sound {needs : List Need} {table : ResourceId → Resource}
    (distinct : DistinctNeeds needs) (sound : ∀ resource, (table resource).Sound)
    (resource : ResourceId) : (releaseResources needs table resource).Sound := by
  rw [releaseResources_apply distinct]
  exact (sound resource).release _

/-! ## What the loops add and take away -/

/-- The counter that the high watermark of a resource follows. -/
def Resource.counter (resource : Resource) : Nat :=
  match resource.kind with
  | .reusable => resource.reserved.toNat
  | .consumable => resource.used.toNat
  | .state => 0

@[simp]
theorem Resource.commit_kind (resource : Resource) (amount : UInt16) :
    (resource.commit amount).kind = resource.kind := by
  simp only [Resource.commit]
  split <;> simp [*]

@[simp]
theorem Resource.release_kind (resource : Resource) (amount : UInt16) :
    (resource.release amount).kind = resource.kind := by
  rw [resource.release_frame]

theorem Resource.commit_exact {resource : Resource} {amount : UInt16}
    (fits : resource.kind ≠ .state → resource.Fits amount) :
    (resource.commit amount).reserved.toNat =
        resource.reserved.toNat + (if resource.kind = .reusable then amount.toNat else 0) ∧
      (resource.commit amount).used.toNat =
        resource.used.toNat + if resource.kind = .consumable then amount.toNat else 0 := by
  simp only [Resource.commit]
  cases kind : resource.kind with
  | reusable =>
      have exact_add := Resource.toNat_add_of_fits (fits (by simp [kind])) (Nat.le_add_left _ _)
      simpa using exact_add
  | consumable =>
      have exact_add := Resource.toNat_add_of_fits (fits (by simp [kind])) (Nat.le_add_right _ _)
      simpa using exact_add
  | state => simp

theorem Resource.commit_highWatermark {resource : Resource} (amount : UInt16)
    (kind_ne : resource.kind ≠ .state) :
    (resource.commit amount).highWatermark.toNat =
      max resource.highWatermark.toNat (resource.commit amount).counter := by
  simp only [Resource.commit, Resource.counter]
  cases kind : resource.kind with
  | reusable => exact (toNat_ite_max _ _).trans (Nat.max_comm _ _)
  | consumable => exact (toNat_ite_max _ _).trans (Nat.max_comm _ _)
  | state => exact absurd kind kind_ne

theorem Resource.Sound.counter_le {resource : Resource} (sound : resource.Sound) :
    resource.counter ≤ resource.highWatermark.toNat := by
  simp only [Resource.counter]
  cases kind : resource.kind with
  | reusable => exact sound.reserved_le kind
  | consumable => exact sound.used_le kind
  | state => exact Nat.zero_le _

/-- What the commit loop changes in one resource, as exact integers. -/
theorem commitResources_exact {needs : List Need} {table : ResourceId → Resource}
    (distinct : DistinctNeeds needs) (fits : NeedsFit needs table)
    (sound : ∀ resource, (table resource).Sound) (resource : ResourceId) :
    let before := table resource
    let after := commitResources needs table resource
    after.kind = before.kind ∧
      after.reserved.toNat = before.reserved.toNat +
        (if before.kind = .reusable then (needOf needs resource).toNat else 0) ∧
      after.used.toNat = before.used.toNat +
        (if before.kind = .consumable then (needOf needs resource).toNat else 0) ∧
      (before.kind ≠ .state →
        after.highWatermark.toNat = max before.highWatermark.toNat after.counter) := by
  intro before after
  have applied : after = _ := commitResources_apply distinct table resource
  by_cases free : needOf needs resource = 0
  · rw [if_pos free] at applied
    rw [applied, free]
    exact ⟨rfl, by simp [before], by simp [before],
      fun _ => (Nat.max_eq_left (sound resource).counter_le).symm⟩
  · rcases exists_mem_of_needOf_ne free with ⟨need, listed, amount, amount_ne, rfl⟩
    have room := fits need listed amount_ne
    rw [amount] at room
    rw [if_neg free] at applied
    rw [applied]
    have counters := Resource.commit_exact room
    exact ⟨Resource.commit_kind _ _, counters.1, counters.2, Resource.commit_highWatermark _⟩

theorem releaseResources_exact (table : ResourceId → Resource) {needs : List Need}
    (distinct : DistinctNeeds needs) (resource : ResourceId) :
    let before := table resource
    let after := releaseResources needs table resource
    after.kind = before.kind ∧ after.used = before.used ∧
      after.highWatermark = before.highWatermark ∧
      after.reserved.toNat =
        if before.kind = .reusable then before.reserved.toNat - (needOf needs resource).toNat
        else before.reserved.toNat := by
  intro before after
  have applied : after = before.release (needOf needs resource) :=
    releaseResources_apply distinct table resource
  rw [applied]
  refine ⟨before.release_kind _, ?_, ?_, before.release_reserved_toNat _⟩
  · rw [before.release_frame]
  · rw [before.release_frame]

/-! ## No operation wraps -/

/-- The addition of a commit on the counter of a resource is exact. -/
def Resource.AddsExactly (resource : Resource) (amount : UInt16) : Prop :=
  (resource.kind = .reusable → resource.reserved.toNat + amount.toNat < 65536) ∧
    (resource.kind = .consumable → resource.used.toNat + amount.toNat < 65536)

/-- Every addition of the commit loop on a counter is exact. -/
def CommitExact : List Need → (ResourceId → Resource) → Prop
  | [], _ => True
  | need :: rest, table =>
      (need.amount ≠ 0 → (table need.resource).AddsExactly need.amount) ∧
      CommitExact rest
        (if need.amount = 0 then table
          else Function.update table need.resource ((table need.resource).commit need.amount))

/-- Every subtraction of the release loop on a counter is exact: it takes away the amount, or the
whole counter where that is smaller. -/
def ReleaseExact : List Need → (ResourceId → Resource) → Prop
  | [], _ => True
  | need :: rest, table =>
      (need.amount ≠ 0 → (table need.resource).kind = .reusable →
        ((table need.resource).release need.amount).reserved.toNat =
          (table need.resource).reserved.toNat - need.amount.toNat) ∧
      ReleaseExact rest
        (if need.amount = 0 then table
          else Function.update table need.resource ((table need.resource).release need.amount))

/-- No entry of the list meets a counter that an earlier entry has changed. -/
theorem commitExact_iff {needs : List Need} {table : ResourceId → Resource}
    (distinct : DistinctNeeds needs) :
    CommitExact needs table ↔
      ∀ need ∈ needs, need.amount ≠ 0 → (table need.resource).AddsExactly need.amount := by
  induction needs generalizing table with
  | nil => simp [CommitExact]
  | cons need needs ih =>
      rw [CommitExact, ih (List.pairwise_cons.mp distinct).2, List.forall_mem_cons]
      apply and_congr_right
      intro _
      by_cases free : need.amount = 0
      · simp [free]
      · apply forall₂_congr
        intro other listed
        apply imp_congr_right
        intro other_ne
        have apart := (List.pairwise_cons.mp distinct).1 other listed free other_ne
        rw [if_neg free, Function.update_of_ne (Ne.symm apart)]

theorem Resource.addsExactly_of_fits {resource : Resource} {amount : UInt16}
    (fits : resource.kind ≠ .state → resource.Fits amount) : resource.AddsExactly amount := by
  have limit_lt := resource.limit.toNat_lt
  simp only [Resource.Fits] at fits
  constructor
  · intro kind
    have room := fits (by simp [kind])
    omega
  · intro kind
    have room := fits (by simp [kind])
    omega

theorem commitExact_of_fits {needs : List Need} {table : ResourceId → Resource}
    (distinct : DistinctNeeds needs) (fits : NeedsFit needs table) :
    CommitExact needs table := by
  rw [commitExact_iff distinct]
  intro need listed amount_ne
  exact Resource.addsExactly_of_fits (fits need listed amount_ne)

theorem releaseExact (needs : List Need) (table : ResourceId → Resource) :
    ReleaseExact needs table := by
  induction needs generalizing table with
  | nil => trivial
  | cons need needs ih =>
      refine ⟨?_, ih _⟩
      intro _ kind
      rw [Resource.release_reserved_toNat, if_pos kind]

/-! ## Every run -/

namespace Budget.Sound

variable {B : Build} {budget : Budget}

theorem of_fresh (fresh : Fresh B budget) : budget.Sound := by
  intro resource
  rw [fresh.resources]
  exact Resource.Sound.fresh 0 .reusable

theorem booked {nowMs : UInt32} {after : Budget} (sound : budget.Sound)
    (booked : Booked B nowMs budget after) : after.Sound := by
  intro resource
  rw [booked.resources]
  exact sound resource

theorem quiet {nowMs : UInt32} {after : Budget} (sound : budget.Sound)
    (effect : QuietEffect B nowMs budget after) : after.Sound := by
  cases effect with
  | resource id limit kind inRange =>
      intro other
      by_cases same : other = id
      · subst same
        simpa using Resource.Sound.fresh limit kind
      · simpa [Function.update_of_ne same] using sound other
  | booked booked => exact sound.booked booked
  | unchanged => exact sound
  | register id profile inRange fresh => exact sound
  | need op resource amount needs opInRange registered resourceInRange configured amount_ne set =>
      exact sound
  | trigger edge edges hasStorage parentInRange childInRange parent_ne parentRegistered
      childRegistered set => exact sound
  | rateLimit res index window fresh => exact sound
  | lifetimeLimit res lifetimeMax => exact sound
  | pressure pressure => exact sound
  | hook hook => exact sound
  | journal journal => exact sound

theorem acquired (hal : Hal) {op : OpId} (slotId : UInt8) (sound : budget.Sound)
    (wellFormed : WellFormed B budget) (cleared : Cleared budget op) :
    (budget.acquired B hal op slotId).Sound :=
  commitResources_sound (wellFormed.needs_distinct op) (cleared.fits sound) sound

theorem released (lease : Lease) (sound : budget.Sound) (wellFormed : WellFormed B budget) :
    (budget.released lease).Sound :=
  releaseResources_sound (wellFormed.needs_distinct lease.op) sound

theorem next (event : Event) (sound : budget.Sound) (wellFormed : WellFormed B budget) :
    ((machine B).next budget event).Sound := by
  rcases next_cases B budget event with
    effect | ⟨op, middle, slotId, booked, cleared, -, after⟩ | ⟨lease, -, after⟩
  · exact sound.quiet effect
  · rw [after]
    exact (sound.booked booked).acquired event.hal slotId (wellFormed.booked booked) cleared
  · rw [after]
    exact sound.released lease wellFormed

end Budget.Sound

theorem Reachable.sound {B : Build} {budget : Budget} (reachable : Reachable B budget) :
    budget.Sound := by
  have preserved : ∀ budget event, WellFormed B budget ∧ budget.Sound →
      WellFormed B ((machine B).next budget event) ∧ ((machine B).next budget event).Sound := by
    intro budget event invariant
    exact ⟨invariant.1.next event, invariant.2.next event invariant.1⟩
  have initially : ∀ start, Started B start → WellFormed B start ∧ start.Sound := by
    intro start started
    exact ⟨started.fresh.wellFormed, Budget.Sound.of_fresh started.fresh⟩
  exact (reachable.induction initially preserved).2

/-- The 16-bit additions and subtractions that a call makes on `used` and `reserved` are exact. -/
def CountersExact (B : Build) (budget : Budget) (event : Event) : Prop :=
  match event.call with
  | .enter op out =>
      ∀ middle, enterBegin B event.hal budget op out = (none, middle) →
        CommitExact (middle.needs op) middle.resources
  | .leave lease => ReleaseExact (budget.needs lease.op) budget.resources
  | _ => True

theorem countersExact {B : Build} {budget : Budget} (wellFormed : WellFormed B budget)
    (sound : budget.Sound) (event : Event) : CountersExact B budget event := by
  rcases event with ⟨hal, call⟩
  cases call with
  | enter op out =>
      intro middle begun
      have booked := enterBegin_booked B hal budget op out
      rw [begun] at booked
      have cleared := enterBegin_cleared begun
      exact commitExact_of_fits ((wellFormed.booked booked).needs_distinct op)
        (cleared.fits (sound.booked booked))
  | leave lease => exact releaseExact _ _
  | _ => trivial

/-- Over every run of public calls from a successful `init`, the counters of every resource are
sound in the state reached, and no 16-bit operation on them has wrapped on the way. -/
theorem capacity_invariant {B : Build} {start : Budget} (started : Started B start)
    (events : List Event) :
    (∀ resource, (((machine B).run start events).resources resource).Sound) ∧
      (machine B).Along (CountersExact B) start events := by
  have reachable : Reachable B start := Reachable.of_started started
  have preserved : ∀ budget event, Reachable B budget →
      Reachable B ((machine B).next budget event) := fun _ event before => before.run [event]
  refine ⟨(reachable.run events).sound, Machine.along_of_invariant preserved ?_ reachable⟩
  intro budget event before
  exact countersExact before.wellFormed before.sound event

theorem capacity_invariant_oneOp :
    (∀ resource, (((machine Build.full).run .sample (oneOp ++ enterAndLeave)).resources
        resource).Sound) ∧
      (machine Build.full).Along (CountersExact Build.full) .sample (oneOp ++ enterAndLeave) :=
  capacity_invariant started_sample (oneOp ++ enterAndLeave)

end Loxbudget
