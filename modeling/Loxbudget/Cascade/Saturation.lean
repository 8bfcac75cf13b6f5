import Loxbudget.Cascade.Always

/-!
# Overloads that saturation hides

The totals of a cascade are 16-bit and saturate, and so may be what is left of a resource. The
comparison of the two is strict: a total that has been cut off at `0xFFFF` still fits a resource
with all of `0xFFFF` left. Everywhere else a total that exceeds what is left is refused, whether
it has been cut off or not.
-/

namespace Loxbudget

variable {B : Build} {budget : Budget} {op : OpId} {resource : ResourceId}

/-- The need of an op and all that the trigger walk adds to it, without a bound. -/
def exactTotal (B : Build) (budget : Budget) (op : OpId) (resource : ResourceId) : Nat :=
  (budget.ownNeeds op resource).toNat +
    ((cascadeEdges B budget budget.pressure op).map (budget.edgeNeed resource)).sum

/-- The exact total is more than what is left of a REUSABLE or CONSUMABLE resource. -/
def Overloads (B : Build) (budget : Budget) (op : OpId) (resource : ResourceId) : Prop :=
  (budget.resources resource).kind ≠ .state ∧
    (budget.resources resource).limit.toNat - (budget.resources resource).used.toNat -
      (budget.resources resource).reserved.toNat < exactTotal B budget op resource

instance (B : Build) (budget : Budget) (op : OpId) (resource : ResourceId) :
    Decidable (Overloads B budget op resource) :=
  inferInstanceAs (Decidable (_ ∧ _ < _))

/-- A resource with all of `0xFFFF` left. -/
def Resource.Untouched (resource : Resource) : Prop :=
  resource.limit = 0xFFFF ∧ resource.used = 0 ∧ resource.reserved = 0

/-! ## The totals that the cascade block compares -/

theorem walked_toNat (wellFormed : WellFormed B budget) {totals : NeedPerRes}
    (walked : causalityAddScaledNeeds B budget op (budget.ownNeeds op) budget.pressure =
      some totals) : (totals resource).toNat = min 65535 (exactTotal B budget op resource) := by
  rw [causalityAddScaledNeeds_eq_some walked, addEdges_toNat wellFormed]
  rfl

/-- What the cascade block asks of an exact total. -/
structure TotalTaken (budget : Budget) (resource : ResourceId) (total : Nat) : Prop where
  stateLimit : (budget.resources resource).kind = .state → total ≠ 0 →
    (budget.resources resource).limit ≠ 0
  fits : (budget.resources resource).kind ≠ .state →
    (budget.resources resource).used.toNat + (budget.resources resource).reserved.toNat +
      min 65535 total ≤ (budget.resources resource).limit.toNat

theorem totalAdmitted_iff {totals : NeedPerRes} {total : Nat}
    (capped : (totals resource).toNat = min 65535 total) :
    TotalAdmitted budget totals resource ↔ TotalTaken budget resource total := by
  have zero_iff : totals resource = 0 ↔ total = 0 := by
    rw [← UInt16.toNat_inj, capped, UInt16.toNat_zero]
    omega
  constructor
  · intro admitted
    refine ⟨fun isState nonzero => ?_, fun counts => ?_⟩
    · exact admitted.stateLimit isState (mt zero_iff.mp nonzero)
    · rw [← capped]
      exact admitted.fits counts
  · intro taken
    refine ⟨fun isState nonzero => ?_, fun counts => ?_⟩
    · exact taken.stateLimit isState (mt zero_iff.mpr nonzero)
    · rw [Resource.Fits, capped]
      exact taken.fits counts

/-- Where nothing is walked, the totals are the needs of the op, which have been admitted. -/
theorem taken_of_unwalked {hal : Hal} {profile : OpProfile} (sound : budget.Sound)
    (needs : ∀ need ∈ budget.needs op, need.amount ≠ 0 → NeedAdmitted B hal budget profile need)
    (unwalked : budget.edges = []) : TotalTaken budget resource (exactTotal B budget op resource) := by
  have nothing : cascadeEdges B budget budget.pressure op = [] := by
    rw [List.eq_nil_iff_forall_not_mem]
    intro edge counted
    rcases mem_followedBy.mp counted with ⟨cur, older, -, followed⟩
    have listed := (mem_followedEdges.mp followed).2.1
    rw [unwalked] at listed
    exact absurd listed List.not_mem_nil
  have total : exactTotal B budget op resource = (budget.ownNeeds op resource).toNat := by
    simp [exactTotal, nothing]
  rw [total]
  refine ⟨fun isState nonzero => ?_, fun counts => ?_⟩
  · simp [Budget.ownNeeds, isState] at nonzero
  · have own : budget.ownNeeds op resource = needOf (budget.needs op) resource := if_neg counts
    have own_lt := (needOf (budget.needs op) resource).toNat_lt
    rw [own]
    by_cases needed : needOf (budget.needs op) resource = 0
    · have capacity := (sound resource).capacity
      rw [needed, UInt16.toNat_zero]
      omega
    · rcases exists_mem_of_needOf_ne needed with ⟨need, listed, amount, amount_ne, rfl⟩
      have fits := (needs need listed amount_ne).fits counts
      simp only [Resource.Fits, amount] at fits
      omega

/-- Past the needs, the cascade block asks that the exact totals are taken. -/
theorem cascade_iff_taken (reachable : Reachable B budget) {hal : Hal} {profile : OpProfile}
    (registered : budget.profile op = some profile)
    (needs : ∀ need ∈ budget.needs op, need.amount ≠ 0 →
      NeedAdmitted B hal budget profile need) :
    (B.enableCausality = true → ∀ totals,
        causalityAddScaledNeeds B budget op (budget.ownNeeds op) budget.pressure = some totals →
        ∀ resource, TotalAdmitted budget totals resource) ↔
      ∀ resource, TotalTaken budget resource (exactTotal B budget op resource) := by
  have wellFormed := reachable.wellFormed
  constructor
  · intro admitted resource
    by_cases unwalked : budget.edges = []
    · exact taken_of_unwalked reachable.sound needs unwalked
    · have inRange : op < budget.maxOps := by
        by_contra outside
        rw [Budget.profile, if_pos (UInt8.not_lt.mp outside)] at registered
        exact absurd registered (by simp)
      rcases List.exists_mem_of_ne_nil _ unwalked with ⟨edge, listed⟩
      have walked := causalityAddScaledNeeds_eq (wellFormed.edges_stored unwalked) inRange
        (budget.ownNeeds op) budget.pressure
      exact (totalAdmitted_iff (walked_toNat wellFormed walked)).mp
        (admitted (reachable.edgesProper edge listed).1 _ walked resource)
  · intro taken _ totals walked resource
    exact (totalAdmitted_iff (walked_toNat wellFormed walked)).mpr (taken resource)

/-! ## What saturation hides -/

/-- All that `check` asks of an op besides room for the totals. -/
structure AdmissibleButTotals (B : Build) (hal : Hal) (budget : Budget) (op : OpId)
    (profile : OpProfile) : Prop where
  registered : budget.profile op = some profile
  gates : PassesGates hal budget profile
  needs : ∀ need ∈ budget.needs op, need.amount ≠ 0 → NeedAdmitted B hal budget profile need
  states : ∀ resource, (budget.resources resource).kind = .state →
    exactTotal B budget op resource ≠ 0 → (budget.resources resource).limit ≠ 0

theorem admissible_iff_taken (reachable : Reachable B budget) {hal : Hal} {profile : OpProfile} :
    Admissible B hal budget op profile ↔
      AdmissibleButTotals B hal budget op profile ∧
        ∀ resource, TotalTaken budget resource (exactTotal B budget op resource) := by
  constructor
  · intro admissible
    have taken := (cascade_iff_taken reachable admissible.registered admissible.needs).mp
      admissible.cascade
    exact ⟨⟨admissible.registered, admissible.gates, admissible.needs,
      fun resource => (taken resource).stateLimit⟩, taken⟩
  · rintro ⟨apart, taken⟩
    have granted := halPreconditions_eq_none_iff.mp apart.gates.preconditions
    exact ⟨apart.registered, apart.gates.mapped, apart.gates.lockdown, granted.1, granted.2.1,
      granted.2.2, apart.needs, (cascade_iff_taken reachable apart.registered apart.needs).mpr taken⟩

theorem checksOut_iff (reachable : Reachable B budget) (hal : Hal) :
    ChecksOut B hal budget op ↔ ∃ profile, Admissible B hal budget op profile := by
  constructor
  · intro allowed
    exact allowed.admissible reachable
  · rintro ⟨profile, admissible⟩
    rcases (check_allows_iff reachable hal op _).mpr ⟨profile, admissible, rfl⟩ with
      ⟨d, after, checked, decided, allows⟩
    rw [← decided] at allows
    exact ⟨d, after, checked, allows_iff.mpr allows⟩

/-- A total that is taken although it overloads its resource is one that was cut off, on a resource
with all of `0xFFFF` left. -/
theorem untouched_of_taken (overloads : Overloads B budget op resource)
    (taken : TotalTaken budget resource (exactTotal B budget op resource)) :
    (budget.resources resource).Untouched := by
  have fits := taken.fits overloads.1
  have exceeds := overloads.2
  have limit_lt := (budget.resources resource).limit.toNat_lt
  refine ⟨UInt16.toNat_inj.mp ?_, UInt16.toNat_inj.mp ?_, UInt16.toNat_inj.mp ?_⟩
  · simp only [UInt16.reduceToNat]
    omega
  · simp only [UInt16.toNat_zero]
    omega
  · simp only [UInt16.toNat_zero]
    omega

theorem fits_of_untouched (sound : budget.Sound)
    (untouched : Overloads B budget op resource → (budget.resources resource).Untouched)
    (counts : (budget.resources resource).kind ≠ .state) :
    (budget.resources resource).used.toNat + (budget.resources resource).reserved.toNat +
      min 65535 (exactTotal B budget op resource) ≤
      (budget.resources resource).limit.toNat := by
  by_cases overloads : Overloads B budget op resource
  · rcases untouched overloads with ⟨limit, used, reserved⟩
    rw [limit, used, reserved]
    simp
  · have within : ¬_ < _ := fun exceeds => overloads ⟨counts, exceeds⟩
    have capacity := (sound resource).capacity
    omega

/-- `check` refuses the op if its exact total overloads some resource. -/
def RefusesOverload (B : Build) (hal : Hal) (budget : Budget) (op : OpId) : Prop :=
  (∃ resource, Overloads B budget op resource) → ¬ChecksOut B hal budget op

/-- Every overloaded resource has all of `0xFFFF` left, and nothing else refuses the op. -/
def HiddenBySaturation (B : Build) (hal : Hal) (budget : Budget) (op : OpId) : Prop :=
  (∃ resource, Overloads B budget op resource) ∧
    (∀ resource, Overloads B budget op resource → (budget.resources resource).Untouched) ∧
    ∃ profile, AdmissibleButTotals B hal budget op profile

/-- In every reachable state `check` refuses an op that overloads some resource, except exactly
where all that it overloads has `0xFFFF` left and nothing else refuses it. -/
theorem refuses_overload_iff (reachable : Reachable B budget) (hal : Hal) (op : OpId) :
    RefusesOverload B hal budget op ↔ ¬HiddenBySaturation B hal budget op := by
  constructor
  · rintro refuses ⟨overloaded, untouched, profile, apart⟩
    refine refuses overloaded ((checksOut_iff reachable hal).mpr ⟨profile, ?_⟩)
    refine (admissible_iff_taken reachable).mpr ⟨apart, fun resource => ?_⟩
    exact ⟨apart.states resource, fits_of_untouched reachable.sound (untouched resource)⟩
  · intro visible overloaded allowed
    rcases (checksOut_iff reachable hal).mp allowed with ⟨profile, admissible⟩
    rcases (admissible_iff_taken reachable).mp admissible with ⟨apart, taken⟩
    exact visible ⟨overloaded, fun resource overloads => untouched_of_taken overloads
      (taken resource), profile, apart⟩

theorem refuses_overload_pair :
    RefusesOverload Build.full (Hal.permissive 0)
      ((machine Build.full).run .sample (pairNeeding 65534 65000 1000)) 0 := by
  refine (refuses_overload_iff ((Reachable.of_started started_sample).run _) (Hal.permissive 0)
    0).mpr ?_
  rintro ⟨-, untouched, -⟩
  exact absurd (untouched 0 (by decide +kernel)).1 (by decide +kernel)

/-- 65000 units of the op and 996 scaled ones of what it always triggers, on a limit of 65535. -/
theorem overload_hidden :
    Reachable Build.full ((machine Build.full).run .sample (pairNeeding 65535 65000 1000)) ∧
      ¬RefusesOverload Build.full (Hal.permissive 0)
        ((machine Build.full).run .sample (pairNeeding 65535 65000 1000)) 0 := by
  refine ⟨(Reachable.of_started started_sample).run _, fun refuses => ?_⟩
  exact refuses ⟨0, by decide +kernel⟩ ⟨_, _, rfl, by decide +kernel⟩

end Loxbudget
