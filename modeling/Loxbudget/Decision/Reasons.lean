import Loxbudget.Decision.Windows

/-!
# What a decision says and why

`loxbudget_check` fills its output piece by piece on the way to one of its exits. `Explained`
has a constructor for each exit, with the decision that leaves through it and what the code has
found out on the way; the invariants of the reachable states rule out the exit for a need of an
unconfigured resource.
-/

namespace Loxbudget

variable {B : Build} {hal : Hal} {budget : Budget} {profile : OpProfile} {out : Decision}
  {op : OpId}

/-- A denial that names a resource. -/
def Decision.naming (out : Decision) (action : Action) (reason : Reason) (resource : ResourceId)
    (requested available : UInt16) : Decision :=
  { out with
    action := action
    reason := reason
    deniedResource := resource
    requested := requested
    available := available }

/-- The action of a denial for want of a resource. -/
def Resource.shortAction (resource : Resource) : Action :=
  if resource.kind = .reusable then .wait else .reject

/-! ## Why a need is denied -/

/-- The denials of one need. -/
inductive NeedDenied (B : Build) (hal : Hal) (budget : Budget) (profile : OpProfile)
    (out : Decision) (need : Need) : Decision → Prop where
  | short (counts : (budget.resources need.resource).kind ≠ .state)
      (exceeds : (budget.resources need.resource).available < need.amount) :
      NeedDenied B hal budget profile out need
        (out.naming (budget.resources need.resource).shortAction .insufficientRes need.resource
          need.amount (budget.resources need.resource).available)
  | stateLimit (isState : (budget.resources need.resource).kind = .state)
      (noLimit : (budget.resources need.resource).limit = 0) :
      NeedDenied B hal budget profile out need
        (out.naming .reject .preconditionFail need.resource need.amount 0)
  | lifetime (limited : RateLimited B budget profile need.resource)
      (exhausted : ¬(budget.rateState need.resource).AdmitsLifetime need.amount.toUInt32) :
      NeedDenied B hal budget profile out need
        (out.naming .reject .lifetimeExhausted need.resource need.amount 0)
  | windows (limited : RateLimited B budget profile need.resource)
      (full : ¬(budget.rateState need.resource).AdmitsWindows B.rateImpl hal.nowMs
        need.amount.toUInt32) :
      NeedDenied B hal budget profile out need
        (out.naming .reject .rateLimit need.resource need.amount 0)

theorem needDenied_of_checkNeed {need : Need} {pass : NeedsPass} {d : Decision}
    (denied : (checkNeed B hal budget profile out need pass).2 = some d)
    (configured : need.amount ≠ 0 →
      need.resource < budget.maxResources ∧ budget.resCfg need.resource = true)
    (unrolled : pass.rateState need.resource = budget.rateState need.resource) :
    need.amount ≠ 0 ∧ NeedDenied B hal budget profile out need d := by
  have lifetime_iff :=
    (budget.rateState need.resource).lifetimeExhausted_eq_false need.amount.toUInt32
  have windows_iff := RateState.rollWindows_snd B.rateImpl hal.nowMs need.amount.toUInt32
    (budget.rateState need.resource).windows
  simp only [checkNeed, unrolled] at denied
  split at denied
  · simp at denied
  rename_i amount_ne
  refine ⟨amount_ne, ?_⟩
  split at denied
  · rename_i outside
    have inTable := configured amount_ne
    simp [UInt8.not_le.mpr inTable.1, inTable.2] at outside
  split at denied
  · rename_i isState
    split at denied
    · rename_i noLimit
      obtain rfl := Option.some.inj denied
      exact .stateLimit isState noLimit
    · simp at denied
  rename_i counts
  split at denied
  · rename_i exceeds
    obtain rfl := Option.some.inj denied
    exact .short counts exceeds
  split at denied
  · rename_i limited
    split at denied
    · rename_i exhausted
      obtain rfl := Option.some.inj denied
      refine .lifetime limited fun admits => ?_
      exact absurd (exhausted.symm.trans (lifetime_iff.mpr admits)) Bool.true_eq_false.mp
    · split at denied
      · simp at denied
      · rename_i full
        obtain rfl := Option.some.inj denied
        exact .windows limited fun admits => full (windows_iff.mpr admits)
  · simp at denied

theorem needDenied_of_checkNeeds {needs : List Need} {pass : NeedsPass} {d : Decision}
    (distinct : DistinctNeeds needs)
    (configured : ∀ need ∈ needs, need.amount ≠ 0 →
      need.resource < budget.maxResources ∧ budget.resCfg need.resource = true)
    (unrolled : ∀ need ∈ needs, need.amount ≠ 0 →
      pass.rateState need.resource = budget.rateState need.resource)
    (denied : (checkNeeds B hal budget profile out needs pass).2 = some d) :
    ∃ need ∈ needs, need.amount ≠ 0 ∧ NeedDenied B hal budget profile out need d := by
  induction needs generalizing pass with
  | nil => simp [checkNeeds] at denied
  | cons need needs ih =>
      have rest := (List.pairwise_cons.mp distinct).2
      have configuredRest : ∀ other ∈ needs, other.amount ≠ 0 →
          other.resource < budget.maxResources ∧ budget.resCfg other.resource = true :=
        fun other listed => configured other (List.mem_cons_of_mem _ listed)
      simp only [checkNeeds] at denied
      by_cases free : need.amount = 0
      · rw [checkNeed_of_free free] at denied
        rcases ih rest configuredRest
          (fun other listed => unrolled other (List.mem_cons_of_mem _ listed)) denied with
          ⟨other, listed, found⟩
        exact ⟨other, List.mem_cons_of_mem _ listed, found⟩
      · have unrolledRest : ∀ other ∈ needs, other.amount ≠ 0 →
            (checkNeed B hal budget profile out need pass).1.rateState other.resource =
              budget.rateState other.resource := checkNeed_unrolled distinct free unrolled
        rcases checked : checkNeed B hal budget profile out need pass with ⟨pass', _ | d'⟩
        · rw [checked] at denied unrolledRest
          rcases ih rest configuredRest unrolledRest denied with ⟨other, listed, found⟩
          exact ⟨other, List.mem_cons_of_mem _ listed, found⟩
        · rw [checked] at denied
          obtain rfl := Option.some.inj denied
          exact ⟨need, List.mem_cons_self, needDenied_of_checkNeed (congrArg Prod.snd checked)
            (configured need List.mem_cons_self) (unrolled need List.mem_cons_self free)⟩

/-! ## Why a total is denied -/

/-- The denials of one total of the cascade. -/
inductive TotalDenied (budget : Budget) (out : Decision) (totals : NeedPerRes)
    (resource : ResourceId) : Decision → Prop where
  | short (counts : (budget.resources resource).kind ≠ .state)
      (exceeds : (budget.resources resource).available < totals resource) :
      TotalDenied budget out totals resource
        (out.naming (budget.resources resource).shortAction .causalCascade resource
          (totals resource) (budget.resources resource).available)
  | stateLimit (isState : (budget.resources resource).kind = .state)
      (noLimit : (budget.resources resource).limit = 0) :
      TotalDenied budget out totals resource
        (out.naming .reject .causalCascade resource (totals resource) 0)

theorem totalDenied_of_checkTotal {totals : NeedPerRes} {resource : ResourceId} {d : Decision}
    (denied : checkTotal budget out totals resource = some d) :
    totals resource ≠ 0 ∧ budget.resCfg resource = true ∧
      TotalDenied budget out totals resource d := by
  simp only [checkTotal] at denied
  split at denied
  · simp at denied
  rename_i nonzero
  split at denied
  · simp at denied
  rename_i configured
  rw [Bool.not_eq_false] at configured
  refine ⟨nonzero, configured, ?_⟩
  split at denied
  · rename_i isState
    split at denied
    · rename_i noLimit
      obtain rfl := Option.some.inj denied
      exact .stateLimit isState noLimit
    · simp at denied
  rename_i counts
  split at denied
  · rename_i exceeds
    obtain rfl := Option.some.inj denied
    exact .short counts exceeds
  · simp at denied

theorem totalDenied_of_checkCascade {own : NeedPerRes} {d : Decision}
    (denied : checkCascade B budget op out own = some d) :
    ∃ totals resource, causalityAddScaledNeeds B budget op own budget.pressure = some totals ∧
      resource < budget.maxResources ∧ totals resource ≠ 0 ∧ budget.resCfg resource = true ∧
      TotalDenied budget out totals resource d := by
  simp only [checkCascade] at denied
  split at denied
  · simp at denied
  split at denied
  · simp at denied
  rename_i totals walked
  rcases List.exists_of_findSome?_eq_some denied with ⟨index, inRange, now⟩
  refine ⟨totals, UInt8.ofNat index, walked, ?_, totalDenied_of_checkTotal now⟩
  have below := List.mem_range.mp inRange
  have small := budget.maxResources.toNat_lt
  rw [UInt8.lt_iff_toNat_lt, UInt8.toNat_ofNat']
  omega

/-! ## Preconditions -/

/-- A query that the profile requires has answered `v`. -/
def RequiredAnswer (hal : Hal) (budget : Budget) (profile : OpProfile) (v : UInt8) : Prop :=
  profile.has opfRequiresBootProven = true ∧
      budget.halBool (·.bootProven) hal.bootProven = v ∨
    profile.has opfRequiresVoltageOk = true ∧ budget.halBool (·.voltageOk) hal.voltageOk = v ∨
    profile.has opfRequiresNetworkUp = true ∧ budget.halBool (·.networkUp) hal.networkUp = v

theorem halGate_eq_some {v : UInt8} {reason : Reason} (failed : halGate v = some reason) :
    v = 0 ∧ reason = .preconditionFail ∨ v = 2 ∧ reason = .halNotConfigured := by
  simp only [halGate] at failed
  split at failed
  · rename_i sentinel
    exact Or.inr ⟨sentinel, (Option.some.inj failed).symm⟩
  split at failed
  · rename_i isFalse
    exact Or.inl ⟨isFalse, (Option.some.inj failed).symm⟩
  · simp at failed

/-- A failed precondition is a FALSE or the sentinel, from a query that the profile requires. -/
theorem halPreconditions_eq_some {reason : Reason}
    (failed : budget.halPreconditions hal profile = some reason) :
    reason = .preconditionFail ∧ RequiredAnswer hal budget profile 0 ∨
      reason = .halNotConfigured ∧ RequiredAnswer hal budget profile 2 := by
  have gate : ∀ {required : Bool} {v : UInt8},
      (if required = true then halGate v else none) = some reason →
      required = true ∧ (v = 0 ∧ reason = .preconditionFail ∨ v = 2 ∧ reason = .halNotConfigured) := by
    intro required v gated
    split at gated
    · rename_i needed
      exact ⟨needed, halGate_eq_some gated⟩
    · simp at gated
  simp only [Budget.halPreconditions, Option.orElse_eq_some] at failed
  rcases failed with failed | ⟨-, failed | ⟨-, failed⟩⟩
  · rcases gate failed with ⟨required, ⟨isFalse, rfl⟩ | ⟨sentinel, rfl⟩⟩
    · exact Or.inl ⟨rfl, Or.inl ⟨required, isFalse⟩⟩
    · exact Or.inr ⟨rfl, Or.inl ⟨required, sentinel⟩⟩
  · rcases gate failed with ⟨required, ⟨isFalse, rfl⟩ | ⟨sentinel, rfl⟩⟩
    · exact Or.inl ⟨rfl, Or.inr (Or.inl ⟨required, isFalse⟩)⟩
    · exact Or.inr ⟨rfl, Or.inr (Or.inl ⟨required, sentinel⟩)⟩
  · rcases gate failed with ⟨required, ⟨isFalse, rfl⟩ | ⟨sentinel, rfl⟩⟩
    · exact Or.inl ⟨rfl, Or.inr (Or.inr ⟨required, isFalse⟩)⟩
    · exact Or.inr ⟨rfl, Or.inr (Or.inr ⟨required, sentinel⟩)⟩

/-! ## The exits of a decision -/

/-- A denial before any resource has been looked at. -/
def Decision.early (budget : Budget) (action : Action) (reason : Reason) : Decision :=
  ⟨action, budget.pressure, 0xFF, 0, 0, reason⟩

/-- The exits of `loxbudget_check` with the decisions that leave through them. -/
inductive Explained (B : Build) (hal : Hal) (budget : Budget) (op : OpId) : Decision → Prop where
  | unknownOp (unregistered : budget.profile op = none) :
      Explained B hal budget op (.early budget .reject .unknownOp)
  | locked (profile : OpProfile) (registered : budget.profile op = some profile)
      (lockdown : budget.pressure = .lockdown) (barred : profile.has opfLockdownPass = false) :
      Explained B hal budget op (.early budget .lockdown .lockdownActive)
  | blocked (profile : OpProfile) (registered : budget.profile op = some profile)
      (blocks : (profile.mappedAction budget.pressure).allows = false) :
      Explained B hal budget op
        (.early budget (profile.mappedAction budget.pressure)
          (if profile.mappedAction budget.pressure = .lockdown then .lockdownActive
            else .pressureBlock))
  | precondition (profile : OpProfile) (registered : budget.profile op = some profile)
      (reason : Reason) (failed : budget.halPreconditions hal profile = some reason) :
      Explained B hal budget op (.early budget .reject reason)
  | need (profile : OpProfile) (registered : budget.profile op = some profile)
      (gates : PassesGates hal budget profile) (need : Need) (listed : need ∈ budget.needs op)
      (amount_ne : need.amount ≠ 0) (d : Decision)
      (denied : NeedDenied B hal budget profile (budget.openDecision profile) need d) :
      Explained B hal budget op d
  | total (profile : OpProfile) (registered : budget.profile op = some profile)
      (gates : PassesGates hal budget profile) (totals : NeedPerRes)
      (walked : causalityAddScaledNeeds B budget op (budget.ownNeeds op) budget.pressure =
        some totals)
      (resource : ResourceId) (inRange : resource < budget.maxResources)
      (nonzero : totals resource ≠ 0) (configured : budget.resCfg resource = true) (d : Decision)
      (denied : TotalDenied budget (budget.openDecision profile) totals resource d) :
      Explained B hal budget op d
  | granted (profile : OpProfile) (registered : budget.profile op = some profile)
      (gates : PassesGates hal budget profile) :
      Explained B hal budget op (budget.openDecision profile)

theorem explained_of_not_gates (registered : budget.profile op = some profile)
    (shut : ¬PassesGates hal budget profile) :
    Explained B hal budget op (decide B hal budget op).1 := by
  simp only [decide, registered]
  split
  · rename_i locked
    exact .locked profile registered locked.1 locked.2
  rename_i unlocked
  split
  · rename_i blocks
    refine .blocked profile registered ?_
    rcases blocks with blocks | blocks | blocks
    · rw [blocks]
      rfl
    · rw [blocks]
      rfl
    · rw [blocks]
      rfl
  rename_i unblocked
  rcases queried : budget.halPreconditions hal profile with _ | reason
  · refine absurd ⟨allows_of_not_blocked unblocked, ?_, queried⟩ shut
    intro lockdown
    simpa [lockdown] using unlocked
  · exact .precondition profile registered reason queried

/-- Every decision in a well-formed state is explained. -/
theorem decide_explained (wellFormed : WellFormed B budget) (hal : Hal) (op : OpId) :
    Explained B hal budget op (decide B hal budget op).1 := by
  rcases registered : budget.profile op with _ | profile
  · have rejected : (decide B hal budget op).1 = .early budget .reject .unknownOp := by
      simp only [decide, registered]
      rfl
    rw [rejected]
    exact .unknownOp registered
  by_cases gates : PassesGates hal budget profile
  swap
  · exact explained_of_not_gates registered gates
  have accumulated : (checkNeeds B hal budget profile (budget.openDecision profile)
      (budget.needs op) ⟨budget.rateState, fun _ => 0⟩).2 = none → _ :=
    checkNeeds_ownNeeds wellFormed
  rw [decide_of_gates registered gates]
  rcases checked : checkNeeds B hal budget profile (budget.openDecision profile)
    (budget.needs op) ⟨budget.rateState, fun _ => 0⟩ with ⟨pass, _ | d⟩
  swap
  · rcases needDenied_of_checkNeeds (wellFormed.needs_distinct op)
      (wellFormed.needs_configured op) (fun _ _ _ => rfl) (congrArg Prod.snd checked) with
      ⟨need, listed, amount_ne, denied⟩
    exact .need profile registered gates need listed amount_ne d denied
  rw [checked] at accumulated
  have own := accumulated rfl
  simp only at own ⊢
  rw [checkCascade_booked, own]
  rcases cascaded : checkCascade B budget op (budget.openDecision profile)
    (budget.ownNeeds op) with _ | d
  · exact .granted profile registered gates
  · rcases totalDenied_of_checkCascade cascaded with
      ⟨totals, resource, walked, inRange, nonzero, configured, denied⟩
    exact .total profile registered gates totals walked resource inRange nonzero configured d denied

/-! ## Truth -/

/-- The decision names a need of the op. -/
def Decision.NamesNeed (d : Decision) (budget : Budget) (op : OpId) : Prop :=
  ∃ need ∈ budget.needs op, need.amount ≠ 0 ∧ d.deniedResource = need.resource ∧
    d.requested = need.amount

/-- What is left of the named resource is reported, and it is less than what was requested. -/
def Decision.FallsShort (d : Decision) (resource : Resource) : Prop :=
  resource.kind ≠ .state ∧
    d.available.toNat = resource.limit.toNat - resource.used.toNat - resource.reserved.toNat ∧
    d.available < d.requested ∧ (d.action = .wait ↔ resource.kind = .reusable) ∧
    (d.action = .reject ↔ resource.kind ≠ .reusable)

/-- The named resource is a STATE that is off. -/
def Resource.IsOff (resource : Resource) : Prop :=
  resource.kind = .state ∧ resource.limit = 0

/-- Neither the pressure nor a HAL query speaks against the op. -/
def GatesOpen (hal : Hal) (budget : Budget) (op : OpId) : Prop :=
  ∃ profile, budget.profile op = some profile ∧ PassesGates hal budget profile

/-- The decision on an op is true of the state that was checked. -/
structure Truthful (B : Build) (hal : Hal) (budget : Budget) (op : OpId) (d : Decision) :
    Prop where
  ok_iff : d.reason = .ok ↔ d.action = .allowFull ∨ d.action = .allowDegraded
  insufficientRes : d.reason = .insufficientRes →
    d.NamesNeed budget op ∧ d.FallsShort (budget.resources d.deniedResource)
  lifetimeExhausted : d.reason = .lifetimeExhausted →
    d.NamesNeed budget op ∧ (budget.resources d.deniedResource).kind = .consumable ∧
      (budget.rateState d.deniedResource).limitLifetime ≠ 0 ∧
      (budget.rateState d.deniedResource).limitLifetime.toNat <
        (budget.rateState d.deniedResource).consumedLifetime.toNat + d.requested.toNat
  rateLimit : d.reason = .rateLimit →
    d.NamesNeed budget op ∧ (budget.resources d.deniedResource).kind = .consumable ∧
      ∃ window ∈ (budget.rateState d.deniedResource).windows, window.unlimited = false ∧
        ¬window.Admits B.rateImpl hal.nowMs d.requested.toUInt32
  preconditionFail : d.reason = .preconditionFail →
    (∃ profile, budget.profile op = some profile ∧ RequiredAnswer hal budget profile 0) ∨
      d.NamesNeed budget op ∧ (budget.resources d.deniedResource).IsOff ∧ GatesOpen hal budget op
  causalCascade : d.reason = .causalCascade →
    ∃ totals, causalityAddScaledNeeds B budget op (budget.ownNeeds op) budget.pressure =
        some totals ∧ d.requested = totals d.deniedResource ∧ d.requested ≠ 0 ∧
      (d.FallsShort (budget.resources d.deniedResource) ∨
        (budget.resources d.deniedResource).IsOff)
  gates : d.reason = .insufficientRes ∨ d.reason = .lifetimeExhausted ∨ d.reason = .rateLimit ∨
    d.reason = .causalCascade → GatesOpen hal budget op

theorem fallsShort_naming {resource : Resource} {requested : UInt16} {reason : Reason}
    {id : ResourceId} (sound : resource.Sound) (counts : resource.kind ≠ .state)
    (exceeds : resource.available < requested) :
    (out.naming resource.shortAction reason id requested resource.available).FallsShort
      resource := by
  refine ⟨counts, ?_, exceeds, ?_, ?_⟩
  · have available := sound.available_toNat
    simp only [Decision.naming]
    omega
  · simp only [Decision.naming, Resource.shortAction]
    split
    · simp_all
    · simp_all
  · simp only [Decision.naming, Resource.shortAction]
    split
    · simp_all
    · simp_all

theorem shortAction_denies (resource : Resource) :
    ¬(resource.shortAction = .allowFull ∨ resource.shortAction = .allowDegraded) := by
  simp only [Resource.shortAction]
  split
  · simp
  · simp

theorem NeedDenied.truthful {need : Need} {d : Decision} (sound : budget.Sound)
    (registered : budget.profile op = some profile) (gates : PassesGates hal budget profile)
    (listed : need ∈ budget.needs op) (amount_ne : need.amount ≠ 0)
    (denied : NeedDenied B hal budget profile out need d) : Truthful B hal budget op d := by
  have gatesOpen : GatesOpen hal budget op := ⟨profile, registered, gates⟩
  cases denied with
  | short counts exceeds =>
      exact {
        ok_iff := by simpa [Decision.naming] using shortAction_denies _
        insufficientRes := fun _ => ⟨⟨need, listed, amount_ne, rfl, rfl⟩,
          fallsShort_naming (sound need.resource) counts exceeds⟩
        lifetimeExhausted := by simp [Decision.naming]
        rateLimit := by simp [Decision.naming]
        preconditionFail := by simp [Decision.naming]
        causalCascade := by simp [Decision.naming]
        gates := fun _ => gatesOpen }
  | stateLimit isState noLimit =>
      exact {
        ok_iff := by simp [Decision.naming]
        insufficientRes := by simp [Decision.naming]
        lifetimeExhausted := by simp [Decision.naming]
        rateLimit := by simp [Decision.naming]
        preconditionFail := fun _ => Or.inr ⟨⟨need, listed, amount_ne, rfl, rfl⟩,
          ⟨isState, noLimit⟩, gatesOpen⟩
        causalCascade := by simp [Decision.naming]
        gates := fun _ => gatesOpen }
  | lifetime limited exhausted =>
      have spent : (budget.rateState need.resource).limitLifetime ≠ 0 ∧
          (budget.rateState need.resource).limitLifetime.toNat <
            (budget.rateState need.resource).consumedLifetime.toNat + need.amount.toNat := by
        simpa [RateState.AdmitsLifetime] using exhausted
      exact {
        ok_iff := by simp [Decision.naming]
        insufficientRes := by simp [Decision.naming]
        lifetimeExhausted := fun _ => ⟨⟨need, listed, amount_ne, rfl, rfl⟩, limited.2.2, spent⟩
        rateLimit := by simp [Decision.naming]
        preconditionFail := by simp [Decision.naming]
        causalCascade := by simp [Decision.naming]
        gates := fun _ => gatesOpen }
  | windows limited full =>
      have refusing : ∃ window ∈ (budget.rateState need.resource).windows,
          window.unlimited = false ∧
            ¬window.Admits B.rateImpl hal.nowMs need.amount.toUInt32 := by
        simp only [RateState.AdmitsWindows, not_forall] at full
        rcases full with ⟨window, kept, refuses⟩
        have limited : window.unlimited = false := by
          by_contra unlimited
          exact refuses (Or.inl (Bool.not_eq_false _ ▸ unlimited))
        exact ⟨window, kept, limited, refuses⟩
      exact {
        ok_iff := by simp [Decision.naming]
        insufficientRes := by simp [Decision.naming]
        lifetimeExhausted := by simp [Decision.naming]
        rateLimit := fun _ => ⟨⟨need, listed, amount_ne, rfl, rfl⟩, limited.2.2, refusing⟩
        preconditionFail := by simp [Decision.naming]
        causalCascade := by simp [Decision.naming]
        gates := fun _ => gatesOpen }

theorem TotalDenied.truthful {totals : NeedPerRes} {resource : ResourceId} {d : Decision}
    (sound : budget.Sound) (gatesOpen : GatesOpen hal budget op)
    (walked : causalityAddScaledNeeds B budget op (budget.ownNeeds op) budget.pressure =
      some totals) (nonzero : totals resource ≠ 0)
    (denied : TotalDenied budget out totals resource d) : Truthful B hal budget op d := by
  have cascade : d.reason = .causalCascade ∧ d.deniedResource = resource ∧
      d.requested = totals resource ∧ d.action.allows = false ∧
      (d.FallsShort (budget.resources resource) ∨ (budget.resources resource).IsOff) := by
    cases denied with
    | short counts exceeds =>
        refine ⟨rfl, rfl, rfl, ?_,
          Or.inl (fallsShort_naming (sound resource) counts exceeds)⟩
        rw [← Bool.not_eq_true, allows_iff]
        exact shortAction_denies _
    | stateLimit isState noLimit => exact ⟨rfl, rfl, rfl, rfl, Or.inr ⟨isState, noLimit⟩⟩
  rcases cascade with ⟨reason, named, requested, denies, witness⟩
  exact {
    ok_iff := by
      rw [reason, ← allows_iff, denies]
      simp
    insufficientRes := by simp [reason]
    lifetimeExhausted := by simp [reason]
    rateLimit := by simp [reason]
    preconditionFail := by simp [reason]
    causalCascade := fun _ => ⟨totals, walked, by rw [requested, named],
      by rw [requested]; exact nonzero, by rw [named]; exact witness⟩
    gates := fun _ => gatesOpen }

theorem truthful_of_reason {d : Decision}
    (ok_iff : d.reason = .ok ↔ d.action = .allowFull ∨ d.action = .allowDegraded)
    (reason : d.reason = .ok ∨ d.reason = .unknownOp ∨ d.reason = .lockdownActive ∨
      d.reason = .pressureBlock ∨ d.reason = .halNotConfigured) :
    Truthful B hal budget op d := by
  rcases reason with reason | reason | reason | reason | reason
  all_goals exact {
    ok_iff := ok_iff
    insufficientRes := by simp [reason]
    lifetimeExhausted := by simp [reason]
    rateLimit := by simp [reason]
    preconditionFail := by simp [reason]
    causalCascade := by simp [reason]
    gates := by simp [reason] }

theorem Explained.truthful {d : Decision} (sound : budget.Sound)
    (explained : Explained B hal budget op d) : Truthful B hal budget op d := by
  cases explained with
  | unknownOp => exact truthful_of_reason (by simp [Decision.early]) (by simp [Decision.early])
  | locked => exact truthful_of_reason (by simp [Decision.early]) (by simp [Decision.early])
  | blocked profile registered blocks =>
      apply truthful_of_reason
      · simp only [Decision.early]
        rw [← allows_iff, blocks]
        split
        · simp
        · simp
      · simp only [Decision.early]
        split
        · simp
        · simp
  | precondition profile registered reason failed =>
      rcases halPreconditions_eq_some failed with ⟨rfl, answer⟩ | ⟨rfl, answer⟩
      · exact {
          ok_iff := by simp [Decision.early]
          insufficientRes := by simp [Decision.early]
          lifetimeExhausted := by simp [Decision.early]
          rateLimit := by simp [Decision.early]
          preconditionFail := fun _ => Or.inl ⟨profile, registered, answer⟩
          causalCascade := by simp [Decision.early]
          gates := by simp [Decision.early] }
      · exact truthful_of_reason (by simp [Decision.early]) (by simp [Decision.early])
  | need profile registered gates need listed amount_ne d denied =>
      exact denied.truthful sound registered gates listed amount_ne
  | total profile registered gates totals walked resource inRange nonzero configured d denied =>
      exact denied.truthful sound ⟨profile, registered, gates⟩ walked nonzero
  | granted profile registered gates =>
      exact truthful_of_reason ⟨fun _ => gates.mapped, fun _ => rfl⟩ (Or.inl rfl)

/-- In every reachable state the decision of `loxbudget_check` is true of that state: OK is said
of what is allowed, and every denial that names a witness names a real one. -/
theorem denials_tell_truth (reachable : Reachable B budget) (hal : Hal) (op : OpId) :
    ∃ d after, check B hal budget op true = (.ok, some d, after) ∧
      Truthful B hal budget op d :=
  ⟨_, _, check_of_initialized reachable.wellFormed.initialized,
    (decide_explained reachable.wellFormed hal op).truthful reachable.sound⟩

theorem denials_tell_truth_oneOp :
    ∃ d after, check Build.full (Hal.permissive 0)
        ((machine Build.full).run .sample oneOp) 0 true = (.ok, some d, after) ∧
      Truthful Build.full (Hal.permissive 0) ((machine Build.full).run .sample oneOp) 0 d :=
  denials_tell_truth ((Reachable.of_started started_sample).run oneOp) (Hal.permissive 0) 0

end Loxbudget
