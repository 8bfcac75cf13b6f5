import Loxbudget.Decision.Admission

/-!
# The optional features only restrict

Rate windows and causality add tests to `loxbudget_check` and take none away. The same source is
compared here with itself: a build against the build in which both features are compiled out.
Whatever denies there denies in the full build too, so what the full build allows is allowed
without the features. An op that no window, lifetime limit or trigger edge touches is decided
alike, though the cascade block then still tests the needs of the op a second time.
-/

namespace Loxbudget

/-- The build with rate windows and causality compiled out. -/
def Build.bare (B : Build) : Build :=
  { B with enableRateWindows := false, enableCausality := false }

/-- Two instances with the same configuration, resources, profiles, needs and pressure. -/
structure SameTables (budget bare : Budget) : Prop where
  magic : bare.magic = budget.magic
  maxResources : bare.maxResources = budget.maxResources
  maxOps : bare.maxOps = budget.maxOps
  pressure : bare.pressure = budget.pressure
  halCb : bare.halCb = budget.halCb
  halStrict : bare.halStrict = budget.halStrict
  resCfg : bare.resCfg = budget.resCfg
  opCfg : bare.opCfg = budget.opCfg
  resources : bare.resources = budget.resources
  ops : bare.ops = budget.ops
  needs : bare.needs = budget.needs

variable {B : Build} {hal : Hal} {budget bare : Budget} {profile : OpProfile} {out : Decision}
  {op : OpId}

namespace SameTables

theorem profile_eq (same : SameTables budget bare) (op : OpId) :
    bare.profile op = budget.profile op := by
  simp only [Budget.profile, same.maxOps, same.opCfg, same.ops]

theorem halBool (same : SameTables budget bare) (callback : HalCallbacks → Bool)
    (answer : HalAnswer) : bare.halBool callback answer = budget.halBool callback answer := by
  have configured : bare.halConfigured callback = budget.halConfigured callback := by
    rw [Budget.halConfigured, same.halCb]
    rfl
  simp only [Budget.halBool, configured, same.halStrict]

theorem halPreconditions (same : SameTables budget bare) (hal : Hal) (profile : OpProfile) :
    bare.halPreconditions hal profile = budget.halPreconditions hal profile := by
  simp only [Budget.halPreconditions, same.halBool]

theorem openDecision (same : SameTables budget bare) (profile : OpProfile) :
    bare.openDecision profile = budget.openDecision profile := by
  simp only [Budget.openDecision, same.pressure]

theorem passesGates (same : SameTables budget bare) :
    PassesGates hal bare profile ↔ PassesGates hal budget profile := by
  have pressure := same.pressure
  have preconditions := same.halPreconditions hal profile
  constructor
  · rintro ⟨mapped, lockdown, passed⟩
    rw [pressure] at mapped lockdown
    exact ⟨mapped, lockdown, preconditions.symm.trans passed⟩
  · rintro ⟨mapped, lockdown, passed⟩
    rw [← pressure] at mapped lockdown
    exact ⟨mapped, lockdown, preconditions.trans passed⟩

end SameTables

/-! ## The needs -/

/-- What denies a need in the bare build denies it in the full build, with the same decision. -/
theorem checkNeed_of_bare (same : SameTables budget bare) {need : Need} {pass pass' : NeedsPass}
    {d : Decision} (denied : (checkNeed B.bare hal bare profile out need pass').2 = some d) :
    (checkNeed B hal budget profile out need pass).2 = some d := by
  simp only [checkNeed, Build.bare, same.maxResources, same.resCfg, same.resources,
    Bool.false_eq_true, false_and, if_false] at denied ⊢
  split at denied
  · simp at denied
  rename_i amount_ne
  rw [if_neg amount_ne]
  split at denied
  · rename_i outside
    rw [if_pos outside]
    exact denied
  rename_i inTable
  rw [if_neg inTable]
  split at denied
  · rename_i isState
    rw [if_pos isState]
    split at denied
    · rename_i noLimit
      rw [if_pos noLimit]
      exact denied
    · simp at denied
  rename_i notState
  rw [if_neg notState]
  split at denied
  · rename_i short
    rw [if_pos short]
    exact denied
  · simp at denied

theorem checkNeeds_of_bare (same : SameTables budget bare) {needs : List Need}
    {pass pass' : NeedsPass}
    (passed : (checkNeeds B hal budget profile out needs pass).2 = none) :
    (checkNeeds B.bare hal bare profile out needs pass').2 = none := by
  induction needs generalizing pass pass' with
  | nil => rfl
  | cons need needs ih =>
      simp only [checkNeeds] at passed ⊢
      have restricts : ∀ d, (checkNeed B.bare hal bare profile out need pass').2 = some d →
          (checkNeed B hal budget profile out need pass).2 = some d :=
        fun d denied => checkNeed_of_bare same denied
      rcases checked : checkNeed B.bare hal bare profile out need pass' with ⟨after', _ | d⟩
      · rcases full : checkNeed B hal budget profile out need pass with ⟨after, _ | d⟩
        · rw [full] at passed
          exact ih passed
        · rw [full] at passed
          simp at passed
      · have denied := restricts d (congrArg Prod.snd checked)
        rcases full : checkNeed B hal budget profile out need pass with ⟨after, _ | d'⟩
        · rw [full] at denied
          simp at denied
        · rw [full] at passed
          simp at passed

/-- The rate block has nothing to say about a resource. -/
def Budget.Unlimited (budget : Budget) (resource : ResourceId) : Prop :=
  (budget.rateState resource).limitLifetime = 0 ∧
    ∀ window ∈ (budget.rateState resource).windows, window.unlimited = true

theorem checkNeed_of_unlimited (same : SameTables budget bare) {need : Need}
    {pass pass' : NeedsPass}
    (unrolled : pass.rateState need.resource = budget.rateState need.resource)
    (unlimited : budget.Unlimited need.resource)
    (passed : (checkNeed B.bare hal bare profile out need pass').2 = none) :
    (checkNeed B hal budget profile out need pass).2 = none := by
  have unspent : (budget.rateState need.resource).lifetimeExhausted need.amount.toUInt32 =
      false :=
    ((budget.rateState need.resource).lifetimeExhausted_eq_false _).mpr (Or.inl unlimited.1)
  have admitted : (RateState.rollWindows B.rateImpl hal.nowMs need.amount.toUInt32
      (budget.rateState need.resource).windows).2 = true :=
    (RateState.rollWindows_snd _ _ _ _).mpr fun window listed =>
      Or.inl (unlimited.2 window listed)
  simp only [checkNeed, Build.bare, same.maxResources, same.resCfg, same.resources,
    Bool.false_eq_true, false_and, if_false] at passed ⊢
  by_cases free : need.amount = 0
  · rw [if_pos free]
  rw [if_neg free] at passed ⊢
  split at passed
  · simp at passed
  rename_i inTable
  rw [if_neg inTable]
  split at passed
  · rename_i isState
    rw [if_pos isState]
    split at passed
    · simp at passed
    · rename_i limited
      rw [if_neg limited]
  rename_i notState
  rw [if_neg notState]
  split at passed
  · simp at passed
  rename_i fits
  rw [if_neg fits]
  split
  · rw [unrolled, if_neg (by simp [unspent]), if_pos admitted]
  · rfl

/-- Where the rate block has nothing to say, the two loops over the needs end alike. -/
theorem checkNeeds_eq_bare (same : SameTables budget bare) {needs : List Need}
    {pass pass' : NeedsPass} (distinct : DistinctNeeds needs)
    (unrolled : ∀ need ∈ needs, need.amount ≠ 0 →
      pass.rateState need.resource = budget.rateState need.resource)
    (unlimited : ∀ need ∈ needs, need.amount ≠ 0 → budget.Unlimited need.resource) :
    (checkNeeds B hal budget profile out needs pass).2 =
      (checkNeeds B.bare hal bare profile out needs pass').2 := by
  induction needs generalizing pass pass' with
  | nil => rfl
  | cons need needs ih =>
      have rest := (List.pairwise_cons.mp distinct).2
      simp only [checkNeeds]
      by_cases free : need.amount = 0
      · rw [checkNeed_of_free free, checkNeed_of_free free]
        exact ih rest (fun other listed => unrolled other (List.mem_cons_of_mem _ listed))
          fun other listed => unlimited other (List.mem_cons_of_mem _ listed)
      · have unrolledRest : ∀ other ∈ needs, other.amount ≠ 0 →
            (checkNeed B hal budget profile out need pass).1.rateState other.resource =
              budget.rateState other.resource := checkNeed_unrolled distinct free unrolled
        have passes : (checkNeed B.bare hal bare profile out need pass').2 = none →
            (checkNeed B hal budget profile out need pass).2 = none :=
          checkNeed_of_unlimited same (unrolled need List.mem_cons_self free)
            (unlimited need List.mem_cons_self free)
        have denies : ∀ d, (checkNeed B.bare hal bare profile out need pass').2 = some d →
            (checkNeed B hal budget profile out need pass).2 = some d :=
          fun d denied => checkNeed_of_bare same denied
        rcases checked : checkNeed B.bare hal bare profile out need pass' with ⟨after', _ | d⟩
        · have passed := passes (congrArg Prod.snd checked)
          rcases full : checkNeed B hal budget profile out need pass with ⟨after, denied⟩
          rw [full] at passed unrolledRest
          simp only at passed
          subst passed
          exact ih rest unrolledRest fun other listed =>
            unlimited other (List.mem_cons_of_mem _ listed)
        · have denied := denies d (congrArg Prod.snd checked)
          rcases full : checkNeed B hal budget profile out need pass with ⟨after, denied'⟩
          rw [full] at denied
          simp only at denied
          subst denied
          rfl

/-! ## The cascade block -/

/-- The op triggers nothing: its trigger edges have no weight. -/
def Budget.Untriggering (budget : Budget) (op : OpId) : Prop :=
  ∀ edge ∈ budget.edges, edge.parent = op → edge.weightQ8 = 0

theorem cascadeEdges_eq_nil (untriggering : budget.Untriggering op) (pressure : Pressure) :
    cascadeEdges B budget pressure op = [] := by
  have follows_nil : ∀ older (cur : WalkEntry), cur.op = op →
      followedEdges B budget pressure older cur = [] := by
    intro older cur atRoot
    simp only [followedEdges]
    split
    · rfl
    · rw [List.filter_eq_nil_iff]
      intro edge listed follows
      simp only [walkFollows, Edge.isActive, decide_eq_true_eq] at follows
      exact follows.2.1.1 (untriggering edge listed (follows.1.trans atRoot))
  have expanded_root : ∀ entry ∈ cascadeExpansions B budget pressure op, entry.op = op := by
    intro entry expanded
    refine Worklist.entry_invariant (walkSearch B budget pressure) (fun entry => entry.op = op)
      rfl ?_ (Or.inl expanded)
    intro older cur offer atRoot offered
    simp [walkSearch, follows_nil older cur atRoot] at offered
  have followed_nil : ∀ entries : List WalkEntry, (∀ entry ∈ entries, entry.op = op) →
      followedBy B budget pressure entries = [] := by
    intro entries atRoot
    induction entries with
    | nil => rfl
    | cons entry entries ih =>
        rw [followedBy, ih fun other listed => atRoot other (List.mem_cons_of_mem _ listed),
          follows_nil entries entry (atRoot entry List.mem_cons_self)]
        rfl
  exact followed_nil _ expanded_root

/-- The cascade block tests the needs of the op once more, and finds nothing new. -/
theorem checkCascade_of_untriggering (wellFormed : WellFormed B budget) (sound : budget.Sound)
    (untriggering : budget.Untriggering op)
    (admitted : ∀ need ∈ budget.needs op, need.amount ≠ 0 →
      NeedAdmitted B hal budget profile need) :
    checkCascade B budget op out (budget.ownNeeds op) = none := by
  rw [checkCascade_eq_none_iff wellFormed sound]
  intro _ totals walked resource
  obtain rfl := causalityAddScaledNeeds_eq_some walked
  rw [cascadeEdges_eq_nil untriggering]
  have totals_eq : addEdges budget [] (budget.ownNeeds op) resource =
      if (budget.resources resource).kind = .state then 0
      else needOf (budget.needs op) resource := rfl
  constructor
  · intro isState nonzero
    rw [totals_eq, if_pos isState] at nonzero
    exact absurd rfl nonzero
  · intro notState
    rw [totals_eq, if_neg notState]
    by_cases needed : needOf (budget.needs op) resource = 0
    · rw [needed]
      exact (sound resource).capacity
    · rcases exists_mem_of_needOf_ne needed with ⟨need, listed, amount, amount_ne, rfl⟩
      rw [← amount]
      exact (admitted need listed amount_ne).fits notState

/-! ## The whole decision -/

/-- Up to the needs the two builds decide alike. -/
theorem decide_eq_of_shut (same : SameTables budget bare)
    (shut : ∀ profile, budget.profile op = some profile → ¬PassesGates hal budget profile) :
    (decide B hal budget op).1 = (decide B.bare hal bare op).1 := by
  rcases registered : budget.profile op with _ | profile
  · simp only [decide, same.profile_eq, registered, same.pressure, deny_fst]
  have shut' := shut profile registered
  simp only [decide, same.profile_eq, registered, same.pressure, same.halPreconditions]
  by_cases locked : budget.pressure = .lockdown ∧ profile.has opfLockdownPass = false
  · rw [if_pos locked, if_pos locked]
    rfl
  rw [if_neg locked, if_neg locked]
  by_cases blocked : profile.mappedAction budget.pressure = .wait ∨
      profile.mappedAction budget.pressure = .reject ∨
      profile.mappedAction budget.pressure = .lockdown
  · rw [if_pos blocked, if_pos blocked]
    rfl
  rw [if_neg blocked, if_neg blocked]
  rcases queried : budget.halPreconditions hal profile with _ | reason
  · refine absurd ⟨allows_of_not_blocked blocked, ?_, queried⟩ shut'
    intro lockdown
    simpa [lockdown] using locked
  · rfl

/-- Past the gates, the bare build decides by the needs alone. -/
theorem decide_bare_of_gates (registered : bare.profile op = some profile)
    (gates : PassesGates hal bare profile) :
    (decide B.bare hal bare op).1 =
      ((checkNeeds B.bare hal bare profile (bare.openDecision profile) (bare.needs op)
        ⟨bare.rateState, fun _ => 0⟩).2).getD { bare.openDecision profile with reason := .ok } := by
  rw [decide_of_gates registered gates]
  rcases checkNeeds B.bare hal bare profile (bare.openDecision profile) (bare.needs op)
    ⟨bare.rateState, fun _ => 0⟩ with ⟨pass, _ | d⟩
  · rfl
  · rfl

theorem decide_bare_of_allowed (same : SameTables budget bare)
    (allowed : (decide B hal budget op).1.action.allows = true) :
    (decide B.bare hal bare op).1.action = (decide B hal budget op).1.action := by
  rcases registered : budget.profile op with _ | profile
  · simp [decide, registered, Action.allows] at allowed
  by_cases gates : PassesGates hal budget profile
  swap
  · rw [decide_of_not_gates registered gates] at allowed
    exact absurd allowed Bool.false_ne_true
  have gates' := same.passesGates.mpr gates
  have registered' := (same.profile_eq op).trans registered
  have passes : ∀ pass pass', (checkNeeds B hal budget profile (budget.openDecision profile)
      (budget.needs op) pass).2 = none →
      (checkNeeds B.bare hal bare profile (budget.openDecision profile) (budget.needs op)
        pass').2 = none :=
    fun pass pass' passed => checkNeeds_of_bare same passed
  rw [decide_bare_of_gates registered' gates', same.openDecision, same.needs]
  rw [decide_of_gates registered gates] at allowed ⊢
  rcases checked : checkNeeds B hal budget profile (budget.openDecision profile)
    (budget.needs op) ⟨budget.rateState, fun _ => 0⟩ with ⟨pass, _ | d⟩
  · rw [checked] at allowed
    rw [passes ⟨budget.rateState, fun _ => 0⟩ _ (congrArg Prod.snd checked), Option.getD_none]
    simp only at allowed ⊢
    split at allowed
    · rename_i cascaded
      simp [checkCascade_denies cascaded] at allowed
    · rfl
  · rw [checked] at allowed
    simp [checkNeeds_denies (congrArg Prod.snd checked)] at allowed

/-- An op that no window, lifetime limit or trigger edge touches is decided alike. -/
theorem decide_eq_bare (wellFormed : WellFormed B budget) (sound : budget.Sound)
    (same : SameTables budget bare)
    (unlimited : ∀ need ∈ budget.needs op, need.amount ≠ 0 → budget.Unlimited need.resource)
    (untriggering : budget.Untriggering op) :
    (decide B hal budget op).1 = (decide B.bare hal bare op).1 := by
  by_cases gates : ∃ profile, budget.profile op = some profile ∧ PassesGates hal budget profile
  swap
  · exact decide_eq_of_shut same fun profile registered passes =>
      gates ⟨profile, registered, passes⟩
  rcases gates with ⟨profile, registered, gates⟩
  have gates' := same.passesGates.mpr gates
  have registered' := (same.profile_eq op).trans registered
  have distinct := wellFormed.needs_distinct op
  have needs_iff : (checkNeeds B hal budget profile (budget.openDecision profile)
      (budget.needs op) ⟨budget.rateState, fun _ => 0⟩).2 = none ↔ _ :=
    checkNeeds_eq_none_iff distinct (wellFormed.needs_configured op) sound fun _ _ _ => rfl
  have accumulated : (checkNeeds B hal budget profile (budget.openDecision profile)
      (budget.needs op) ⟨budget.rateState, fun _ => 0⟩).2 = none → _ :=
    checkNeeds_ownNeeds wellFormed
  have alike : (checkNeeds B hal budget profile (budget.openDecision profile) (budget.needs op)
      ⟨budget.rateState, fun _ => 0⟩).2 =
      (checkNeeds B.bare hal bare profile (budget.openDecision profile) (budget.needs op)
        ⟨bare.rateState, fun _ => 0⟩).2 :=
    checkNeeds_eq_bare same distinct (fun _ _ _ => rfl) unlimited
  rw [decide_bare_of_gates registered' gates', same.openDecision, same.needs, ← alike,
    decide_of_gates registered gates]
  rcases checked : checkNeeds B hal budget profile (budget.openDecision profile)
    (budget.needs op) ⟨budget.rateState, fun _ => 0⟩ with ⟨pass, _ | d⟩
  · rw [checked] at needs_iff accumulated
    have own := accumulated rfl
    simp only at own ⊢
    rw [checkCascade_booked, own,
      checkCascade_of_untriggering wellFormed sound untriggering (needs_iff.mp rfl)]
    rfl
  · rfl

/-- In every reachable state, what `loxbudget_check` allows is allowed with the same action by the
build with rate windows and causality compiled out, on an instance with the same tables; and on an
op that no window, lifetime limit or trigger edge touches the two return the same decision. -/
theorem features_only_restrict {B : Build} {budget bare : Budget} (reachable : Reachable B budget)
    (same : SameTables budget bare) (hal : Hal) (op : OpId) :
    ∃ d d', (check B hal budget op true).2.1 = some d ∧
      (check B.bare hal bare op true).2.1 = some d' ∧
      (d.action = .allowFull ∨ d.action = .allowDegraded → d'.action = d.action) ∧
      ((∀ need ∈ budget.needs op, need.amount ≠ 0 → budget.Unlimited need.resource) →
        budget.Untriggering op → d' = d) := by
  have wellFormed := reachable.wellFormed
  have initialized : bare.magic = magicInit := same.magic.trans wellFormed.initialized
  refine ⟨(decide B hal budget op).1, (decide B.bare hal bare op).1, ?_, ?_, ?_, ?_⟩
  · rw [check_of_initialized wellFormed.initialized]
  · rw [check_of_initialized initialized]
  · intro allowed
    exact decide_bare_of_allowed same (allows_iff.mpr allowed)
  · intro unlimited untriggering
    exact (decide_eq_bare wellFormed reachable.sound same unlimited untriggering).symm

/-- An op that needs half of a resource, next to the same tables without rate states and edges. -/
theorem features_only_restrict_oneOp :
    let budget := (machine Build.full).run .sample oneOp
    let bare := { budget with rateState := fun _ => ⟨[], 0, 0⟩, edges := [] }
    ∃ d, (check Build.full (Hal.permissive 0) budget 0 true).2.1 = some d ∧
      (check Build.full.bare (Hal.permissive 0) bare 0 true).2.1 = some d := by
  intro budget bare
  have reachable : Reachable Build.full budget := (Reachable.of_started started_sample).run oneOp
  have same : SameTables budget bare := ⟨rfl, rfl, rfl, rfl, rfl, rfl, rfl, rfl, rfl, rfl, rfl⟩
  have unlimited : ∀ need ∈ budget.needs 0, need.amount ≠ 0 →
      budget.Unlimited need.resource := by
    intro need _ _
    have fresh : budget.rateState = fun _ => .zero := rfl
    rw [Budget.Unlimited, fresh]
    refine ⟨rfl, fun window listed => ?_⟩
    rw [List.eq_of_mem_replicate listed]
    rfl
  have untriggering : budget.Untriggering 0 := by
    have fresh : budget.edges = [] := rfl
    simp [Budget.Untriggering, fresh]
  rcases features_only_restrict reachable same (Hal.permissive 0) 0 with
    ⟨d, d', full, without, -, alike⟩
  rw [alike unlimited untriggering] at without
  exact ⟨d, full, without⟩

end Loxbudget
