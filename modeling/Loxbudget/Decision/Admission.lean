import Loxbudget.Cascade.Totals
import Loxbudget.Invariant.Capacity
import Mathlib.Data.Option.Basic

/-!
# When the decision engine allows an op

`loxbudget_check` leaves through more than a dozen exits. `Admissible` lists what
it asks for, gate by gate and in exact integers, and the decision is an allowing
one exactly when all of it holds. The invariants of the reachable states discharge
the branches that the code only guards against: a listed need is configured, a
resource is listed once, and the counters of a resource are within its limit.
-/

namespace Loxbudget

/-! ## One need -/

/-- What the loop over the needs asks of a need. -/
structure NeedAdmitted (B : Build) (hal : Hal) (budget : Budget) (profile : OpProfile)
    (need : Need) : Prop where
  stateLimit : (budget.resources need.resource).kind = .state →
    (budget.resources need.resource).limit ≠ 0
  fits : (budget.resources need.resource).kind ≠ .state →
    (budget.resources need.resource).Fits need.amount
  lifetime : B.enableRateWindows = true → profile.has opfBypassRateLimit = false →
    (budget.resources need.resource).kind = .consumable →
    (budget.rateState need.resource).AdmitsLifetime need.amount.toUInt32
  windows : B.enableRateWindows = true → profile.has opfBypassRateLimit = false →
    (budget.resources need.resource).kind = .consumable →
    (budget.rateState need.resource).AdmitsWindows B.rateImpl hal.nowMs need.amount.toUInt32

variable {B : Build} {hal : Hal} {budget : Budget} {profile : OpProfile} {out : Decision}

theorem checkNeed_of_free {need : Need} (free : need.amount = 0) (pass : NeedsPass) :
    checkNeed B hal budget profile out need pass = (pass, none) := by
  unfold checkNeed
  simp only
  rw [if_pos free]

/-- A need is passed exactly when it is admitted, as long as nothing has rolled its windows. -/
theorem checkNeed_eq_none_iff {need : Need} {pass : NeedsPass} (amount_ne : need.amount ≠ 0)
    (configured : need.resource < budget.maxResources ∧ budget.resCfg need.resource = true)
    (sound : (budget.resources need.resource).Sound)
    (unrolled : pass.rateState need.resource = budget.rateState need.resource) :
    (checkNeed B hal budget profile out need pass).2 = none ↔
      NeedAdmitted B hal budget profile need := by
  have inTable : ¬(need.resource ≥ budget.maxResources ∨
      budget.resCfg need.resource = false) := by
    simp [configured.2, UInt8.not_le.mpr configured.1]
  have fits_iff := sound.fits_iff need.amount
  have lifetime_iff :=
    (budget.rateState need.resource).lifetimeExhausted_eq_false need.amount.toUInt32
  have windows_iff := RateState.rollWindows_snd B.rateImpl hal.nowMs need.amount.toUInt32
    (budget.rateState need.resource).windows
  simp only [checkNeed]
  simp only [if_neg amount_ne, if_neg inTable, unrolled]
  by_cases isState : (budget.resources need.resource).kind = .state
  · rw [if_pos isState]
    by_cases noLimit : (budget.resources need.resource).limit = 0
    · rw [if_pos noLimit]
      simp only [reduceCtorEq, false_iff]
      exact fun admitted => admitted.stateLimit isState noLimit
    · rw [if_neg noLimit]
      simp only [true_iff]
      refine ⟨fun _ => noLimit, fun other => absurd isState other, ?_, ?_⟩
      · intro _ _ consumable
        simp [isState] at consumable
      · intro _ _ consumable
        simp [isState] at consumable
  · rw [if_neg isState]
    by_cases short : (budget.resources need.resource).available < need.amount
    · rw [if_pos short]
      simp only [reduceCtorEq, false_iff]
      intro admitted
      exact absurd (fits_iff.mp (admitted.fits isState)) (UInt16.not_le.mpr short)
    · rw [if_neg short]
      have fits := fits_iff.mpr (UInt16.not_lt.mp short)
      by_cases limited : B.enableRateWindows = true ∧ profile.has opfBypassRateLimit = false ∧
          (budget.resources need.resource).kind = .consumable
      · rw [if_pos limited]
        cases exhausted : (budget.rateState need.resource).lifetimeExhausted
            need.amount.toUInt32 with
        | true =>
            simp only [if_true, reduceCtorEq, false_iff]
            intro admitted
            have lifetime := admitted.lifetime limited.1 limited.2.1 limited.2.2
            simp [lifetime_iff.mpr lifetime] at exhausted
        | false =>
            rcases rolled : RateState.rollWindows B.rateImpl hal.nowMs need.amount.toUInt32
              (budget.rateState need.resource).windows with ⟨windows, admits⟩
            rw [rolled] at windows_iff
            cases admits with
            | false =>
                simp only [Bool.false_eq_true, if_false, reduceCtorEq, false_iff]
                intro admitted
                exact absurd (windows_iff.mpr
                  (admitted.windows limited.1 limited.2.1 limited.2.2)) (by simp)
            | true =>
                simp only [Bool.false_eq_true, if_false, if_true, true_iff]
                exact ⟨fun other => absurd other isState, fun _ => fits,
                  fun _ _ _ => lifetime_iff.mp exhausted, fun _ _ _ => windows_iff.mp rfl⟩
      · rw [if_neg limited]
        simp only [true_iff]
        exact ⟨fun other => absurd other isState, fun _ => fits,
          fun rates bypass consumable => absurd ⟨rates, bypass, consumable⟩ limited,
          fun rates bypass consumable => absurd ⟨rates, bypass, consumable⟩ limited⟩

theorem checkNeed_denies {need : Need} {pass : NeedsPass} {d : Decision}
    (denied : (checkNeed B hal budget profile out need pass).2 = some d) :
    d.action.allows = false := by
  unfold checkNeed at denied
  simp only at denied
  split at denied
  · simp at denied
  split at denied
  · obtain rfl := Option.some.inj denied
    rfl
  split at denied
  · split at denied
    · obtain rfl := Option.some.inj denied
      rfl
    · simp at denied
  split at denied
  · obtain rfl := Option.some.inj denied
    simp only
    split <;> rfl
  split at denied
  · split at denied
    · obtain rfl := Option.some.inj denied
      rfl
    · split at denied
      · simp at denied
      · obtain rfl := Option.some.inj denied
        rfl
  · simp at denied

theorem checkNeed_rateState_of_ne {need : Need} {pass : NeedsPass} {resource : ResourceId}
    (other : resource ≠ need.resource) :
    (checkNeed B hal budget profile out need pass).1.rateState resource =
      pass.rateState resource := by
  rcases checkNeed_rateState B hal budget profile out need pass with kept | rolled
  · rw [kept]
  · rw [rolled, Function.update_of_ne other]

/-- A need that is passed adds its amount to the accumulator, unless its resource is a STATE. -/
theorem checkNeed_needPerRes {need : Need} {pass : NeedsPass} (amount_ne : need.amount ≠ 0)
    (passed : (checkNeed B hal budget profile out need pass).2 = none) :
    (checkNeed B hal budget profile out need pass).1.needPerRes =
      if (budget.resources need.resource).kind = .state then pass.needPerRes
      else pass.needPerRes.addSat need.resource need.amount.toUInt32 := by
  simp only [checkNeed] at passed ⊢
  simp only [if_neg amount_ne] at passed ⊢
  split at passed
  · simp at passed
  rename_i inTable
  rw [if_neg inTable]
  split
  · split <;> rfl
  split
  · rfl
  split
  · split
    · rfl
    · split <;> rfl
  · rfl

/-! ## All needs -/

theorem checkNeed_unrolled {need : Need} {needs : List Need} {pass : NeedsPass}
    (distinct : DistinctNeeds (need :: needs)) (amount_ne : need.amount ≠ 0)
    (unrolled : ∀ other ∈ need :: needs, other.amount ≠ 0 →
      pass.rateState other.resource = budget.rateState other.resource) :
    ∀ other ∈ needs, other.amount ≠ 0 →
      (checkNeed B hal budget profile out need pass).1.rateState other.resource =
        budget.rateState other.resource := by
  intro other listed other_ne
  have apart := (List.pairwise_cons.mp distinct).1 other listed amount_ne other_ne
  rw [checkNeed_rateState_of_ne (Ne.symm apart)]
  exact unrolled other (List.mem_cons_of_mem _ listed) other_ne

theorem checkNeeds_eq_none_iff {needs : List Need} {pass : NeedsPass}
    (distinct : DistinctNeeds needs)
    (configured : ∀ need ∈ needs, need.amount ≠ 0 →
      need.resource < budget.maxResources ∧ budget.resCfg need.resource = true)
    (sound : budget.Sound)
    (unrolled : ∀ need ∈ needs, need.amount ≠ 0 →
      pass.rateState need.resource = budget.rateState need.resource) :
    (checkNeeds B hal budget profile out needs pass).2 = none ↔
      ∀ need ∈ needs, need.amount ≠ 0 → NeedAdmitted B hal budget profile need := by
  induction needs generalizing pass with
  | nil => simp [checkNeeds]
  | cons need needs ih =>
      have rest := (List.pairwise_cons.mp distinct).2
      have configuredRest : ∀ other ∈ needs, other.amount ≠ 0 →
          other.resource < budget.maxResources ∧ budget.resCfg other.resource = true :=
        fun other listed => configured other (List.mem_cons_of_mem _ listed)
      simp only [checkNeeds]
      rw [List.forall_mem_cons]
      by_cases free : need.amount = 0
      · rw [checkNeed_of_free free]
        simp only
        rw [ih rest configuredRest fun other listed =>
          unrolled other (List.mem_cons_of_mem _ listed)]
        simp [free]
      · have now : (checkNeed B hal budget profile out need pass).2 = none ↔
            NeedAdmitted B hal budget profile need :=
          checkNeed_eq_none_iff free (configured need List.mem_cons_self free)
            (sound need.resource) (unrolled need List.mem_cons_self free)
        have unrolledRest : ∀ other ∈ needs, other.amount ≠ 0 →
            (checkNeed B hal budget profile out need pass).1.rateState other.resource =
              budget.rateState other.resource := checkNeed_unrolled distinct free unrolled
        rcases checked : checkNeed B hal budget profile out need pass with ⟨pass', denied⟩
        rw [checked] at now unrolledRest
        cases denied with
        | some d =>
            simp only [reduceCtorEq, false_iff] at now ⊢
            exact fun admitted => now (admitted.1 free)
        | none =>
            simp only [true_iff] at now ⊢
            rw [ih rest configuredRest unrolledRest]
            simp [now]

theorem checkNeeds_denies {needs : List Need} {pass : NeedsPass} {d : Decision}
    (denied : (checkNeeds B hal budget profile out needs pass).2 = some d) :
    d.action.allows = false := by
  induction needs generalizing pass with
  | nil => simp [checkNeeds] at denied
  | cons need needs ih =>
      simp only [checkNeeds] at denied
      rcases checked : checkNeed B hal budget profile out need pass with ⟨pass', denied'⟩
      rw [checked] at denied
      cases denied' with
      | some d' =>
          obtain rfl := Option.some.inj denied
          have now : (checkNeed B hal budget profile out need pass).2 = some d' := by
            rw [checked]
          exact checkNeed_denies now
      | none => exact ih denied

/-- The accumulator after the loop holds, besides what it held before, what the needs ask of the
resources that are not a STATE. -/
theorem checkNeeds_needPerRes {needs : List Need} {pass : NeedsPass}
    (distinct : DistinctNeeds needs)
    (passed : (checkNeeds B hal budget profile out needs pass).2 = none)
    (resource : ResourceId) :
    ((checkNeeds B hal budget profile out needs pass).1.needPerRes resource).toNat =
      min 65535 ((pass.needPerRes resource).toNat +
        if (budget.resources resource).kind = .state then 0
        else (needOf needs resource).toNat) := by
  induction needs generalizing pass with
  | nil =>
      have total_lt := (pass.needPerRes resource).toNat_lt
      simp only [checkNeeds, needOf, UInt16.toNat_zero, ite_self]
      omega
  | cons need needs ih =>
      have rest := (List.pairwise_cons.mp distinct).2
      simp only [checkNeeds] at passed ⊢
      by_cases free : need.amount = 0
      · rw [checkNeed_of_free free] at passed ⊢
        rw [needOf_cons_of_free free]
        exact ih rest passed
      · have added : (checkNeed B hal budget profile out need pass).2 = none →
            (checkNeed B hal budget profile out need pass).1.needPerRes = _ :=
          checkNeed_needPerRes free
        rcases checked : checkNeed B hal budget profile out need pass with ⟨pass', denied⟩
        rw [checked] at passed added
        cases denied with
        | some d => simp at passed
        | none =>
            simp only [forall_const] at added passed ⊢
            rw [ih rest passed, added]
            by_cases named : need.resource = resource
            · subst named
              rw [needOf_cons_self free, needOf_tail_eq_zero distinct free]
              by_cases isState : (budget.resources need.resource).kind = .state
              · simp [isState]
              · have amount_lt := need.amount.toNat_lt
                rw [if_neg isState, if_neg isState, if_neg isState,
                  NeedPerRes.addSat_self _ _ (by simpa using amount_lt)]
                simp
            · have unadded : (if (budget.resources need.resource).kind = .state then
                  pass.needPerRes
                  else pass.needPerRes.addSat need.resource need.amount.toUInt32) resource =
                  pass.needPerRes resource := by
                split
                · rfl
                · exact pass.needPerRes.addSat_of_ne _ (Ne.symm named)
              rw [needOf_cons_of_ne named, unadded]

/-! ## The cascade -/

/-- What the op itself asks of each resource, as the loop over its needs leaves it to the trigger
walk. -/
def Budget.ownNeeds (budget : Budget) (op : OpId) : NeedPerRes := fun resource =>
  if (budget.resources resource).kind = .state then 0 else needOf (budget.needs op) resource

/-- What the cascade block asks of a per-resource total. -/
structure TotalAdmitted (budget : Budget) (totals : NeedPerRes) (resource : ResourceId) :
    Prop where
  stateLimit : (budget.resources resource).kind = .state → totals resource ≠ 0 →
    (budget.resources resource).limit ≠ 0
  fits : (budget.resources resource).kind ≠ .state →
    (budget.resources resource).Fits (totals resource)

theorem checkTotal_eq_none_iff {totals : NeedPerRes} {resource : ResourceId}
    (sound : (budget.resources resource).Sound)
    (configured : totals resource ≠ 0 → budget.resCfg resource = true) :
    checkTotal budget out totals resource = none ↔ TotalAdmitted budget totals resource := by
  have fits_iff := sound.fits_iff (totals resource)
  unfold checkTotal
  simp only
  by_cases zero : totals resource = 0
  · rw [if_pos zero]
    simp only [true_iff]
    refine ⟨fun _ nonzero => absurd zero nonzero, fun _ => ?_⟩
    rw [zero]
    exact sound.capacity
  · rw [if_neg zero, if_neg (by simp [configured zero])]
    by_cases isState : (budget.resources resource).kind = .state
    · rw [if_pos isState]
      by_cases noLimit : (budget.resources resource).limit = 0
      · rw [if_pos noLimit]
        simp only [reduceCtorEq, false_iff]
        exact fun admitted => admitted.stateLimit isState zero noLimit
      · rw [if_neg noLimit]
        simp only [true_iff]
        exact ⟨fun _ _ => noLimit, fun other => absurd isState other⟩
    · rw [if_neg isState]
      by_cases short : (budget.resources resource).available < totals resource
      · rw [if_pos short]
        simp only [reduceCtorEq, false_iff]
        intro admitted
        exact absurd (fits_iff.mp (admitted.fits isState)) (UInt16.not_le.mpr short)
      · rw [if_neg short]
        simp only [true_iff]
        exact ⟨fun other => absurd other isState,
          fun _ => fits_iff.mpr (UInt16.not_lt.mp short)⟩

theorem checkTotal_denies {totals : NeedPerRes} {resource : ResourceId} {d : Decision}
    (denied : checkTotal budget out totals resource = some d) : d.action.allows = false := by
  unfold checkTotal at denied
  simp only at denied
  split at denied
  · simp at denied
  split at denied
  · simp at denied
  split at denied
  · split at denied
    · obtain rfl := Option.some.inj denied
      rfl
    · simp at denied
  split at denied
  · obtain rfl := Option.some.inj denied
    simp only
    split <;> rfl
  · simp at denied

theorem total_eq_zero (wellFormed : WellFormed B budget) {op root : OpId} {pressure : Pressure}
    {totals : NeedPerRes}
    (walked : causalityAddScaledNeeds B budget root (budget.ownNeeds op) pressure = some totals)
    {resource : ResourceId}
    (unconfigured : ¬(resource < budget.maxResources ∧ budget.resCfg resource = true)) :
    totals resource = 0 := by
  have notNeeded := wellFormed.needOf_eq_zero unconfigured
  obtain rfl := causalityAddScaledNeeds_eq_some walked
  have unedged : ((cascadeEdges B budget pressure root).map (budget.edgeNeed resource)).sum = 0 := by
    apply List.sum_eq_zero
    intro amount listed
    rcases List.mem_map.mp listed with ⟨edge, -, rfl⟩
    simp [Budget.edgeNeed, notNeeded]
  apply UInt16.toNat_inj.mp
  rw [addEdges_toNat wellFormed, unedged]
  simp [Budget.ownNeeds, notNeeded]

theorem checkCascade_eq_none_iff (wellFormed : WellFormed B budget) (sound : budget.Sound)
    (op : OpId) :
    checkCascade B budget op out (budget.ownNeeds op) = none ↔
      (B.enableCausality = true → ∀ totals,
        causalityAddScaledNeeds B budget op (budget.ownNeeds op) budget.pressure = some totals →
        ∀ resource, TotalAdmitted budget totals resource) := by
  simp only [checkCascade]
  cases enabled : B.enableCausality with
  | false => simp
  | true =>
      rcases walked : causalityAddScaledNeeds B budget op (budget.ownNeeds op) budget.pressure
        with _ | totals
      · simp
      · have outside : ∀ resource,
            ¬(resource < budget.maxResources ∧ budget.resCfg resource = true) →
            totals resource = 0 := fun _ => total_eq_zero wellFormed walked
        have admitted_iff : ∀ resource, checkTotal budget out totals resource = none ↔
            TotalAdmitted budget totals resource := by
          intro resource
          apply checkTotal_eq_none_iff (sound resource)
          intro nonzero
          by_contra unconfigured
          exact nonzero (outside resource fun both => unconfigured both.2)
        simp only [Bool.true_eq_false, if_false, List.findSome?_eq_none_iff, List.mem_range,
          Option.some.injEq, forall_const, forall_eq']
        constructor
        · intro passed resource
          by_cases inRange : resource < budget.maxResources
          · have now := passed resource.toNat (UInt8.lt_iff_toNat_lt.mp inRange)
            rw [UInt8.ofNat_toNat] at now
            exact (admitted_iff resource).mp now
          · have zero := outside resource fun both => inRange both.1
            apply (admitted_iff resource).mp
            simp [checkTotal, zero]
        · intro admitted index _
          exact (admitted_iff _).mpr (admitted _)

theorem checkCascade_denies {op : OpId} {needPerRes : NeedPerRes} {d : Decision}
    (denied : checkCascade B budget op out needPerRes = some d) : d.action.allows = false := by
  simp only [checkCascade] at denied
  split at denied
  · simp at denied
  split at denied
  · simp at denied
  · rcases List.exists_of_findSome?_eq_some denied with ⟨index, -, now⟩
    exact checkTotal_denies now

/-- The loop over the needs reads the windows that it is given, and no journal. -/
theorem checkNeeds_booked (rateState : ResourceId → RateState) (journal : Journal)
    (needs : List Need) (pass : NeedsPass) :
    checkNeeds B hal { budget with rateState := rateState, journal := journal } profile out needs
        pass =
      checkNeeds B hal budget profile out needs pass := by
  induction needs generalizing pass with
  | nil => rfl
  | cons need needs ih =>
      simp only [checkNeeds, ih]
      rfl

theorem WalkState.scan_booked (rateState : ResourceId → RateState) (journal : Journal)
    (pressure : Pressure) (cur : OpId) (depth : UInt8) (edges : List Edge) (walk : WalkState) :
    WalkState.scan B { budget with rateState := rateState, journal := journal } pressure cur depth
        edges walk =
      WalkState.scan B budget pressure cur depth edges walk := by
  induction edges generalizing walk with
  | nil => rfl
  | cons edge edges ih => simp only [WalkState.scan, ih]

/-- The cascade block reads neither the rate windows nor the journal. -/
theorem checkCascade_booked (rateState : ResourceId → RateState) (journal : Journal) (op : OpId)
    (needPerRes : NeedPerRes) :
    checkCascade B { budget with rateState := rateState, journal := journal } op out needPerRes =
      checkCascade B budget op out needPerRes := by
  have step : WalkState.step B { budget with rateState := rateState, journal := journal }
      budget.pressure = WalkState.step B budget budget.pressure := by
    funext walk
    simp only [WalkState.step, WalkState.scan_booked]
  simp only [checkCascade, causalityAddScaledNeeds]
  simp only [step]
  rfl

/-! ## The whole decision -/

/-- A query that a profile requires has answered something other than FALSE and the sentinel. -/
def Granted (answer : UInt8) : Prop :=
  answer ≠ 0 ∧ answer ≠ 2

/-- What `loxbudget_check` asks for before it allows an op. -/
structure Admissible (B : Build) (hal : Hal) (budget : Budget) (op : OpId)
    (profile : OpProfile) : Prop where
  registered : budget.profile op = some profile
  mapped : profile.mappedAction budget.pressure = .allowFull ∨
    profile.mappedAction budget.pressure = .allowDegraded
  lockdown : budget.pressure = .lockdown → profile.has opfLockdownPass = true
  bootProven : profile.has opfRequiresBootProven = true →
    Granted (budget.halBool (·.bootProven) hal.bootProven)
  voltageOk : profile.has opfRequiresVoltageOk = true →
    Granted (budget.halBool (·.voltageOk) hal.voltageOk)
  networkUp : profile.has opfRequiresNetworkUp = true →
    Granted (budget.halBool (·.networkUp) hal.networkUp)
  needs : ∀ need ∈ budget.needs op, need.amount ≠ 0 → NeedAdmitted B hal budget profile need
  cascade : B.enableCausality = true → ∀ totals,
    causalityAddScaledNeeds B budget op (budget.ownNeeds op) budget.pressure = some totals →
    ∀ resource, TotalAdmitted budget totals resource

theorem halGate_eq_none_iff (answer : UInt8) : halGate answer = none ↔ Granted answer := by
  simp only [halGate, Granted]
  split
  · rename_i sentinel
    simp [sentinel]
  · rename_i answered
    split
    · rename_i isFalse
      simp [isFalse]
    · rename_i nonzero
      simp [answered, nonzero]

theorem halPreconditions_eq_none_iff :
    budget.halPreconditions hal profile = none ↔
      (profile.has opfRequiresBootProven = true →
        Granted (budget.halBool (·.bootProven) hal.bootProven)) ∧
      (profile.has opfRequiresVoltageOk = true →
        Granted (budget.halBool (·.voltageOk) hal.voltageOk)) ∧
      (profile.has opfRequiresNetworkUp = true →
        Granted (budget.halBool (·.networkUp) hal.networkUp)) := by
  simp only [Budget.halPreconditions]
  simp only [Option.orElse_eq_none, ite_eq_right_iff, halGate_eq_none_iff]

theorem allows_iff {action : Action} :
    action.allows = true ↔ action = .allowFull ∨ action = .allowDegraded := by
  cases action <;> simp [Action.allows]

theorem allows_of_not_blocked {action : Action}
    (unblocked : ¬(action = .wait ∨ action = .reject ∨ action = .lockdown)) :
    action = .allowFull ∨ action = .allowDegraded := by
  cases action <;> simp at unblocked ⊢

/-- The accumulator that the loop over the needs of an op leaves to the cascade block. -/
theorem checkNeeds_ownNeeds (wellFormed : WellFormed B budget) {op : OpId}
    (passed : (checkNeeds B hal budget profile out (budget.needs op)
      ⟨budget.rateState, fun _ => 0⟩).2 = none) :
    (checkNeeds B hal budget profile out (budget.needs op)
      ⟨budget.rateState, fun _ => 0⟩).1.needPerRes = budget.ownNeeds op := by
  funext resource
  apply UInt16.toNat_inj.mp
  rw [checkNeeds_needPerRes (wellFormed.needs_distinct op) passed resource]
  have amount_lt := (needOf (budget.needs op) resource).toNat_lt
  simp only [Budget.ownNeeds]
  split
  · simp
  · simp only [UInt16.toNat_zero]
    omega

/-- What `loxbudget_check` asks of an op before it looks at the needs. -/
structure PassesGates (hal : Hal) (budget : Budget) (profile : OpProfile) : Prop where
  mapped : profile.mappedAction budget.pressure = .allowFull ∨
    profile.mappedAction budget.pressure = .allowDegraded
  lockdown : budget.pressure = .lockdown → profile.has opfLockdownPass = true
  preconditions : budget.halPreconditions hal profile = none

/-- The decision with which `loxbudget_check` goes into the loop over the needs. -/
def Budget.openDecision (budget : Budget) (profile : OpProfile) : Decision :=
  ⟨profile.mappedAction budget.pressure, budget.pressure, 0xFF, 0, 0, .ok⟩

theorem Admissible.gates {op : OpId} (admissible : Admissible B hal budget op profile) :
    PassesGates hal budget profile :=
  ⟨admissible.mapped, admissible.lockdown, halPreconditions_eq_none_iff.mpr
    ⟨admissible.bootProven, admissible.voltageOk, admissible.networkUp⟩⟩

/-- Past the gates, the needs and the cascade decide. -/
theorem decide_of_gates {op : OpId} (registered : budget.profile op = some profile)
    (gates : PassesGates hal budget profile) :
    decide B hal budget op =
      match checkNeeds B hal budget profile (budget.openDecision profile) (budget.needs op)
        ⟨budget.rateState, fun _ => 0⟩ with
      | (pass, some d) => { budget with rateState := pass.rateState }.deny B hal op d
      | (pass, none) =>
          match checkCascade B { budget with rateState := pass.rateState } op
            (budget.openDecision profile) pass.needPerRes with
          | some d => { budget with rateState := pass.rateState }.deny B hal op d
          | none =>
              { budget with rateState := pass.rateState }.grant B hal op
                { budget.openDecision profile with reason := .ok } := by
  have unlocked : ¬(budget.pressure = .lockdown ∧ profile.has opfLockdownPass = false) := by
    rintro ⟨lockdown, barred⟩
    exact absurd ((gates.lockdown lockdown).symm.trans barred) Bool.true_eq_false.mp
  have unblocked : ¬(profile.mappedAction budget.pressure = .wait ∨
      profile.mappedAction budget.pressure = .reject ∨
      profile.mappedAction budget.pressure = .lockdown) := by
    rcases gates.mapped with mapped | mapped
    · simp [mapped]
    · simp [mapped]
  simp only [decide, registered]
  rw [if_neg unlocked, if_neg unblocked, gates.preconditions]
  rfl

theorem decide_of_not_gates {op : OpId} (registered : budget.profile op = some profile)
    (shut : ¬PassesGates hal budget profile) :
    (decide B hal budget op).1.action.allows = false := by
  simp only [decide, registered]
  split
  · rfl
  rename_i unlocked
  split
  · rename_i blocked
    rw [deny_fst]
    rcases blocked with blocked | blocked | blocked
    · simp [blocked, Action.allows]
    · simp [blocked, Action.allows]
    · simp [blocked, Action.allows]
  rename_i unblocked
  rcases queried : budget.halPreconditions hal profile with _ | reason
  · refine absurd ⟨allows_of_not_blocked unblocked, ?_, queried⟩ shut
    intro lockdown
    simpa [lockdown] using unlocked
  · rfl

/-- The decision on an admissible op is its mapped action, made after the loop over the needs has
rolled the windows; on any other op it denies. -/
theorem decide_cases (hal : Hal) (wellFormed : WellFormed B budget) (sound : budget.Sound)
    (op : OpId) :
    (∃ profile out, Admissible B hal budget op profile ∧
        (decide B hal budget op).1.action = profile.mappedAction budget.pressure ∧
        (checkNeeds B hal budget profile out (budget.needs op)
          ⟨budget.rateState, fun _ => 0⟩).2 = none ∧
        (decide B hal budget op).2.rateState =
          (checkNeeds B hal budget profile out (budget.needs op)
            ⟨budget.rateState, fun _ => 0⟩).1.rateState) ∨
      (decide B hal budget op).1.action.allows = false ∧
        ∀ profile, ¬Admissible B hal budget op profile := by
  rcases registered : budget.profile op with _ | profile
  · refine Or.inr ⟨by simp only [decide, registered]; rfl, fun other admissible => ?_⟩
    exact absurd (registered.symm.trans admissible.registered) (by simp)
  have unique : ∀ other, Admissible B hal budget op other → other = profile :=
    fun other admissible => Option.some.inj (admissible.registered.symm.trans registered)
  by_cases gates : PassesGates hal budget profile
  swap
  · refine Or.inr ⟨decide_of_not_gates registered gates, fun other admissible => ?_⟩
    obtain rfl := unique other admissible
    exact gates admissible.gates
  have needs_iff : (checkNeeds B hal budget profile (budget.openDecision profile)
      (budget.needs op) ⟨budget.rateState, fun _ => 0⟩).2 = none ↔ _ :=
    checkNeeds_eq_none_iff (wellFormed.needs_distinct op) (wellFormed.needs_configured op) sound
      fun _ _ _ => rfl
  have accumulated : (checkNeeds B hal budget profile (budget.openDecision profile)
      (budget.needs op) ⟨budget.rateState, fun _ => 0⟩).2 = none → _ :=
    checkNeeds_ownNeeds wellFormed
  rw [decide_of_gates registered gates]
  rcases checked : checkNeeds B hal budget profile (budget.openDecision profile)
    (budget.needs op) ⟨budget.rateState, fun _ => 0⟩ with ⟨pass, _ | d⟩
  swap
  · have denies : d.action.allows = false := checkNeeds_denies (congrArg Prod.snd checked)
    refine Or.inr ⟨denies, fun other admissible => ?_⟩
    obtain rfl := unique other admissible
    rw [checked] at needs_iff
    exact absurd (needs_iff.mpr admissible.needs) (by simp)
  rw [checked] at needs_iff accumulated
  have admitted := needs_iff.mp rfl
  have own := accumulated rfl
  simp only at own ⊢
  rw [checkCascade_booked, own]
  have cascade_iff : checkCascade B budget op (budget.openDecision profile)
      (budget.ownNeeds op) = none ↔ _ := checkCascade_eq_none_iff wellFormed sound op
  rcases cascaded : checkCascade B budget op (budget.openDecision profile)
    (budget.ownNeeds op) with _ | d
  · have granted := halPreconditions_eq_none_iff.mp gates.preconditions
    refine Or.inl ⟨profile, budget.openDecision profile, ?_, rfl, by rw [checked],
      by rw [grant_frame, checked]⟩
    exact ⟨registered, gates.mapped, gates.lockdown, granted.1, granted.2.1, granted.2.2,
      admitted, cascade_iff.mp cascaded⟩
  · refine Or.inr ⟨checkCascade_denies cascaded, fun other admissible => ?_⟩
    rw [cascaded] at cascade_iff
    exact absurd (cascade_iff.mpr admissible.cascade) (by simp)

/-- In every reachable state, `loxbudget_check` allows an op exactly when it is admissible, and
the action is then the one that the profile maps the pressure to. -/
theorem check_allows_iff {B : Build} {budget : Budget} (reachable : Reachable B budget)
    (hal : Hal) (op : OpId) (action : Action) :
    (∃ d after, check B hal budget op true = (.ok, some d, after) ∧ d.action = action ∧
        (action = .allowFull ∨ action = .allowDegraded)) ↔
      ∃ profile, Admissible B hal budget op profile ∧
        action = profile.mappedAction budget.pressure := by
  have wellFormed := reachable.wellFormed
  rw [check_of_initialized wellFormed.initialized]
  rcases decide_cases hal wellFormed reachable.sound op with
    ⟨profile, -, admissible, decided, -⟩ | ⟨denies, inadmissible⟩
  · constructor
    · rintro ⟨d, after, same, rfl, -⟩
      simp only [Prod.mk.injEq, Option.some.injEq, true_and] at same
      refine ⟨profile, admissible, ?_⟩
      rw [← same.1]
      exact decided
    · rintro ⟨other, admissible', rfl⟩
      obtain rfl : other = profile :=
        Option.some.inj (admissible'.registered.symm.trans admissible.registered)
      exact ⟨_, _, rfl, decided, admissible.mapped⟩
  · constructor
    · rintro ⟨d, after, same, rfl, allowed⟩
      simp only [Prod.mk.injEq, Option.some.injEq, true_and] at same
      rw [same.1] at denies
      simp [allows_iff.mpr allowed] at denies
    · rintro ⟨profile, admissible, -⟩
      exact absurd admissible (inadmissible profile)

theorem check_allows_oneOp :
    ∃ profile, Admissible Build.full (Hal.permissive 0) ((machine Build.full).run .sample oneOp) 0
        profile ∧
      .allowFull = profile.mappedAction ((machine Build.full).run .sample oneOp).pressure :=
  (check_allows_iff ((Reachable.of_started started_sample).run oneOp) (Hal.permissive 0) 0
    .allowFull).mp ⟨_, _, rfl, by decide +kernel, Or.inl rfl⟩

end Loxbudget
