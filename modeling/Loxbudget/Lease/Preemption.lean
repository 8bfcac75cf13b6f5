import Loxbudget.Decision.Windows

/-!
# Preemption between the decision and the commit

Several contexts share one instance. An `enter` is two atomic steps: the decision
with the re-validation of Phase A, which run outside the critical section, and the
critical section that takes a slot and commits. `leave` and `set_pressure` are one
step each. The commit does not look again at what was validated, so a schedule is
safe exactly if at every commit the needs still fit what there is at that moment.
-/

namespace Loxbudget

/-- The instance, and the op that each context has validated and is about to commit. -/
structure Preempted (Ctx : Type) where
  budget : Budget
  entering : Ctx → Option OpId

/-- An atomic step of a context. -/
inductive AtomicStep (Ctx : Type) where
  | enterBegin (ctx : Ctx) (hal : Hal) (op : OpId) (out : Bool)
  | enterCommit (ctx : Ctx) (hal : Hal)
  | leave (ctx : Ctx) (lease : Lease)
  | setPressure (ctx : Ctx) (pressure : UInt32)

variable {Ctx : Type} [DecidableEq Ctx]

/-- The effect of an atomic step; a context between its two steps takes no other one. -/
def Preempted.next (B : Build) (state : Preempted Ctx) : AtomicStep Ctx → Preempted Ctx
  | .enterBegin ctx hal op out =>
      if (state.entering ctx).isSome then state
      else
        match enterBegin B hal state.budget op out with
        | (some _, budget) => { state with budget := budget }
        | (none, budget) => ⟨budget, Function.update state.entering ctx (some op)⟩
  | .enterCommit ctx hal =>
      match state.entering ctx with
      | none => state
      | some op =>
          ⟨(enterCommit B hal state.budget op).2, Function.update state.entering ctx none⟩
  | .leave ctx lease =>
      if (state.entering ctx).isSome then state
      else { state with budget := (leave state.budget lease).2 }
  | .setPressure ctx pressure =>
      if (state.entering ctx).isSome then state
      else { state with budget := (setPressure state.budget pressure).2 }

/-- The contexts and their instance as a machine; a schedule is a list of its events. -/
def preemptiveMachine (B : Build) (Ctx : Type) [DecidableEq Ctx] :
    Machine (Preempted Ctx) (AtomicStep Ctx) Unit where
  exec := fun state step => ((), state.next B step)

/-- An instance that no context is entering. -/
def Preempted.idle (Ctx : Type) (budget : Budget) : Preempted Ctx :=
  ⟨budget, fun _ => none⟩

/-- No resource is overcommitted and every configured fixed window is within its limit. -/
structure StaysWithin (B : Build) (budget : Budget) : Prop where
  capacity : ∀ resource, (budget.resources resource).used.toNat +
    (budget.resources resource).reserved.toNat ≤ (budget.resources resource).limit.toNat
  windows : budget.WindowsWithin B

/-- A step after which the instance stays within its limits, and which wraps no counter. -/
def SafeStep (B : Build) (state : Preempted Ctx) (step : AtomicStep Ctx) : Prop :=
  StaysWithin B (state.next B step).budget ∧
    match step with
    | .enterCommit ctx _ => ∀ op, state.entering ctx = some op → state.budget.freeSlot ≠ none →
        CommitExact (state.budget.needs op) state.budget.resources
    | .leave _ lease => ReleaseExact (state.budget.needs lease.op) state.budget.resources
    | _ => True

/-- A commit that finds a free slot finds room for the needs it commits. -/
def CommitFits (B : Build) (state : Preempted Ctx) (step : AtomicStep Ctx) : Prop :=
  match step with
  | .enterCommit ctx hal => ∀ op, state.entering ctx = some op → state.budget.freeSlot ≠ none →
      NeedsFit (state.budget.needs op) state.budget.resources ∧
        WindowsBear B hal state.budget op
  | _ => True

/-! ## The commit -/

theorem Resource.fits_iff_commit {resource : Resource} {amount : UInt16}
    (capacity : resource.used.toNat + resource.reserved.toNat ≤ resource.limit.toNat) :
    (resource.kind ≠ .state → resource.Fits amount) ↔
      resource.AddsExactly amount ∧
        (resource.commit amount).used.toNat + (resource.commit amount).reserved.toNat ≤
          (resource.commit amount).limit.toNat := by
  have limit_eq : (resource.commit amount).limit = resource.limit := by
    simp only [Resource.commit]
    split <;> rfl
  constructor
  · intro fits
    have counters := Resource.commit_exact fits
    refine ⟨Resource.addsExactly_of_fits fits, ?_⟩
    rw [limit_eq, counters.1, counters.2]
    simp only [Resource.Fits] at fits
    cases kind : resource.kind with
    | reusable =>
        have room := fits (by simp [kind])
        simp only [if_true, reduceCtorEq, if_false]
        omega
    | consumable =>
        have room := fits (by simp [kind])
        simp only [if_true, reduceCtorEq, if_false]
        omega
    | state => simpa using capacity
  · rintro ⟨exactly, after⟩ kind_ne
    rw [limit_eq] at after
    simp only [Resource.Fits]
    cases kind : resource.kind with
    | reusable =>
        have small := exactly.1 kind
        simp only [Resource.commit, kind, UInt16.toNat_add] at after
        omega
    | consumable =>
        have small := exactly.2 kind
        simp only [Resource.commit, kind, UInt16.toNat_add] at after
        omega
    | state => exact absurd kind kind_ne

theorem needsFit_iff_commit {needs : List Need} {table : ResourceId → Resource}
    (distinct : DistinctNeeds needs)
    (capacity : ∀ resource, (table resource).used.toNat + (table resource).reserved.toNat ≤
      (table resource).limit.toNat) :
    NeedsFit needs table ↔
      CommitExact needs table ∧ ∀ resource,
        (commitResources needs table resource).used.toNat +
            (commitResources needs table resource).reserved.toNat ≤
          (commitResources needs table resource).limit.toNat := by
  have applied := commitResources_apply distinct table
  rw [commitExact_iff distinct]
  constructor
  · intro fits
    refine ⟨fun need listed amount_ne =>
      Resource.addsExactly_of_fits (fits need listed amount_ne), ?_⟩
    intro resource
    by_cases free : needOf needs resource = 0
    · rw [applied, if_pos free]
      exact capacity resource
    · rcases exists_mem_of_needOf_ne free with ⟨need, listed, amount, amount_ne, rfl⟩
      rw [applied, if_neg free, ← amount]
      exact ((Resource.fits_iff_commit (capacity _)).mp (fits need listed amount_ne)).2
  · rintro ⟨exactly, after⟩ need listed amount_ne
    have within := after need.resource
    rw [applied, needOf_of_mem distinct listed amount_ne, if_neg amount_ne] at within
    exact (Resource.fits_iff_commit (capacity _)).mpr ⟨exactly need listed amount_ne, within⟩

/-! ## Every schedule -/

/-- What a safe schedule keeps. -/
structure Preempted.Invariant (B : Build) (state : Preempted Ctx) : Prop where
  wellFormed : WellFormed B state.budget
  within : StaysWithin B state.budget

theorem StaysWithin.booked {B : Build} {nowMs : UInt32} {budget after : Budget}
    (within : StaysWithin B budget) (booked : Booked B nowMs budget after) :
    StaysWithin B after where
  capacity := by
    rw [booked.resources]
    exact within.capacity
  windows := within.windows.booked booked

theorem StaysWithin.released {B : Build} {budget : Budget} (within : StaysWithin B budget)
    (wellFormed : WellFormed B budget) (lease : Lease) :
    StaysWithin B (budget.released lease) where
  capacity := by
    intro resource
    have before := within.capacity resource
    have after : (budget.released lease).resources resource =
        (budget.resources resource).release (needOf (budget.needs lease.op) resource) :=
      releaseResources_apply (wellFormed.needs_distinct lease.op) budget.resources resource
    have reserved := (budget.resources resource).release_reserved_toNat
      (needOf (budget.needs lease.op) resource)
    rw [after, Resource.release_frame]
    simp only
    split at reserved <;> omega
  windows := within.windows.of_rateState rfl

/-- The state after a commit that finds a free slot. -/
theorem StaysWithin.acquired_iff {B : Build} {budget : Budget} (within : StaysWithin B budget)
    (wellFormed : WellFormed B budget) (hal : Hal) (op : OpId) (slotId : UInt8) :
    StaysWithin B (budget.acquired B hal op slotId) ∧
        CommitExact (budget.needs op) budget.resources ↔
      NeedsFit (budget.needs op) budget.resources ∧ WindowsBear B hal budget op := by
  have windows_iff := within.windows.acquired_iff wellFormed hal op slotId
  have needs_iff := needsFit_iff_commit (wellFormed.needs_distinct op) within.capacity
  rw [← windows_iff, needs_iff]
  constructor
  · rintro ⟨⟨capacity, windows⟩, exactly⟩
    exact ⟨⟨exactly, capacity⟩, windows⟩
  · rintro ⟨⟨exactly, capacity⟩, windows⟩
    exact ⟨⟨capacity, windows⟩, exactly⟩

theorem Preempted.next_wellFormed {B : Build} {state : Preempted Ctx} (step : AtomicStep Ctx)
    (wellFormed : WellFormed B state.budget) : WellFormed B (state.next B step).budget := by
  cases step with
  | enterBegin ctx hal op out =>
      have booked := enterBegin_booked B hal state.budget op out
      simp only [Preempted.next]
      split
      · exact wellFormed
      · split
        · rename_i begun
          rw [begun] at booked
          exact wellFormed.booked booked
        · rename_i begun
          rw [begun] at booked
          exact wellFormed.booked booked
  | enterCommit ctx hal =>
      simp only [Preempted.next]
      split
      · exact wellFormed
      · rename_i op _
        rcases free : state.budget.freeSlot with _ | slotId
        · rw [enterCommit_of_full B hal state.budget op free]
          exact wellFormed
        · rw [enterCommit_of_free B hal state.budget op free]
          exact wellFormed.acquired hal op slotId
  | leave ctx lease =>
      simp only [Preempted.next]
      split
      · exact wellFormed
      · by_cases accepts : Accepts state.budget lease
        · rw [leave_of_accepts accepts]
          exact wellFormed.released lease
        · rw [(leave_of_not_accepts accepts).2]
          exact wellFormed
  | setPressure ctx pressure =>
      simp only [Preempted.next]
      split
      · exact wellFormed
      · exact wellFormed.quiet (setPressure_effect B 0 state.budget pressure)

/-- A step is safe exactly if its commit fits. -/
theorem Preempted.Invariant.safe_iff {B : Build} {state : Preempted Ctx}
    (invariant : state.Invariant B) (step : AtomicStep Ctx) :
    CommitFits B state step ↔ SafeStep B state step := by
  have within := invariant.within
  have wellFormed := invariant.wellFormed
  cases step with
  | enterBegin ctx hal op out =>
      have booked := enterBegin_booked B hal state.budget op out
      simp only [CommitFits, SafeStep, and_true, true_iff, Preempted.next]
      split
      · exact within
      · split
        · rename_i begun
          rw [begun] at booked
          exact within.booked booked
        · rename_i begun
          rw [begun] at booked
          exact within.booked booked
  | enterCommit ctx hal =>
      simp only [CommitFits, SafeStep, Preempted.next]
      rcases entering : state.entering ctx with _ | op
      · simpa using within
      · simp only [Option.some.injEq, forall_eq']
        rcases free : state.budget.freeSlot with _ | slotId
        · rw [enterCommit_of_full B hal state.budget op free]
          simpa using within
        · rw [enterCommit_of_free B hal state.budget op free]
          simp only [ne_eq, reduceCtorEq, not_false_eq_true, forall_const]
          exact (within.acquired_iff wellFormed hal op slotId).symm
  | leave ctx lease =>
      simp only [CommitFits, SafeStep, true_iff, Preempted.next]
      refine ⟨?_, releaseExact _ _⟩
      split
      · exact within
      · by_cases accepts : Accepts state.budget lease
        · rw [leave_of_accepts accepts]
          exact within.released wellFormed lease
        · rw [(leave_of_not_accepts accepts).2]
          exact within
  | setPressure ctx pressure =>
      simp only [CommitFits, SafeStep, and_true, true_iff, Preempted.next]
      split
      · exact within
      · rcases setPressure_cases state.budget pressure with ⟨_, -, -, stored⟩ | ⟨-, -, unchanged⟩
        · rw [stored]
          exact ⟨within.capacity, within.windows.of_rateState rfl⟩
        · rw [unchanged]
          exact within

/-- From every reachable instance, a schedule of any number of contexts keeps every resource and
every configured fixed window within its limit and wraps no counter, exactly if at each of its
commits that finds a free slot the committed needs fit at that moment. -/
theorem reservation_atomic_iff {B : Build} {budget : Budget} (reachable : Reachable B budget)
    (Ctx : Type) [DecidableEq Ctx] (schedule : List (AtomicStep Ctx)) :
    (preemptiveMachine B Ctx).Along (SafeStep B) (.idle Ctx budget) schedule ↔
      (preemptiveMachine B Ctx).Along (CommitFits B) (.idle Ctx budget) schedule := by
  symm
  have preserved : ∀ (state : Preempted Ctx) step, state.Invariant B → CommitFits B state step →
      ((preemptiveMachine B Ctx).next state step).Invariant B := by
    intro state step invariant fits
    exact ⟨Preempted.next_wellFormed step invariant.wellFormed,
      ((invariant.safe_iff step).mp fits).1⟩
  apply Machine.along_iff_along preserved (fun _ step invariant => invariant.safe_iff step)
  exact ⟨reachable.wellFormed, fun resource => (reachable.sound resource).capacity,
    reachable.windowsWithin⟩

/-- Two contexts have validated the same op before either commits it. -/
def bothValidated (Ctx : Type) (first second : Ctx) (op : OpId) : List (AtomicStep Ctx) :=
  [.enterBegin first (Hal.permissive 0) op true, .enterBegin second (Hal.permissive 0) op true,
    .enterCommit first (Hal.permissive 0), .enterCommit second (Hal.permissive 0)]

/-- One resource that has room for an op once. -/
def roomForOne : List Event :=
  [.permissive (.setResource 0 8 0), .permissive (.registerOp (some (.permissive 0))),
    .permissive (.opSetNeed 0 0 5)]

/-- Two requests that were each valid alone are committed one after the other. -/
theorem reservation_not_atomic :
    ¬∀ (B : Build) (budget : Budget), Reachable B budget →
      ∀ (schedule : List (AtomicStep Bool)),
        (preemptiveMachine B Bool).Along (SafeStep B) (.idle Bool budget) schedule := by
  intro always
  have run := always Build.full _ ((Reachable.of_started started_sample).run roomForOne)
    (bothValidated Bool false true 0)
  have capacity := run.2.2.2.1.1.capacity 0
  revert capacity
  decide +kernel

theorem reservation_atomic_iff_oneOp :
    (preemptiveMachine Build.full Bool).Along (SafeStep Build.full)
        (.idle Bool ((machine Build.full).run .sample oneOp)) (bothValidated Bool false true 0) ↔
      (preemptiveMachine Build.full Bool).Along (CommitFits Build.full)
        (.idle Bool ((machine Build.full).run .sample oneOp)) (bothValidated Bool false true 0) :=
  reservation_atomic_iff ((Reachable.of_started started_sample).run oneOp) Bool
    (bothValidated Bool false true 0)

end Loxbudget
