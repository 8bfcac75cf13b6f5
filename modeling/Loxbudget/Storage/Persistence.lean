import Loxbudget.Invariant.Instance
import Loxbudget.Model.Audit
import Loxbudget.Model.Lives
import Loxbudget.Rate.Lifetime

/-!
# What survives an init

A successful `init` clears every table of the storage, whatever it holds. The lifetime counters,
the watermarks and the audit records of the life before are therefore carried over only if there
was nothing to carry over, and a lifetime limit that is set anew starts from nothing.
-/

namespace Loxbudget

variable {B : Build} {budget : Budget} {res : ResourceId} {limit : UInt32}

/-! ## Grants under one limit -/

/-- The total that a run grants on a resource. -/
def grantedTotal (B : Build) (res : ResourceId) (start : Budget) (events : List Event) : Nat :=
  ((lifetimeMachine B res).run (start, 0) events).2

/-- The limit in force whenever the resource is granted. -/
def GrantsUnder (B : Build) (res : ResourceId) (limit : UInt32) (budget : Budget)
    (event : Event) : Prop :=
  lifetimeGranted B res budget event ((machine B).reply budget event) ≠ 0 →
    (budget.rateState res).limitLifetime = limit

theorem GrantsUnder.le {event : Event} (under : GrantsUnder B res limit budget event)
    (limit_ne : limit ≠ 0) (wellFormed : WellFormed B budget) (sound : budget.Sound)
    (within : (budget.rateState res).consumedLifetime.toNat ≤ limit.toNat) :
    (budget.rateState res).consumedLifetime.toNat +
      lifetimeGranted B res budget event ((machine B).reply budget event) ≤ limit.toNat := by
  by_cases granted : lifetimeGranted B res budget event ((machine B).reply budget event) = 0
  · rw [granted]
    exact within
  · have in_force := under granted
    rcases event with ⟨hal, call⟩
    cases call with
    | enter op out =>
        rw [lifetimeGranted_enter] at granted ⊢
        by_cases entered : (enter B hal budget op out).1.1 = .ok
        · rw [if_pos entered] at granted ⊢
          have amount_ne : budget.rateGrant B op res ≠ 0 := fun none => granted (by rw [none]; rfl)
          rw [← in_force] at limit_ne ⊢
          exact enter_grant_le wellFormed sound entered amount_ne limit_ne
        · exact absurd (if_neg entered) granted
    | _ => exact absurd rfl granted

/-- A life that sets the limit before it grants stays within it. -/
theorem grantedTotal_le {start : Budget} (started : Started B start) (limit_ne : limit ≠ 0)
    {events : List Event} (under : (machine B).Along (GrantsUnder B res limit) start events) :
    grantedTotal B res start events ≤ limit.toNat := by
  have run : ∀ events budget total, Reachable B budget →
      (budget.rateState res).consumedLifetime.toNat = total → total ≤ limit.toNat →
      (machine B).Along (GrantsUnder B res limit) budget events →
      ((lifetimeMachine B res).run (budget, total) events).2 ≤ limit.toNat := by
    intro events
    induction events with
    | nil =>
        intro budget total _ _ within _
        exact within
    | cons event events ih =>
        intro budget total reachable counted within under
        rw [← counted] at within
        have fits := under.1.le limit_ne reachable.wellFormed reachable.sound within
        have step := next_consumedLifetime reachable.wellFormed event res
        have limit_lt := limit.toNat_lt
        rw [counted] at fits step
        have counted' : (((machine B).next budget event).rateState res).consumedLifetime.toNat =
            total + lifetimeGranted B res budget event ((machine B).reply budget event) := by
          omega
        exact ih _ _ (reachable.run [event]) counted' fits under.2
  apply run events start 0 (.of_started started) _ (Nat.zero_le _) under
  rw [started.fresh.rateState]
  rfl

/-! ## The next life -/

/-- The instance after an `init` has what the life before has accounted. -/
structure Survives (ended again : Budget) : Prop where
  consumedLifetime : ∀ res < ended.maxResources,
    (again.rateState res).consumedLifetime = (ended.rateState res).consumedLifetime
  highWatermark : ∀ res < ended.maxResources,
    (again.resources res).highWatermark = (ended.resources res).highWatermark
  records : ∀ maxRecords,
    (auditGetRecent again true maxRecords true).2.1 = (auditGetRecent ended true maxRecords true).2.1

/-- The life has accounted nothing. -/
structure NothingAccounted (ended : Budget) : Prop where
  consumedLifetime : ∀ res < ended.maxResources, (ended.rateState res).consumedLifetime = 0
  highWatermark : ∀ res < ended.maxResources, (ended.resources res).highWatermark = 0
  records : ended.auditSize = 0 ∨ ended.journal.auditCount = 0

theorem auditGetRecent_of_empty (initialized : budget.magic = magicInit)
    (empty : budget.auditSize = 0 ∨ budget.journal.auditCount = 0) (maxRecords : UInt64) :
    (auditGetRecent budget true maxRecords true).2.1 = some ⟨[], 0⟩ := by
  have valid := validate_eq_ok.mpr initialized
  simp only [auditGetRecent, valid, Bool.true_eq_false, if_false, ne_eq, not_true, or_false]
  split
  · rfl
  · rename_i asked
    rcases empty with size | count
    · exact absurd (Or.inl size) asked
    · simp [count]

theorem auditGetRecent_one (initialized : budget.magic = magicInit)
    (answer : (auditGetRecent budget true 1 true).2.1 = some ⟨[], 0⟩) :
    budget.auditSize = 0 ∨ budget.journal.auditCount = 0 := by
  have valid := validate_eq_ok.mpr initialized
  by_contra recorded
  rw [not_or] at recorded
  have some_count : 0 < budget.journal.auditCount.toNat :=
    Nat.pos_of_ne_zero fun zero => recorded.2 (UInt8.toNat_inj.mp zero)
  have one : ¬((1 : UInt64) = 0) := by decide
  simp only [auditGetRecent, valid, Bool.true_eq_false, if_false, ne_eq, not_true, or_false,
    recorded.1, one, Option.some.injEq, RecentRecords.mk.injEq] at answer
  have copied := congrArg UInt64.toNat answer.2
  split at copied
  · exact absurd copied (by decide)
  · simp only [UInt8.toUInt8_toUInt64, UInt8.toNat_toUInt64, UInt64.reduceToNat] at copied
    omega

theorem init_again {hal : Hal} {previous start : Budget} {args : InitArgs}
    (first : init B hal previous args = (.ok, start)) (hal' : Hal) (between : Budget) :
    ∃ cfg, start = Budget.initial B hal args cfg ∧
      init B hal' between args = (.ok, Budget.initial B hal' args cfg) := by
  rcases init_eq_ok.mp first with ⟨valid, cfg, given, fits, rfl⟩
  exact ⟨cfg, rfl, init_eq_ok.mpr ⟨valid, cfg, given, fits, rfl⟩⟩

/-- What the life before has accounted survives exactly if it is nothing. -/
theorem survives_iff {hal hal' : Hal} {args : InitArgs} {cfg : Config} {ended : Budget}
    (same : SameInstance (Budget.initial B hal args cfg) ended) :
    Survives ended (Budget.initial B hal' args cfg) ↔ NothingAccounted ended := by
  have again_empty : ∀ maxRecords,
      (auditGetRecent (Budget.initial B hal' args cfg) true maxRecords true).2.1 =
        some ⟨[], 0⟩ :=
    auditGetRecent_of_empty rfl (Or.inr rfl)
  constructor
  · intro survives
    refine ⟨fun res inTable => (survives.consumedLifetime res inTable).symm,
      fun res inTable => (survives.highWatermark res inTable).symm, ?_⟩
    exact auditGetRecent_one same.magic ((survives.records 1).symm.trans (again_empty 1))
  · intro nothing
    refine ⟨fun res inTable => (nothing.consumedLifetime res inTable).symm,
      fun res inTable => (nothing.highWatermark res inTable).symm, fun maxRecords => ?_⟩
    rw [again_empty, auditGetRecent_of_empty same.magic nothing.records]

/-- For every run and whatever happens to the instance before `init` is called with the same
arguments again: the new life has the lifetime counters, the watermarks and the audit records of
the old one, and stays with it within a lifetime limit that both set, exactly if the old life has
accounted nothing. -/
theorem accounting_survives_iff {B : Build} {hal : Hal} {previous start : Budget}
    {args : InitArgs} (first : init B hal previous args = (.ok, start)) (events : List Event)
    (between : List LifeEvent) (hal' : Hal) :
    let ended := (machine B).run start events
    let again := init B hal' ((lifeMachine B).run ended between) args
    again.1 = .ok ∧
      ((Survives ended again.2 ∧
          ∀ res < ended.maxResources, ∀ limit ≠ 0,
            (machine B).Along (GrantsUnder B res limit) start events → ∀ later,
            (machine B).Along (GrantsUnder B res limit) again.2 later →
            grantedTotal B res start events + grantedTotal B res again.2 later ≤ limit.toNat) ↔
        NothingAccounted ended) := by
  intro ended again
  rcases init_again first hal' ((lifeMachine B).run ended between) with
    ⟨cfg, start_eq, again_eq⟩
  have accepted : again.1 = .ok := congrArg Prod.fst again_eq
  have started : Started B start := ⟨hal, previous, args, first⟩
  have started' : Started B again.2 := ⟨hal', _, args, Prod.ext accepted rfl⟩
  have same : SameInstance (Budget.initial B hal args cfg) ended := by
    rw [← start_eq]
    exact SameInstance.run B start events
  have survives : Survives ended again.2 ↔ NothingAccounted ended := by
    have again_eq' : again.2 = Budget.initial B hal' args cfg := congrArg Prod.snd again_eq
    rw [again_eq']
    exact survives_iff same
  refine ⟨accepted, ?_⟩
  rw [survives]
  constructor
  · exact And.left
  · intro nothing
    refine ⟨nothing, ?_⟩
    intro res inTable limit limit_ne under later under'
    have counted : (ended.rateState res).consumedLifetime.toNat =
        min 4294967295 (grantedTotal B res start events) := by
      have fresh : (start.rateState res).consumedLifetime.toNat = min 4294967295 0 := by
        rw [started.fresh.rateState]
        rfl
      have total := consumedLifetime_eq_total (.of_started started) fresh events
      rwa [lifetimeMachine, Machine.observe_run_fst] at total
    have none : grantedTotal B res start events = 0 := by
      rw [nothing.consumedLifetime res inTable] at counted
      simp only [UInt32.reduceToNat] at counted
      omega
    rw [none, Nat.zero_add]
    exact grantedTotal_le started' limit_ne under'

/-- An instance that has only been told its pressure has nothing to lose. -/
theorem accounting_survives_iff_idle :
    Survives ((machine Build.full).run .sample [.permissive (.setPressure 2)])
      (init Build.full (Hal.permissive 7) ((lifeMachine Build.full).run
        ((machine Build.full).run .sample [.permissive (.setPressure 2)]) [.deinit, .softReset])
        .sample).2 := by
  have first : init Build.full (Hal.permissive 0) .zero .sample = (.ok, .sample) :=
    Prod.ext (by decide +kernel) rfl
  have survives := accounting_survives_iff first [.permissive (.setPressure 2)]
    [.deinit, .softReset] (Hal.permissive 7)
  exact (survives.2.mpr ⟨fun _ _ => rfl, fun _ _ => rfl, Or.inl rfl⟩).1

/-- Under a lifetime limit of three, two units are granted before a `deinit` and two units after
the next `init`. -/
theorem accounting_lost :
    let ended := (machine Build.full).run .sample enterOnce
    let again := init Build.full (Hal.permissive 0) (deinit ended).2 .sample
    again.1 = .ok ∧ ¬Survives ended again.2 ∧
      (machine Build.full).Along (GrantsUnder Build.full 0 3) .sample enterOnce ∧
      (machine Build.full).Along (GrantsUnder Build.full 0 3) again.2 enterOnce ∧
      3 < grantedTotal Build.full 0 .sample enterOnce +
        grantedTotal Build.full 0 again.2 enterOnce := by
  intro ended again
  have lost : (again.2.rateState 0).consumedLifetime ≠ (ended.rateState 0).consumedLifetime := by
    decide +kernel
  have inTable : (0 : ResourceId) < ended.maxResources := by decide +kernel
  refine ⟨by decide +kernel, fun survives => lost (survives.consumedLifetime 0 inTable), ?_, ?_,
    by decide +kernel⟩
  · refine ⟨absurd rfl, absurd rfl, absurd rfl, absurd rfl, fun _ => ?_, trivial⟩
    decide +kernel
  · refine ⟨absurd rfl, absurd rfl, absurd rfl, absurd rfl, fun _ => ?_, trivial⟩
    decide +kernel

end Loxbudget
