import Loxbudget.Decision.Reasons
import Loxbudget.Lease.Tokens

/-!
# `yield_check` agrees with `leave` and with `check`

`loxbudget_yield_check` repeats the tests of `loxbudget_leave` and the pressure gate of
`loxbudget_check`. Beside the instance runs a memory of the pressure at which each slot was last
acquired, which is what the slot of an accepted lease has to compare with.
-/

namespace Loxbudget

variable {B : Build} {hal : Hal} {budget : Budget} {profile : OpProfile} {lease : Lease}
  {op : OpId}

/-! ## The pressure gate -/

/-- The pressure bars the op, or maps it to an action that does not allow. -/
def OpProfile.Blocks (profile : OpProfile) (pressure : Pressure) : Prop :=
  pressure = .lockdown ∧ profile.has opfLockdownPass = false ∨
    (profile.mappedAction pressure).allows = false

instance (profile : OpProfile) (pressure : Pressure) : Decidable (profile.Blocks pressure) :=
  inferInstanceAs (Decidable (_ ∨ _))

/-- A denial by the pressure gate. -/
def Decision.PressureDenied (d : Decision) : Prop :=
  d.action.allows = false ∧ (d.reason = .pressureBlock ∨ d.reason = .lockdownActive)

theorem not_allows_iff {action : Action} :
    action.allows = false ↔ action = .wait ∨ action = .reject ∨ action = .lockdown := by
  cases action <;> simp [Action.allows]

/-- What the gate blocks is denied for its pressure. -/
theorem pressureDenied_of_blocks (registered : budget.profile op = some profile)
    (blocks : profile.Blocks budget.pressure) : (decide B hal budget op).1.PressureDenied := by
  simp only [decide, registered]
  split
  · exact ⟨rfl, Or.inr rfl⟩
  rename_i unlocked
  have mapped := (blocks.resolve_left unlocked)
  rw [if_pos (not_allows_iff.mp mapped)]
  refine ⟨mapped, ?_⟩
  rw [deny_fst]
  simp only
  split
  · exact Or.inr rfl
  · exact Or.inl rfl

/-- No other test denies for the pressure. -/
theorem Explained.blocks {d : Decision} (explained : Explained B hal budget op d)
    (registered : budget.profile op = some profile) (denied : d.PressureDenied) :
    profile.Blocks budget.pressure := by
  rcases denied with ⟨-, reason⟩
  cases explained with
  | unknownOp => simp [Decision.early] at reason
  | locked profile' registered' lockdown barred =>
      cases registered.symm.trans registered'
      exact Or.inl ⟨lockdown, barred⟩
  | blocked profile' registered' blocks =>
      cases registered.symm.trans registered'
      exact Or.inr blocks
  | precondition profile' _ reason' failed =>
      rcases halPreconditions_eq_some failed with ⟨rfl, -⟩ | ⟨rfl, -⟩
      · simp [Decision.early] at reason
      · simp [Decision.early] at reason
  | need _ _ _ need _ _ d denied => cases denied <;> simp [Decision.naming] at reason
  | total _ _ _ totals _ resource _ _ _ d denied =>
      cases denied <;> simp [Decision.naming] at reason
  | granted => simp [Budget.openDecision] at reason

theorem pressureDenied_iff (wellFormed : WellFormed B budget)
    (registered : budget.profile op = some profile) :
    (decide B hal budget op).1.PressureDenied ↔ profile.Blocks budget.pressure :=
  ⟨(decide_explained wellFormed hal op).blocks registered, pressureDenied_of_blocks registered⟩

/-! ## The hint -/

/-- The hint of a pressure that does not block, after an acquisition at the pressure `prev`. -/
def Pressure.hint (prev cur : Pressure) : PressureHint :=
  if cur = prev then .holding else if cur.level > prev.level then .rising else .falling

theorem yieldCheck_of_accepts (accepts : Accepts budget lease)
    (registered : budget.profile lease.op = some profile) :
    yieldCheck budget lease true =
      (.ok, some (if profile.Blocks budget.pressure then .shouldAbort
        else (budget.leaseSlot lease.id).acquiredPressure.hint budget.pressure)) := by
  have valid := validate_eq_ok.mpr accepts.initialized
  have slot : ¬((budget.leaseSlot lease.id).active = false ∨
      (budget.leaseSlot lease.id).magic ≠ lease.magic) := by
    simp [accepts.active, accepts.slotMagic]
  unfold yieldCheck
  rw [if_neg (by decide), if_neg (not_not.mpr valid), if_neg (UInt8.not_le.mpr accepts.idInRange),
    if_neg (not_not.mpr accepts.magic), registered]
  simp only
  rw [if_neg slot]
  simp only [← not_allows_iff]
  by_cases locked : budget.pressure = .lockdown ∧ profile.has opfLockdownPass = false
  · have blocks : profile.Blocks budget.pressure := Or.inl locked
    rw [if_pos locked, if_pos blocks]
  rw [if_neg locked]
  by_cases mapped : (profile.mappedAction budget.pressure).allows = false
  · have blocks : profile.Blocks budget.pressure := Or.inr mapped
    rw [if_pos mapped, if_pos blocks]
  · have passes : ¬profile.Blocks budget.pressure := not_or.mpr ⟨locked, mapped⟩
    rw [if_neg mapped, if_neg passes, Pressure.hint]

theorem Pressure.hint_ne_shouldAbort (prev cur : Pressure) : prev.hint cur ≠ .shouldAbort := by
  rw [hint]
  split
  · simp
  split
  · simp
  · simp

/-! ## The pressure of the last acquisition -/

/-- The pressure at which each slot was last acquired. -/
abbrev Acquisitions := UInt8 → Option Pressure

/-- A successful `enter` acquires the slot of the lease that it returns. -/
def Acquisitions.record (acquisitions : Acquisitions) (before : Budget) (event : Event)
    (reply : Reply) (_ : Budget) : Acquisitions :=
  match issuedToken (event.call, reply) with
  | some lease => Function.update acquisitions lease.id (some before.pressure)
  | none => acquisitions

/-- The instance with the memory of its acquisitions. -/
def acquisitionMachine (B : Build) : Machine (Budget × Acquisitions) Event Reply :=
  (machine B).observe Acquisitions.record

/-- An active slot holds the pressure at which it was acquired. -/
structure Remembers (B : Build) (state : Budget × Acquisitions) : Prop where
  wellFormed : WellFormed B state.1
  acquired : ∀ id, (state.1.leaseSlot id).active = true →
    state.2 id = some (state.1.leaseSlot id).acquiredPressure

theorem Remembers.of_fresh (fresh : Fresh B budget) : Remembers B (budget, fun _ => none) :=
  ⟨fresh.wellFormed, fun id active => absurd active (by simp [fresh.inactive])⟩

theorem Remembers.next {state : Budget × Acquisitions} (remembers : Remembers B state)
    (event : Event) : Remembers B ((acquisitionMachine B).next state event) := by
  rcases state with ⟨budget, acquisitions⟩
  have wellFormed : WellFormed B budget := remembers.wellFormed
  have acquired := remembers.acquired
  rw [acquisitionMachine, Machine.observe_next, Acquisitions.record]
  refine ⟨wellFormed.next event, ?_⟩
  simp only at acquired ⊢
  intro id active
  rcases next_tokens B budget event with
    ⟨effect, issues, -⟩ | ⟨op, middle, slotId, booked, -, free, issues, after⟩ |
    ⟨lease, -, accepts, issues, -, after⟩
  · have slot : ((machine B).next budget event).leaseSlot id = budget.leaseSlot id := by
      rw [Budget.leaseSlot, effect.slots.1, Budget.leaseSlot]
    rw [slot] at active ⊢
    rw [issues]
    exact acquired id active
  · rw [issues]
    rw [after] at active ⊢
    simp only [Budget.issuedLease]
    by_cases same : id = slotId
    · subst same
      have inRange := (freeSlot_spec (wellFormed.booked booked).slots_few free).1
      rw [Function.update_self, acquired_leaseSlot_self inRange, booked.frame]
    · rw [acquired_leaseSlot_of_ne same, booked.leaseSlot] at active ⊢
      rw [Function.update_of_ne same]
      exact acquired id active
  · rw [issues]
    rw [after] at active ⊢
    have other : id ≠ lease.id := by
      rintro rfl
      rw [released_leaseSlot_self accepts.active] at active
      exact Bool.false_ne_true active
    rw [released_leaseSlot_of_ne other] at active ⊢
    exact acquired id active

/-! ## Every run -/

/-- What `yield_check` does with a lease in a state, beside what `leave` and `check` would do. -/
structure YieldAgrees (B : Build) (state : Budget × Acquisitions) (lease : Lease) : Prop where
  status : ∀ hal, ((machine B).reply state.1 ⟨hal, .yieldCheck lease true⟩).status =
    ((machine B).reply state.1 ⟨hal, .leave lease⟩).status
  unchanged : ∀ hal, (machine B).next state.1 ⟨hal, .yieldCheck lease true⟩ = state.1
  aborts : ∀ hal, ((machine B).reply state.1 ⟨hal, .yieldCheck lease true⟩).status = .ok →
    (((machine B).reply state.1 ⟨hal, .yieldCheck lease true⟩).hint = some .shouldAbort ↔
      ∃ d, ((machine B).reply state.1 ⟨hal, .check lease.op true⟩).decision = some d ∧
        d.PressureDenied)
  compares : ∀ hal, ((machine B).reply state.1 ⟨hal, .yieldCheck lease true⟩).status = .ok →
    ((machine B).reply state.1 ⟨hal, .yieldCheck lease true⟩).hint ≠ some .shouldAbort →
    ∃ prev, state.2 lease.id = some prev ∧
      ((machine B).reply state.1 ⟨hal, .yieldCheck lease true⟩).hint =
        some (prev.hint state.1.pressure)

theorem reply_yieldCheck (B : Build) (budget : Budget) (hal : Hal) (lease : Lease) (out : Bool) :
    (machine B).reply budget ⟨hal, .yieldCheck lease out⟩ =
      ⟨(yieldCheck budget lease out).1, none, none, (yieldCheck budget lease out).2, none⟩ := rfl

theorem decision_check (initialized : budget.magic = magicInit) (hal : Hal) (op : OpId) :
    ((machine B).reply budget ⟨hal, .check op true⟩).decision =
      some (decide B hal budget op).1 := by
  rw [show ((machine B).reply budget ⟨hal, .check op true⟩).decision =
    (check B hal budget op true).2.1 from rfl, check_of_initialized initialized]

theorem Remembers.yieldAgrees {state : Budget × Acquisitions} (remembers : Remembers B state)
    (lease : Lease) : YieldAgrees B state lease := by
  rcases state with ⟨budget, acquisitions⟩
  have wellFormed : WellFormed B budget := remembers.wellFormed
  have hinted (hal : Hal)
      (ok : ((machine B).reply budget ⟨hal, .yieldCheck lease true⟩).status = .ok) :
      ∃ profile, budget.profile lease.op = some profile ∧
        acquisitions lease.id = some (budget.leaseSlot lease.id).acquiredPressure ∧
        ((machine B).reply budget ⟨hal, .yieldCheck lease true⟩).hint =
          some (if profile.Blocks budget.pressure then .shouldAbort
            else (budget.leaseSlot lease.id).acquiredPressure.hint budget.pressure) := by
    rw [reply_yieldCheck] at ok ⊢
    have accepts := leave_eq_ok.mp (yieldCheck_status.symm.trans ok)
    rcases Option.isSome_iff_exists.mp accepts.registered with ⟨profile, registered⟩
    refine ⟨profile, registered, remembers.acquired lease.id accepts.active, ?_⟩
    rw [yieldCheck_of_accepts accepts registered]
  refine ⟨fun _ => yieldCheck_status, fun _ => rfl, ?_, ?_⟩
  · intro hal ok
    rcases hinted hal ok with ⟨profile, registered, -, hint⟩
    have gate : (decide B hal budget lease.op).1.PressureDenied ↔ _ :=
      pressureDenied_iff wellFormed registered
    simp only [hint, decision_check wellFormed.initialized, Option.some.injEq,
      exists_eq_left', gate]
    split
    · rename_i blocks
      simp [blocks]
    · rename_i passes
      simp [passes, Pressure.hint_ne_shouldAbort]
  · intro hal ok goesOn
    rcases hinted hal ok with ⟨profile, registered, acquired, hint⟩
    refine ⟨_, acquired, ?_⟩
    rw [hint] at goesOn ⊢
    split
    · rename_i blocks
      exact absurd (by rw [if_pos blocks]) goesOn
    · rfl

/-- In every reachable state and for every lease whatsoever, `yield_check` answers with the status
that `leave` would answer with and changes nothing. Its hint is to abort exactly if a check of the
op is denied for the pressure, and compares with the pressure of the last acquisition otherwise. -/
theorem yield_check_agrees {B : Build} {start : Budget} (started : Started B start)
    (events : List Event) (lease : Lease) :
    let state := (acquisitionMachine B).run (start, fun _ => none) events
    state.1 = (machine B).run start events ∧ YieldAgrees B state lease := by
  refine ⟨(machine B).observe_run_fst _ _, ?_⟩
  apply Remembers.yieldAgrees
  exact Machine.run_invariant' (fun _ event remembers => remembers.next event)
    (Remembers.of_fresh started.fresh)

/-- The pressure rises after an op has been entered. -/
theorem yield_check_agrees_oneOp :
    YieldAgrees Build.full
      ((acquisitionMachine Build.full).run (.sample, fun _ => none)
        (oneOp ++ [.permissive (.enter 0 true), .permissive (.setPressure 1)]))
      ⟨0, 0x1000, 0, 0⟩ :=
  (yield_check_agrees started_sample _ _).2

end Loxbudget
