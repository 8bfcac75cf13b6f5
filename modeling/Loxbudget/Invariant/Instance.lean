import Loxbudget.Invariant.Effects

/-!
# What init fixes

A successful `init` builds the instance from its arguments and from one reading of the clock
alone, and no later public call changes the sizes of the tables, the magic or the base of the
lease magics.
-/

namespace Loxbudget

/-- What `loxbudget_validate_init_args_` promises about the storage and the table sizes. -/
structure ValidArgs (B : Build) (args : InitArgs) (cfg : Config) : Prop where
  stored : ∃ storage, args.storage = some storage ∧ storage &&& 3 = 0
  maxOps_pos : 0 < cfg.maxOps
  maxLeases_pos : 0 < cfg.maxConcurrentLeases
  maxLeases_le : cfg.maxConcurrentLeases.toNat ≤ B.maxLeases

theorem validateInitArgs_ok {B : Build} {args : InitArgs} {cfg : Config}
    (valid : validateInitArgs B args = .ok) (given : args.cfg = some cfg) :
    ValidArgs B args cfg := by
  have positive {count : UInt8} (nonzero : count ≠ 0) : 0 < count :=
    UInt8.pos_iff_ne_zero.mpr nonzero
  rcases placed : args.storage with _ | storage
  · simp [validateInitArgs, placed] at valid
  · simp only [validateInitArgs, placed, given] at valid
    repeat' split at valid
    all_goals cases valid
    rename_i aligned nonzero bounded _
    exact ⟨⟨storage, placed, not_not.mp aligned⟩,
      positive fun none => nonzero (Or.inr (Or.inl none)),
      positive fun none => nonzero (Or.inr (Or.inr none)), by omega⟩

/-- The instance that a successful `init` builds. -/
def Budget.initial (B : Build) (hal : Hal) (args : InitArgs) (cfg : Config) : Budget :=
  { Budget.zero with
    magic := magicInit
    maxResources := cfg.maxResources
    maxOps := cfg.maxOps
    maxLeases := cfg.maxConcurrentLeases
    leaseMagicBase := initialMagicBase args.budgetAddr hal.nowMs
    storageSize := args.storageSize.toUInt32
    auditSize := cfg.auditSize
    halCb := cfg.halCallbacks
    halStrict := cfg.halStrict != 0
    journal := ⟨0, 0, 0, 0, 0, 0, List.replicate cfg.auditSize.toNat .zero, []⟩
    needs := fun _ => List.replicate B.maxNeedsPerOp ⟨0, 0⟩
    leaseSlots := List.replicate cfg.maxConcurrentLeases.toNat .zero }

theorem init_eq_ok {B : Build} {hal : Hal} {previous budget : Budget} {args : InitArgs} :
    init B hal previous args = (.ok, budget) ↔
      validateInitArgs B args = .ok ∧ ∃ cfg, args.cfg = some cfg ∧
        B.layoutSize cfg ≤ args.storageSize.toUInt32 ∧
        budget = Budget.initial B hal args cfg := by
  constructor
  · intro success
    rcases init_ok success with ⟨valid, cfg, given, fits⟩
    refine ⟨valid, cfg, given, UInt32.not_lt.mp fits, ?_⟩
    simp only [init, valid, given, ne_eq, not_true, if_false, if_neg fits] at success
    exact (congrArg Prod.snd success).symm
  · rintro ⟨valid, cfg, given, fits, rfl⟩
    simp only [init, valid, given, ne_eq, not_true, if_false, gt_iff_lt,
      if_neg (UInt32.not_lt.mpr fits)]
    rfl

/-- Two states of one instance agree on what `init` fixes. -/
structure SameInstance (before after : Budget) : Prop where
  magic : after.magic = before.magic
  maxResources : after.maxResources = before.maxResources
  maxOps : after.maxOps = before.maxOps
  maxLeases : after.maxLeases = before.maxLeases
  leaseMagicBase : after.leaseMagicBase = before.leaseMagicBase
  storageSize : after.storageSize = before.storageSize
  auditSize : after.auditSize = before.auditSize

namespace SameInstance

variable {B : Build} {before between after : Budget}

theorem refl (budget : Budget) : SameInstance budget budget :=
  ⟨rfl, rfl, rfl, rfl, rfl, rfl, rfl⟩

theorem trans (first : SameInstance before between) (second : SameInstance between after) :
    SameInstance before after where
  magic := second.magic.trans first.magic
  maxResources := second.maxResources.trans first.maxResources
  maxOps := second.maxOps.trans first.maxOps
  maxLeases := second.maxLeases.trans first.maxLeases
  leaseMagicBase := second.leaseMagicBase.trans first.leaseMagicBase
  storageSize := second.storageSize.trans first.storageSize
  auditSize := second.auditSize.trans first.auditSize

theorem booked {nowMs : UInt32} (booked : Booked B nowMs before after) :
    SameInstance before after := by
  rw [booked.frame]
  exact ⟨rfl, rfl, rfl, rfl, rfl, rfl, rfl⟩

theorem quiet {nowMs : UInt32} (effect : QuietEffect B nowMs before after) :
    SameInstance before after := by
  cases effect with
  | booked booked => exact .booked booked
  | _ => exact ⟨rfl, rfl, rfl, rfl, rfl, rfl, rfl⟩

theorem next (B : Build) (budget : Budget) (event : Event) :
    SameInstance budget ((machine B).next budget event) := by
  rcases next_cases B budget event with
    quiet | ⟨_, middle, _, booked, -, -, after⟩ | ⟨_, -, after⟩
  · exact .quiet quiet
  · rw [after]
    exact (SameInstance.booked booked).trans ⟨rfl, rfl, rfl, rfl, rfl, rfl, rfl⟩
  · rw [after]
    exact ⟨rfl, rfl, rfl, rfl, rfl, rfl, rfl⟩

theorem run (B : Build) (budget : Budget) (events : List Event) :
    SameInstance budget ((machine B).run budget events) := by
  induction events generalizing budget with
  | nil => exact .refl budget
  | cons event events ih => exact (next B budget event).trans (ih _)

end SameInstance

/-! ## Settings -/

/-- The pressure and the decision hook are what the application has set last. -/
theorem next_settings (B : Build) (budget : Budget) (event : Event) :
    (((machine B).next budget event).pressure = budget.pressure ∨
        ∃ raw, event.call = .setPressure raw) ∧
      (((machine B).next budget event).decisionHook = budget.decisionHook ∨
        ∃ hook, event.call = .setDecisionHook hook) := by
  by_cases quiet : event.call.isQuiet = true
  · have writes := next_writes B budget event quiet
    generalize event.call = call, (machine B).next budget event = after at writes ⊢
    cases writes with
    | setPressure raw pressure => exact ⟨Or.inr ⟨raw, rfl⟩, Or.inl rfl⟩
    | setDecisionHook hook decisionHook => exact ⟨Or.inl rfl, Or.inr ⟨hook, rfl⟩⟩
    | _ => exact ⟨Or.inl rfl, Or.inl rfl⟩
  · rcases event with ⟨hal, call⟩
    cases call with
    | enter op out =>
        rcases enter_cases B hal budget op out with
          ⟨booked, -⟩ | ⟨middle, slotId, booked, -, -, entered⟩
        · rw [next_enter, booked.frame]
          exact ⟨Or.inl rfl, Or.inl rfl⟩
        · rw [next_enter, entered, booked.frame]
          exact ⟨Or.inl rfl, Or.inl rfl⟩
    | leave lease =>
        rcases leave_frame budget lease with ⟨resources, leaseSlots, left⟩
        rw [next_leave, left]
        exact ⟨Or.inl rfl, Or.inl rfl⟩
    | _ => exact absurd rfl quiet

end Loxbudget
