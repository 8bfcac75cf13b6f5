import Loxbudget.Cascade.Table
import Loxbudget.Interface.Refusals

/-!
# Enumerators as arguments

A C enumerator is passed as a 32-bit integer. `set_rate_limit` and `op_may_trigger` test the
integer that they are given. `set_pressure` and `set_resource` test its low byte, and so they
take an integer above 255 for the enumerator that has this low byte.
-/

namespace Loxbudget

variable {B : Build} {budget : Budget} {event : Event} {raw : UInt32}

/-! ## The values that are declared -/

/-- The value of the enumerator in the public header. -/
def ResourceKind.code : ResourceKind → Nat
  | reusable => 0
  | consumable => 1
  | state => 2

/-- The integer that a call is given for an enumerator. -/
def Call.enumerator? : Call → Option UInt32
  | .setPressure pressure => some pressure
  | .setResource _ _ kind => some kind
  | .setRateLimit _ window _ => some window
  | .opMayTrigger _ _ kind => some kind
  | _ => none

/-- The values that the public header declares for it. -/
def Call.declared : Call → List UInt32
  | .setPressure _ => [0, 1, 2, 3, 4]
  | .setResource _ _ _ => [0, 1, 2]
  | .setRateLimit _ _ _ => [0, 1, 2, 3]
  | .opMayTrigger _ _ _ => [0, 32, 128, 255]
  | _ => []

/-- The call has stored, at the place that its other arguments name, what it was given. -/
def Call.Stores (before after : Budget) : Call → Prop
  | .setPressure pressure => after.pressure.level = pressure.toNat
  | .setResource id _ kind => (after.resources id).kind.code = kind.toNat
  | .setRateLimit res window limit =>
      (after.window res window.toNat).windowDurationMs = windowDurationMs window ∧
        (after.window res window.toNat).limit = limit ∧
        ∀ index ≠ window.toNat, after.window res index = before.window res index
  | .opMayTrigger parent child kind =>
      ∃ weight, weight.toUInt32 = kind ∧ SetsPair before.edges after.edges parent child weight
  | _ => True

/-- A call is accepted only with a declared enumerator, which it then stores, and is refused
without effect with any other integer. -/
structure EnumeratorChecked (B : Build) (budget : Budget) (event : Event) (raw : UInt32) :
    Prop where
  accepted : ((machine B).reply budget event).status = .ok →
    raw ∈ event.call.declared ∧ event.call.Stores budget ((machine B).next budget event)
  refused : raw ∉ event.call.declared →
    ((machine B).reply budget event).status ≠ .ok ∧ (machine B).next budget event = budget

/-- The integer is none of the declared values, but its low byte is one, and no other test stands
in the way. -/
def Call.Narrows (budget : Budget) : Call → Prop
  | .setPressure pressure => 255 < pressure ∧ pressure % 256 ≤ 4
  | .setResource id _ kind => id < budget.maxResources ∧ 255 < kind ∧ kind % 256 ≤ 2
  | _ => False

theorem enumeratorChecked_of_refused
    (refused : ((machine B).reply budget event).status ≠ .ok)
    (same : (machine B).next budget event = budget) : EnumeratorChecked B budget event raw :=
  ⟨fun accepted => absurd accepted refused, fun _ => ⟨refused, same⟩⟩

theorem enumeratorChecked_of_declared (declared : raw ∈ event.call.declared)
    (stores : ((machine B).reply budget event).status = .ok →
      event.call.Stores budget ((machine B).next budget event)) :
    EnumeratorChecked B budget event raw :=
  ⟨fun accepted => ⟨declared, stores accepted⟩, fun unknown => absurd declared unknown⟩

/-! ## The calls that test a low byte -/

/-- Up to `last`, the low byte of an integer is in range if the integer is, and also for every
larger integer that is in range modulo 256. -/
theorem toUInt8_le_iff (raw : UInt32) (last : UInt8) :
    raw.toUInt8 ≤ last ↔ raw ≤ last.toUInt32 ∨ 255 < raw ∧ raw % 256 ≤ last.toUInt32 := by
  have bound := last.toNat_lt
  simp only [UInt8.le_iff_toNat_le, UInt32.le_iff_toNat_le, UInt32.lt_iff_toNat_lt,
    UInt32.toNat_toUInt8, UInt8.toNat_toUInt32, UInt32.toNat_mod, UInt32.reduceToNat]
  omega

/-- The low byte of an integer that is itself in range is the integer. -/
theorem toNat_toUInt8_of_le {last : UInt8} (inRange : raw ≤ last.toUInt32) :
    raw.toUInt8.toNat = raw.toNat := by
  have bound := last.toNat_lt
  rw [UInt32.le_iff_toNat_le, UInt8.toNat_toUInt32] at inRange
  rw [UInt32.toNat_toUInt8]
  omega

theorem mem_upTo (raw last : UInt32) :
    raw ∈ (List.range (last.toNat + 1)).map UInt32.ofNat ↔ raw ≤ last := by
  simp only [List.mem_map, List.mem_range, Nat.lt_succ_iff, UInt32.le_iff_toNat_le]
  constructor
  · rintro ⟨value, value_le, rfl⟩
    have value_lt := value_le.trans_lt last.toNat_lt
    rwa [UInt32.toNat_ofNat_of_lt' value_lt]
  · intro inRange
    exact ⟨raw.toNat, inRange, UInt32.ofNat_toNat⟩

/-- A call that accepts every integer whose low byte is in range, and keeps the low byte, checks
its enumerator exactly if it does not narrow a larger integer. -/
theorem checked_iff_of_lowByte (last : UInt8)
    (declared : raw ∈ event.call.declared ↔ raw ≤ last.toUInt32)
    (outcome : (raw.toUInt8 ≤ last ∧ ((machine B).reply budget event).status = .ok ∧
        (raw.toUInt8.toNat = raw.toNat →
          event.call.Stores budget ((machine B).next budget event))) ∨
      ¬raw.toUInt8 ≤ last ∧ ((machine B).reply budget event).status ≠ .ok ∧
        (machine B).next budget event = budget) :
    EnumeratorChecked B budget event raw ↔ ¬(255 < raw ∧ raw % 256 ≤ last.toUInt32) := by
  rcases outcome with ⟨low, accepted, stores⟩ | ⟨high, refused, same⟩
  · by_cases inRange : raw ≤ last.toUInt32
    · have small : raw ≤ 255 := by
        have bound := last.toNat_lt
        simp only [UInt32.le_iff_toNat_le, UInt8.toNat_toUInt32, UInt32.reduceToNat] at inRange ⊢
        omega
      apply iff_of_true
      · apply enumeratorChecked_of_declared (declared.mpr inRange)
        intro _
        exact stores (toNat_toUInt8_of_le inRange)
      · rintro ⟨large, -⟩
        exact UInt32.not_lt.mpr small large
    · have narrows := ((toUInt8_le_iff raw last).mp low).resolve_left inRange
      apply iff_of_false
      · intro checked
        exact (checked.refused (declared.not.mpr inRange)).1 accepted
      · exact not_not.mpr narrows
  · apply iff_of_true
    · exact enumeratorChecked_of_refused refused same
    · intro narrows
      exact high ((toUInt8_le_iff raw last).mpr (Or.inr narrows))

theorem Pressure.level_ofByte? {byte : UInt8} {pressure : Pressure}
    (known : Pressure.ofByte? byte = some pressure) : pressure.level = byte.toNat := by
  unfold Pressure.ofByte? at known
  split at known
  all_goals cases known
  all_goals rfl

theorem Pressure.ofByte?_eq_none {byte : UInt8} : Pressure.ofByte? byte = none ↔ ¬byte ≤ 4 := by
  unfold Pressure.ofByte?
  split
  case h_6 none some one two three =>
    simp only [imp_false, ← UInt8.toNat_inj, UInt8.le_iff_toNat_le, UInt8.reduceToNat, true_iff]
      at *
    omega
  all_goals decide

theorem ResourceKind.code_ofByte? {byte : UInt8} {kind : ResourceKind}
    (known : ResourceKind.ofByte? byte = some kind) : kind.code = byte.toNat := by
  unfold ResourceKind.ofByte? at known
  split at known
  all_goals cases known
  all_goals rfl

theorem ResourceKind.ofByte?_eq_none {byte : UInt8} :
    ResourceKind.ofByte? byte = none ↔ ¬byte ≤ 2 := by
  unfold ResourceKind.ofByte?
  split
  case h_4 none some one =>
    simp only [imp_false, ← UInt8.toNat_inj, UInt8.le_iff_toNat_le, UInt8.reduceToNat, true_iff]
      at *
    omega
  all_goals decide

theorem setPressure_checked_iff (initialized : budget.magic = magicInit) (hal : Hal)
    (pressure : UInt32) :
    EnumeratorChecked B budget ⟨hal, .setPressure pressure⟩ pressure ↔
      ¬(255 < pressure ∧ pressure % 256 ≤ 4) := by
  apply checked_iff_of_lowByte 4 (mem_upTo pressure 4)
  rcases setPressure_cases budget pressure with ⟨stored, -, known, accepted⟩ | ⟨unknown, failed⟩
  · have low : pressure.toUInt8 ≤ 4 := by
      by_contra high
      rw [Pressure.ofByte?_eq_none.mpr high] at known
      cases known
    refine Or.inl ⟨low, congrArg Prod.fst accepted, ?_⟩
    intro exactly
    change (setPressure budget pressure).2.pressure.level = pressure.toNat
    rw [accepted, ← exactly]
    exact Pressure.level_ofByte? known
  · exact Or.inr ⟨Pressure.ofByte?_eq_none.mp (unknown initialized), failed⟩

theorem setResource_checked_iff (initialized : budget.magic = magicInit) (hal : Hal)
    (id : ResourceId) (limit : UInt16) (kind : UInt32) :
    EnumeratorChecked B budget ⟨hal, .setResource id limit kind⟩ kind ↔
      ¬(id < budget.maxResources ∧ 255 < kind ∧ kind % 256 ≤ 2) := by
  rcases setResource_cases budget id limit kind with
    ⟨stored, -, inRange, known, accepted⟩ | ⟨unknown, failed⟩
  · have low : kind.toUInt8 ≤ 2 := by
      by_contra high
      rw [ResourceKind.ofByte?_eq_none.mpr high] at known
      cases known
    simp only [inRange, true_and]
    apply checked_iff_of_lowByte 2 (mem_upTo kind 2)
    refine Or.inl ⟨low, congrArg Prod.fst accepted, ?_⟩
    intro exactly
    change ((setResource budget id limit kind).2.resources id).kind.code = kind.toNat
    rw [accepted, ← exactly]
    simp only [Function.update_self]
    exact ResourceKind.code_ofByte? known
  · by_cases inRange : id < budget.maxResources
    · simp only [inRange, true_and]
      apply checked_iff_of_lowByte 2 (mem_upTo kind 2)
      exact Or.inr ⟨ResourceKind.ofByte?_eq_none.mp (unknown initialized inRange), failed⟩
    · apply iff_of_true
      · exact enumeratorChecked_of_refused failed.1 failed.2
      · intro narrows
        exact inRange narrows.1

/-! ## The calls that test the integer -/

theorem setRateLimit_checked (four : budget.FourWindows) (hal : Hal) (res : ResourceId)
    (window limit : UInt32) :
    EnumeratorChecked B budget ⟨hal, .setRateLimit res window limit⟩ window := by
  by_cases accepted :
      ((machine B).reply budget ⟨hal, .setRateLimit res window limit⟩).status = .ok
  · have enabled : B.enableRateWindows = true := by
      by_contra disabled
      simp [Machine.reply, machine, exec, disabled, Reply.ofStatus] at accepted
    rcases next_setRateLimit enabled budget hal res window limit with ⟨status, next⟩
    rw [status] at accepted
    rcases setRateLimit_ok four accepted with ⟨window_le, -, configured⟩
    rw [(toNat_index window_le).1] at configured
    apply enumeratorChecked_of_declared ((mem_upTo window 3).mpr window_le)
    intro _
    rw [next]
    refine ⟨congrArg RateWindow.windowDurationMs configured, congrArg RateWindow.limit configured,
      ?_⟩
    intro index other
    apply setRateLimit_window_ne
    intro _ same
    exact absurd (same.symm.trans (toNat_index window_le).1) other
  · exact enumeratorChecked_of_refused accepted (next_of_refused rfl accepted)

theorem isTriggerKind_iff {kind : UInt32} :
    isTriggerKind kind = true ↔ kind ∈ ([0, 32, 128, 255] : List UInt32) := by
  simp only [isTriggerKind, Bool.or_eq_true, decide_eq_true_eq, or_assoc, List.mem_cons,
    List.not_mem_nil, or_false]

theorem opMayTrigger_checked (hal : Hal) (parent child : OpId) (kind : UInt32) :
    EnumeratorChecked B budget ⟨hal, .opMayTrigger parent child kind⟩ kind := by
  have stores := (tableCalls B budget).accepted hal parent child kind
  by_cases enabled : B.enableCausality = true
  · rcases opMayTrigger_cases B budget parent child kind with
      ⟨passes, -⟩ | ⟨new, -⟩ | ⟨refused, same⟩
    · exact enumeratorChecked_of_declared (isTriggerKind_iff.mp passes.kind) stores
    · exact enumeratorChecked_of_declared (isTriggerKind_iff.mp new.kind) stores
    · rw [← reply_opMayTrigger hal enabled] at refused
      rw [← next_opMayTrigger hal enabled] at same
      exact enumeratorChecked_of_refused refused same
  · apply enumeratorChecked_of_refused
    · simp [Machine.reply, machine, exec, enabled, Reply.ofStatus]
    · simp only [Machine.next, machine, exec, if_neg enabled]

/-! ## All four calls -/

/-- In a reachable state the four calls check their enumerator, but for the two that narrow it:
these take a larger integer for the enumerator that it becomes. -/
theorem enumerators_checked_iff (reachable : Reachable B budget) (event : Event)
    (given : event.call.enumerator? = some raw) :
    EnumeratorChecked B budget event raw ↔ ¬event.call.Narrows budget := by
  have initialized : budget.magic = magicInit := reachable.wellFormed.initialized
  rcases event with ⟨hal, call⟩
  cases call with
  | setPressure pressure =>
      cases given
      exact setPressure_checked_iff initialized hal raw
  | setResource res limit kind =>
      cases given
      exact setResource_checked_iff initialized hal res limit raw
  | setRateLimit res window limit =>
      cases given
      exact iff_of_true (setRateLimit_checked reachable.fourWindows hal res raw limit) id
  | opMayTrigger parent child kind =>
      cases given
      exact iff_of_true (opMayTrigger_checked hal parent child raw) id
  | _ => cases given

/-- A pressure that is declared, and one that is not but keeps its value as a byte. -/
theorem enumerators_checked_sample :
    EnumeratorChecked Build.full .sample (.permissive (.setPressure 4)) 4 ∧
      EnumeratorChecked Build.full .sample (.permissive (.setPressure 7)) 7 :=
  have reachable := Reachable.of_started started_sample
  ⟨(enumerators_checked_iff reachable (.permissive (.setPressure 4)) rfl).mpr
      fun narrows => absurd narrows.1 (by decide),
    (enumerators_checked_iff reachable (.permissive (.setPressure 7)) rfl).mpr
      fun narrows => absurd narrows.1 (by decide)⟩

/-- The sample instance in lockdown takes 256 for `LOXBUDGET_PRESSURE_NORMAL`. -/
theorem lockdown_lifted_by_unknown :
    let budget := (machine Build.full).next .sample (.permissive (.setPressure 4))
    let event := Event.permissive (.setPressure 256)
    Reachable Build.full budget ∧ budget.pressure = .lockdown ∧
      256 ∉ event.call.declared ∧
      ((machine Build.full).reply budget event).status = .ok ∧
      ((machine Build.full).next budget event).pressure = .normal ∧
      ¬EnumeratorChecked Build.full budget event 256 := by
  refine ⟨(Reachable.of_started started_sample).run [_], by decide +kernel, by decide,
    by decide +kernel, by decide +kernel, ?_⟩
  intro checked
  exact (checked.refused (by decide)).1 (by decide +kernel)

end Loxbudget
