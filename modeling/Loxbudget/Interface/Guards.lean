import Loxbudget.Interface.Refusals
import Loxbudget.Model.Operations

/-!
# Instances that are not initialised

An instance whose magic is not `LOXBUDGET_MAGIC_INIT` is refused before anything else of it is
looked at, by every operation but those of the calibration. These refuse it only if the magic is
0, as `memset` and `deinit` leave it, and otherwise go on with whatever the memory holds.
-/

namespace Loxbudget

variable {B : Build} {budget : Budget} {device : Device} {op : Operation} {magic : UInt32}

/-! ## The four copies of the test -/

theorem SourceFile.guard_ok_or (file : SourceFile) (magic : UInt32) :
    file.guard magic = .ok ∨ file.guard magic = .notInitialized := by
  cases file
  all_goals exact (ite_eq_or_eq _ _ _).symm

theorem SourceFile.ne_magicInit_of_guard {file : SourceFile}
    (refuses : file.guard magic = .notInitialized) : magic ≠ magicInit := by
  rintro rfl
  cases file
  all_goals simp [guard, magicInit] at refuses

/-- Of the magics other than the right one, three files refuse all and the fourth only 0. -/
theorem SourceFile.guard_refuses_iff {file : SourceFile} (uninitialised : magic ≠ magicInit) :
    file.guard magic = .notInitialized ↔ file ≠ .calibration ∨ magic = 0 := by
  have wrong : magic ≠ 0x4C58424D := uninitialised
  cases file with
  | core => simp [guard, uninitialised]
  | audit => simp [guard, wrong]
  | causality => simp [guard, wrong]
  | calibration => simp [guard]

/-! ## Every operation begins with its test -/

/-- The reply of a call of the core that has been refused. -/
theorem exec_uninitialised (uninitialised : budget.magic ≠ magicInit) {event : Event}
    (given : event.call.nonNull = true) (compiled : event.call.compiledIn B = true) :
    exec B budget event = (.ofStatus .notInitialized, budget) := by
  have invalid : budget.validate = .notInitialized := if_pos uninitialised
  rcases event with ⟨hal, call⟩
  cases call with
  | setResource id limit kind => simp [exec, setResource, invalid]
  | registerOp profile =>
      rcases Option.isSome_iff_exists.mp given with ⟨raw, rfl⟩
      simp [exec, registerOp, invalid]
  | opSetNeed op resource amount => simp [exec, opSetNeed, invalid]
  | opMayTrigger parent child kind =>
      change B.enableCausality = true at compiled
      simp [exec, opMayTrigger, uninitialised, compiled]
  | setRateLimit res window limit =>
      change B.enableRateWindows = true at compiled
      simp [exec, setRateLimit, invalid, compiled]
  | setLifetimeLimit res lifetimeMax =>
      change B.enableRateWindows = true at compiled
      simp [exec, setLifetimeLimit, invalid, compiled]
  | setPressure pressure => simp [exec, setPressure, invalid]
  | setDecisionHook hook => simp [exec, setDecisionHook, invalid]
  | check op out => simp [exec, check, invalid, show out = true from given, Reply.ofStatus]
  | enter op out => simp [exec, enter, enterBegin, check, invalid, Reply.ofStatus]
  | leave lease => simp [exec, leave, invalid]
  | yieldCheck lease out =>
      simp [exec, yieldCheck, invalid, show out = true from given, Reply.ofStatus]
  | snapshot out => simp [exec, snapshot, invalid, show out = true from given, Reply.ofStatus]
  | auditClear =>
      change B.enableAuditTrail = true at compiled
      simp [exec, auditClear, invalid, compiled]

namespace Operation

/-- An operation that the build leaves out answers so whatever it is given. -/
theorem exec_of_not_compiledIn (missing : op.compiledIn B = false) (device : Device) :
    op.exec B device = (op.refusal .featureDisabled, device) := by
  cases op with
  | call event =>
      cases event with
      | core event =>
          rcases event with ⟨hal, call⟩
          cases call with
          | opMayTrigger parent child kind =>
              change B.enableCausality = false at missing
              simp [exec, Device.exec, Loxbudget.exec, missing, refusal]
          | setRateLimit res window limit =>
              change B.enableRateWindows = false at missing
              simp [exec, Device.exec, Loxbudget.exec, missing, refusal]
          | setLifetimeLimit res lifetimeMax =>
              change B.enableRateWindows = false at missing
              simp [exec, Device.exec, Loxbudget.exec, missing, refusal]
          | auditClear =>
              change B.enableAuditTrail = false at missing
              simp [exec, Device.exec, Loxbudget.exec, missing, refusal]
          | _ => cases missing
      | _ =>
          change B.enableCalibration = false at missing
          simp [exec, Device.exec, missing, refusal]
  | deinit => cases missing
  | getBurnRate res out =>
      change B.enableRateWindows = false at missing
      simp [exec, missing, refusal]
  | auditGetRecent out maxRecords outCount =>
      change B.enableAuditTrail = false at missing
      simp [exec, missing, refusal]

theorem core_file_ne (event : Event) : (call (.core event)).file ≠ .calibration := by
  intro calibration
  rcases event with ⟨hal, call⟩
  cases call
  all_goals cases calibration

theorem compiledIn_of_calibration (calibration : op.file = .calibration) :
    op.compiledIn B = B.enableCalibration := by
  cases op with
  | call event =>
      cases event with
      | core event => exact absurd calibration (core_file_ne event)
      | _ => rfl
  | _ => cases calibration

theorem exec_calibration {event : DeviceEvent} (calibration : (call event).file = .calibration)
    (given : (call event).nonNull = true) (compiled : B.enableCalibration = true)
    (invalid : device.budget.calibValidate = .notInitialized) :
    (call event).exec B device = ((call event).refusal .notInitialized, device) := by
  have session (op : OpId) : device.sessionStatus op true = .notInitialized := by
    simp [Device.sessionStatus, invalid]
  cases event with
  | core event => exact absurd calibration (core_file_ne event)
  | calibrateBegin op targetSamples =>
      simp [exec, Device.exec, Device.calibrateBegin, invalid, compiled, refusal]
  | calibrateSample op sample =>
      simp [exec, Device.exec, Device.calibrateSample, session,
        show sample.isSome = true from given, compiled, refusal]
  | calibrateEnd op out =>
      simp [exec, Device.exec, Device.calibrateEnd, session, show out = true from given,
        compiled, refusal]
  | calibrationExportSize outSize =>
      simp [exec, Device.exec, Device.exportSize, invalid, show outSize = true from given,
        compiled, refusal]
  | calibrationExport out outWritten =>
      rcases Bool.and_eq_true_iff.mp given with ⟨someOut, written⟩
      rcases Option.isSome_iff_exists.mp someOut with ⟨buffer, rfl⟩
      simp [exec, Device.exec, Device.calibrationExport, invalid, written, compiled, refusal]

/-- An operation whose test fails does nothing else. -/
theorem exec_of_guard (given : op.nonNull = true) (compiled : op.compiledIn B = true)
    (refuses : op.file.guard device.budget.magic = .notInitialized) :
    op.exec B device = (op.refusal .notInitialized, device) := by
  have uninitialised := SourceFile.ne_magicInit_of_guard refuses
  have invalid : device.budget.validate = .notInitialized := if_pos uninitialised
  by_cases calibration : op.file = .calibration
  · rw [compiledIn_of_calibration calibration] at compiled
    rw [calibration] at refuses
    cases op with
    | call event => exact exec_calibration calibration given compiled refuses
    | _ => cases calibration
  cases op with
  | call event =>
      cases event with
      | core event =>
          have refused := exec_uninitialised uninitialised given compiled
          simp [exec, Device.exec, refused, refusal]
      | _ => exact absurd rfl calibration
  | deinit => simp [exec, Loxbudget.deinit, invalid, refusal]
  | getBurnRate res out =>
      change B.enableRateWindows = true at compiled
      simp [exec, Loxbudget.getBurnRate, invalid, show out = true from given, compiled, refusal]
  | auditGetRecent out maxRecords outCount =>
      change B.enableAuditTrail = true at compiled
      rcases Bool.and_eq_true_iff.mp given with ⟨-, counted⟩
      simp [exec, Loxbudget.auditGetRecent, invalid, counted, compiled, refusal]

/-- On a device every operation is a run that starts with its test. -/
theorem exec_eq_run (given : op.nonNull = true) (device : Device) :
    op.exec B device =
      op.run B (fun device => device.budget.magic) (fun device => op.exec B device) device := by
  simp only [run]
  by_cases compiled : op.compiledIn B = true
  · rw [if_neg (by simp [compiled])]
    rcases op.file.guard_ok_or device.budget.magic with passes | refuses
    · rw [if_neg (not_not.mpr passes)]
    · rw [refuses, if_pos (by decide), exec_of_guard given compiled refuses]
  · have missing := Bool.not_eq_true _ ▸ compiled
    rw [if_pos missing, exec_of_not_compiledIn missing]

/-- A run whose test fails leaves the memory as it is, whatever it holds. -/
theorem run_of_guard {Memory : Type} {magicOf : Memory → UInt32} {memory : Memory}
    (compiled : op.compiledIn B = true)
    (refuses : op.file.guard (magicOf memory) = .notInitialized)
    (body : Memory → OperationReply × Memory) :
    op.run B magicOf body memory = (op.refusal .notInitialized, memory) := by
  rw [run, if_neg (by simp [compiled]), refuses, if_pos (by decide)]

end Operation

/-! ## A calibration whose test passes -/

namespace Device

theorem calibrateBegin_ne (valid : device.budget.calibValidate = .ok) (op : OpId)
    (targetSamples : UInt32) : (device.calibrateBegin op targetSamples).1 ≠ .notInitialized := by
  simp only [calibrateBegin, valid]
  split_ifs
  all_goals simp

theorem sessionStatus_ne (valid : device.budget.calibValidate = .ok) (op : OpId) (given : Bool) :
    device.sessionStatus op given ≠ .notInitialized := by
  simp only [sessionStatus, valid]
  split_ifs
  all_goals simp

theorem calibrateSample_ne (valid : device.budget.calibValidate = .ok) (op : OpId)
    (sample : Option Sample) : (device.calibrateSample op sample).1 ≠ .notInitialized := by
  have session := device.sessionStatus_ne valid op sample.isSome
  simp only [calibrateSample]
  split
  · exact session
  · cases sample
    all_goals simp

theorem calibrateEnd_ne (valid : device.budget.calibValidate = .ok) (op : OpId) (out : Bool) :
    (device.calibrateEnd op out).1 ≠ .notInitialized := by
  have session := device.sessionStatus_ne valid op out
  simp only [calibrateEnd]
  split
  · exact session
  · simp

theorem exportSize_ne (valid : device.budget.calibValidate = .ok) (outSize : Bool) :
    (device.exportSize outSize).1 ≠ .notInitialized := by
  simp only [exportSize, valid]
  split_ifs
  all_goals simp

theorem calibrationExport_ne (valid : device.budget.calibValidate = .ok)
    (out : Option (List UInt8)) (outWritten : Bool) :
    (device.calibrationExport out outWritten).1 ≠ .notInitialized := by
  have size := device.exportSize_ne valid true
  cases out with
  | none => simp [calibrationExport]
  | some buffer =>
      simp only [calibrationExport, valid]
      split_ifs
      · simp
      · simp
      · simp
      · split
        · split_ifs
          all_goals simp
        · rename_i measured
          rwa [measured] at size

end Device

namespace Operation

theorem refusal_call (status : Status) (event : DeviceEvent) :
    ∃ reply, (call event).refusal status = .call reply ∧ reply.returned = status := by
  cases event
  all_goals exact ⟨_, rfl, rfl⟩

/-- The session or the export goes on to read the other fields of the instance, and its status is
not that of the test. -/
theorem returned_ne {event : DeviceEvent} (calibration : (call event).file = .calibration)
    (compiled : B.enableCalibration = true) (valid : device.budget.calibValidate = .ok) :
    (device.exec B event).1.returned ≠ .notInitialized := by
  cases event with
  | core event => exact absurd calibration (core_file_ne event)
  | calibrateBegin op targetSamples =>
      simpa only [Device.exec, compiled, if_true, DeviceReply.returned] using
        device.calibrateBegin_ne valid op targetSamples
  | calibrateSample op sample =>
      simpa only [Device.exec, compiled, if_true, DeviceReply.returned] using
        device.calibrateSample_ne valid op sample
  | calibrateEnd op out =>
      simpa only [Device.exec, compiled, if_true, DeviceReply.returned] using
        device.calibrateEnd_ne valid op out
  | calibrationExportSize outSize =>
      simpa only [Device.exec, compiled, if_true, DeviceReply.returned] using
        device.exportSize_ne valid outSize
  | calibrationExport out outWritten =>
      simpa only [Device.exec, compiled, if_true, DeviceReply.returned] using
        device.calibrationExport_ne valid out outWritten

theorem exec_ne_refusal (calibration : op.file = .calibration)
    (compiled : op.compiledIn B = true) (valid : device.budget.calibValidate = .ok) :
    (op.exec B device).1 ≠ op.refusal .notInitialized := by
  rw [compiledIn_of_calibration calibration] at compiled
  cases op with
  | call event =>
      rcases refusal_call .notInitialized event with ⟨reply, refusal, status⟩
      rw [refusal]
      rintro ⟨⟩
      exact returned_ne calibration compiled valid status
  | _ => cases calibration

/-! ## After `deinit` and a failed `init` -/

/-- The magic 0 is refused by all four files. -/
theorem exec_of_zero (given : op.nonNull = true) (compiled : op.compiledIn B = true)
    (zero : device.budget.magic = 0) : op.exec B device = (op.refusal .notInitialized, device) := by
  have wrong : device.budget.magic ≠ magicInit := by
    rw [zero]
    decide
  exact exec_of_guard given compiled ((SourceFile.guard_refuses_iff wrong).mpr (Or.inr zero))

theorem exec_after_deinit (given : op.nonNull = true) (compiled : op.compiledIn B = true)
    (initialized : device.budget.magic = magicInit) :
    let after := (deinit.exec B device).2
    op.exec B after = (op.refusal .notInitialized, after) := by
  apply exec_of_zero given compiled
  simp [exec, Loxbudget.deinit, validate_eq_ok.mpr initialized]

/-- An `init` that finds the storage too small has already cleared the instance. -/
theorem exec_after_failed_init (given : op.nonNull = true) (compiled : op.compiledIn B = true)
    {hal : Hal} {args : InitArgs} (tested : validateInitArgs B args = .ok)
    (failed : (Device.init B hal device args).1 ≠ .ok) :
    let after := (Device.init B hal device args).2
    op.exec B after = (op.refusal .notInitialized, after) := by
  apply exec_of_zero given compiled
  rcases cfg : args.cfg with _ | config
  · simp [validateInitArgs, cfg] at tested
  · simp only [Device.init, Loxbudget.init, tested, cfg, ne_eq, not_true_eq_false, if_false]
      at failed ⊢
    by_cases large : B.layoutSize config > args.storageSize.toUInt32
    · simp [large, Budget.zero]
    · simp [large] at failed

end Operation

/-! ## All operations -/

/-- An operation on an instance whose magic is wrong. -/
structure UninitialisedCall (B : Build) (op : Operation) (magic : UInt32) : Prop where
  /-- On every device the operation is refused, writes nothing and changes nothing, but for a
  calibration and a magic that is not 0. -/
  refused_iff : op.compiledIn B = true → ∀ device : Device, device.budget.magic = magic →
    (op.exec B device = (op.refusal .notInitialized, device) ↔
      op.file ≠ .calibration ∨ magic = 0)
  /-- Where it is refused, it is refused in every memory with this magic, whatever else the memory
  holds and whatever the operation would do with it. -/
  anyContents : op.compiledIn B = true → op.file ≠ .calibration ∨ magic = 0 →
    ∀ {Memory : Type} (magicOf : Memory → UInt32) (body : Memory → OperationReply × Memory)
      (memory : Memory), magicOf memory = magic →
      op.run B magicOf body memory = (op.refusal .notInitialized, memory)
  /-- On a device the operation is such a run. -/
  begins : ∀ device : Device, op.exec B device =
    op.run B (fun device => device.budget.magic) (fun device => op.exec B device) device
  /-- The stub of an operation that the build leaves out. -/
  stub : op.compiledIn B = false → ∀ device,
    op.exec B device = (op.refusal .featureDisabled, device)

/-- An instance that is not initialised is refused by every operation, unless the operation is one
of the calibration and the magic is not 0. -/
theorem uninitialised_refused_iff (B : Build) (op : Operation) (given : op.nonNull = true)
    (uninitialised : magic ≠ magicInit) : UninitialisedCall B op magic where
  refused_iff := by
    rintro compiled device rfl
    rw [← SourceFile.guard_refuses_iff uninitialised]
    constructor
    · intro refused
      by_contra passes
      have known := (SourceFile.guard_refuses_iff uninitialised).not.mp passes
      have calibration : op.file = .calibration := not_not.mp fun other => known (Or.inl other)
      have nonzero : device.budget.magic ≠ 0 := fun zero => known (Or.inr zero)
      exact Operation.exec_ne_refusal calibration compiled (if_neg nonzero)
        (congrArg Prod.fst refused)
    · exact Operation.exec_of_guard given compiled
  anyContents := by
    rintro compiled condition Memory magicOf body memory rfl
    exact Operation.run_of_guard compiled
      ((SourceFile.guard_refuses_iff uninitialised).mpr condition) body
  begins := Operation.exec_eq_run given
  stub := fun missing device => Operation.exec_of_not_compiledIn missing device

/-- The op of a calibration that finds its magic damaged, and of a lease. -/
theorem uninitialised_refused_sample :
    UninitialisedCall Build.full (.call (.calibrateBegin 0 10)) 1 ∧
      UninitialisedCall Build.full (.call (.core (.permissive (.enter 0 true)))) 1 :=
  ⟨uninitialised_refused_iff Build.full _ rfl (by decide),
    uninitialised_refused_iff Build.full _ rfl (by decide)⟩

/-- A device with one registered op whose magic is then overwritten. -/
def Device.damaged : Device where
  budget := { (machine Build.full).run .sample (registerOps 1) with magic := 1 }
  calibOff := Build.full.calibOff ⟨8, 16, 4, 0, 0, none⟩
  slots := fun _ => .zero

/-- A session begins on it, and writes to its slot. -/
theorem calibration_begins_damaged :
    let op := Operation.call (.calibrateBegin 0 10)
    let device := Device.damaged
    op.nonNull = true ∧ op.compiledIn Build.full = true ∧ device.budget.magic ≠ magicInit ∧
      (op.exec Build.full device).1 = .call (.status .ok) ∧
      (device.slots 0).active = false ∧ ((op.exec Build.full device).2.slots 0).active = true ∧
      op.exec Build.full device ≠ (op.refusal .notInitialized, device) := by
  refine ⟨rfl, rfl, by decide, by decide +kernel, rfl, by decide +kernel, ?_⟩
  intro refused
  have status := congrArg Prod.fst refused
  revert status
  decide +kernel

end Loxbudget
