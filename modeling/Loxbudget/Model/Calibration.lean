import Loxbudget.Model.Calls
import Loxbudget.Model.Quantile

/-!
# Calibration sessions

`loxbudget_calibration.c` keeps one slot for each op. A session feeds the samples of an
op to five quantile estimators and to the running maxima; its end reports them together
with the limits that it suggests. The export writes a record for each op that has
samples or an active session.

The slots lie in the storage of the instance, at an offset that `loxbudget_init`
computes and no other call writes to: they and the instance make a `Device`. The buffer
of an export is the list of its bytes, and its length is the size that the caller
passes.
-/

namespace Loxbudget

/-- The fields of `loxbudget_sample_t` that a session reads. -/
structure Sample where
  ramUsed : UInt16
  durationUs : UInt32
  deriving DecidableEq, Repr

/-- `loxbudget_suggested_profile_t` -/
structure SuggestedProfile where
  ramP50 : UInt16
  ramP95 : UInt16
  ramP99 : UInt16
  ramMax : UInt16
  durationP95Us : UInt32
  durationP99Us : UInt32
  durationMaxUs : UInt32
  suggestedRamLimit : UInt16
  suggestedTimeLimitUs : UInt32
  outlierCount : UInt16
  sampleCount : UInt32
  deriving DecidableEq, Repr

/-- `lb__calib_state_t` -/
structure CalibState where
  active : Bool
  opId : OpId
  targetSamples : UInt32
  sampleCount : UInt32
  ramP50 : P2Estimator
  ramP95 : P2Estimator
  ramP99 : P2Estimator
  durP95 : P2Estimator
  durP99 : P2Estimator
  ramMax : UInt16
  ramMaxAt500 : UInt16
  outlierCount : UInt16
  durMaxUs : UInt32

namespace CalibState

/-- A slot as `memset` leaves it. -/
def zero : CalibState where
  active := false
  opId := 0
  targetSamples := 0
  sampleCount := 0
  ramP50 := .zero
  ramP95 := .zero
  ramP99 := .zero
  durP95 := .zero
  durP99 := .zero
  ramMax := 0
  ramMaxAt500 := 0
  outlierCount := 0
  durMaxUs := 0

/-- The slot that `loxbudget_calibrate_begin` leaves. -/
def started (op : OpId) (targetSamples : UInt32) : CalibState :=
  { zero with
    active := true
    opId := op
    targetSamples := targetSamples
    ramP50 := p2Init 0x8000
    ramP95 := p2Init 0xF333
    ramP99 := p2Init 0xFD70
    durP95 := p2Init 0xF333
    durP99 := p2Init 0xFD70 }

/-- The outlier detection of `loxbudget_calibrate_sample`. -/
def countOutlier (s : CalibState) (ramUsed : UInt16) : CalibState :=
  let p99 := s.ramP99.getQQ16
  let xQ16 := ramUsed.toUInt64 <<< 16
  if xQ16 > p99.toUInt64 + (p99 >>> 1).toUInt64 then
    { s with outlierCount := s.outlierCount + 1 }
  else if s.sampleCount > 500 ∧ s.ramMaxAt500 ≠ 0 then
    let thr := s.ramMaxAt500.toUInt32 * 12 / 10
    if ramUsed.toUInt32 > thr then { s with outlierCount := s.outlierCount + 1 } else s
  else s

/-- What `loxbudget_calibrate_sample` makes of a slot. -/
def addSample (s : CalibState) (sample : Sample) : CalibState :=
  let s := { s with sampleCount := s.sampleCount + 1 }
  let s := if sample.ramUsed > s.ramMax then { s with ramMax := sample.ramUsed } else s
  let s := if sample.durationUs > s.durMaxUs then { s with durMaxUs := sample.durationUs } else s
  let s := if s.sampleCount = 500 then { s with ramMaxAt500 := s.ramMax } else s
  let s := { s with
    ramP50 := s.ramP50.addSample 0x8000 sample.ramUsed.toUInt32
    ramP95 := s.ramP95.addSample 0xF333 sample.ramUsed.toUInt32
    ramP99 := s.ramP99.addSample 0xFD70 sample.ramUsed.toUInt32 }
  let s := s.countOutlier sample.ramUsed
  { s with
    durP95 := s.durP95.addSample 0xF333 sample.durationUs
    durP99 := s.durP99.addSample 0xFD70 sample.durationUs }

/-- `lb__calib_compute_suggested_` -/
def computeSuggested (s : CalibState) : SuggestedProfile :=
  let ramP99 := (s.ramP99.getQQ16 >>> 16).toUInt16
  let durationP99Us := s.durP99.getQQ16 >>> 16
  { ramP50 := (s.ramP50.getQQ16 >>> 16).toUInt16
    ramP95 := (s.ramP95.getQQ16 >>> 16).toUInt16
    ramP99 := ramP99
    ramMax := s.ramMax
    durationP95Us := s.durP95.getQQ16 >>> 16
    durationP99Us := durationP99Us
    durationMaxUs := s.durMaxUs
    outlierCount := s.outlierCount
    sampleCount := s.sampleCount
    suggestedRamLimit :=
      let p99Plus := (ramP99.toUInt32 + 32).toUInt16
      let maxPlus5pct := (s.ramMax.toUInt32 * 105 / 100).toUInt16
      if p99Plus > maxPlus5pct then p99Plus else maxPlus5pct
    suggestedTimeLimitUs :=
      let p99Plus := durationP99Us + 500
      let maxPlus10pct := s.durMaxUs * 110 / 100
      if p99Plus > maxPlus10pct then p99Plus else maxPlus10pct }

/-- The ops with a record in the export. -/
def recorded (s : CalibState) : Bool :=
  s.sampleCount ≠ 0 ∨ s.active

end CalibState

/-! ## The calls -/

/-- The instance, `calib_off`, and the calibration slots in its storage. -/
structure Device where
  budget : Budget
  calibOff : UInt32
  slots : OpId → CalibState

/-- The offset of the slots that `loxbudget_init` lays out. -/
def Build.calibOff (B : Build) (cfg : Config) : UInt32 :=
  let off : UInt32 := 0
  let off := alignUp (off + 32)
  let off := alignUp (off + cfg.maxResources.toUInt32 * 12)
  let off := alignUp (off + cfg.maxOps.toUInt32 * 8)
  let off := alignUp (off + cfg.maxOps.toUInt32 * UInt32.ofNat B.maxNeedsPerOp * 4)
  let off := alignUp (off + cfg.maxConcurrentLeases.toUInt32 * 4)
  let off := alignUp (off + cfg.auditSize.toUInt32 * 16)
  let off := if B.enableRateWindows then alignUp (off + cfg.maxResources.toUInt32 * 72) else off
  if B.enableCalibration then off else 0

/-- `lb__validate_budget_` of `loxbudget_calibration.c` on a non-null instance. -/
def Budget.calibValidate (budget : Budget) : Status :=
  if budget.magic = 0 then .notInitialized else .ok

/-- `lb__op_registered_` -/
def Budget.opRegistered (budget : Budget) (op : OpId) : Bool :=
  if op ≥ budget.maxOps then false else budget.opCfg op

namespace Device

/-- `loxbudget_init`, with the offset and the slots. -/
def init (B : Build) (hal : Hal) (device : Device) (args : InitArgs) : Status × Device :=
  let (status, budget) := Loxbudget.init B hal device.budget args
  if validateInitArgs B args ≠ .ok then (status, device)
  else
    match args.cfg with
    | none => (status, device)
    | some cfg =>
        if status ≠ .ok then (status, { device with budget := budget, calibOff := 0 })
        else
          let calibOff := B.calibOff cfg
          (status,
            ⟨budget, calibOff, if calibOff ≠ 0 then fun _ => .zero else device.slots⟩)

/-- `loxbudget_calibrate_begin` -/
def calibrateBegin (device : Device) (op : OpId) (targetSamples : UInt32) : Status × Device :=
  if device.budget.calibValidate ≠ .ok then (device.budget.calibValidate, device)
  else if targetSamples = 0 then (.invalidArg, device)
  else if device.calibOff = 0 then (.noSpace, device)
  else if op ≥ device.budget.maxOps then (.invalidArg, device)
  else if device.budget.opRegistered op = false then (.notFound, device)
  else if (device.slots op).active then (.badState, device)
  else
    (.ok, { device with
      slots := Function.update device.slots op (.started op targetSamples) })

/-- The tests that `loxbudget_calibrate_sample` and `loxbudget_calibrate_end` share; `given` tells
whether their pointer argument is not null. -/
def sessionStatus (device : Device) (op : OpId) (given : Bool) : Status :=
  if given = false then .invalidArg
  else if device.budget.calibValidate ≠ .ok then device.budget.calibValidate
  else if device.calibOff = 0 then .noSpace
  else if op ≥ device.budget.maxOps then .invalidArg
  else if device.budget.opRegistered op = false then .notFound
  else if (device.slots op).active = false ∨ (device.slots op).opId ≠ op then .badState
  else .ok

/-- `loxbudget_calibrate_sample` -/
def calibrateSample (device : Device) (op : OpId) (sample : Option Sample) : Status × Device :=
  if device.sessionStatus op sample.isSome ≠ .ok then
    (device.sessionStatus op sample.isSome, device)
  else
    match sample with
    | none => (.invalidArg, device)
    | some sample =>
        (.ok, { device with
          slots := Function.update device.slots op ((device.slots op).addSample sample) })

/-- `loxbudget_calibrate_end` -/
def calibrateEnd (device : Device) (op : OpId) (out : Bool) :
    Status × Option SuggestedProfile × Device :=
  if device.sessionStatus op out ≠ .ok then (device.sessionStatus op out, none, device)
  else
    (.ok, some (device.slots op).computeSuggested,
      { device with
        slots := Function.update device.slots op { device.slots op with active := false } })

end Device

/-! ## The export -/

/-- `lb__write_u16_le_` at an offset of the buffer. -/
def writeU16Le (p : List UInt8) (off : Nat) (v : UInt16) : List UInt8 :=
  (p.set off (v &&& 0xFF).toUInt8).set (off + 1) ((v >>> 8) &&& 0xFF).toUInt8

/-- `lb__write_u32_le_` at an offset of the buffer. -/
def writeU32Le (p : List UInt8) (off : Nat) (v : UInt32) : List UInt8 :=
  (((p.set off (v &&& 0xFF).toUInt8).set (off + 1) ((v >>> 8) &&& 0xFF).toUInt8).set (off + 2)
    ((v >>> 16) &&& 0xFF).toUInt8).set (off + 3) ((v >>> 24) &&& 0xFF).toUInt8

/-- The record of 40 bytes that `loxbudget_calibration_export` writes for an op. -/
def writeRecord (p : List UInt8) (off : Nat) (op : OpId) (s : CalibState) : List UInt8 :=
  let sugg := s.computeSuggested
  let p := p.set off op
  let p := p.set (off + 1) (if s.active then 1 else 0)
  let p := writeU16Le p (off + 2) 0
  let p := writeU16Le p (off + 4) sugg.ramP50
  let p := writeU16Le p (off + 6) sugg.ramP95
  let p := writeU16Le p (off + 8) sugg.ramP99
  let p := writeU16Le p (off + 10) sugg.ramMax
  let p := writeU32Le p (off + 12) sugg.durationP95Us
  let p := writeU32Le p (off + 16) sugg.durationP99Us
  let p := writeU32Le p (off + 20) sugg.durationMaxUs
  let p := writeU16Le p (off + 24) sugg.suggestedRamLimit
  let p := writeU16Le p (off + 26) sugg.outlierCount
  let p := writeU32Le p (off + 28) sugg.sampleCount
  let p := writeU32Le p (off + 32) sugg.suggestedTimeLimitUs
  writeU32Le p (off + 36) s.targetSamples

namespace Device

/-- The ops that the loops of the export run over. -/
def opIds (device : Device) : List OpId :=
  (List.range device.budget.maxOps.toNat).map UInt8.ofNat

/-- The counting loop of both exports. -/
def recCount (device : Device) : UInt32 :=
  device.opIds.foldl (fun n op => if (device.slots op).recorded then n + 1 else n) 0

/-- `loxbudget_calibration_export_size` -/
def exportSize (device : Device) (outSize : Bool) : Status × Option Nat :=
  if outSize = false then (.invalidArg, none)
  else if device.budget.calibValidate ≠ .ok then (device.budget.calibValidate, none)
  else if device.calibOff = 0 then (.noSpace, none)
  else (.ok, some (4 + device.recCount.toNat * 40))

/-- An iteration of the writing loop of `loxbudget_calibration_export`, on the buffer and the
offset. -/
def writeOp (device : Device) (written : List UInt8 × Nat) (op : OpId) : List UInt8 × Nat :=
  if (device.slots op).recorded = false then written
  else (writeRecord written.1 written.2 op (device.slots op), written.2 + 40)

/-- The writing loop. -/
def writeRecords (device : Device) (p : List UInt8) (off : Nat) : List UInt8 × Nat :=
  device.opIds.foldl device.writeOp (p, off)

/-- `loxbudget_calibration_export`; besides the status it returns what the buffer holds
afterwards and the value of `out_written`. -/
def calibrationExport (device : Device) (out : Option (List UInt8)) (outWritten : Bool) :
    Status × Option (List UInt8) × Option Nat :=
  match out with
  | none => (.invalidArg, none, none)
  | some buffer =>
      if outWritten = false then (.invalidArg, some buffer, none)
      else if device.budget.calibValidate ≠ .ok then
        (device.budget.calibValidate, some buffer, none)
      else if device.calibOff = 0 then (.noSpace, some buffer, none)
      else
        match device.exportSize true with
        | (.ok, some need) =>
            if buffer.length < need then (.noSpace, some buffer, none)
            else
              let p := buffer.set 0 2
              let p := p.set 1 device.recCount.toUInt8
              let p := p.set 2 0
              let p := p.set 3 0
              let (p, off) := device.writeRecords p 4
              (.ok, some p, some off)
        | (status, _) => (status, some buffer, none)

end Device

/-! ## Runs -/

/-- A public call on a device: a call of the core, or one of the calibration. -/
inductive DeviceEvent where
  | core (event : Event)
  | calibrateBegin (op : OpId) (targetSamples : UInt32)
  | calibrateSample (op : OpId) (sample : Option Sample)
  | calibrateEnd (op : OpId) (out : Bool)
  | calibrationExportSize (outSize : Bool)
  | calibrationExport (out : Option (List UInt8)) (outWritten : Bool)

/-- The answer to it. -/
inductive DeviceReply where
  | core (reply : Reply)
  | status (status : Status)
  | profile (status : Status) (out : Option SuggestedProfile)
  | size (status : Status) (outSize : Option Nat)
  | bytes (status : Status) (out : Option (List UInt8)) (outWritten : Option Nat)
  deriving DecidableEq

/-- The effect of one public call on a device. -/
def Device.exec (B : Build) (device : Device) : DeviceEvent → DeviceReply × Device
  | .core event =>
      let (reply, budget) := Loxbudget.exec B device.budget event
      (.core reply, { device with budget := budget })
  | .calibrateBegin op targetSamples =>
      if B.enableCalibration then
        let (status, device) := device.calibrateBegin op targetSamples
        (.status status, device)
      else (.status .featureDisabled, device)
  | .calibrateSample op sample =>
      if B.enableCalibration then
        let (status, device) := device.calibrateSample op sample
        (.status status, device)
      else (.status .featureDisabled, device)
  | .calibrateEnd op out =>
      if B.enableCalibration then
        let (status, profile, device) := device.calibrateEnd op out
        (.profile status profile, device)
      else (.profile .featureDisabled none, device)
  | .calibrationExportSize outSize =>
      if B.enableCalibration then
        let (status, size) := device.exportSize outSize
        (.size status size, device)
      else (.size .featureDisabled none, device)
  | .calibrationExport out outWritten =>
      if B.enableCalibration then
        let (status, bytes, written) := device.calibrationExport out outWritten
        (.bytes status bytes written, device)
      else (.bytes .featureDisabled out none, device)

/-- The device as a machine over public calls. -/
def deviceMachine (B : Build) : Machine Device DeviceEvent DeviceReply where
  exec := Device.exec B

/-- A device before its first `init`. -/
def Device.zero : Device :=
  ⟨.zero, 0, fun _ => .zero⟩

/-- The state right after a successful `init`. -/
def Device.Started (B : Build) (device : Device) : Prop :=
  ∃ hal previous args, Device.init B hal previous args = (.ok, device)

/-- The states that public calls reach from a successful `init`. -/
def Device.Reachable (B : Build) (device : Device) : Prop :=
  ∃ start, Device.Started B start ∧ ∃ events, device = (deviceMachine B).run start events

end Loxbudget
