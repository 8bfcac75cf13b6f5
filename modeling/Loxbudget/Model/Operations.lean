import Loxbudget.Model.Audit
import Loxbudget.Model.BurnRate
import Loxbudget.Model.Calibration
import Loxbudget.Model.Lives

/-!
# The operations of the public header

All operations that return a status and work on an instance that `loxbudget_init` has made: the
calls on a device, `deinit`, and the two queries that only read. Every operation begins with a test
of the magic, and each of the four C files has its own copy of this test.
-/

namespace Loxbudget

/-- The C files with public operations. -/
inductive SourceFile where
  | core
  | audit
  | causality
  | calibration
  deriving DecidableEq, Repr

/-- The test of a file on a non-null instance: `loxbudget_validate_budget_` of `loxbudget_core.c`
and of `loxbudget_audit.c`, the first line of `loxbudget_op_may_trigger`, and
`lb__validate_budget_` of `loxbudget_calibration.c`. -/
def SourceFile.guard : SourceFile → UInt32 → Status
  | core, magic => if magic ≠ magicInit then .notInitialized else .ok
  | audit, magic => if magic ≠ 0x4C58424D then .notInitialized else .ok
  | causality, magic => if magic ≠ 0x4C58424D then .notInitialized else .ok
  | calibration, magic => if magic = 0 then .notInitialized else .ok

/-- The file that a call is defined in. -/
def Call.file : Call → SourceFile
  | .opMayTrigger _ _ _ => .causality
  | .auditClear => .audit
  | _ => .core

/-- The configuration macro around the declaration of a call. -/
def Call.compiledIn (B : Build) : Call → Bool
  | .opMayTrigger _ _ _ => B.enableCausality
  | .setRateLimit _ _ _ | .setLifetimeLimit _ _ => B.enableRateWindows
  | .auditClear => B.enableAuditTrail
  | _ => true

/-- The call is given no null pointer; a null decision hook is a valid argument. -/
def Call.nonNull : Call → Bool
  | .registerOp profile => profile.isSome
  | .check _ out | .enter _ out | .yieldCheck _ out | .snapshot out => out
  | _ => true

/-- An operation with its arguments, the instance pointer left out. -/
inductive Operation where
  | call (event : DeviceEvent)
  | deinit
  | getBurnRate (res : ResourceId) (out : Bool)
  | auditGetRecent (out : Bool) (maxRecords : UInt64) (outCount : Bool)

/-- The status of an operation and what it wrote through its output pointers. -/
inductive OperationReply where
  | call (reply : DeviceReply)
  | status (status : Status)
  | burnRate (status : Status) (out : Option BurnRate)
  | recent (status : Status) (out : Option RecentRecords)
  deriving DecidableEq

namespace Operation

def file : Operation → SourceFile
  | call (.core event) => event.call.file
  | call _ => .calibration
  | deinit | getBurnRate _ _ => .core
  | auditGetRecent _ _ _ => .audit

def compiledIn (B : Build) : Operation → Bool
  | call (.core event) => event.call.compiledIn B
  | call _ => B.enableCalibration
  | deinit => true
  | getBurnRate _ _ => B.enableRateWindows
  | auditGetRecent _ _ _ => B.enableAuditTrail

def nonNull : Operation → Bool
  | call (.core event) => event.call.nonNull
  | call (.calibrateBegin _ _) => true
  | call (.calibrateSample _ sample) => sample.isSome
  | call (.calibrateEnd _ out) => out
  | call (.calibrationExportSize outSize) => outSize
  | call (.calibrationExport out outWritten) => out.isSome && outWritten
  | deinit => true
  | getBurnRate _ out => out
  | auditGetRecent out _ outCount => out && outCount

/-- The effect of an operation on a device. -/
def exec (B : Build) (device : Device) : Operation → OperationReply × Device
  | call event =>
      let (reply, device) := device.exec B event
      (.call reply, device)
  | deinit =>
      let (status, budget) := Loxbudget.deinit device.budget
      (.status status, { device with budget := budget })
  | getBurnRate res out =>
      if B.enableRateWindows then
        let (status, burnRate) := Loxbudget.getBurnRate B device.budget res out
        (.burnRate status burnRate, device)
      else (.burnRate .featureDisabled none, device)
  | auditGetRecent out maxRecords outCount =>
      if B.enableAuditTrail then
        let (status, recent, budget) :=
          Loxbudget.auditGetRecent device.budget out maxRecords outCount
        (.recent status recent, { device with budget := budget })
      else (.recent .featureDisabled none, device)

/-- The reply with a status and nothing written: the buffer of an export still holds what the
caller had in it. -/
def refusal (status : Status) : Operation → OperationReply
  | call (.core _) => .call (.core (.ofStatus status))
  | call (.calibrateBegin _ _) | call (.calibrateSample _ _) => .call (.status status)
  | call (.calibrateEnd _ _) => .call (.profile status none)
  | call (.calibrationExportSize _) => .call (.size status none)
  | call (.calibrationExport out _) => .call (.bytes status out none)
  | deinit => .status status
  | getBurnRate _ _ => .burnRate status none
  | auditGetRecent _ _ _ => .recent status none

/-- An operation on a memory of any make. Before its test has passed it reads nothing but the
magic; `body` is what it does afterwards. -/
def run (B : Build) (op : Operation) {Memory : Type} (magic : Memory → UInt32)
    (body : Memory → OperationReply × Memory) (memory : Memory) : OperationReply × Memory :=
  if op.compiledIn B = false then (op.refusal .featureDisabled, memory)
  else if op.file.guard (magic memory) ≠ .ok then
    (op.refusal (op.file.guard (magic memory)), memory)
  else body memory

end Operation

end Loxbudget
