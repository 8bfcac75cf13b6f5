import Mathlib.Logic.Function.Basic

/-!
# The budget instance and its tables

This file gives the data model of `loxbudget`: the enumerations of the public
header, the records kept in the caller's storage, and the instance that ties
them together. A table that the C code indexes by a checked `uint8_t` id
(resources, profiles, need lists, rate states) is a function of that id; a
table that it scans from its first entry (lease slots, need entries, trigger
edges, audit ring) is a list.

The counters, the audit ring and the calls of the decision hook are grouped in
`Journal`, because every decision writes exactly these and nothing reads them
back when it decides.
-/

namespace Loxbudget

abbrev ResourceId := UInt8
abbrev OpId := UInt8

/-- `loxbudget_status_t` -/
inductive Status where
  | ok
  | invalidArg
  | notInitialized
  | noSpace
  | notFound
  | duplicate
  | overflow
  | badState
  | featureDisabled
  | halNotConfigured
  | alignment
  | versionMismatch
  deriving DecidableEq, Repr

/-- `loxbudget_action_t` -/
inductive Action where
  | allowFull
  | allowDegraded
  | wait
  | reject
  | lockdown
  deriving DecidableEq, Repr

/-- `loxbudget_pressure_t` -/
inductive Pressure where
  | normal
  | elevated
  | critical
  | survival
  | lockdown
  deriving DecidableEq, Repr

/-- `loxbudget_resource_kind_t` -/
inductive ResourceKind where
  | reusable
  | consumable
  | state
  deriving DecidableEq, Repr

/-- `loxbudget_reason_t` -/
inductive Reason where
  | ok
  | insufficientRes
  | rateLimit
  | lifetimeExhausted
  | pressureBlock
  | lockdownActive
  | preconditionFail
  | causalCascade
  | unknownOp
  | halNotConfigured
  deriving DecidableEq, Repr

/-- `loxbudget_pressure_hint_t` -/
inductive PressureHint where
  | holding
  | rising
  | falling
  | shouldAbort
  deriving DecidableEq, Repr

namespace Action

/-- The two actions under which `enter` goes on to reserve. -/
def allows : Action → Bool
  | allowFull | allowDegraded => true
  | wait | reject | lockdown => false

/-- The action stored in a byte, if the byte is at most `LOXBUDGET_LOCKDOWN`. -/
def ofByte? : UInt8 → Option Action
  | 0 => some allowFull
  | 1 => some allowDegraded
  | 2 => some wait
  | 3 => some reject
  | 4 => some lockdown
  | _ => none

end Action

namespace Pressure

/-- The numeric value of the enumerator, which the C code compares. -/
def level : Pressure → Nat
  | normal => 0
  | elevated => 1
  | critical => 2
  | survival => 3
  | lockdown => 4

/-- The pressure stored in a byte, if the byte is at most `LOXBUDGET_PRESSURE_LOCKDOWN`. -/
def ofByte? : UInt8 → Option Pressure
  | 0 => some normal
  | 1 => some elevated
  | 2 => some critical
  | 3 => some survival
  | 4 => some lockdown
  | _ => none

end Pressure

namespace ResourceKind

/-- The kind stored in a byte, if the byte is at most `LOXBUDGET_RES_STATE`. -/
def ofByte? : UInt8 → Option ResourceKind
  | 0 => some reusable
  | 1 => some consumable
  | 2 => some state
  | _ => none

end ResourceKind

/-- The rate implementation chosen by `LOXBUDGET_RATE_IMPL`. -/
inductive RateImpl where
  | fixedWindow
  | tokenBucket
  deriving DecidableEq, Repr

/-- The compile-time configuration of a build. The last two fields are what a build must satisfy:
the static assertion on the storage header, and the range of the `uint8_t` that counts the needs
of an op. -/
structure Build where
  maxResources : Nat
  maxOps : Nat
  maxNeedsPerOp : Nat
  maxLeases : Nat
  causalityMaxEdges : Nat
  causalityMaxDepth : Nat
  calibStateSize : Nat
  enableAuditTrail : Bool
  enableRateWindows : Bool
  enableCalibration : Bool
  enableCausality : Bool
  rateImpl : RateImpl
  storageHdr_size : (4 + maxResources + maxOps + 4 + 3) / 4 * 4 = 32
  maxNeedsPerOp_lt : maxNeedsPerOp < 256

/-- The defaults of the public header, with every optional feature compiled in. -/
def Build.full : Build where
  maxResources := 8
  maxOps := 16
  maxNeedsPerOp := 4
  maxLeases := 4
  causalityMaxEdges := 32
  causalityMaxDepth := 3
  calibStateSize := 640
  enableAuditTrail := true
  enableRateWindows := true
  enableCalibration := true
  enableCausality := true
  rateImpl := .fixedWindow
  storageHdr_size := rfl
  maxNeedsPerOp_lt := by decide

/-- The bits of `loxbudget_op_profile_t.flags` that the decision engine reads. -/
def opfRequiresBootProven : UInt8 := 1
def opfRequiresVoltageOk : UInt8 := 2
def opfRequiresNetworkUp : UInt8 := 4
def opfBypassRateLimit : UInt8 := 16
def opfLockdownPass : UInt8 := 64

/-- `loxbudget_resource_t` -/
structure Resource where
  limit : UInt16
  used : UInt16
  reserved : UInt16
  highWatermark : UInt16
  kind : ResourceKind
  deriving DecidableEq, Repr

/-- A resource entry as `memset` leaves it. -/
def Resource.zero : Resource := ⟨0, 0, 0, 0, .reusable⟩

/-- `loxbudget_need_t`; an entry with amount 0 is free. -/
structure Need where
  resource : ResourceId
  amount : UInt16
  deriving DecidableEq, Repr

/-- `loxbudget_op_profile_t` as the caller passes it to `register_op`. -/
structure RawProfile where
  opId : OpId
  priority : UInt8
  actionNormal : UInt8
  actionElevated : UInt8
  actionCritical : UInt8
  actionSurvival : UInt8
  actionLockdown : UInt8
  flags : UInt8
  deriving DecidableEq, Repr

/-- A registered profile: `register_op` has checked that each of its actions is an enumerator. -/
structure OpProfile where
  opId : OpId
  priority : UInt8
  actionNormal : Action
  actionElevated : Action
  actionCritical : Action
  actionSurvival : Action
  actionLockdown : Action
  flags : UInt8
  deriving DecidableEq, Repr

/-- A profile entry as `memset` leaves it. -/
def OpProfile.zero : OpProfile :=
  ⟨0, 0, .allowFull, .allowFull, .allowFull, .allowFull, .allowFull, 0⟩

/-- Test of one flag bit of a profile. -/
def OpProfile.has (profile : OpProfile) (flag : UInt8) : Bool :=
  profile.flags &&& flag != 0

/-- `loxbudget_mapped_action_` -/
def OpProfile.mappedAction (profile : OpProfile) : Pressure → Action
  | .normal => profile.actionNormal
  | .elevated => profile.actionElevated
  | .critical => profile.actionCritical
  | .survival => profile.actionSurvival
  | .lockdown => profile.actionLockdown

/-- `loxbudget_lease_slot_t` -/
structure LeaseSlot where
  magic : UInt16
  active : Bool
  acquiredPressure : Pressure
  deriving DecidableEq, Repr

/-- A lease slot as `memset` leaves it. -/
def LeaseSlot.zero : LeaseSlot := ⟨0, false, .normal⟩

/-- `loxbudget_lease_t` -/
structure Lease where
  acquiredAtMs : UInt32
  magic : UInt16
  id : UInt8
  op : OpId
  deriving DecidableEq, Repr

/-- `lb__rate_window_t` -/
structure RateWindow where
  windowStartMs : UInt32
  windowDurationMs : UInt32
  consumed : UInt32
  limit : UInt32
  deriving DecidableEq, Repr

/-- A rate window as `memset` leaves it. -/
def RateWindow.zero : RateWindow := ⟨0, 0, 0, 0⟩

/-- `lb__rate_state_t`; the windows are listed from `SECOND` to `DAY`. -/
structure RateState where
  windows : List RateWindow
  consumedLifetime : UInt32
  limitLifetime : UInt32
  deriving DecidableEq, Repr

/-- A rate state as `memset` leaves it. -/
def RateState.zero : RateState := ⟨List.replicate 4 .zero, 0, 0⟩

/-- `lb__causality_edge_t` -/
structure Edge where
  parent : OpId
  child : OpId
  weightQ8 : UInt8
  deriving DecidableEq, Repr

/-- `loxbudget_decision_t` -/
structure Decision where
  action : Action
  pressure : Pressure
  deniedResource : ResourceId
  requested : UInt16
  available : UInt16
  reason : Reason
  deriving DecidableEq, Repr

/-- `loxbudget_decision_record_t` -/
structure DecisionRecord where
  timestampMs : UInt32
  opId : OpId
  deniedResource : ResourceId
  requested : UInt16
  available : UInt16
  action : Action
  pressure : Pressure
  reason : Reason
  deriving DecidableEq, Repr

/-- An audit record as `memset` leaves it. -/
def DecisionRecord.zero : DecisionRecord := ⟨0, 0, 0, 0, 0, .allowFull, .normal, .ok⟩

/-- Which optional queries of `loxbudget_hal_callbacks_t` are non-null. -/
structure HalCallbacks where
  bootProven : Bool
  voltageOk : Bool
  networkUp : Bool
  deriving DecidableEq, Repr

/-- The two functions that can answer a precondition query: the configured callback and the
weak default linked into the program. -/
structure HalAnswer where
  callback : UInt8
  weak : UInt8
  deriving DecidableEq, Repr

/-- What the HAL answers during one public call: the clock readings the call takes, in the order
in which it takes them, and the precondition queries. -/
structure Hal where
  nowMs : UInt32
  auditNowMs : UInt32
  commitNowMs : Nat → UInt32
  leaseNowMs : UInt32
  bootProven : HalAnswer
  voltageOk : HalAnswer
  networkUp : HalAnswer

/-- A HAL whose clock stands at `now` and whose preconditions all hold. -/
def Hal.permissive (now : UInt32) : Hal where
  nowMs := now
  auditNowMs := now
  commitNowMs := fun _ => now
  leaseNowMs := now
  bootProven := ⟨1, 1⟩
  voltageOk := ⟨1, 1⟩
  networkUp := ⟨1, 1⟩

/-- Where decisions are booked: the counters of the instance, the audit ring, and the calls made
to the decision hook so far (newest first). -/
structure Journal where
  totalDecisions : UInt32
  totalGrants : UInt32
  totalDenials : UInt32
  totalDegradations : UInt32
  auditHead : UInt8
  auditCount : UInt8
  auditRing : List DecisionRecord
  hookCalls : List (Decision × OpId)
  deriving DecidableEq, Repr

/-- `loxbudget_t` together with the tables in its storage. -/
structure Budget where
  magic : UInt32
  maxResources : UInt8
  maxOps : UInt8
  maxLeases : UInt8
  pressure : Pressure
  leaseMagicBase : UInt16
  storageSize : UInt32
  auditSize : UInt8
  decisionHook : Bool
  halCb : Option HalCallbacks
  halStrict : Bool
  journal : Journal
  resCfg : ResourceId → Bool
  opCfg : OpId → Bool
  resources : ResourceId → Resource
  ops : OpId → OpProfile
  needs : OpId → List Need
  leaseSlots : List LeaseSlot
  rateState : ResourceId → RateState
  edges : List Edge

/-- `LOXBUDGET_MAGIC_INIT` -/
def magicInit : UInt32 := 0x4C58424D

/-- `loxbudget_validate_budget_` on a non-null instance. -/
def Budget.validate (budget : Budget) : Status :=
  if budget.magic ≠ magicInit then .notInitialized else .ok

/-- `loxbudget_lease_magic_for_id_` -/
def Budget.leaseMagicForId (budget : Budget) (id : UInt8) : UInt16 :=
  budget.leaseMagicBase ^^^ id.toUInt16

/-- `loxbudget_profile_c_` -/
def Budget.profile (budget : Budget) (op : OpId) : Option OpProfile :=
  if op ≥ budget.maxOps then none
  else if budget.opCfg op = false then none
  else some (budget.ops op)

/-- `loxbudget_available_u16_` -/
def availableU16 (limit used reserved : UInt16) : UInt16 :=
  let v := limit.toUInt32
  let v := if used.toUInt32 > v then 0 else v - used.toUInt32
  let v := if reserved.toUInt32 > v then 0 else v - reserved.toUInt32
  v.toUInt16

/-- `loxbudget_available_u16_` on the fields of one resource. -/
def Resource.available (resource : Resource) : UInt16 :=
  availableU16 resource.limit resource.used resource.reserved

end Loxbudget
