import Loxbudget.Model.State
import Mathlib.Data.List.Basic

/-!
# Enumerators, their values and their names

The values that the public header gives to its enumerators, the name tables of
`loxbudget_strings.c`, and the parsers with which the scenario runner reads names back.
-/

namespace Loxbudget

/-- `loxbudget_trigger_kind_t` -/
inductive TriggerKind where
  | never
  | rare
  | maybe
  | always
  deriving DecidableEq, Repr

/-! ## Values -/

def TriggerKind.raw : TriggerKind → UInt32
  | never => 0
  | rare => 32
  | maybe => 128
  | always => 255

def ResourceKind.raw : ResourceKind → UInt32
  | reusable => 0
  | consumable => 1
  | state => 2

def Pressure.raw : Pressure → UInt32
  | normal => 0
  | elevated => 1
  | critical => 2
  | survival => 3
  | lockdown => 4

def Action.raw : Action → UInt32
  | allowFull => 0
  | allowDegraded => 1
  | wait => 2
  | reject => 3
  | lockdown => 4

def Reason.raw : Reason → UInt32
  | ok => 0
  | insufficientRes => 1
  | rateLimit => 2
  | lifetimeExhausted => 3
  | pressureBlock => 4
  | lockdownActive => 5
  | preconditionFail => 6
  | causalCascade => 7
  | unknownOp => 8
  | halNotConfigured => 9

def Status.raw : Status → Int32
  | ok => 0
  | invalidArg => -1
  | notInitialized => -2
  | noSpace => -3
  | notFound => -4
  | duplicate => -5
  | overflow => -6
  | badState => -7
  | featureDisabled => -8
  | halNotConfigured => -9
  | alignment => -10
  | versionMismatch => -11

/-! ## Names -/

/-- `k_action_names` -/
def actionNames : List String :=
  ["ALLOW_FULL", "ALLOW_DEGRADED", "WAIT", "REJECT", "LOCKDOWN"]

/-- `k_pressure_names` -/
def pressureNames : List String :=
  ["NORMAL", "ELEVATED", "CRITICAL", "SURVIVAL", "LOCKDOWN"]

/-- `k_reason_names` -/
def reasonNames : List String :=
  ["OK", "INSUFFICIENT_RES", "RATE_LIMIT", "LIFETIME_EXHAUSTED", "PRESSURE_BLOCK",
    "LOCKDOWN_ACTIVE", "PRECONDITION_FAIL", "CAUSAL_CASCADE", "UNKNOWN_OP",
    "HAL_NOT_CONFIGURED"]

/-- `k_status_names` -/
def statusNames : List String :=
  ["OK", "ERR_INVALID_ARG", "ERR_NOT_INITIALIZED", "ERR_NO_SPACE", "ERR_NOT_FOUND",
    "ERR_DUPLICATE", "ERR_OVERFLOW", "ERR_BAD_STATE", "ERR_FEATURE_DISABLED",
    "ERR_HAL_NOT_CONFIGURED", "ERR_ALIGNMENT", "ERR_VERSION_MISMATCH"]

/-- `lb__name_in_range_` -/
def nameInRange (table : List String) (idx : Int32) : Option String :=
  if idx < 0 then none
  else if idx.toInt.toNat ≥ table.length then none
  else table[idx.toInt.toNat]?

/-- `loxbudget_action_name` -/
def actionName (a : UInt32) : Option String :=
  nameInRange actionNames a.toInt32

/-- `loxbudget_pressure_name` -/
def pressureName (p : UInt32) : Option String :=
  nameInRange pressureNames p.toInt32

/-- `loxbudget_reason_name` -/
def reasonName (r : UInt32) : Option String :=
  nameInRange reasonNames r.toInt32

/-- `loxbudget_status_name`; the negation wraps for the least `int`. -/
def statusName (s : Int32) : Option String :=
  nameInRange statusNames (if s ≤ 0 then -s else 999999)

/-! ## Reading names back -/

/-- The comparisons of one of the `parse_..._` functions, in their order. -/
def parseName {Value : Type} (table : List (String × Value)) (s : List Char) : Option Value :=
  table.findSome? fun entry => if s = entry.1.toList then some entry.2 else none

/-- `parse_pressure_` -/
def parsePressure : List Char → Option Pressure :=
  parseName [("NORMAL", .normal), ("ELEVATED", .elevated), ("CRITICAL", .critical),
    ("SURVIVAL", .survival), ("LOCKDOWN", .lockdown)]

/-- `parse_action_` -/
def parseAction : List Char → Option Action :=
  parseName [("ALLOW_FULL", .allowFull), ("ALLOW_DEGRADED", .allowDegraded), ("WAIT", .wait),
    ("REJECT", .reject), ("LOCKDOWN", .lockdown)]

/-- `parse_reason_` -/
def parseReason : List Char → Option Reason :=
  parseName [("OK", .ok), ("INSUFFICIENT_RES", .insufficientRes), ("RATE_LIMIT", .rateLimit),
    ("LIFETIME_EXHAUSTED", .lifetimeExhausted), ("PRESSURE_BLOCK", .pressureBlock),
    ("LOCKDOWN_ACTIVE", .lockdownActive), ("PRECONDITION_FAIL", .preconditionFail),
    ("CAUSAL_CASCADE", .causalCascade), ("UNKNOWN_OP", .unknownOp),
    ("HAL_NOT_CONFIGURED", .halNotConfigured)]

/-- `parse_trigger_` -/
def parseTrigger : List Char → Option TriggerKind :=
  parseName [("NEVER", .never), ("RARE", .rare), ("MAYBE", .maybe), ("ALWAYS", .always)]

/-- `parse_status_`; five of the statuses have no name here. -/
def parseStatus : List Char → Option Status :=
  parseName [("OK", .ok), ("ERR_INVALID_ARG", .invalidArg),
    ("ERR_NOT_INITIALIZED", .notInitialized), ("ERR_NO_SPACE", .noSpace),
    ("ERR_NOT_FOUND", .notFound), ("ERR_BAD_STATE", .badState),
    ("ERR_FEATURE_DISABLED", .featureDisabled)]

/-- `parse_kind_` -/
def parseKind : List Char → Option ResourceKind :=
  parseName [("REUSABLE", .reusable), ("CONSUMABLE", .consumable), ("STATE", .state)]

end Loxbudget
