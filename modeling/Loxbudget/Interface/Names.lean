import Loxbudget.Model.Names

/-!
# Names of enumerators

The name tables of the library are indexed by the value of an enumerator, the parsers of the
scenario runner compare with one name after the other. They fit together: what the library prints
for a 32-bit value, the runner reads as the enumerator that has this value, and only for a
declared enumerator is anything printed. Of the twelve statuses the runner reads seven.
-/

namespace Loxbudget

/-- A member of a table with its name. -/
def ResourceKind.name : ResourceKind → String
  | reusable => "REUSABLE"
  | consumable => "CONSUMABLE"
  | state => "STATE"

def TriggerKind.name : TriggerKind → String
  | never => "NEVER"
  | rare => "RARE"
  | maybe => "MAYBE"
  | always => "ALWAYS"

def Pressure.name : Pressure → String
  | normal => "NORMAL"
  | elevated => "ELEVATED"
  | critical => "CRITICAL"
  | survival => "SURVIVAL"
  | lockdown => "LOCKDOWN"

def Action.name : Action → String
  | allowFull => "ALLOW_FULL"
  | allowDegraded => "ALLOW_DEGRADED"
  | wait => "WAIT"
  | reject => "REJECT"
  | lockdown => "LOCKDOWN"

def Reason.name : Reason → String
  | ok => "OK"
  | insufficientRes => "INSUFFICIENT_RES"
  | rateLimit => "RATE_LIMIT"
  | lifetimeExhausted => "LIFETIME_EXHAUSTED"
  | pressureBlock => "PRESSURE_BLOCK"
  | lockdownActive => "LOCKDOWN_ACTIVE"
  | preconditionFail => "PRECONDITION_FAIL"
  | causalCascade => "CAUSAL_CASCADE"
  | unknownOp => "UNKNOWN_OP"
  | halNotConfigured => "HAL_NOT_CONFIGURED"

def Status.name : Status → String
  | ok => "OK"
  | invalidArg => "ERR_INVALID_ARG"
  | notInitialized => "ERR_NOT_INITIALIZED"
  | noSpace => "ERR_NO_SPACE"
  | notFound => "ERR_NOT_FOUND"
  | duplicate => "ERR_DUPLICATE"
  | overflow => "ERR_OVERFLOW"
  | badState => "ERR_BAD_STATE"
  | featureDisabled => "ERR_FEATURE_DISABLED"
  | halNotConfigured => "ERR_HAL_NOT_CONFIGURED"
  | alignment => "ERR_ALIGNMENT"
  | versionMismatch => "ERR_VERSION_MISMATCH"

/-- The statuses that `parse_status_` knows. -/
def Status.readable : Status → Bool
  | ok | invalidArg | notInitialized | noSpace | notFound | badState | featureDisabled => true
  | duplicate | overflow | halNotConfigured | alignment | versionMismatch => false

/-! ## Reading a name -/

section Reading

variable {s : List Char}

/-- A parser that knows every name of its type, and no other. -/
theorem parseName_eq_some_iff {Value : Type} {table : List (String × Value)}
    (name : Value → String) (named : ∀ entry ∈ table, entry.1 = name entry.2)
    (known : ∀ value, (∃ entry ∈ table, entry.2 = value) →
      parseName table (name value).toList = some value) {value : Value} :
    parseName table s = some value ↔
      s = (name value).toList ∧ ∃ entry ∈ table, entry.2 = value := by
  constructor
  · intro parsed
    rcases List.exists_of_findSome?_eq_some parsed with ⟨entry, listed, same⟩
    split at same
    · rename_i text
      obtain rfl := Option.some.inj same
      rw [text, named entry listed]
      exact ⟨rfl, entry, listed, rfl⟩
    · cases same
  · rintro ⟨rfl, listed⟩
    exact known value listed

theorem parseKind_eq_some {kind : ResourceKind} :
    parseKind s = some kind ↔ s = kind.name.toList := by
  rw [parseKind, parseName_eq_some_iff ResourceKind.name (by decide)
    (by rintro (_ | _ | _) - <;> decide)]
  cases kind <;> simp

theorem parseTrigger_eq_some {kind : TriggerKind} :
    parseTrigger s = some kind ↔ s = kind.name.toList := by
  rw [parseTrigger, parseName_eq_some_iff TriggerKind.name (by decide)
    (by rintro (_ | _ | _ | _) - <;> decide)]
  cases kind <;> simp

theorem parsePressure_eq_some {pressure : Pressure} :
    parsePressure s = some pressure ↔ s = pressure.name.toList := by
  rw [parsePressure, parseName_eq_some_iff Pressure.name (by decide)
    (by rintro (_ | _ | _ | _ | _) - <;> decide)]
  cases pressure <;> simp

theorem parseAction_eq_some {action : Action} :
    parseAction s = some action ↔ s = action.name.toList := by
  rw [parseAction, parseName_eq_some_iff Action.name (by decide)
    (by rintro (_ | _ | _ | _ | _) - <;> decide)]
  cases action <;> simp

theorem parseReason_eq_some {reason : Reason} :
    parseReason s = some reason ↔ s = reason.name.toList := by
  rw [parseReason, parseName_eq_some_iff Reason.name (by decide)
    (by intro reason _; cases reason <;> decide)]
  cases reason <;> simp

theorem parseStatus_eq_some {status : Status} :
    parseStatus s = some status ↔ s = status.name.toList ∧ status.readable = true := by
  rw [parseStatus, parseName_eq_some_iff Status.name (by decide) ?_]
  · cases status <;> simp [Status.readable]
  · intro status listed
    cases status
    case duplicate | overflow | halNotConfigured | alignment | versionMismatch =>
      simp at listed
    all_goals decide

end Reading

/-! ## The name tables -/

/-- An index has a name exactly if it is the index of an entry, which then is its name. -/
theorem nameInRange_eq_some {table : List String} {idx : Int32} {s : String} :
    nameInRange table idx = some s ↔ 0 ≤ idx.toInt ∧ table[idx.toInt.toNat]? = some s := by
  have negative : idx < 0 ↔ idx.toInt < 0 := Int32.lt_iff_toInt_lt
  unfold nameInRange
  split
  · rename_i below
    have below' := negative.mp below
    simp only [reduceCtorEq, false_iff, not_and]
    intro above
    omega
  · rename_i above
    have above' := negative.not.mp above
    split
    · rename_i beyond
      rw [List.getElem?_eq_none_iff.mpr beyond]
      simp
    · simp only [iff_and_self]
      intro _
      omega

/-- Looking a value up in a table of names that are listed in the order of their values. -/
theorem nameInRange_raw {Value : Type} (raw : Value → Int32) (name : Value → String)
    (values : List Value)
    (raws : ∀ i, (h : i < values.length) → (raw (values.get ⟨i, h⟩)).toInt = i)
    (all : ∀ value, value ∈ values) (idx : Int32) (s : String) :
    nameInRange (values.map name) idx = some s ↔ ∃ value, raw value = idx ∧ name value = s := by
  rw [nameInRange_eq_some]
  constructor
  · rintro ⟨above, found⟩
    rw [List.getElem?_map, Option.map_eq_some_iff] at found
    rcases found with ⟨value, found, rfl⟩
    rcases List.getElem?_eq_some_iff.mp found with ⟨inRange, rfl⟩
    refine ⟨_, ?_, rfl⟩
    apply Int32.toInt.inj
    have here := raws _ inRange
    rw [List.get_eq_getElem] at here
    rw [here, Int.toNat_of_nonneg above]
  · rintro ⟨value, rfl, rfl⟩
    rcases List.get_of_mem (all value) with ⟨⟨i, inRange⟩, rfl⟩
    rw [raws i inRange]
    refine ⟨Int.natCast_nonneg i, ?_⟩
    rw [Int.toNat_natCast, List.getElem?_map, List.getElem?_eq_getElem inRange]
    rfl

theorem toInt32_inj {x y : UInt32} : x.toInt32 = y.toInt32 ↔ x = y :=
  ⟨fun same => by simpa using congrArg Int32.toUInt32 same, congrArg _⟩

theorem actionName_eq_some {x : UInt32} {s : String} :
    actionName x = some s ↔ ∃ action : Action, action.raw = x ∧ action.name = s := by
  have looked := nameInRange_raw (fun action : Action => action.raw.toInt32) Action.name
    [.allowFull, .allowDegraded, .wait, .reject, .lockdown]
    (by decide) (by rintro (_ | _ | _ | _ | _) <;> decide) x.toInt32 s
  simp only [toInt32_inj] at looked
  exact looked

theorem pressureName_eq_some {x : UInt32} {s : String} :
    pressureName x = some s ↔ ∃ pressure : Pressure, pressure.raw = x ∧ pressure.name = s := by
  have looked := nameInRange_raw (fun pressure : Pressure => pressure.raw.toInt32) Pressure.name
    [.normal, .elevated, .critical, .survival, .lockdown]
    (by decide) (by rintro (_ | _ | _ | _ | _) <;> decide) x.toInt32 s
  simp only [toInt32_inj] at looked
  exact looked

theorem reasonName_eq_some {x : UInt32} {s : String} :
    reasonName x = some s ↔ ∃ reason : Reason, reason.raw = x ∧ reason.name = s := by
  have looked := nameInRange_raw (fun reason : Reason => reason.raw.toInt32) Reason.name
    [.ok, .insufficientRes, .rateLimit, .lifetimeExhausted, .pressureBlock, .lockdownActive,
      .preconditionFail, .causalCascade, .unknownOp, .halNotConfigured]
    (by decide) (by intro reason; cases reason <;> decide) x.toInt32 s
  simp only [toInt32_inj] at looked
  exact looked

/-- The values of the statuses go down from zero, and their names are listed in this order. -/
theorem statusName_eq_some {x : Int32} {s : String} :
    statusName x = some s ↔ ∃ status : Status, status.raw = x ∧ status.name = s := by
  rw [statusName]
  split
  · have looked := nameInRange_raw (fun status : Status => -status.raw) Status.name
      [.ok, .invalidArg, .notInitialized, .noSpace, .notFound, .duplicate, .overflow, .badState,
        .featureDisabled, .halNotConfigured, .alignment, .versionMismatch]
      (by decide) (by intro status; cases status <;> decide) (-x) s
    simp only [Int32.neg_inj] at looked
    exact looked
  · rename_i positive
    apply iff_of_false
    · have beyond : nameInRange statusNames 999999 = none := by decide
      simp [beyond]
    · rintro ⟨status, rfl, -⟩
      apply positive
      cases status <;> decide

/-- The library has a name for a value exactly if it is the value of an enumerator, and the
scenario runner reads this name as the enumerator, except for five statuses. -/
theorem names_read_back :
    (∀ (x : UInt32) (s : String), actionName x = some s ↔
      ∃ action : Action, action.raw = x ∧ parseAction s.toList = some action) ∧
    (∀ (x : UInt32) (s : String), pressureName x = some s ↔
      ∃ pressure : Pressure, pressure.raw = x ∧ parsePressure s.toList = some pressure) ∧
    (∀ (x : UInt32) (s : String), reasonName x = some s ↔
      ∃ reason : Reason, reason.raw = x ∧ parseReason s.toList = some reason) ∧
    (∀ (x : Int32) (s : String), statusName x = some s ↔
      ∃ status : Status, status.raw = x ∧ status.name = s ∧
        (parseStatus s.toList = some status ↔ status.readable = true)) := by
  refine ⟨fun x s => ?_, fun x s => ?_, fun x s => ?_, fun x s => ?_⟩
  · rw [actionName_eq_some]
    simp only [parseAction_eq_some, String.toList_inj, @eq_comm _ s]
  · rw [pressureName_eq_some]
    simp only [parsePressure_eq_some, String.toList_inj, @eq_comm _ s]
  · rw [reasonName_eq_some]
    simp only [parseReason_eq_some, String.toList_inj, @eq_comm _ s]
  · rw [statusName_eq_some]
    simp only [parseStatus_eq_some, String.toList_inj]
    apply exists_congr
    intro status
    constructor
    · rintro ⟨raw, rfl⟩
      exact ⟨raw, rfl, by simp⟩
    · rintro ⟨raw, named, -⟩
      exact ⟨raw, named⟩

end Loxbudget
