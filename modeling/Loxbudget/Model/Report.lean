import Loxbudget.Lib.Bytes

/-!
# The host decoder

`_parse` of `tools/calibration_report.py`, which reads the file that a device exports, and
what the tool says about a record. A number of Python is a natural number, a `dict` made
from a record is the record itself, and `struct.unpack_from` reads little-endian fields
without padding (`<`).
-/

namespace Loxbudget

/-- The format characters of `struct` that the tool uses. -/
inductive FormatChar where
  | B
  | H
  | I
  deriving DecidableEq, Repr

/-- The bytes of a field. -/
def FormatChar.size : FormatChar → Nat
  | B => 1
  | H => 2
  | I => 4

/-- `struct.unpack_from`; `none` stands for the `struct.error` that a buffer raises which is too
short. -/
def unpackFrom (format : List FormatChar) (data : List UInt8) (off : Nat) : Option (List Nat) :=
  Bytes.unpack (format.map FormatChar.size) (data.drop off)

/-- `RecordV1` -/
structure RecordV1 where
  opId : Nat
  ramP50 : Nat
  ramP95 : Nat
  ramP99 : Nat
  ramMax : Nat
  durP95Us : Nat
  durP99Us : Nat
  durMaxUs : Nat
  suggestedRamLimit : Nat
  outlierCount : Nat
  sampleCount : Nat
  deriving DecidableEq, Repr

/-- `RecordV2` -/
structure RecordV2 where
  opId : Nat
  active : Bool
  ramP50 : Nat
  ramP95 : Nat
  ramP99 : Nat
  ramMax : Nat
  durP95Us : Nat
  durP99Us : Nat
  durMaxUs : Nat
  suggestedRamLimit : Nat
  suggestedTimeLimitUs : Nat
  outlierCount : Nat
  sampleCount : Nat
  targetSamples : Nat
  deriving DecidableEq, Repr

/-- An entry of the list that `_parse` returns. -/
inductive ReportRecord where
  | v1 (record : RecordV1)
  | v2 (record : RecordV2)
  deriving DecidableEq, Repr

/-- How `_parse` ends if it does not return: `die` prints a message and exits, and `struct`
raises an error. -/
inductive ParseFailure where
  | died (msg : String)
  | structError
  deriving DecidableEq, Repr

/-- The header: `<BBH`. -/
def headerFormat : List FormatChar := [.B, .B, .H]

/-- A record of version 1: `<BBHHHHIIIHHI`. -/
def recordFormatV1 : List FormatChar :=
  [.B, .B, .H, .H, .H, .H, .I, .I, .I, .H, .H, .I]

/-- A record of version 2: `<BBHHHHHIIIHHIII`. -/
def recordFormatV2 : List FormatChar :=
  [.B, .B, .H, .H, .H, .H, .H, .I, .I, .I, .H, .H, .I, .I, .I]

/-- The record that version 1 makes of the fields it has unpacked. -/
def recordV1 : List Nat → Option ReportRecord
  | [opId, _, ramP50, ramP95, ramP99, ramMax, durP95, durP99, durMax, suggRam, outliers,
      samples] =>
      some (.v1
        { opId := opId
          ramP50 := ramP50
          ramP95 := ramP95
          ramP99 := ramP99
          ramMax := ramMax
          durP95Us := durP95
          durP99Us := durP99
          durMaxUs := durMax
          suggestedRamLimit := suggRam
          outlierCount := outliers
          sampleCount := samples })
  | _ => none

/-- The record that version 2 makes of the fields it has unpacked. -/
def recordV2 : List Nat → Option ReportRecord
  | [opId, flags, _, ramP50, ramP95, ramP99, ramMax, durP95, durP99, durMax, suggRam,
      outliers, samples, suggTime, targetSamples] =>
      some (.v2
        { opId := opId
          active := flags &&& 1 != 0
          ramP50 := ramP50
          ramP95 := ramP95
          ramP99 := ramP99
          ramMax := ramMax
          durP95Us := durP95
          durP99Us := durP99
          durMaxUs := durMax
          suggestedRamLimit := suggRam
          suggestedTimeLimitUs := suggTime
          outlierCount := outliers
          sampleCount := samples
          targetSamples := targetSamples })
  | _ => none

/-- The loop of either version over its records of `size` bytes. -/
def parseRecords (size : Nat) (format : List FormatChar)
    (record : List Nat → Option ReportRecord) (data : List UInt8) :
    Nat → Nat → Except ParseFailure (List ReportRecord)
  | 0, _ => .ok []
  | count + 1, off =>
      if off + size > data.length then .error (.died "truncated record")
      else
        match (unpackFrom format data off).bind record with
        | none => .error .structError
        | some first => (parseRecords size format record data count (off + size)).map (first :: ·)

/-- `_parse` -/
def parse (data : List UInt8) : Except ParseFailure (Nat × List ReportRecord) :=
  if data.length < 4 then .error (.died "invalid file")
  else
    match unpackFrom headerFormat data 0 with
    | some [ver, recordCount, _] =>
        if ver = 1 then
          (parseRecords 32 recordFormatV1 recordV1 data recordCount 4).map (ver, ·)
        else if ver = 2 then
          (parseRecords 40 recordFormatV2 recordV2 data recordCount 4).map (ver, ·)
        else .error (.died s!"unsupported version {ver}")
    | _ => .error .structError

/-! ## What the tool says about a record -/

/-- `_confidence` -/
def confidence (sampleCount targetSamples : Nat) : String :=
  if targetSamples = 0 then "unknown"
  else if sampleCount ≥ targetSamples then "high"
  else if sampleCount ≥ targetSamples * 7 / 10 then "medium"
  else if sampleCount ≥ targetSamples * 3 / 10 then "low"
  else "very low"

/-- The answers of `_which_ram_rule` and `_which_time_rule`. -/
inductive RuleLabel where
  | both
  | p99
  | max
  | bothApprox
  | p99Approx
  | maxApprox
  | unknown
  deriving DecidableEq, Repr

/-- The text of an answer, by the names of the two terms. -/
def RuleLabel.text (p99Name maxName : String) : RuleLabel → String
  | both => s!"{p99Name} == {maxName}"
  | p99 => p99Name
  | max => maxName
  | bothApprox => s!"{p99Name} ~= {maxName}"
  | p99Approx => s!"{p99Name} (approx)"
  | maxApprox => s!"{maxName} (approx)"
  | unknown => "unknown rule"

/-- `abs(suggested - term) <= 1` -/
def within1 (suggested term : Nat) : Bool :=
  suggested ≤ term + 1 && term ≤ suggested + 1

/-- The tests that `_which_ram_rule` and `_which_time_rule` share: a percentile plus a margin, and
the maximum times a percentage, rounded up. -/
def whichRule (margin percent p99 max suggested : Nat) : RuleLabel :=
  let p99Term := p99 + margin
  let maxTerm := (max * percent + 99) / 100
  if suggested = p99Term ∧ suggested = maxTerm then .both
  else if suggested = p99Term then .p99
  else if suggested = maxTerm then .max
  else if within1 suggested p99Term && within1 suggested maxTerm then .bothApprox
  else if within1 suggested p99Term then .p99Approx
  else if within1 suggested maxTerm then .maxApprox
  else .unknown

/-- `_which_ram_rule` -/
def whichRamRule (ramP99 ramMax suggested : Nat) : String :=
  (whichRule 32 105 ramP99 ramMax suggested).text "p99+32B" "max*1.05"

/-- `_which_time_rule` -/
def whichTimeRule (durP99Us durMaxUs suggestedUs : Nat) : String :=
  (whichRule 500 110 durP99Us durMaxUs suggestedUs).text "p99+500us" "max*1.10"

/-- `_recommendation`. Two counts of at most 32 bits never have a quotient so near to `0.02` that
the rounding of the division decides the comparison, so it is made without one. -/
def recommendation (sampleCount targetSamples outliers : Nat) : String :=
  if targetSamples > 0 ∧ sampleCount < targetSamples then "collect more samples"
  else if sampleCount > 0 ∧ outliers * 50 ≥ sampleCount then
    "inspect outliers (possible non-typical workload spikes)"
  else "looks OK"

end Loxbudget
