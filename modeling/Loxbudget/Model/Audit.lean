import Loxbudget.Model.Core

/-!
# Reading the audit ring

The query of `loxbudget_audit.c`; `loxbudget_audit_clear` stands with the other public
functions, because it writes the journal.
-/

namespace Loxbudget

/-- The index of the record that is `i` records older than the newest one. The C code computes in
`unsigned int` and narrows the result to a byte. -/
def Budget.recentIndex (budget : Budget) (i : UInt8) : UInt8 :=
  ((budget.journal.auditHead.toUInt32 - 1 - i.toUInt32) &&&
    (budget.auditSize - 1).toUInt32).toUInt8

/-- What `loxbudget_audit_get_recent` writes: the records, if it was given room for any, and their
count. -/
structure RecentRecords where
  records : List DecisionRecord
  count : UInt64
  deriving DecidableEq, Repr

/-- `loxbudget_audit_get_recent`; the flags tell whether the output pointers are non-null. -/
def auditGetRecent (budget : Budget) (out : Bool) (maxRecords : UInt64) (outCount : Bool) :
    Status × Option RecentRecords × Budget :=
  if outCount = false then (.invalidArg, none, budget)
  else if budget.validate ≠ .ok then (budget.validate, none, budget)
  else if budget.auditSize = 0 ∨ maxRecords = 0 ∨ out = false then (.ok, some ⟨[], 0⟩, budget)
  else
    let count := budget.journal.auditCount
    let toCopy := (if maxRecords < count.toUInt64 then maxRecords else count.toUInt64).toUInt8
    let records := (List.range toCopy.toNat).map fun i =>
      budget.journal.auditRing.getD (budget.recentIndex (UInt8.ofNat i)).toNat .zero
    (.ok, some ⟨records, toCopy.toUInt64⟩, budget)

end Loxbudget
