import Loxbudget.Model.Core

/-!
# The needs table in the storage

The lists of all ops lie in one array, each in the `LOXBUDGET_MAX_NEEDS_PER_OP` entries from
`op * LOXBUDGET_MAX_NEEDS_PER_OP` on. Elsewhere each op has its list for itself; here are the
writes that `loxbudget_op_set_need` and `loxbudget_register_op` make to the array.
-/

namespace Loxbudget

/-- The entries of `loxbudget_needs_` by their index. -/
structure NeedsTable where
  entries : Nat → Need

namespace NeedsTable

/-- Where `list[i]` lies, for the list of one op. -/
def place (B : Build) (op : OpId) (i : Nat) : Nat :=
  op.toNat * B.maxNeedsPerOp + i

/-- The places of the list of an op, in the order of the scans. -/
def places (B : Build) (op : OpId) : List Nat :=
  (List.range B.maxNeedsPerOp).map (place B op)

/-- The list of an op. -/
def list (B : Build) (table : NeedsTable) (op : OpId) : List Need :=
  (places B op).map table.entries

/-- The two loops of `loxbudget_op_set_need`. -/
def setNeed (B : Build) (table : NeedsTable) (op : OpId) (resource : ResourceId)
    (amount : UInt16) : Status × NeedsTable :=
  match (places B op).find? fun i =>
      (table.entries i).amount ≠ 0 ∧ (table.entries i).resource = resource with
  | some i =>
      (.ok, ⟨Function.update table.entries i { table.entries i with amount := amount }⟩)
  | none =>
      match (places B op).find? fun i => (table.entries i).amount = 0 with
      | some i => (.ok, ⟨Function.update table.entries i ⟨resource, amount⟩⟩)
      | none => (.noSpace, table)

/-- The `memset` of `loxbudget_register_op`. -/
def clear (B : Build) (table : NeedsTable) (op : OpId) : NeedsTable where
  entries := fun i =>
    if op.toNat * B.maxNeedsPerOp ≤ i ∧ i < op.toNat * B.maxNeedsPerOp + B.maxNeedsPerOp then
      ⟨0, 0⟩
    else table.entries i

end NeedsTable

end Loxbudget
