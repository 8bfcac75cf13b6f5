import Loxbudget.Model.Causality

/-!
# The edge table in the storage

`lb__causality_hdr_t` counts the recorded edges, which are the first entries of the edge array.
Elsewhere the table is the list of these; here are the writes that `loxbudget_op_may_trigger`
makes to it once its arguments are accepted, with the rollback of an edge that closes a cycle.
-/

namespace Loxbudget

/-- `edge_count` and the edge array. -/
structure EdgeTable where
  edgeCount : UInt16
  edges : Nat → Edge

namespace EdgeTable

/-- The edges that the count makes part of the table. -/
def recorded (table : EdgeTable) : List Edge :=
  (List.range table.edgeCount.toNat).map table.edges

/-- The search for an edge already present. -/
def find (table : EdgeTable) (parent child : OpId) : Option Nat :=
  (List.range table.edgeCount.toNat).find? fun i =>
    (table.edges i).parent = parent ∧ (table.edges i).child = child

/-- The update of the edge that the search has found. -/
def setWeight (table : EdgeTable) (i : Nat) (weight : UInt8) : EdgeTable :=
  { table with
    edges := Function.update table.edges i { table.edges i with weightQ8 := weight } }

/-- A new edge behind the recorded ones. -/
def append (table : EdgeTable) (edge : Edge) : EdgeTable where
  edgeCount := table.edgeCount + 1
  edges := Function.update table.edges table.edgeCount.toNat edge

/-- The last edge is taken back and its entry cleared. -/
def rollback (table : EdgeTable) : EdgeTable :=
  let edgeCount := table.edgeCount - 1
  { edgeCount := edgeCount
    edges := Function.update table.edges edgeCount.toNat ⟨0, 0, 0⟩ }

/-- `loxbudget_op_may_trigger`, behind the tests of its arguments. -/
def mayTrigger (B : Build) (maxOps : UInt8) (table : EdgeTable) (parent child : OpId)
    (weight : UInt8) : Status × EdgeTable :=
  match table.find parent child with
  | some i => (.ok, table.setWeight i weight)
  | none =>
      if table.edgeCount ≥ UInt16.ofNat B.causalityMaxEdges then (.noSpace, table)
      else
        let table := table.append ⟨parent, child, weight⟩
        if pathExists B maxOps table.recorded child parent then (.badState, table.rollback)
        else (.ok, table)

end EdgeTable

/-- `loxbudget_causality_edge_count` -/
def causalityEdgeCount (B : Build) (budget : Budget) : UInt16 :=
  if budget.magic ≠ magicInit then 0
  else if budget.causalityHasStorage B = false then 0
  else UInt16.ofNat budget.edges.length

end Loxbudget
