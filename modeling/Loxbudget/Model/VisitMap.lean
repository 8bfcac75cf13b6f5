import Loxbudget.Model.Causality

/-!
# The visited bitmap in the storage

The ops that the cascade walk has taken from its stack are marked in a bitmap behind the edge
array, which stays in the storage from one walk to the next. Elsewhere each walk has its own list
of these ops; here is the walk that finds the bitmap as an earlier one has left it.
-/

namespace Loxbudget

/-- The bytes from `lb__causality_visited_` on. -/
structure VisitMap where
  bits : Nat → UInt8

namespace VisitMap

/-- `lb__visit_clear_` -/
def clear (visited : VisitMap) (nbits : UInt8) : VisitMap where
  bits := fun byte =>
    if byte < ((nbits.toUInt32 + 7) / 8).toNat then 0 else visited.bits byte

/-- `bit >> 3` -/
def byteOf (bit : OpId) : Nat :=
  (bit.toUInt32 >>> 3).toNat

/-- `(uint8_t)(1u << (bit & 7u))` -/
def mask (bit : OpId) : UInt8 :=
  ((1 : UInt32) <<< (bit.toUInt32 &&& 7)).toUInt8

/-- `lb__visit_test_` -/
def test (visited : VisitMap) (bit : OpId) : Bool :=
  visited.bits (byteOf bit) &&& mask bit != 0

/-- `lb__visit_set_` -/
def set (visited : VisitMap) (bit : OpId) : VisitMap where
  bits := Function.update visited.bits (byteOf bit) (visited.bits (byteOf bit) ||| mask bit)

end VisitMap

/-- The local variables of `lb__causality_add_scaled_needs_` and the bitmap. -/
structure StoredWalk where
  visited : VisitMap
  stack : List WalkEntry
  needPerRes : NeedPerRes

/-- The scan of the edge array for the children of `cur`, which was pushed at `depth`. -/
def StoredWalk.scan (B : Build) (budget : Budget) (pressure : Pressure) (cur : OpId)
    (depth : UInt8) : List Edge → StoredWalk → StoredWalk
  | [], walk => walk
  | edge :: rest, walk =>
      if edge.parent ≠ cur then scan B budget pressure cur depth rest walk
      else if edge.weightQ8 = 0 then scan B budget pressure cur depth rest walk
      else if edge.child ≥ budget.maxOps then scan B budget pressure cur depth rest walk
      else if walk.visited.test edge.child then scan B budget pressure cur depth rest walk
      else if edge.weightQ8 = triggerRare ∧ pressure.level < Pressure.critical.level then
        scan B budget pressure cur depth rest walk
      else
        scan B budget pressure cur depth rest
          { walk with
            needPerRes := addScaledNeeds budget.maxResources edge.weightQ8
              (budget.needs edge.child) walk.needPerRes
            stack := pushBounded B.stackCapacity ⟨edge.child, depth + 1⟩ walk.stack }

/-- The body of the `while` loop of `lb__causality_add_scaled_needs_`. -/
def StoredWalk.step (B : Build) (budget : Budget) (pressure : Pressure) (walk : StoredWalk) :
    StoredWalk :=
  match walk.stack with
  | [] => walk
  | cur :: stack =>
      if walk.visited.test cur.op then { walk with stack := stack }
      else if cur.depth ≥ UInt8.ofNat B.causalityMaxDepth then
        { walk with visited := walk.visited.set cur.op, stack := stack }
      else
        StoredWalk.scan B budget pressure cur.op cur.depth budget.edges
          { walk with visited := walk.visited.set cur.op, stack := stack }

/-- The state in which `lb__causality_add_scaled_needs_` enters its loop. -/
def StoredWalk.start (maxOps : UInt8) (root : OpId) (needPerRes : NeedPerRes)
    (visited : VisitMap) : StoredWalk where
  visited := visited.clear maxOps
  stack := [⟨root, 0⟩]
  needPerRes := needPerRes

/-- `lb__causality_add_scaled_needs_` with the bitmap that it finds and leaves. -/
def storedAddScaledNeeds (B : Build) (budget : Budget) (root : OpId) (needPerRes : NeedPerRes)
    (pressure : Pressure) (visited : VisitMap) : Option NeedPerRes × VisitMap :=
  if budget.causalityHasStorage B = false then (none, visited)
  else if root ≥ budget.maxOps then (none, visited)
  else
    let walk := (StoredWalk.step B budget pressure)^[budget.edges.length + 1]
      (StoredWalk.start budget.maxOps root needPerRes visited)
    (some walk.needPerRes, walk.visited)

end Loxbudget
