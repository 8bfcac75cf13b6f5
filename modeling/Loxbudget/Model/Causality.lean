import Loxbudget.Model.State
import Mathlib.Logic.Function.Iterate

/-!
# Trigger edges and the two graph walks

`loxbudget_causality.c` keeps a table of trigger edges and walks it twice: to
reject an edge that would close a cycle, and to add the scaled needs of the
ops that a checked op may trigger. Both walks keep an explicit stack of
`LOXBUDGET_MAX_OPS` entries and a bitmap of the ops already taken from it.

Each `while` loop is given by its body, `PathState.step` and `WalkState.step`,
which does nothing once the loop has ended. An op is expanded at most once, so
the loop body runs at most `edge_count + 1` times; the functions iterate it that
often, and `Loxbudget.Cascade.Walk` proves that the loop has ended by then.
-/

namespace Loxbudget

/-- `LOXBUDGET_TRIGGER_RARE` as it is stored in an edge. -/
def triggerRare : UInt8 := 32

/-- `LOXBUDGET_TRIGGER_ALWAYS` as it is stored in an edge. -/
def triggerAlways : UInt8 := 255

/-- `LOXBUDGET_ALIGN_UP` to four bytes. -/
def alignUp (v : UInt32) : UInt32 :=
  (v + 3) &&& ~~~(3 : UInt32)

/-- `lb__causality_off_` -/
def Build.causalityOff (B : Build) (maxResources maxOps maxLeases auditSize : UInt8) : UInt32 :=
  let off : UInt32 := 0
  let off := alignUp (off + 32)
  let off := alignUp (off + maxResources.toUInt32 * 12)
  let off := alignUp (off + maxOps.toUInt32 * 8)
  let off := alignUp (off + maxOps.toUInt32 * UInt32.ofNat B.maxNeedsPerOp * 4)
  let off := alignUp (off + maxLeases.toUInt32 * 4)
  let off := alignUp (off + auditSize.toUInt32 * 16)
  let off := if B.enableRateWindows then alignUp (off + maxResources.toUInt32 * 72) else off
  if B.enableCalibration then alignUp (off + maxOps.toUInt32 * UInt32.ofNat B.calibStateSize)
  else off

/-- The bytes of the causality block: header, edge array, visited bitmap. -/
def Build.causalityBytes (B : Build) (maxOps : UInt8) : UInt32 :=
  4 + UInt32.ofNat B.causalityMaxEdges * 4 + (maxOps.toUInt32 + 7) / 8

/-- `lb__causality_has_storage_` -/
def Budget.causalityHasStorage (B : Build) (budget : Budget) : Bool :=
  B.causalityOff budget.maxResources budget.maxOps budget.maxLeases budget.auditSize +
    B.causalityBytes budget.maxOps ≤ budget.storageSize

/-- The bound `(uint16_t)LOXBUDGET_MAX_OPS` on the stack index of both walks. -/
def Build.stackCapacity (B : Build) : Nat :=
  B.maxOps % 65536

/-- Push onto a stack of bounded size; a push onto a full stack is dropped. -/
def pushBounded {Entry : Type*} (capacity : Nat) (entry : Entry) (stack : List Entry) :
    List Entry :=
  if stack.length < capacity then entry :: stack else stack

/-! ## Cycle detection -/

/-- The local variables of `lb__path_exists_`; `found` is set by the early return. -/
structure PathState where
  visited : List OpId
  stack : List OpId
  found : Bool
  deriving DecidableEq, Repr

/-- The scan of the edge array for the children of `cur`. -/
def PathState.scan (B : Build) (maxOps goal cur : OpId) : List Edge → PathState → PathState
  | [], path => path
  | edge :: rest, path =>
      if edge.parent ≠ cur then scan B maxOps goal cur rest path
      else if edge.child = goal then { path with found := true }
      else if edge.child ≥ maxOps then scan B maxOps goal cur rest path
      else if edge.child ∈ path.visited then scan B maxOps goal cur rest path
      else
        scan B maxOps goal cur rest
          { path with stack := pushBounded B.stackCapacity edge.child path.stack }

/-- The body of the `while` loop of `lb__path_exists_`. -/
def PathState.step (B : Build) (maxOps goal : OpId) (edges : List Edge) (path : PathState) :
    PathState :=
  if path.found then path
  else
    match path.stack with
    | [] => path
    | cur :: stack =>
        if cur ∈ path.visited then { path with stack := stack }
        else
          PathState.scan B maxOps goal cur edges
            { path with visited := cur :: path.visited, stack := stack }

/-- The state in which `lb__path_exists_` enters its loop. -/
def PathState.start (start : OpId) : PathState where
  visited := []
  stack := [start]
  found := false

/-- `lb__path_exists_` -/
def pathExists (B : Build) (maxOps : UInt8) (edges : List Edge) (start goal : OpId) : Bool :=
  if start ≥ maxOps ∨ goal ≥ maxOps then false
  else if start = goal then true
  else ((PathState.step B maxOps goal edges)^[edges.length + 1] (PathState.start start)).found

/-! ## The cascade walk -/

/-- The per-resource accumulator `need_per_res` of `loxbudget_check`. -/
abbrev NeedPerRes := ResourceId → UInt16

/-- Saturating addition to one entry of the accumulator. -/
def NeedPerRes.addSat (needPerRes : NeedPerRes) (resource : ResourceId) (amount : UInt32) :
    NeedPerRes :=
  let sum := (needPerRes resource).toUInt32 + amount
  let sum := if sum > 0xFFFF then 0xFFFF else sum
  Function.update needPerRes resource sum.toUInt16

/-- `(amount * weight + 128) >> 8` -/
def scaledNeed (amount : UInt16) (weight : UInt8) : UInt32 :=
  (amount.toUInt32 * weight.toUInt32 + 128) >>> 8

/-- The loop that adds the scaled needs of one child. -/
def addScaledNeeds (maxResources : UInt8) (weight : UInt8) :
    List Need → NeedPerRes → NeedPerRes
  | [], needPerRes => needPerRes
  | need :: rest, needPerRes =>
      if need.amount = 0 then addScaledNeeds maxResources weight rest needPerRes
      else if need.resource ≥ maxResources then addScaledNeeds maxResources weight rest needPerRes
      else
        addScaledNeeds maxResources weight rest
          (needPerRes.addSat need.resource (scaledNeed need.amount weight))

/-- A stack entry of the cascade walk: an op and the depth at which it was pushed. -/
structure WalkEntry where
  op : OpId
  depth : UInt8
  deriving DecidableEq, Repr

/-- The local variables of `lb__causality_add_scaled_needs_`. -/
structure WalkState where
  visited : List OpId
  stack : List WalkEntry
  needPerRes : NeedPerRes

/-- The scan of the edge array for the children of `cur`, which was pushed at `depth`. -/
def WalkState.scan (B : Build) (budget : Budget) (pressure : Pressure) (cur : OpId)
    (depth : UInt8) : List Edge → WalkState → WalkState
  | [], walk => walk
  | edge :: rest, walk =>
      if edge.parent ≠ cur then scan B budget pressure cur depth rest walk
      else if edge.weightQ8 = 0 then scan B budget pressure cur depth rest walk
      else if edge.child ≥ budget.maxOps then scan B budget pressure cur depth rest walk
      else if edge.child ∈ walk.visited then scan B budget pressure cur depth rest walk
      else if edge.weightQ8 = triggerRare ∧ pressure.level < Pressure.critical.level then
        scan B budget pressure cur depth rest walk
      else
        scan B budget pressure cur depth rest
          { walk with
            needPerRes := addScaledNeeds budget.maxResources edge.weightQ8
              (budget.needs edge.child) walk.needPerRes
            stack := pushBounded B.stackCapacity ⟨edge.child, depth + 1⟩ walk.stack }

/-- The body of the `while` loop of `lb__causality_add_scaled_needs_`. -/
def WalkState.step (B : Build) (budget : Budget) (pressure : Pressure) (walk : WalkState) :
    WalkState :=
  match walk.stack with
  | [] => walk
  | cur :: stack =>
      if cur.op ∈ walk.visited then { walk with stack := stack }
      else if cur.depth ≥ UInt8.ofNat B.causalityMaxDepth then
        { walk with visited := cur.op :: walk.visited, stack := stack }
      else
        WalkState.scan B budget pressure cur.op cur.depth budget.edges
          { walk with visited := cur.op :: walk.visited, stack := stack }

/-- The state in which `lb__causality_add_scaled_needs_` enters its loop. -/
def WalkState.start (root : OpId) (needPerRes : NeedPerRes) : WalkState where
  visited := []
  stack := [⟨root, 0⟩]
  needPerRes := needPerRes

/-- `lb__causality_add_scaled_needs_`; `none` is the return value 0, on which the caller skips the
cascade check. -/
def causalityAddScaledNeeds (B : Build) (budget : Budget) (root : OpId)
    (needPerRes : NeedPerRes) (pressure : Pressure) : Option NeedPerRes :=
  if budget.causalityHasStorage B = false then none
  else if root ≥ budget.maxOps then none
  else
    some ((WalkState.step B budget pressure)^[budget.edges.length + 1]
      (WalkState.start root needPerRes)).needPerRes

/-! ## Registration of edges -/

/-- The raw enumerators that `loxbudget_op_may_trigger` accepts. -/
def isTriggerKind (kind : UInt32) : Bool :=
  kind = 0 || kind = 32 || kind = 128 || kind = 255

/-- The loop that updates an edge already present; `none` if there is none. -/
def updateEdge (parent child : OpId) (weight : UInt8) : List Edge → Option (List Edge)
  | [] => none
  | edge :: rest =>
      if edge.parent = parent ∧ edge.child = child then
        some ({ edge with weightQ8 := weight } :: rest)
      else (updateEdge parent child weight rest).map (edge :: ·)

/-- `loxbudget_op_may_trigger` -/
def opMayTrigger (B : Build) (budget : Budget) (parent child : OpId) (kind : UInt32) :
    Status × Budget :=
  if budget.magic ≠ magicInit then (.notInitialized, budget)
  else if budget.causalityHasStorage B = false then (.noSpace, budget)
  else if parent ≥ budget.maxOps ∨ child ≥ budget.maxOps then (.invalidArg, budget)
  else if parent = child then (.invalidArg, budget)
  else if isTriggerKind kind = false then (.invalidArg, budget)
  else if budget.opCfg parent = false ∨ budget.opCfg child = false then (.notFound, budget)
  else
    match updateEdge parent child kind.toUInt8 budget.edges with
    | some edges => (.ok, { budget with edges := edges })
    | none =>
        if budget.edges.length ≥ B.causalityMaxEdges % 65536 then (.noSpace, budget)
        else
          let edges := budget.edges ++ [⟨parent, child, kind.toUInt8⟩]
          if pathExists B budget.maxOps edges child parent then (.badState, budget)
          else (.ok, { budget with edges := edges })

end Loxbudget
