import Loxbudget.Model.Causality

/-!
# The array accesses of the two graph walks

What the loops of `lb__path_exists_` and `lb__causality_add_scaled_needs_` index, in the order in
which they do it: beside each scan and each loop body of the model stands the list of the
accesses that it makes from the same local variables.
-/

namespace Loxbudget

/-- An access to a byte of the visited bitmap, to an entry of the stack, of the edge array or of
`need_per_res`, or to a byte of the needs table, from `needs_off` on. -/
inductive Access where
  | visited (byte : Nat)
  | stack (index : Nat)
  | edge (index : Nat)
  | need (byte : Nat)
  | perResource (index : Nat)
  deriving DecidableEq, Repr

/-- `bits[bit >> 3]` in `lb__visit_test_` and `lb__visit_set_`. -/
def visitAccess (bit : OpId) : Access :=
  .visited (bit.toUInt32 >>> 3).toNat

/-- `lb__visit_clear_` -/
def visitClearAccesses (nbits : UInt8) : List Access :=
  (List.range ((nbits.toUInt32 + 7) / 8).toNat).map .visited

/-- A push, which writes only below the bound on the stack index. -/
def pushAccesses (B : Build) (sp : Nat) : List Access :=
  if sp < B.stackCapacity then [.stack sp] else []

/-! ## Cycle detection -/

/-- `PathState.scan`, from the edge with index `ei` on. -/
def PathState.scanAccesses (B : Build) (maxOps goal cur : OpId) :
    Nat → List Edge → PathState → List Access
  | _, [], _ => []
  | ei, edge :: rest, path =>
      .edge ei ::
        if edge.parent ≠ cur then scanAccesses B maxOps goal cur (ei + 1) rest path
        else if edge.child = goal then []
        else if edge.child ≥ maxOps then scanAccesses B maxOps goal cur (ei + 1) rest path
        else
          visitAccess edge.child ::
            if edge.child ∈ path.visited then
              scanAccesses B maxOps goal cur (ei + 1) rest path
            else
              pushAccesses B path.stack.length ++
                scanAccesses B maxOps goal cur (ei + 1) rest
                  { path with stack := pushBounded B.stackCapacity edge.child path.stack }

/-- `PathState.step` -/
def PathState.stepAccesses (B : Build) (maxOps goal : OpId) (edges : List Edge)
    (path : PathState) : List Access :=
  if path.found then []
  else
    match path.stack with
    | [] => []
    | cur :: stack =>
        .stack stack.length :: visitAccess cur ::
          if cur ∈ path.visited then []
          else
            visitAccess cur ::
              PathState.scanAccesses B maxOps goal cur 0 edges
                { path with visited := cur :: path.visited, stack := stack }

/-- `lb__path_exists_`, up to an iteration of its loop. -/
def pathAccesses (B : Build) (maxOps : UInt8) (edges : List Edge) (start goal : OpId)
    (iterations : Nat) : List Access :=
  if start ≥ maxOps ∨ goal ≥ maxOps then []
  else if start = goal then []
  else
    visitClearAccesses maxOps ++ .stack 0 ::
      (List.range iterations).flatMap fun n =>
        PathState.stepAccesses B maxOps goal edges
          ((PathState.step B maxOps goal edges)^[n] (PathState.start start))

/-! ## The cascade walk -/

/-- The iteration `ni` of the loop that adds the scaled needs of one child. -/
def needAccesses (B : Build) (maxResources : UInt8) (child : OpId) (needs : List Need)
    (ni : Nat) : List Access :=
  let idx := child.toUInt32 * UInt32.ofNat B.maxNeedsPerOp + UInt32.ofNat ni
  let need := needs.getD ni ⟨0, 0⟩
  [.need (idx * 4 + 0).toNat, .need (idx * 4 + 2).toNat, .need (idx * 4 + 3).toNat] ++
    if need.amount = 0 then []
    else if need.resource ≥ maxResources then []
    else [.perResource need.resource.toNat]

/-- `addScaledNeeds` -/
def addScaledNeedsAccesses (B : Build) (maxResources : UInt8) (child : OpId)
    (needs : List Need) : List Access :=
  (List.range (UInt8.ofNat B.maxNeedsPerOp).toNat).flatMap
    (needAccesses B maxResources child needs)

/-- `WalkState.scan`, from the edge with index `ei` on. -/
def WalkState.scanAccesses (B : Build) (budget : Budget) (pressure : Pressure) (cur : OpId)
    (depth : UInt8) : Nat → List Edge → WalkState → List Access
  | _, [], _ => []
  | ei, edge :: rest, walk =>
      .edge ei ::
        if edge.parent ≠ cur then scanAccesses B budget pressure cur depth (ei + 1) rest walk
        else if edge.weightQ8 = 0 then
          scanAccesses B budget pressure cur depth (ei + 1) rest walk
        else if edge.child ≥ budget.maxOps then
          scanAccesses B budget pressure cur depth (ei + 1) rest walk
        else
          visitAccess edge.child ::
            if edge.child ∈ walk.visited then
              scanAccesses B budget pressure cur depth (ei + 1) rest walk
            else if edge.weightQ8 = triggerRare ∧ pressure.level < Pressure.critical.level then
              scanAccesses B budget pressure cur depth (ei + 1) rest walk
            else
              addScaledNeedsAccesses B budget.maxResources edge.child
                  (budget.needs edge.child) ++
                pushAccesses B walk.stack.length ++
                scanAccesses B budget pressure cur depth (ei + 1) rest
                  { walk with
                    needPerRes := addScaledNeeds budget.maxResources edge.weightQ8
                      (budget.needs edge.child) walk.needPerRes
                    stack := pushBounded B.stackCapacity ⟨edge.child, depth + 1⟩ walk.stack }

/-- `WalkState.step` -/
def WalkState.stepAccesses (B : Build) (budget : Budget) (pressure : Pressure)
    (walk : WalkState) : List Access :=
  match walk.stack with
  | [] => []
  | cur :: stack =>
      .stack stack.length :: visitAccess cur.op ::
        if cur.op ∈ walk.visited then []
        else
          visitAccess cur.op ::
            if cur.depth ≥ UInt8.ofNat B.causalityMaxDepth then []
            else
              WalkState.scanAccesses B budget pressure cur.op cur.depth 0 budget.edges
                { walk with visited := cur.op :: walk.visited, stack := stack }

/-- `lb__causality_add_scaled_needs_`, up to an iteration of its loop. -/
def walkAccesses (B : Build) (budget : Budget) (root : OpId) (needPerRes : NeedPerRes)
    (pressure : Pressure) (iterations : Nat) : List Access :=
  if budget.causalityHasStorage B = false then []
  else if root ≥ budget.maxOps then []
  else
    visitClearAccesses budget.maxOps ++ .stack 0 ::
      (List.range iterations).flatMap fun n =>
        WalkState.stepAccesses B budget pressure
          ((WalkState.step B budget pressure)^[n] (WalkState.start root needPerRes))

end Loxbudget
