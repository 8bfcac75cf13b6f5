import Loxbudget.Cascade.Walk
import Loxbudget.Model.Accesses
import Loxbudget.Model.Calls

/-!
# Both walks stay within their arrays

Whatever the edge table holds, each loop ends, expands an op at most once, and indexes only what
is there: an op is pushed only below `max_ops` and only onto a free entry of the stack.
-/

namespace Loxbudget

/-- The access is inside its array. -/
def Access.InRange (B : Build) (maxOps : UInt8) : Access → Prop
  | .visited byte => byte < (maxOps.toNat + 7) / 8
  | .stack index => index < B.maxOps
  | .edge index => index < B.causalityMaxEdges
  | .need byte => byte < maxOps.toNat * B.maxNeedsPerOp * 4
  | .perResource index => index < B.maxResources

section Arrays

variable {B : Build} {maxOps maxResources : UInt8} {child : OpId}

theorem visitAccess_inRange (inside : child < maxOps) :
    (visitAccess child).InRange B maxOps := by
  have below := UInt8.lt_iff_toNat_lt.mp inside
  simp only [visitAccess, Access.InRange, UInt32.toNat_shiftRight, UInt8.toNat_toUInt32,
    UInt32.reduceToNat, Nat.reduceMod, Nat.shiftRight_eq_div_pow, Nat.reducePow]
  omega

theorem visitClearAccesses_inRange {access : Access}
    (made : access ∈ visitClearAccesses maxOps) : access.InRange B maxOps := by
  rcases List.mem_map.mp made with ⟨byte, listed, rfl⟩
  have bound := maxOps.toNat_lt
  rw [List.mem_range, UInt32.toNat_div, UInt32.toNat_add, UInt8.toNat_toUInt32] at listed
  simp only [UInt32.reduceToNat] at listed
  simp only [Access.InRange]
  omega

theorem Build.stackCapacity_eq (B : Build) : B.stackCapacity = B.maxOps := by
  have size := B.storageHdr_size
  rw [stackCapacity]
  omega

theorem pushAccesses_inRange {sp : Nat} {access : Access} (made : access ∈ pushAccesses B sp) :
    access.InRange B maxOps := by
  rw [pushAccesses, B.stackCapacity_eq] at made
  split at made
  · rename_i room
    rw [List.mem_singleton.mp made]
    exact room
  · exact absurd made List.not_mem_nil

theorem length_pushBounded {Entry : Type*} {entry : Entry} {stack : List Entry}
    (fits : stack.length ≤ B.maxOps) :
    (pushBounded B.stackCapacity entry stack).length ≤ B.maxOps := by
  rw [pushBounded, B.stackCapacity_eq]
  split
  · rename_i room
    exact room
  · exact fits

theorem mem_pushBounded {Entry : Type*} {entry other : Entry} {stack : List Entry}
    (listed : other ∈ pushBounded B.stackCapacity entry stack) :
    other = entry ∨ other ∈ stack := by
  rw [pushBounded] at listed
  split at listed
  · exact List.mem_cons.mp listed
  · exact Or.inr listed

theorem needAccesses_inRange (inside : child < maxOps)
    (resources : maxResources.toNat ≤ B.maxResources) (needs : List Need) {ni : Nat}
    (few : ni < B.maxNeedsPerOp) {access : Access}
    (made : access ∈ needAccesses B maxResources child needs ni) :
    access.InRange B maxOps := by
  have entry (k : UInt32) (low : k.toNat < 4) :
      ((child.toUInt32 * UInt32.ofNat B.maxNeedsPerOp + UInt32.ofNat ni) * 4 + k).toNat <
        maxOps.toNat * B.maxNeedsPerOp * 4 := by
    have below := UInt8.lt_iff_toNat_lt.mp inside
    have bound := maxOps.toNat_lt
    have small := B.maxNeedsPerOp_lt
    have slices : (child.toNat + 1) * B.maxNeedsPerOp ≤ maxOps.toNat * B.maxNeedsPerOp :=
      Nat.mul_le_mul_right _ below
    have total : maxOps.toNat * B.maxNeedsPerOp ≤ 256 * 256 :=
      Nat.mul_le_mul bound.le small.le
    rw [Nat.add_mul, Nat.one_mul] at slices
    have index : (child.toUInt32 * UInt32.ofNat B.maxNeedsPerOp + UInt32.ofNat ni).toNat =
        child.toNat * B.maxNeedsPerOp + ni := by
      rw [UInt32.toNat_add, UInt32.toNat_mul, UInt8.toNat_toUInt32, UInt32.toNat_ofNat',
        UInt32.toNat_ofNat', Nat.mod_eq_of_lt (by omega : B.maxNeedsPerOp < 2 ^ 32),
        Nat.mod_eq_of_lt (by omega : ni < 2 ^ 32)]
      omega
    rw [UInt32.toNat_add, UInt32.toNat_mul, index]
    simp only [UInt32.reduceToNat]
    omega
  simp only [needAccesses, List.mem_append, List.mem_cons, List.not_mem_nil, or_false] at made
  rcases made with (rfl | rfl | rfl) | counted
  · exact entry 0 (by decide)
  · exact entry 2 (by decide)
  · exact entry 3 (by decide)
  · split at counted
    · exact absurd counted List.not_mem_nil
    split at counted
    · exact absurd counted List.not_mem_nil
    · rename_i configured
      rw [List.mem_singleton.mp counted]
      have below := UInt8.lt_iff_toNat_lt.mp (UInt8.not_le.mp configured)
      exact below.trans_le resources

theorem addScaledNeedsAccesses_inRange (inside : child < maxOps)
    (resources : maxResources.toNat ≤ B.maxResources) (needs : List Need) {access : Access}
    (made : access ∈ addScaledNeedsAccesses B maxResources child needs) :
    access.InRange B maxOps := by
  rcases List.mem_flatMap.mp made with ⟨ni, listed, made⟩
  have counted : (UInt8.ofNat B.maxNeedsPerOp).toNat = B.maxNeedsPerOp := by
    have small := B.maxNeedsPerOp_lt
    rw [UInt8.toNat_ofNat']
    omega
  rw [List.mem_range, counted] at listed
  exact needAccesses_inRange inside resources needs listed made

end Arrays

/-! ## Cycle detection -/

namespace PathState

variable {B : Build} {maxOps start goal : OpId} {edges : List Edge} {path : PathState}

/-- The stack fits its array and holds ops that have a bit in the bitmap. -/
structure Bounded (B : Build) (maxOps : OpId) (path : PathState) : Prop where
  fits : path.stack.length ≤ B.maxOps
  inside : ∀ op ∈ path.stack, op < maxOps

/-- The op that the next iteration expands. -/
def expanding (path : PathState) : Option OpId :=
  if path.found then none
  else
    match path.stack with
    | [] => none
    | cur :: _ => if cur ∈ path.visited then none else some cur

theorem Bounded.pop {cur : OpId} {stack : List OpId} (bounded : path.Bounded B maxOps)
    (top : path.stack = cur :: stack) (visited : List OpId) :
    cur < maxOps ∧ stack.length < B.maxOps ∧
      { path with visited := visited, stack := stack }.Bounded B maxOps := by
  have fits := bounded.fits
  have inside := bounded.inside
  rw [top] at fits inside
  rw [List.length_cons] at fits
  exact ⟨inside cur List.mem_cons_self, fits, Nat.le_of_succ_le fits, fun op listed =>
    inside op (List.mem_cons_of_mem _ listed)⟩

theorem Bounded.push {child : OpId} (bounded : path.Bounded B maxOps) (inside : child < maxOps) :
    { path with stack := pushBounded B.stackCapacity child path.stack }.Bounded B maxOps := by
  refine ⟨length_pushBounded bounded.fits, fun op listed => ?_⟩
  rcases mem_pushBounded listed with rfl | before
  · exact inside
  · exact bounded.inside op before

theorem Bounded.scan {cur : OpId} (bounded : path.Bounded B maxOps) :
    (PathState.scan B maxOps goal cur edges path).Bounded B maxOps := by
  induction edges generalizing path with
  | nil => exact bounded
  | cons edge edges ih =>
      simp only [PathState.scan]
      split
      · exact ih bounded
      split
      · exact ⟨bounded.fits, bounded.inside⟩
      split
      · exact ih bounded
      rename_i inside
      split
      · exact ih bounded
      · exact ih (bounded.push (UInt8.not_le.mp inside))

theorem scan_visited (B : Build) (maxOps goal cur : OpId) (edges : List Edge)
    (path : PathState) : (PathState.scan B maxOps goal cur edges path).visited = path.visited := by
  induction edges generalizing path with
  | nil => rfl
  | cons edge edges ih =>
      simp only [PathState.scan]
      split
      · exact ih path
      split
      · rfl
      split
      · exact ih path
      split
      · exact ih path
      · exact ih _

theorem step_cases (B : Build) (maxOps goal : OpId) (edges : List Edge) (path : PathState) :
    (path.expanding = none ∧ PathState.step B maxOps goal edges path = path) ∨
      (∃ cur stack, path.stack = cur :: stack ∧ path.expanding = none ∧
        PathState.step B maxOps goal edges path = { path with stack := stack }) ∨
      ∃ cur stack, path.stack = cur :: stack ∧ cur ∉ path.visited ∧ path.expanding = some cur ∧
        PathState.step B maxOps goal edges path = PathState.scan B maxOps goal cur edges
          { path with visited := cur :: path.visited, stack := stack } := by
  by_cases found : path.found = true
  · exact Or.inl ⟨by simp [expanding, found], step_of_found found⟩
  rcases top : path.stack with _ | ⟨cur, stack⟩
  · exact Or.inl ⟨by simp [expanding, top], by simp [PathState.step, top]⟩
  by_cases seen : cur ∈ path.visited
  · refine Or.inr (Or.inl ⟨cur, stack, rfl, ?_, ?_⟩)
    · simp [expanding, top, seen]
    · simp [PathState.step, top, found, seen]
  · refine Or.inr (Or.inr ⟨cur, stack, rfl, seen, ?_, ?_⟩)
    · simp [expanding, top, found, seen]
    · simp [PathState.step, top, found, seen]

theorem Bounded.step (bounded : path.Bounded B maxOps) :
    (PathState.step B maxOps goal edges path).Bounded B maxOps := by
  rcases step_cases B maxOps goal edges path with ⟨-, after⟩ | ⟨cur, stack, top, -, after⟩ |
    ⟨cur, stack, top, -, -, after⟩
  · rwa [after]
  · rw [after]
    exact (bounded.pop top _).2.2
  · rw [after]
    exact (bounded.pop top _).2.2.scan

theorem Bounded.iterate (inside : start < maxOps) (ops : maxOps.toNat ≤ B.maxOps) (count : Nat) :
    ((PathState.step B maxOps goal edges)^[count] (PathState.start start)).Bounded B maxOps := by
  induction count with
  | zero =>
      have below := UInt8.lt_iff_toNat_lt.mp inside
      refine ⟨?_, fun op listed => ?_⟩
      · simp only [Function.iterate_zero_apply, PathState.start, List.length_singleton]
        omega
      · rwa [List.mem_singleton.mp listed]
  | succ count ih =>
      rw [Function.iterate_succ_apply']
      exact ih.step

theorem scanAccesses_inRange {cur : OpId} {ei : Nat} (bounded : path.Bounded B maxOps)
    (fits : ei + edges.length ≤ B.causalityMaxEdges) {access : Access}
    (made : access ∈ PathState.scanAccesses B maxOps goal cur ei edges path) :
    access.InRange B maxOps := by
  induction edges generalizing ei path with
  | nil => exact absurd made List.not_mem_nil
  | cons edge edges ih =>
      rw [List.length_cons] at fits
      have fits' : ei + 1 + edges.length ≤ B.causalityMaxEdges := by omega
      simp only [PathState.scanAccesses] at made
      rcases List.mem_cons.mp made with rfl | made
      · exact (by omega : ei < B.causalityMaxEdges)
      split at made
      · exact ih bounded fits' made
      split at made
      · exact absurd made List.not_mem_nil
      split at made
      · exact ih bounded fits' made
      rename_i inside
      rcases List.mem_cons.mp made with rfl | made
      · exact visitAccess_inRange (UInt8.not_le.mp inside)
      split at made
      · exact ih bounded fits' made
      · rcases List.mem_append.mp made with pushed | made
        · exact pushAccesses_inRange pushed
        · exact ih (bounded.push (UInt8.not_le.mp inside)) fits' made

theorem stepAccesses_inRange (bounded : path.Bounded B maxOps)
    (fits : edges.length ≤ B.causalityMaxEdges) {access : Access}
    (made : access ∈ PathState.stepAccesses B maxOps goal edges path) :
    access.InRange B maxOps := by
  simp only [PathState.stepAccesses] at made
  split at made
  · exact absurd made List.not_mem_nil
  split at made
  · exact absurd made List.not_mem_nil
  · rename_i cur stack top
    have popped := bounded.pop top (cur :: path.visited)
    rcases List.mem_cons.mp made with rfl | made
    · exact popped.2.1
    rcases List.mem_cons.mp made with rfl | made
    · exact visitAccess_inRange popped.1
    split at made
    · exact absurd made List.not_mem_nil
    · rcases List.mem_cons.mp made with rfl | made
      · exact visitAccess_inRange popped.1
      · exact scanAccesses_inRange popped.2.2 (by omega) made

theorem visited_grows (B : Build) (maxOps goal : OpId) (edges : List Edge) (path : PathState) :
    path.visited ⊆ (PathState.step B maxOps goal edges path).visited := by
  rcases step_cases B maxOps goal edges path with ⟨-, after⟩ | ⟨cur, stack, -, -, after⟩ |
    ⟨cur, stack, -, -, -, after⟩
  · rw [after]
    exact List.Subset.refl _
  · rw [after]
    exact List.Subset.refl _
  · rw [after, scan_visited]
    exact List.subset_cons_self _ _

theorem expanding_marks (B : Build) (maxOps goal : OpId) (edges : List Edge) (path : PathState)
    (op : OpId) (expands : path.expanding = some op) :
    op ∉ path.visited ∧ op ∈ (PathState.step B maxOps goal edges path).visited := by
  rcases step_cases B maxOps goal edges path with ⟨idle, -⟩ | ⟨cur, stack, -, idle, -⟩ |
    ⟨cur, stack, -, fresh, expanded, after⟩
  · cases idle.symm.trans expands
  · cases idle.symm.trans expands
  · cases expanded.symm.trans expands
    rw [after, scan_visited]
    exact ⟨fresh, List.mem_cons_self⟩

end PathState

/-! ## The cascade walk -/

namespace WalkState

variable {B : Build} {budget : Budget} {pressure : Pressure} {walk : WalkState}
  {edges : List Edge} {needPerRes : NeedPerRes}

/-- The stack fits its array and holds ops that have a bit in the bitmap. -/
structure Bounded (B : Build) (maxOps : OpId) (walk : WalkState) : Prop where
  fits : walk.stack.length ≤ B.maxOps
  inside : ∀ entry ∈ walk.stack, entry.op < maxOps

/-- The op that the next iteration expands. -/
def expanding (walk : WalkState) : Option OpId :=
  match walk.stack with
  | [] => none
  | cur :: _ => if cur.op ∈ walk.visited then none else some cur.op

theorem Bounded.pop {maxOps : OpId} {cur : WalkEntry} {stack : List WalkEntry}
    (bounded : walk.Bounded B maxOps) (top : walk.stack = cur :: stack)
    (visited : List OpId) :
    cur.op < maxOps ∧ stack.length < B.maxOps ∧
      { walk with visited := visited, stack := stack }.Bounded B maxOps := by
  have fits := bounded.fits
  have inside := bounded.inside
  rw [top] at fits inside
  rw [List.length_cons] at fits
  exact ⟨inside cur List.mem_cons_self, fits, Nat.le_of_succ_le fits, fun entry listed =>
    inside entry (List.mem_cons_of_mem _ listed)⟩

theorem Bounded.push {maxOps : OpId} {entry : WalkEntry} (bounded : walk.Bounded B maxOps)
    (inside : entry.op < maxOps) (needPerRes : NeedPerRes) :
    { walk with
      needPerRes := needPerRes
      stack := pushBounded B.stackCapacity entry walk.stack }.Bounded B maxOps := by
  refine ⟨length_pushBounded bounded.fits, fun other listed => ?_⟩
  rcases mem_pushBounded listed with rfl | before
  · exact inside
  · exact bounded.inside other before

theorem Bounded.scan {cur : OpId} {depth : UInt8} (bounded : walk.Bounded B budget.maxOps) :
    (WalkState.scan B budget pressure cur depth edges walk).Bounded B budget.maxOps := by
  induction edges generalizing walk with
  | nil => exact bounded
  | cons edge edges ih =>
      simp only [WalkState.scan]
      split
      · exact ih bounded
      split
      · exact ih bounded
      split
      · exact ih bounded
      rename_i inside
      split
      · exact ih bounded
      split
      · exact ih bounded
      · exact ih (bounded.push (UInt8.not_le.mp inside) _)

theorem step_cases (B : Build) (budget : Budget) (pressure : Pressure) (walk : WalkState) :
    (walk.stack = [] ∧ walk.expanding = none ∧ WalkState.step B budget pressure walk = walk) ∨
      (∃ cur stack, walk.stack = cur :: stack ∧ walk.expanding = none ∧
        WalkState.step B budget pressure walk = { walk with stack := stack }) ∨
      ∃ cur stack, walk.stack = cur :: stack ∧ cur.op ∉ walk.visited ∧
        walk.expanding = some cur.op ∧
        WalkState.step B budget pressure walk =
          if cur.depth ≥ UInt8.ofNat B.causalityMaxDepth then
            { walk with visited := cur.op :: walk.visited, stack := stack }
          else WalkState.scan B budget pressure cur.op cur.depth budget.edges
            { walk with visited := cur.op :: walk.visited, stack := stack } := by
  rcases top : walk.stack with _ | ⟨cur, stack⟩
  · exact Or.inl ⟨rfl, by simp [expanding, top], by simp [WalkState.step, top]⟩
  by_cases seen : cur.op ∈ walk.visited
  · refine Or.inr (Or.inl ⟨cur, stack, rfl, ?_, ?_⟩)
    · simp [expanding, top, seen]
    · simp [WalkState.step, top, seen]
  · refine Or.inr (Or.inr ⟨cur, stack, rfl, seen, ?_, ?_⟩)
    · simp [expanding, top, seen]
    · simp [WalkState.step, top, seen]

theorem Bounded.step (bounded : walk.Bounded B budget.maxOps) :
    (WalkState.step B budget pressure walk).Bounded B budget.maxOps := by
  rcases step_cases B budget pressure walk with ⟨-, -, after⟩ | ⟨cur, stack, top, -, after⟩ |
    ⟨cur, stack, top, -, -, after⟩
  · rwa [after]
  · rw [after]
    exact (bounded.pop top _).2.2
  · rw [after]
    split
    · exact (bounded.pop top _).2.2
    · exact (bounded.pop top _).2.2.scan

theorem Bounded.iterate {root : OpId} (inside : root < budget.maxOps)
    (ops : budget.maxOps.toNat ≤ B.maxOps) (count : Nat) :
    ((WalkState.step B budget pressure)^[count]
      (WalkState.start root needPerRes)).Bounded B budget.maxOps := by
  induction count with
  | zero =>
      have below := UInt8.lt_iff_toNat_lt.mp inside
      refine ⟨?_, fun entry listed => ?_⟩
      · simp only [Function.iterate_zero_apply, WalkState.start, List.length_singleton]
        omega
      · rwa [List.mem_singleton.mp listed]
  | succ count ih =>
      rw [Function.iterate_succ_apply']
      exact ih.step

theorem scanAccesses_inRange {cur : OpId} {depth : UInt8} {ei : Nat}
    (bounded : walk.Bounded B budget.maxOps)
    (resources : budget.maxResources.toNat ≤ B.maxResources)
    (fits : ei + edges.length ≤ B.causalityMaxEdges) {access : Access}
    (made : access ∈ WalkState.scanAccesses B budget pressure cur depth ei edges walk) :
    access.InRange B budget.maxOps := by
  induction edges generalizing ei walk with
  | nil => exact absurd made List.not_mem_nil
  | cons edge edges ih =>
      rw [List.length_cons] at fits
      have fits' : ei + 1 + edges.length ≤ B.causalityMaxEdges := by omega
      simp only [WalkState.scanAccesses] at made
      rcases List.mem_cons.mp made with rfl | made
      · exact (by omega : ei < B.causalityMaxEdges)
      split at made
      · exact ih bounded fits' made
      split at made
      · exact ih bounded fits' made
      split at made
      · exact ih bounded fits' made
      rename_i inside
      rcases List.mem_cons.mp made with rfl | made
      · exact visitAccess_inRange (UInt8.not_le.mp inside)
      split at made
      · exact ih bounded fits' made
      split at made
      · exact ih bounded fits' made
      · rcases List.mem_append.mp made with added | made
        · rcases List.mem_append.mp added with added | pushed
          · exact addScaledNeedsAccesses_inRange (UInt8.not_le.mp inside) resources _ added
          · exact pushAccesses_inRange pushed
        · exact ih (bounded.push (UInt8.not_le.mp inside) _) fits' made

theorem stepAccesses_inRange (bounded : walk.Bounded B budget.maxOps)
    (resources : budget.maxResources.toNat ≤ B.maxResources)
    (fits : budget.edges.length ≤ B.causalityMaxEdges) {access : Access}
    (made : access ∈ WalkState.stepAccesses B budget pressure walk) :
    access.InRange B budget.maxOps := by
  simp only [WalkState.stepAccesses] at made
  split at made
  · exact absurd made List.not_mem_nil
  · rename_i cur stack top
    have popped := bounded.pop top (cur.op :: walk.visited)
    rcases List.mem_cons.mp made with rfl | made
    · exact popped.2.1
    rcases List.mem_cons.mp made with rfl | made
    · exact visitAccess_inRange popped.1
    split at made
    · exact absurd made List.not_mem_nil
    rcases List.mem_cons.mp made with rfl | made
    · exact visitAccess_inRange popped.1
    split at made
    · exact absurd made List.not_mem_nil
    · exact scanAccesses_inRange popped.2.2 resources (by omega) made

theorem visited_grows (B : Build) (budget : Budget) (pressure : Pressure) (walk : WalkState) :
    walk.visited ⊆ (WalkState.step B budget pressure walk).visited := by
  rcases step_cases B budget pressure walk with ⟨-, -, after⟩ | ⟨cur, stack, -, -, after⟩ |
    ⟨cur, stack, -, -, -, after⟩
  · rw [after]
    exact List.Subset.refl _
  · rw [after]
    exact List.Subset.refl _
  · rw [after]
    split
    · exact List.subset_cons_self _ _
    · rw [WalkState.scan_eq]
      exact List.subset_cons_self _ _

theorem expanding_marks (B : Build) (budget : Budget) (pressure : Pressure) (walk : WalkState)
    (op : OpId) (expands : walk.expanding = some op) :
    op ∉ walk.visited ∧ op ∈ (WalkState.step B budget pressure walk).visited := by
  rcases step_cases B budget pressure walk with ⟨-, idle, -⟩ | ⟨cur, stack, -, idle, -⟩ |
    ⟨cur, stack, -, fresh, expanded, after⟩
  · cases idle.symm.trans expands
  · cases idle.symm.trans expands
  · cases expanded.symm.trans expands
    rw [after]
    split
    · exact ⟨fresh, List.mem_cons_self⟩
    · rw [WalkState.scan_eq]
      exact ⟨fresh, List.mem_cons_self⟩

end WalkState

/-! ## Whole walks -/

/-- A call of `lb__path_exists_` ends, expands no op twice, and stays within its arrays. -/
structure PathConfined (B : Build) (maxOps : UInt8) (edges : List Edge) (start goal : OpId) :
    Prop where
  ends :
    let path := (PathState.step B maxOps goal edges)^[edges.length + 1] (PathState.start start)
    path.found = true ∨ path.stack = []
  once : ∀ i j op,
    ((PathState.step B maxOps goal edges)^[i] (PathState.start start)).expanding = some op →
    ((PathState.step B maxOps goal edges)^[j] (PathState.start start)).expanding = some op → i = j
  stack : start < maxOps → ∀ count,
    ((PathState.step B maxOps goal edges)^[count] (PathState.start start)).stack.length ≤ B.maxOps
  accesses : ∀ count, ∀ access ∈ pathAccesses B maxOps edges start goal count,
    access.InRange B maxOps

/-- A call of `lb__causality_add_scaled_needs_` does so too. -/
structure WalkConfined (B : Build) (budget : Budget) (root : OpId) (needPerRes : NeedPerRes)
    (pressure : Pressure) : Prop where
  ends : ((WalkState.step B budget pressure)^[budget.edges.length + 1]
    (WalkState.start root needPerRes)).stack = []
  once : ∀ i j op,
    ((WalkState.step B budget pressure)^[i] (WalkState.start root needPerRes)).expanding =
      some op →
    ((WalkState.step B budget pressure)^[j] (WalkState.start root needPerRes)).expanding =
      some op → i = j
  stack : root < budget.maxOps → ∀ count,
    ((WalkState.step B budget pressure)^[count]
      (WalkState.start root needPerRes)).stack.length ≤ B.maxOps
  accesses : ∀ count, ∀ access ∈ walkAccesses B budget root needPerRes pressure count,
    access.InRange B budget.maxOps

/-- Whatever the edge table holds, both walks end, expand an op at most once, never have more than
`LOXBUDGET_MAX_OPS` entries on the stack and index nothing that is not there. -/
theorem walks_confined (B : Build) (budget : Budget) (ops : budget.maxOps.toNat ≤ B.maxOps)
    (resources : budget.maxResources.toNat ≤ B.maxResources)
    (edges : budget.edges.length ≤ B.causalityMaxEdges) :
    (∀ start goal, PathConfined B budget.maxOps budget.edges start goal) ∧
      ∀ root needPerRes pressure, WalkConfined B budget root needPerRes pressure := by
  constructor
  · intro start goal
    refine ⟨?_, fun i j op => ?_, fun inside count => (PathState.Bounded.iterate inside ops
      count).fits, fun count access made => ?_⟩
    · rcases PathState.iterate_eq B budget.maxOps start goal budget.edges
        (budget.edges.length + 1) with ⟨found, -⟩ | ⟨same, -⟩
      · exact Or.inl found
      · right
        rw [same]
        exact pathSearch_ends B budget.maxOps start budget.edges
    · exact Worklist.expands_once (PathState.visited_grows B budget.maxOps goal budget.edges)
        (PathState.expanding_marks B budget.maxOps goal budget.edges)
    · simp only [pathAccesses] at made
      split at made
      · exact absurd made List.not_mem_nil
      rename_i inside
      have start_inside := UInt8.not_le.mp (not_or.mp inside).1
      split at made
      · exact absurd made List.not_mem_nil
      rcases List.mem_append.mp made with cleared | made
      · exact visitClearAccesses_inRange cleared
      rcases List.mem_cons.mp made with rfl | made
      · exact (Nat.zero_le _).trans_lt ((UInt8.lt_iff_toNat_lt.mp start_inside).trans_le ops)
      · rcases List.mem_flatMap.mp made with ⟨n, -, made⟩
        exact PathState.stepAccesses_inRange (.iterate start_inside ops n) edges made
  · intro root needPerRes pressure
    refine ⟨?_, fun i j op => ?_, fun inside count => (WalkState.Bounded.iterate inside ops
      count).fits, fun count access made => ?_⟩
    · rw [WalkState.iterate_eq]
      exact walkSearch_ends B budget pressure ⟨root, 0⟩
    · exact Worklist.expands_once (WalkState.visited_grows B budget pressure)
        (WalkState.expanding_marks B budget pressure)
    · simp only [walkAccesses] at made
      split at made
      · exact absurd made List.not_mem_nil
      split at made
      · exact absurd made List.not_mem_nil
      rename_i inside
      have root_inside := UInt8.not_le.mp inside
      rcases List.mem_append.mp made with cleared | made
      · exact visitClearAccesses_inRange cleared
      rcases List.mem_cons.mp made with rfl | made
      · exact (Nat.zero_le _).trans_lt ((UInt8.lt_iff_toNat_lt.mp root_inside).trans_le ops)
      · rcases List.mem_flatMap.mp made with ⟨n, -, made⟩
        exact WalkState.stepAccesses_inRange (.iterate root_inside ops n) resources edges made

/-- A cycle, an edge recorded twice and an edge to an op that does not exist. -/
def Budget.tangled : Budget :=
  { Budget.sample with
    edges := [⟨0, 1, 255⟩, ⟨1, 0, 255⟩, ⟨0, 1, 255⟩, ⟨1, 200, 255⟩] }

theorem walks_confined_tangled :
    PathConfined Build.full Budget.tangled.maxOps Budget.tangled.edges 0 3 ∧
      WalkConfined Build.full .tangled 0 (fun _ => 0) .normal := by
  have confined := walks_confined Build.full .tangled (by decide +kernel) (by decide +kernel)
    (by decide)
  exact ⟨confined.1 0 3, confined.2 0 _ .normal⟩

end Loxbudget
