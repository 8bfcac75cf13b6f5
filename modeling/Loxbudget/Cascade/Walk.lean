import Loxbudget.Lib.Worklist
import Loxbudget.Model.Causality

/-!
# The two loops as searches

Both walks of the trigger graph are instances of one search with a bounded stack.
The cycle search expands ops; the cascade walk expands ops with the depth at which
they were pushed, and what it adds to the totals is a function of its expansions.

Each loop is iterated `edge_count + 1` times in the model. Every iteration that
expands an op uses up the edges that leave it, so the loops have ended by then.
-/

namespace Loxbudget

/-- The edges whose parent has not been expanded. -/
def edgesLeft (edges : List Edge) (expanded : List OpId) : Nat :=
  edges.countP fun edge => edge.parent ∉ expanded

theorem edgesLeft_nil (edges : List Edge) : edgesLeft edges [] = edges.length := by
  simp [edgesLeft]

theorem edgesLeft_cons {cur : OpId} {expanded : List OpId} (fresh : cur ∉ expanded)
    (edges : List Edge) :
    edges.countP (fun edge => edge.parent = cur) + edgesLeft edges (cur :: expanded) =
      edgesLeft edges expanded := by
  simp only [edgesLeft]
  induction edges with
  | nil => rfl
  | cons edge edges ih =>
      simp only [List.countP_cons]
      by_cases leaves : edge.parent = cur
      · simp only [leaves, fresh, List.mem_cons, true_or, not_true, not_false_eq_true,
          decide_true, decide_false, if_true, Bool.false_eq_true, if_false] at ih ⊢
        omega
      · simp only [leaves, List.mem_cons, false_or, decide_false, Bool.false_eq_true, if_false]
          at ih ⊢
        omega

theorem length_filter_le_leaving {cur : OpId} {selects : Edge → Bool}
    (leaving : ∀ edge, selects edge = true → edge.parent = cur) (edges : List Edge) :
    (edges.filter selects).length ≤ edges.countP fun edge => edge.parent = cur := by
  rw [← List.countP_eq_length_filter]
  apply List.countP_mono_left
  intro edge _ selected
  simpa using leaving edge selected

/-! ## The cycle search -/

/-- The edges that the cycle search follows from an op. -/
def pathFollows (maxOps cur : OpId) (visited : List OpId) (edge : Edge) : Bool :=
  edge.parent = cur ∧ edge.child < maxOps ∧ edge.child ∉ visited

/-- The search of `lb__path_exists_` without its early return. -/
def pathSearch (B : Build) (maxOps : OpId) (edges : List Edge) : Worklist OpId OpId where
  node := id
  offers := fun older cur => (edges.filter (pathFollows maxOps cur (cur :: older))).map (·.child)
  capacity := B.stackCapacity

@[simp]
theorem pathSearch_map_node (B : Build) (maxOps : OpId) (edges : List Edge) (ops : List OpId) :
    ops.map (pathSearch B maxOps edges).node = ops :=
  List.map_id ops

/-- Some edge leads from an expanded op to the goal. -/
def reachesGoal (edges : List Edge) (goal : OpId) (expanded : List OpId) : Prop :=
  ∃ edge ∈ edges, edge.parent ∈ expanded ∧ edge.child = goal

theorem PathState.scan_found {B : Build} {maxOps goal cur : OpId} {edges : List Edge}
    {path : PathState} (notFound : path.found = false) :
    (PathState.scan B maxOps goal cur edges path).found = true ↔
      ∃ edge ∈ edges, edge.parent = cur ∧ edge.child = goal := by
  induction edges generalizing path with
  | nil => simp [PathState.scan, notFound]
  | cons edge edges ih =>
      simp only [PathState.scan]
      by_cases leaves : edge.parent = cur
      · by_cases hit : edge.child = goal
        · simp [leaves, hit]
        · simp only [leaves, hit, ne_eq, not_true, if_false, List.mem_cons, exists_eq_or_imp,
            true_and, false_or]
          split
          · exact ih notFound
          split
          · exact ih notFound
          · exact ih notFound
      · simp only [leaves, ne_eq, not_false_eq_true, if_true, List.mem_cons, exists_eq_or_imp,
          false_and, false_or]
        exact ih notFound

/-- The scan of an op without an edge to the goal pushes the edges it follows. -/
theorem PathState.scan_eq {B : Build} {maxOps goal cur : OpId} {edges : List Edge}
    {path : PathState} (misses : ∀ edge ∈ edges, edge.parent = cur → edge.child ≠ goal) :
    PathState.scan B maxOps goal cur edges path =
      { path with
        stack := Worklist.pushAll B.stackCapacity
          ((edges.filter (pathFollows maxOps cur path.visited)).map (·.child)) path.stack } := by
  induction edges generalizing path with
  | nil => rfl
  | cons edge edges ih =>
      have later : ∀ other ∈ edges, other.parent = cur → other.child ≠ goal :=
        fun other listed => misses other (List.mem_cons_of_mem _ listed)
      simp only [PathState.scan]
      by_cases leaves : edge.parent = cur
      · have miss := misses edge List.mem_cons_self leaves
        rw [if_neg (not_not.mpr leaves), if_neg miss]
        by_cases outside : edge.child ≥ maxOps
        · rw [if_pos outside, ih later]
          simp [pathFollows, UInt8.not_lt.mpr outside]
        · by_cases seen : edge.child ∈ path.visited
          · rw [if_neg outside, if_pos seen, ih later]
            simp [pathFollows, seen]
          · rw [if_neg outside, if_neg seen, ih later]
            have follows : pathFollows maxOps cur path.visited edge = true := by
              simp [pathFollows, leaves, seen, UInt8.not_le.mp outside]
            simp only [List.filter_cons_of_pos follows, List.map_cons]
            rfl
      · rw [if_pos leaves, ih later]
        simp [pathFollows, leaves]

/-- The local variables of the cycle search that has not found the goal. -/
def PathState.ofSearch (state : Worklist.State OpId) : PathState :=
  ⟨state.expanded, state.stack, false⟩

/-- One iteration of `lb__path_exists_` is one iteration of the search, unless it finds the
goal. -/
theorem PathState.step_ofSearch (B : Build) (maxOps goal : OpId) (edges : List Edge)
    (state : Worklist.State OpId) (unreached : ¬reachesGoal edges goal state.expanded) :
    let path := PathState.step B maxOps goal edges (PathState.ofSearch state)
    let state' := (pathSearch B maxOps edges).step state
    path.found = true ∧ reachesGoal edges goal state'.expanded ∨
      path = PathState.ofSearch state' ∧ ¬reachesGoal edges goal state'.expanded := by
  intro path state'
  rcases (pathSearch B maxOps edges).step_cases state with ⟨empty, after⟩ |
    ⟨cur, rest, top, seen, after⟩ | ⟨cur, rest, top, fresh, after⟩
  · right
    have path_eq : path = PathState.ofSearch state := by
      simp [path, PathState.step, PathState.ofSearch, empty]
    exact ⟨by rw [path_eq, show state' = state from after],
      by rwa [show state' = state from after]⟩
  · right
    have seen' : cur ∈ state.expanded := by simpa [pathSearch] using seen
    have path_eq : path = PathState.ofSearch ⟨state.expanded, rest⟩ := by
      simp [path, PathState.step, PathState.ofSearch, top, seen']
    exact ⟨by rw [path_eq, show state' = _ from after],
      by rwa [show state' = _ from after]⟩
  · have fresh' : cur ∉ state.expanded := by simpa [pathSearch] using fresh
    have path_eq : path = PathState.scan B maxOps goal cur edges
        ⟨cur :: state.expanded, rest, false⟩ := by
      simp [path, PathState.step, PathState.ofSearch, top, fresh']
    rw [show state' = _ from after]
    by_cases hits : ∃ edge ∈ edges, edge.parent = cur ∧ edge.child = goal
    · left
      refine ⟨by rw [path_eq]; exact (PathState.scan_found rfl).mpr hits, ?_⟩
      rcases hits with ⟨edge, listed, rfl, hit⟩
      exact ⟨edge, listed, List.mem_cons_self, hit⟩
    · right
      constructor
      · rw [path_eq, PathState.scan_eq fun edge listed leaves hit =>
          hits ⟨edge, listed, leaves, hit⟩]
        rfl
      · rintro ⟨edge, listed, expanded, hit⟩
        rcases List.mem_cons.mp expanded with leaves | before
        · exact hits ⟨edge, listed, leaves, hit⟩
        · exact unreached ⟨edge, listed, before, hit⟩

theorem PathState.step_of_found {B : Build} {maxOps goal : OpId} {edges : List Edge}
    {path : PathState} (found : path.found = true) :
    PathState.step B maxOps goal edges path = path := by
  simp only [PathState.step]
  exact if_pos found

theorem reachesGoal.mono {edges : List Edge} {goal : OpId} {expanded expanded' : List OpId}
    (reaches : reachesGoal edges goal expanded) (later : expanded <:+ expanded') :
    reachesGoal edges goal expanded' := by
  rcases reaches with ⟨edge, listed, parent, hit⟩
  exact ⟨edge, listed, later.subset parent, hit⟩

/-- The loop of `lb__path_exists_` follows the search until it finds the goal. -/
theorem PathState.iterate_eq (B : Build) (maxOps start goal : OpId) (edges : List Edge)
    (count : Nat) :
    let path := (PathState.step B maxOps goal edges)^[count] (PathState.start start)
    let state := (pathSearch B maxOps edges).after start count
    path.found = true ∧ reachesGoal edges goal state.expanded ∨
      path = PathState.ofSearch state ∧ ¬reachesGoal edges goal state.expanded := by
  induction count with
  | zero =>
      right
      refine ⟨rfl, ?_⟩
      rintro ⟨edge, -, expanded, -⟩
      simp [Worklist.start] at expanded
  | succ count ih =>
      simp only [Function.iterate_succ_apply', Worklist.after_succ] at ih ⊢
      rcases ih with ⟨found, reaches⟩ | ⟨same, unreached⟩
      · left
        rw [PathState.step_of_found found]
        exact ⟨found, reaches.mono (Worklist.expanded_suffix_step _ _)⟩
      · rw [same]
        exact PathState.step_ofSearch B maxOps goal edges _ unreached

/-- A loop that has not found the goal has followed the search all along. -/
theorem PathState.iterate_eq_of_missed {B : Build} {maxOps start goal : OpId} {edges : List Edge}
    {later : Nat}
    (missed : ((PathState.step B maxOps goal edges)^[later] (PathState.start start)).found = false)
    {count : Nat} (within : count ≤ later) :
    (PathState.step B maxOps goal edges)^[count] (PathState.start start) =
      PathState.ofSearch ((pathSearch B maxOps edges).after start count) := by
  rcases PathState.iterate_eq B maxOps start goal edges later with ⟨found, -⟩ | ⟨-, unreached⟩
  · exact absurd (found.symm.trans missed) Bool.true_eq_false.mp
  · rcases PathState.iterate_eq B maxOps start goal edges count with ⟨-, reaches⟩ | ⟨same, -⟩
    · exact absurd (reaches.mono (Worklist.expanded_suffix_after _ _ within)) unreached
    · exact same

theorem pathSearch_spends (B : Build) (maxOps : OpId) (edges : List Edge) :
    (pathSearch B maxOps edges).Spends (edgesLeft edges) := by
  intro expanded cur fresh
  have fresh' : cur ∉ expanded := by simpa [pathSearch] using fresh
  have spent := edgesLeft_cons fresh' edges
  have offered : ((pathSearch B maxOps edges).offers expanded cur).length ≤
      edges.countP fun edge => edge.parent = cur := by
    simp only [pathSearch, List.length_map]
    refine length_filter_le_leaving ?_ edges
    intro edge follows
    simp only [pathFollows, decide_eq_true_eq] at follows
    exact follows.1
  omega

/-- The search of `lb__path_exists_` has ended after the iterations that the model makes. -/
theorem pathSearch_ends (B : Build) (maxOps start : OpId) (edges : List Edge) :
    ((pathSearch B maxOps edges).after start (edges.length + 1)).stack = [] :=
  (pathSearch_spends B maxOps edges).stack_eq_nil (Nat.lt_succ_of_le (edgesLeft_nil edges).le)

/-! ## The cascade walk -/

/-- The edge takes part in a cascade at the given pressure. -/
def Edge.isActive (pressure : Pressure) (edge : Edge) : Bool :=
  edge.weightQ8 ≠ 0 ∧ ¬(edge.weightQ8 = triggerRare ∧ pressure.level < Pressure.critical.level)

/-- The edges that the cascade walk follows from an op. -/
def walkFollows (pressure : Pressure) (maxOps cur : OpId) (visited : List OpId)
    (edge : Edge) : Bool :=
  edge.parent = cur ∧ edge.isActive pressure ∧ edge.child < maxOps ∧ edge.child ∉ visited

/-- The edges that one expansion of the cascade walk follows, in the order of the table. -/
def followedEdges (B : Build) (budget : Budget) (pressure : Pressure) (older : List WalkEntry)
    (cur : WalkEntry) : List Edge :=
  if cur.depth ≥ UInt8.ofNat B.causalityMaxDepth then []
  else
    budget.edges.filter
      (walkFollows pressure budget.maxOps cur.op (cur.op :: older.map WalkEntry.op))

/-- The search of `lb__causality_add_scaled_needs_`. -/
def walkSearch (B : Build) (budget : Budget) (pressure : Pressure) :
    Worklist OpId WalkEntry where
  node := WalkEntry.op
  offers := fun older cur =>
    (followedEdges B budget pressure older cur).map fun edge => ⟨edge.child, cur.depth + 1⟩
  capacity := B.stackCapacity

/-- The edges that the expansions of a walk have followed. -/
def followedBy (B : Build) (budget : Budget) (pressure : Pressure) :
    List WalkEntry → List Edge
  | [] => []
  | cur :: older =>
      followedBy B budget pressure older ++ followedEdges B budget pressure older cur

/-- What the walk adds to the totals for the edges it has followed. -/
def addEdges (budget : Budget) (edges : List Edge) (needPerRes : NeedPerRes) : NeedPerRes :=
  edges.foldl
    (fun needPerRes edge =>
      addScaledNeeds budget.maxResources edge.weightQ8 (budget.needs edge.child) needPerRes)
    needPerRes

theorem addEdges_append (budget : Budget) (edges edges' : List Edge) (needPerRes : NeedPerRes) :
    addEdges budget (edges ++ edges') needPerRes =
      addEdges budget edges' (addEdges budget edges needPerRes) :=
  List.foldl_append

theorem WalkState.scan_eq (B : Build) (budget : Budget) (pressure : Pressure) (cur : OpId)
    (depth : UInt8) (edges : List Edge) (walk : WalkState) :
    WalkState.scan B budget pressure cur depth edges walk =
      { walk with
        needPerRes := addEdges budget
          (edges.filter (walkFollows pressure budget.maxOps cur walk.visited)) walk.needPerRes
        stack := Worklist.pushAll B.stackCapacity
          ((edges.filter (walkFollows pressure budget.maxOps cur walk.visited)).map
            fun edge => ⟨edge.child, depth + 1⟩) walk.stack } := by
  induction edges generalizing walk with
  | nil => rfl
  | cons edge edges ih =>
      simp only [WalkState.scan]
      split
      · rename_i elsewhere
        rw [ih]
        simp [walkFollows, elsewhere]
      split
      · rename_i weightless
        rw [ih]
        simp [walkFollows, Edge.isActive, weightless]
      split
      · rename_i outside
        rw [ih]
        simp [walkFollows, UInt8.not_lt.mpr outside]
      split
      · rename_i seen
        rw [ih]
        simp [walkFollows, seen]
      split
      · rename_i rare
        rw [ih]
        simp [walkFollows, Edge.isActive, rare]
      · rename_i leaves weight inside fresh common
        have follows : walkFollows pressure budget.maxOps cur walk.visited edge = true := by
          simp only [walkFollows, Edge.isActive, decide_eq_true_eq]
          exact ⟨not_not.mp leaves, ⟨weight, common⟩, UInt8.not_le.mp inside, fresh⟩
        rw [ih]
        simp only [List.filter_cons_of_pos follows]
        rfl

/-- The local variables of the cascade walk in a state of the search. -/
def WalkState.ofSearch (B : Build) (budget : Budget) (pressure : Pressure)
    (needPerRes : NeedPerRes) (state : Worklist.State WalkEntry) : WalkState :=
  ⟨state.expanded.map WalkEntry.op, state.stack,
    addEdges budget (followedBy B budget pressure state.expanded) needPerRes⟩

/-- One iteration of `lb__causality_add_scaled_needs_` is one iteration of the search. -/
theorem WalkState.step_ofSearch (B : Build) (budget : Budget) (pressure : Pressure)
    (needPerRes : NeedPerRes) (state : Worklist.State WalkEntry) :
    WalkState.step B budget pressure (WalkState.ofSearch B budget pressure needPerRes state) =
      WalkState.ofSearch B budget pressure needPerRes
        ((walkSearch B budget pressure).step state) := by
  rcases (walkSearch B budget pressure).step_cases state with ⟨empty, after⟩ |
    ⟨cur, rest, top, seen, after⟩ | ⟨cur, rest, top, fresh, after⟩
  · rw [after]
    simp [WalkState.step, WalkState.ofSearch, empty]
  · rw [after]
    have seen' : cur.op ∈ state.expanded.map WalkEntry.op := seen
    simp only [WalkState.step, WalkState.ofSearch, top, if_pos seen']
  · rw [after]
    have fresh' : cur.op ∉ state.expanded.map WalkEntry.op := fresh
    simp only [WalkState.step, WalkState.ofSearch, top, if_neg fresh', List.map_cons,
      walkSearch, followedBy, followedEdges]
    split
    · simp [Worklist.pushAll]
    · rw [WalkState.scan_eq]
      simp only [addEdges_append]

theorem WalkState.iterate_eq (B : Build) (budget : Budget) (pressure : Pressure) (root : OpId)
    (needPerRes : NeedPerRes) (count : Nat) :
    (WalkState.step B budget pressure)^[count] (WalkState.start root needPerRes) =
      WalkState.ofSearch B budget pressure needPerRes
        ((walkSearch B budget pressure).after ⟨root, 0⟩ count) := by
  induction count with
  | zero => rfl
  | succ count ih =>
      rw [Function.iterate_succ_apply', ih, WalkState.step_ofSearch, Worklist.after_succ]

theorem walkSearch_spends (B : Build) (budget : Budget) (pressure : Pressure) :
    (walkSearch B budget pressure).Spends fun expanded =>
      edgesLeft budget.edges (expanded.map WalkEntry.op) := by
  intro expanded cur fresh
  have fresh' : cur.op ∉ expanded.map WalkEntry.op := fresh
  have spent := edgesLeft_cons fresh' budget.edges
  have offered : ((walkSearch B budget pressure).offers expanded cur).length ≤
      budget.edges.countP fun edge => edge.parent = cur.op := by
    simp only [walkSearch, List.length_map, followedEdges]
    split
    · simp
    · refine length_filter_le_leaving ?_ budget.edges
      intro edge follows
      simp only [walkFollows, decide_eq_true_eq] at follows
      exact follows.1
  simp only [List.map_cons]
  omega

/-- The search of `lb__causality_add_scaled_needs_` has ended after the iterations that the model
makes. -/
theorem walkSearch_ends (B : Build) (budget : Budget) (pressure : Pressure) (root : WalkEntry) :
    ((walkSearch B budget pressure).after root (budget.edges.length + 1)).stack = [] :=
  (walkSearch_spends B budget pressure).stack_eq_nil
    (Nat.lt_succ_of_le (edgesLeft_nil budget.edges).le)

/-- The expansions of a whole cascade walk. -/
def cascadeExpansions (B : Build) (budget : Budget) (pressure : Pressure) (root : OpId) :
    List WalkEntry :=
  ((walkSearch B budget pressure).after ⟨root, 0⟩ (budget.edges.length + 1)).expanded

/-- The edges that a whole cascade walk follows. -/
def cascadeEdges (B : Build) (budget : Budget) (pressure : Pressure) (root : OpId) :
    List Edge :=
  followedBy B budget pressure (cascadeExpansions B budget pressure root)

/-- The totals of the cascade walk are the sum over the edges that it follows. -/
theorem causalityAddScaledNeeds_eq {B : Build} {budget : Budget} {root : OpId}
    (hasStorage : budget.causalityHasStorage B = true) (inRange : root < budget.maxOps)
    (needPerRes : NeedPerRes) (pressure : Pressure) :
    causalityAddScaledNeeds B budget root needPerRes pressure =
      some (addEdges budget (cascadeEdges B budget pressure root) needPerRes) := by
  simp only [causalityAddScaledNeeds]
  rw [if_neg (by simp [hasStorage]), if_neg (UInt8.not_le.mpr inRange), WalkState.iterate_eq]
  rfl

theorem causalityAddScaledNeeds_eq_none {B : Build} {budget : Budget} {root : OpId}
    {needPerRes : NeedPerRes} {pressure : Pressure}
    (stays : ¬(budget.causalityHasStorage B = true ∧ root < budget.maxOps)) :
    causalityAddScaledNeeds B budget root needPerRes pressure = none := by
  simp only [causalityAddScaledNeeds]
  split
  · rfl
  · rename_i stored
    rw [Bool.not_eq_false] at stored
    exact if_pos (UInt8.not_lt.mp fun inRange => stays ⟨stored, inRange⟩)

theorem causalityAddScaledNeeds_eq_some {B : Build} {budget : Budget} {root : OpId}
    {own totals : NeedPerRes} {pressure : Pressure}
    (handed : causalityAddScaledNeeds B budget root own pressure = some totals) :
    totals = addEdges budget (cascadeEdges B budget pressure root) own := by
  have hasStorage : budget.causalityHasStorage B = true := by
    by_contra missing
    simp [causalityAddScaledNeeds, missing] at handed
  have inRange : root < budget.maxOps := by
    by_contra outside
    simp [causalityAddScaledNeeds, UInt8.not_lt.mp outside] at handed
  rw [causalityAddScaledNeeds_eq hasStorage inRange] at handed
  exact (Option.some.inj handed).symm

end Loxbudget
