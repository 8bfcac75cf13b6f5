import Loxbudget.Cascade.Walk
import Loxbudget.Invariant.Tables

/-!
# Cycle detection

Whatever the cycle search finds is a walk of the trigger graph. The converse is a
question of its stack: a push that finds `LOXBUDGET_MAX_OPS` entries on it is lost,
and with it the only trace of an op that may lead to the goal. A search that loses
no such push is exact, and a run in which every search of a new pair is of that kind
keeps the graph acyclic.

In the default build twenty edges are enough to make a search lose the one push that
matters, and the next call closes a cycle.
-/

open Relation

namespace Loxbudget

/-- The iteration loses no push of an op that reaches the goal: each such child of the op it expands
has been visited or is on the stack afterwards. -/
def PathState.Lossless (B : Build) (maxOps goal : OpId) (edges : List Edge) (path : PathState) :
    Prop :=
  ∀ cur rest, path.stack = cur :: rest → cur ∉ path.visited →
    (PathState.step B maxOps goal edges path).found = false →
    ∀ edge ∈ edges, edge.parent = cur → edge.child < maxOps →
      edge.child ∉ cur :: path.visited → ReflTransGen (triggers edges) edge.child goal →
      edge.child ∈ (PathState.step B maxOps goal edges path).stack

/-! ## One search -/

variable {B : Build} {maxOps start goal : OpId} {edges : List Edge}

theorem pathExists_eq_loop (startInRange : start < maxOps) (goalInRange : goal < maxOps)
    (start_ne : start ≠ goal) :
    pathExists B maxOps edges start goal =
      ((PathState.step B maxOps goal edges)^[edges.length + 1] (PathState.start start)).found := by
  have inRange : ¬(start ≥ maxOps ∨ goal ≥ maxOps) :=
    not_or.mpr ⟨UInt8.not_le.mpr startInRange, UInt8.not_le.mpr goalInRange⟩
  simp only [pathExists]
  rw [if_neg inRange, if_neg start_ne]

theorem pathExists_eq_true (startInRange : start < maxOps) (goalInRange : goal < maxOps)
    (start_ne : start ≠ goal) :
    pathExists B maxOps edges start goal = true ↔
      reachesGoal edges goal
        ((pathSearch B maxOps edges).after start (edges.length + 1)).expanded := by
  rw [pathExists_eq_loop startInRange goalInRange start_ne]
  rcases PathState.iterate_eq B maxOps start goal edges (edges.length + 1) with
    ⟨found, reaches⟩ | ⟨same, unreached⟩
  · exact iff_of_true found reaches
  · rw [same]
    exact iff_of_false Bool.false_ne_true unreached

/-- Every op that the search expands is reached from its start. -/
theorem reaches_of_expanded {op : OpId} {count : Nat}
    (expanded : op ∈ ((pathSearch B maxOps edges).after start count).expanded) :
    ReflTransGen (triggers edges) start op := by
  refine Worklist.entry_invariant (pathSearch B maxOps edges)
    (fun op => ReflTransGen (triggers edges) start op) .refl ?_ (Or.inl expanded)
  intro older cur child walk offered
  rcases List.mem_map.mp offered with ⟨edge, followed, rfl⟩
  rcases List.mem_filter.mp followed with ⟨listed, follows⟩
  simp only [pathFollows, decide_eq_true_eq] at follows
  exact walk.tail ⟨edge, listed, follows.1, rfl⟩

/-- The search finds only what is there. -/
theorem reaches_of_pathExists (startInRange : start < maxOps) (goalInRange : goal < maxOps)
    (start_ne : start ≠ goal) (found : pathExists B maxOps edges start goal = true) :
    ReflTransGen (triggers edges) start goal := by
  rcases (pathExists_eq_true startInRange goalInRange start_ne).mp found with
    ⟨edge, listed, expanded, hit⟩
  exact (reaches_of_expanded expanded).tail ⟨edge, listed, rfl, hit⟩

/-- A loop that has not found the goal and has lost no push is a search that has lost none. -/
theorem pathSearch_lossless {count : Nat}
    (missed : ((PathState.step B maxOps goal edges)^[count] (PathState.start start)).found = false)
    (lossless : ∀ iteration, PathState.Lossless B maxOps goal edges
      ((PathState.step B maxOps goal edges)^[iteration] (PathState.start start)))
    (iteration : Nat) (before : iteration < count) :
    (pathSearch B maxOps edges).Lossless (fun op => ReflTransGen (triggers edges) op goal)
      ((pathSearch B maxOps edges).after start iteration) := by
  have now := PathState.iterate_eq_of_missed missed before.le
  have next := PathState.iterate_eq_of_missed missed (Nat.succ_le_of_lt before)
  rw [Function.iterate_succ_apply', now, Worklist.after_succ] at next
  have step := lossless iteration
  rw [now] at step
  intro cur rest top fresh child offered matters
  rcases List.mem_map.mp offered with ⟨edge, followed, rfl⟩
  rcases List.mem_filter.mp followed with ⟨listed, follows⟩
  simp only [pathFollows, decide_eq_true_eq] at follows
  rw [pathSearch_map_node] at fresh
  have pushed := step cur rest top fresh (by rw [next]; rfl) edge listed follows.1 follows.2.1
    follows.2.2 matters
  rw [next] at pushed
  right
  rw [pathSearch_map_node]
  exact pushed

/-- A search that ends without the goal and has lost no push has expanded every op on the way to
the goal. -/
theorem expanded_of_walk
    (missed : ((PathState.step B maxOps goal edges)^[edges.length + 1]
      (PathState.start start)).found = false)
    (inRange : ∀ edge ∈ edges, edge.child < maxOps)
    (lossless : ∀ iteration, PathState.Lossless B maxOps goal edges
      ((PathState.step B maxOps goal edges)^[iteration] (PathState.start start)))
    {op : OpId} (before : ReflTransGen (triggers edges) start op)
    (after : ReflTransGen (triggers edges) op goal) :
    op ∈ ((pathSearch B maxOps edges).after start (edges.length + 1)).expanded := by
  have ended := pathSearch_ends B maxOps start edges
  induction before with
  | refl =>
      have known := Worklist.root_known (pathSearch B maxOps edges) start (edges.length + 1)
      rw [← pathSearch_map_node B maxOps edges (Worklist.State.expanded _)]
      exact known.expanded ended
  | tail before arc ih =>
      have parent := ih (.head arc after)
      rcases arc with ⟨edge, listed, rfl, rfl⟩
      rcases List.append_of_mem parent with ⟨newer, older, split⟩
      have expansion : edge.parent :: older <:+ _ := ⟨newer, split.symm⟩
      by_cases seen : edge.child ∈ edge.parent :: older
      · exact expansion.subset seen
      · have offered : edge.child ∈ (pathSearch B maxOps edges).offers older edge.parent := by
          refine List.mem_map_of_mem (List.mem_filter.mpr ⟨listed, ?_⟩)
          simp only [pathFollows, decide_eq_true_eq]
          exact ⟨trivial, inRange edge listed, seen⟩
        have known := Worklist.offer_known (pathSearch_lossless missed lossless)
          expansion offered after
        rw [← pathSearch_map_node B maxOps edges (Worklist.State.expanded _)]
        exact known.expanded ended

/-- A search that loses no push finds every walk to the goal. -/
theorem pathExists_iff (startInRange : start < maxOps) (goalInRange : goal < maxOps)
    (start_ne : start ≠ goal) (inRange : ∀ edge ∈ edges, edge.child < maxOps)
    (lossless : ∀ iteration, PathState.Lossless B maxOps goal edges
      ((PathState.step B maxOps goal edges)^[iteration] (PathState.start start))) :
    pathExists B maxOps edges start goal = true ↔ ReflTransGen (triggers edges) start goal := by
  constructor
  · exact reaches_of_pathExists startInRange goalInRange start_ne
  · intro walk
    by_contra notFound
    have missed := Bool.eq_false_iff.mpr notFound
    rw [pathExists_eq_loop startInRange goalInRange start_ne] at missed
    rw [pathExists_eq_true startInRange goalInRange start_ne] at notFound
    rcases ReflTransGen.cases_tail walk with same | ⟨op, before, final⟩
    · exact start_ne same.symm
    · have last := expanded_of_walk missed inRange lossless before (.single final)
      rcases final with ⟨edge, listed, rfl, hit⟩
      exact notFound ⟨edge, listed, last, hit⟩

/-- A search over no more edges than the stack has entries loses no push. -/
theorem PathState.lossless_of_few (few : edges.length ≤ B.stackCapacity) (iteration : Nat) :
    PathState.Lossless B maxOps goal edges
      ((PathState.step B maxOps goal edges)^[iteration] (PathState.start start)) := by
  intro cur rest top fresh missed edge listed leaves inside unseen _
  rw [← Function.iterate_succ_apply' (PathState.step B maxOps goal edges)] at missed ⊢
  rw [PathState.iterate_eq_of_missed missed (Nat.le_succ iteration)] at top fresh unseen
  rw [PathState.iterate_eq_of_missed missed le_rfl]
  have room : edgesLeft edges [] ≤ B.stackCapacity := by rwa [edgesLeft_nil]
  have offered : edge.child ∈ (pathSearch B maxOps edges).offers
      ((pathSearch B maxOps edges).after start iteration).expanded cur := by
    refine List.mem_map_of_mem (List.mem_filter.mpr ⟨listed, ?_⟩)
    simp only [pathFollows, decide_eq_true_eq]
    exact ⟨leaves, inside, unseen⟩
  have pushed := (pathSearch_spends B maxOps edges).pushed room top
    (by rw [pathSearch_map_node]; exact fresh) offered
  rwa [← Worklist.after_succ] at pushed

/-! ## Runs -/

/-- The search that `op_may_trigger` makes for a new pair loses no push that matters. -/
def DetectsLosslessly (B : Build) (budget : Budget) (event : Event) : Prop :=
  ∀ parent child kind, event.call = .opMayTrigger parent child kind →
    B.enableCausality = true → budget.NewPair B parent child kind →
    let edges := budget.edges ++ [⟨parent, child, kind.toUInt8⟩]
    ∀ iteration, PathState.Lossless B budget.maxOps parent edges
      ((PathState.step B budget.maxOps parent edges)^[iteration] (PathState.start child))

/-- `op_may_trigger` rejects a new pair exactly if its child already reaches its parent. -/
def DetectionExact (B : Build) (budget : Budget) (event : Event) : Prop :=
  ∀ parent child kind, event.call = .opMayTrigger parent child kind →
    B.enableCausality = true → budget.NewPair B parent child kind →
    (((machine B).reply budget event).status = .badState ↔
      ReflTransGen (triggers budget.edges) child parent)

theorem newPair_closes_iff {budget : Budget} {parent child : OpId} {kind : UInt32}
    (wellFormed : WellFormed B budget) (new : budget.NewPair B parent child kind)
    (lossless : ∀ iteration, PathState.Lossless B budget.maxOps parent
      (budget.edges ++ [⟨parent, child, kind.toUInt8⟩])
      ((PathState.step B budget.maxOps parent (budget.edges ++ [⟨parent, child, kind.toUInt8⟩]))^[
        iteration] (PathState.start child))) :
    pathExists B budget.maxOps (budget.edges ++ [⟨parent, child, kind.toUInt8⟩]) child parent =
        true ↔
      ReflTransGen (triggers budget.edges) child parent := by
  have inRange : ∀ edge ∈ budget.edges ++ [⟨parent, child, kind.toUInt8⟩],
      edge.child < budget.maxOps := by
    intro edge listed
    rcases List.mem_append.mp listed with old | added
    · exact (wellFormed.edges_inRange edge old).2
    · rw [List.mem_singleton.mp added]
      exact new.childInRange
  rw [pathExists_iff new.childInRange new.parentInRange new.parent_ne.symm inRange lossless,
    triggers_append]
  exact Arcs.head_reaches_tail_iff

theorem detectionExact_of_lossless {budget : Budget} {event : Event}
    (wellFormed : WellFormed B budget) (lossless : DetectsLosslessly B budget event) :
    DetectionExact B budget event := by
  rcases event with ⟨hal, call⟩
  rintro parent child kind rfl enabled new
  have closes := newPair_closes_iff wellFormed new (lossless parent child kind rfl enabled new)
  rw [reply_opMayTrigger hal enabled, opMayTrigger_of_newPair new, ← closes]
  split
  · rename_i found
    exact iff_of_true rfl found
  · rename_i missed
    exact iff_of_false (by simp) missed

/-- One call whose search loses no push keeps the graph acyclic. -/
theorem acyclic_next {budget : Budget} {event : Event} (wellFormed : WellFormed B budget)
    (acyclic : Arcs.Acyclic (triggers budget.edges))
    (lossless : DetectsLosslessly B budget event) :
    Arcs.Acyclic (triggers ((machine B).next budget event).edges) := by
  rcases next_edges_cases B budget event with
    same | ⟨enabled, parent, child, kind, called, ⟨-, updated⟩ | ⟨new, missed, after⟩⟩
  · rwa [same]
  · rwa [updateEdge_triggers updated]
  · have closes := newPair_closes_iff wellFormed new
      (lossless parent child kind called enabled new)
    rw [after, triggers_append]
    apply acyclic.withArc
    intro reaches
    exact Bool.false_ne_true (missed.symm.trans (closes.mpr reaches))

/-- In a run in which no cycle search loses a push that matters, the recorded edges stay acyclic
and every new pair is rejected exactly if it closes a cycle. -/
theorem cycle_detection_exact {start : Budget} (started : Started B start)
    (events : List Event) (lossless : (machine B).Along (DetectsLosslessly B) start events) :
    Arcs.Acyclic (triggers ((machine B).run start events).edges) ∧
      (machine B).Along (DetectionExact B) start events := by
  have preserved : ∀ budget event,
      WellFormed B budget ∧ Arcs.Acyclic (triggers budget.edges) →
      DetectsLosslessly B budget event →
      WellFormed B ((machine B).next budget event) ∧
        Arcs.Acyclic (triggers ((machine B).next budget event).edges) :=
    fun _ event invariant lossless =>
      ⟨invariant.1.next event, acyclic_next invariant.1 invariant.2 lossless⟩
  have initially : WellFormed B start ∧ Arcs.Acyclic (triggers start.edges) := by
    refine ⟨started.fresh.wellFormed, ?_⟩
    rw [started.fresh.edges]
    intro op cycle
    rcases TransGen.tail'_iff.mp cycle with ⟨before, -, edge, listed, -⟩
    exact absurd listed List.not_mem_nil
  constructor
  · exact (Machine.run_invariant preserved initially lossless).2
  · exact Machine.along_of_along preserved
      (fun budget event invariant => detectionExact_of_lossless invariant.1) initially lossless

theorem detectsLosslessly_of_few {budget : Budget} (few : budget.edges.length < B.stackCapacity)
    (event : Event) : DetectsLosslessly B budget event := by
  intro parent child kind _ _ _ edges iteration
  refine PathState.lossless_of_few ?_ iteration
  simp only [edges, List.length_append, List.length_singleton]
  exact few

theorem cycle_detection_exact_pair :
    Started Build.full .sample ∧
      Arcs.Acyclic (triggers ((machine Build.full).run .sample
        (registerOps 2 ++ [.trigger 0 1, .trigger 1 0])).edges) ∧
      (machine Build.full).Along (DetectionExact Build.full) .sample
        (registerOps 2 ++ [.trigger 0 1, .trigger 1 0]) :=
  ⟨started_sample, cycle_detection_exact started_sample _
    ⟨detectsLosslessly_of_few (by decide +kernel) _, detectsLosslessly_of_few (by decide +kernel) _,
      detectsLosslessly_of_few (by decide +kernel) _,
      detectsLosslessly_of_few (by decide +kernel) _, trivial⟩⟩

/-- A graph whose search from op 0 finds the stack full when it should push op 9, the only op that
leads to op 10. -/
def denseTriggers : List Event :=
  registerOps 11 ++ [1, 2, 3, 4, 5, 6, 7, 8].map (Event.trigger 0) ++
    [1, 2, 3, 4, 5, 6, 7].map (Event.trigger 8) ++ [1, 2, 3, 9].map (Event.trigger 7) ++
    [.trigger 9 10]

/-- Op 0 reaches op 10, and yet the edge from op 10 to op 0 is recorded. -/
theorem cycle_accepted :
    Started Build.full .sample ∧
      ¬DetectionExact Build.full ((machine Build.full).run .sample denseTriggers)
        (.trigger 10 0) ∧
      ¬Arcs.Acyclic (triggers ((machine Build.full).run .sample
        (denseTriggers ++ [.trigger 10 0])).edges) := by
  refine ⟨started_sample, ?_, ?_⟩
  · intro detects
    have new : ((machine Build.full).run .sample denseTriggers).NewPair Build.full 10 0 255 :=
      ⟨⟨by decide +kernel, by decide +kernel, by decide +kernel, by decide +kernel,
        by decide +kernel, by decide +kernel, by decide +kernel, by decide +kernel⟩,
        by decide +kernel, by decide +kernel⟩
    have walk : ReflTransGen (triggers ((machine Build.full).run .sample denseTriggers).edges)
        0 10 :=
      .head (b := 8) (by decide +kernel) (.head (b := 7) (by decide +kernel)
        (.head (b := 9) (by decide +kernel) (.single (by decide +kernel))))
    have accepted : ((machine Build.full).reply ((machine Build.full).run .sample denseTriggers)
        (.trigger 10 0)).status = .ok := by decide +kernel
    have rejected := (detects 10 0 255 rfl rfl new).mpr walk
    rw [accepted] at rejected
    exact absurd rejected (by decide)
  · intro acyclic
    exact acyclic 0 (.head (b := 8) (by decide +kernel) (.head (b := 7) (by decide +kernel)
      (.head (b := 9) (by decide +kernel) (.head (b := 10) (by decide +kernel)
        (.single (by decide +kernel))))))

end Loxbudget
