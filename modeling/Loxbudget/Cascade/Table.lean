import Loxbudget.Cascade.Monotone
import Loxbudget.Lib.Slots
import Loxbudget.Model.EdgeTable

/-!
# The trigger table as a finite map

The recorded edges map pairs of ops to trigger kinds. An accepted call sets one pair and leaves
the others and the order of the table as they are; a call that is refused changes nothing, not
even when it has first appended its edge to look for a cycle.
-/

namespace Loxbudget

/-! ## The table in the storage -/

namespace EdgeTable

variable {table : EdgeTable} {edge : Edge}

theorem append_edgeCount (room : table.edgeCount.toNat + 1 < 65536) :
    (table.append edge).edgeCount.toNat = table.edgeCount.toNat + 1 := by
  rw [append, UInt16.toNat_add]
  simp only [UInt16.reduceToNat]
  omega

theorem append_edges {i : Nat} (before : i < table.edgeCount.toNat) :
    (table.append edge).edges i = table.edges i := by
  rw [append]
  exact Function.update_of_ne before.ne _ _

theorem append_recorded (room : table.edgeCount.toNat + 1 < 65536) :
    (table.append edge).recorded = table.recorded ++ [edge] := by
  have before : ∀ i ∈ List.range table.edgeCount.toNat,
      (table.append edge).edges i = table.edges i :=
    fun i listed => append_edges (List.mem_range.mp listed)
  rw [recorded, append_edgeCount room, List.range_succ, List.map_append,
    List.map_congr_left before, List.map_singleton]
  congr 2
  exact Function.update_self ..

/-- What is taken back leaves no trace in the recorded edges. -/
theorem rollback_append (room : table.edgeCount.toNat + 1 < 65536) :
    (table.append edge).rollback.edgeCount = table.edgeCount ∧
      (table.append edge).rollback.recorded = table.recorded := by
  have count : (table.append edge).rollback.edgeCount = table.edgeCount := by
    apply UInt16.toNat_inj.mp
    have one : (1 : UInt16) ≤ (table.append edge).edgeCount := by
      rw [UInt16.le_iff_toNat_le, append_edgeCount room]
      simp
    simp only [rollback]
    rw [UInt16.toNat_sub_of_le _ _ one, append_edgeCount room]
    simp
  refine ⟨count, ?_⟩
  rw [recorded, recorded, count]
  apply List.map_congr_left
  intro i listed
  have before := List.mem_range.mp listed
  have kept : (table.append edge).rollback.edges i = (table.append edge).edges i := by
    refine Function.update_of_ne ?_ _ _
    rw [show (table.append edge).edgeCount - 1 = table.edgeCount from count]
    exact before.ne
  rw [kept, append_edges before]

theorem updateEdge_eq (parent child : OpId) (weight : UInt8) (edges : List Edge) :
    updateEdge parent child weight edges =
      Slots.replaceFirst (fun edge => edge.parent = parent ∧ edge.child = child)
        (fun edge => { edge with weightQ8 := weight }) edges := by
  induction edges with
  | nil => rfl
  | cons edge edges ih => rw [updateEdge, Slots.replaceFirst, ih]

/-- The update is that of the entry that the search finds. -/
theorem updateEdge_recorded (table : EdgeTable) (parent child : OpId) (weight : UInt8) :
    updateEdge parent child weight table.recorded =
      (table.find parent child).map fun i => (table.setWeight i weight).recorded :=
  (updateEdge_eq parent child weight table.recorded).trans
    (Slots.replaceFirst_map table.edges List.nodup_range)

theorem mayTrigger_cases (B : Build) (maxOps : UInt8) (table : EdgeTable) (parent child : OpId)
    (weight : UInt8) :
    (∃ i, table.find parent child = some i ∧
        table.mayTrigger B maxOps parent child weight = (.ok, table.setWeight i weight)) ∨
      (table.find parent child = none ∧ table.edgeCount ≥ UInt16.ofNat B.causalityMaxEdges ∧
        table.mayTrigger B maxOps parent child weight = (.noSpace, table)) ∨
      (table.find parent child = none ∧ table.edgeCount.toNat + 1 < 65536 ∧
        table.mayTrigger B maxOps parent child weight =
          (.badState, (table.append ⟨parent, child, weight⟩).rollback)) ∨
      table.find parent child = none ∧ table.edgeCount.toNat + 1 < 65536 ∧
        table.mayTrigger B maxOps parent child weight =
          (.ok, table.append ⟨parent, child, weight⟩) := by
  rw [mayTrigger]
  rcases found : table.find parent child with _ | i
  · by_cases full : table.edgeCount ≥ UInt16.ofNat B.causalityMaxEdges
    · exact Or.inr (Or.inl ⟨rfl, full, if_pos full⟩)
    · have below := UInt16.lt_iff_toNat_lt.mp (UInt16.not_le.mp full)
      have bound := (UInt16.ofNat B.causalityMaxEdges).toNat_lt
      have room : table.edgeCount.toNat + 1 < 65536 := by omega
      simp only [if_neg full]
      split
      · exact Or.inr (Or.inr (Or.inl ⟨trivial, room, rfl⟩))
      · exact Or.inr (Or.inr (Or.inr ⟨trivial, room, rfl⟩))
  · exact Or.inl ⟨i, rfl, rfl⟩

/-- A call that is refused leaves the count and the recorded edges as they were. -/
theorem mayTrigger_refused {B : Build} {maxOps : UInt8} {parent child : OpId} {weight : UInt8}
    (refused : (table.mayTrigger B maxOps parent child weight).1 ≠ .ok) :
    (table.mayTrigger B maxOps parent child weight).2.edgeCount = table.edgeCount ∧
      (table.mayTrigger B maxOps parent child weight).2.recorded = table.recorded := by
  rcases mayTrigger_cases B maxOps table parent child weight with
    ⟨i, -, updated⟩ | ⟨-, -, full⟩ | ⟨-, room, closes⟩ | ⟨-, -, recorded⟩
  · rw [updated] at refused
    exact absurd rfl refused
  · rw [full]
    exact ⟨rfl, rfl⟩
  · rw [closes]
    exact rollback_append room
  · rw [recorded] at refused
    exact absurd rfl refused

/-- What the calls do to the table in the storage is what they do to the list of its edges. -/
theorem mayTrigger_recorded {B : Build} {budget : Budget} {parent child : OpId} {kind : UInt32}
    (passes : budget.MayRelate B parent child kind) (same : table.recorded = budget.edges) :
    (table.mayTrigger B budget.maxOps parent child kind.toUInt8).1 =
        (opMayTrigger B budget parent child kind).1 ∧
      (table.mayTrigger B budget.maxOps parent child kind.toUInt8).2.recorded =
        (opMayTrigger B budget parent child kind).2.edges := by
  have length : budget.edges.length = table.edgeCount.toNat := by
    rw [← same, recorded, List.length_map, List.length_range]
  have full : table.edgeCount ≥ UInt16.ofNat B.causalityMaxEdges ↔
      budget.edges.length ≥ B.causalityMaxEdges % 65536 := by
    rw [ge_iff_le, UInt16.le_iff_toNat_le, UInt16.toNat_ofNat', length]
  rw [opMayTrigger_of_mayRelate passes, ← same, updateEdge_recorded]
  simp only [mayTrigger]
  cases table.find parent child with
  | some i => exact ⟨rfl, rfl⟩
  | none =>
      simp only [Option.map_none]
      by_cases noRoom : table.edgeCount ≥ UInt16.ofNat B.causalityMaxEdges
      · rw [if_pos noRoom, same, if_pos (full.mp noRoom)]
        exact ⟨rfl, rfl⟩
      · have room := UInt16.lt_iff_toNat_lt.mp (UInt16.not_le.mp noRoom)
        have bound := (UInt16.ofNat B.causalityMaxEdges).toNat_lt
        rw [if_neg noRoom, append_recorded (by omega), same, if_neg (full.not.mp noRoom)]
        split
        · refine ⟨rfl, ?_⟩
          rw [(rollback_append (by omega)).2, same]
        · refine ⟨rfl, ?_⟩
          rw [append_recorded (by omega), same]

end EdgeTable

/-! ## The map -/

/-- The kind that is recorded for a pair. -/
def kindOf (edges : List Edge) (parent child : OpId) : Option UInt8 :=
  (edges.find? fun edge => edge.parent = parent ∧ edge.child = child).map Edge.weightQ8

/-- One pair has been given a kind; the others and the order of the table are as they were. -/
structure SetsPair (before after : List Edge) (parent child : OpId) (weight : UInt8) : Prop where
  value : kindOf after parent child = some weight
  others : ∀ parent' child', (parent', child') ≠ (parent, child) →
    kindOf after parent' child' = kindOf before parent' child'
  order :
    let pairs := before.map fun edge => (edge.parent, edge.child)
    let pairs' := after.map fun edge => (edge.parent, edge.child)
    pairs' = pairs ∨ (parent, child) ∉ pairs ∧ pairs' = pairs ++ [(parent, child)]

theorem kindOf_cons (edge : Edge) (edges : List Edge) (parent child : OpId) :
    kindOf (edge :: edges) parent child =
      if edge.parent = parent ∧ edge.child = child then some edge.weightQ8
      else kindOf edges parent child := by
  by_cases here : edge.parent = parent ∧ edge.child = child
  · rw [kindOf, List.find?_cons_of_pos (by simpa using here), if_pos here, Option.map_some]
  · rw [kindOf, List.find?_cons_of_neg (by simpa using here), if_neg here, kindOf]

theorem kindOf_append (edges : List Edge) (edge : Edge) (parent child : OpId) :
    kindOf (edges ++ [edge]) parent child =
      if triggers edges parent child then kindOf edges parent child
      else if edge.parent = parent ∧ edge.child = child then some edge.weightQ8 else none := by
  induction edges with
  | nil =>
      have none : ¬triggers [] parent child := by simp [triggers]
      rw [List.nil_append, kindOf_cons, if_neg none]
      rfl
  | cons first edges ih =>
      rw [List.cons_append, kindOf_cons, kindOf_cons, ih]
      by_cases here : first.parent = parent ∧ first.child = child
      · rw [if_pos here, if_pos here,
          if_pos (show triggers (first :: edges) parent child from
            ⟨first, List.mem_cons_self, here⟩)]
      · have later : triggers (first :: edges) parent child ↔ triggers edges parent child := by
          simp only [triggers, List.mem_cons, exists_eq_or_imp, here, false_or]
        simp only [if_neg here, later]

theorem kindOf_eq_none {edges : List Edge} {parent child : OpId}
    (fresh : ¬triggers edges parent child) : kindOf edges parent child = none := by
  rw [kindOf, Option.map_eq_none_iff, List.find?_eq_none]
  intro edge listed
  simpa using fun first last => fresh ⟨edge, listed, first, last⟩

theorem updateEdge_setsPair {parent child : OpId} {weight : UInt8} {before after : List Edge}
    (updated : updateEdge parent child weight before = some after) :
    SetsPair before after parent child weight := by
  refine ⟨?_, ?_, Or.inl (updateEdge_pairs updated)⟩
  · induction before generalizing after with
    | nil => cases updated
    | cons edge before ih =>
        rw [updateEdge] at updated
        split at updated
        · rename_i here
          cases updated
          rw [kindOf_cons, if_pos here]
        · rename_i elsewhere
          rcases Option.map_eq_some_iff.mp updated with ⟨rest, later, rfl⟩
          rw [kindOf_cons, if_neg elsewhere]
          exact ih later
  · intro parent' child' other
    induction before generalizing after with
    | nil => cases updated
    | cons edge before ih =>
        rw [updateEdge] at updated
        split at updated
        · rename_i here
          cases updated
          have elsewhere : ¬(edge.parent = parent' ∧ edge.child = child') := by
            rintro ⟨rfl, rfl⟩
            exact other (Prod.ext here.1 here.2)
          rw [kindOf_cons, kindOf_cons, if_neg elsewhere, if_neg elsewhere]
        · rcases Option.map_eq_some_iff.mp updated with ⟨rest, later, rfl⟩
          rw [kindOf_cons, kindOf_cons, ih later]

theorem append_setsPair {parent child : OpId} {edges : List Edge}
    (fresh : ¬triggers edges parent child) (weight : UInt8) :
    SetsPair edges (edges ++ [⟨parent, child, weight⟩]) parent child weight := by
  refine ⟨?_, ?_, Or.inr ⟨?_, by rw [List.map_append, List.map_singleton]⟩⟩
  · rw [kindOf_append, if_neg fresh]
    exact if_pos ⟨rfl, rfl⟩
  · intro parent' child' other
    rw [kindOf_append]
    split
    · rfl
    · rename_i fresh'
      rw [kindOf_eq_none fresh']
      exact if_neg fun same => other (Prod.ext same.1.symm same.2.symm)
  · exact fun listed => fresh (triggers_iff_mem_pairs.mpr listed)

/-! ## Runs -/

/-- The recorded edges are a map, of bounded size, from pairs of different registered ops to the
four trigger kinds. -/
structure TriggerMap (B : Build) (budget : Budget) : Prop where
  distinct : (budget.edges.map fun edge => (edge.parent, edge.child)).Nodup
  apart : ∀ edge ∈ budget.edges, edge.parent ≠ edge.child
  inRange : ∀ edge ∈ budget.edges, edge.parent < budget.maxOps ∧ edge.child < budget.maxOps
  registered : ∀ edge ∈ budget.edges,
    budget.opCfg edge.parent = true ∧ budget.opCfg edge.child = true
  kinds : ∀ edge ∈ budget.edges, edge.HasKind
  bounded : budget.edges.length ≤ B.causalityMaxEdges
  counted : (causalityEdgeCount B budget).toNat = budget.edges.length

variable {B : Build} {budget : Budget}

/-- The table never outgrows its array. -/
theorem Reachable.edges_bounded (reachable : Reachable B budget) :
    budget.edges.length ≤ B.causalityMaxEdges % 65536 := by
  apply reachable.induction
  · intro start started
    rw [started.fresh.edges]
    exact Nat.zero_le _
  · intro budget event bounded
    rcases next_edges_cases B budget event with
      same | ⟨-, parent, child, kind, -, ⟨-, updated⟩ | ⟨new, -, after⟩⟩
    · rwa [same]
    · have length := congrArg List.length (updateEdge_pairs updated)
      rw [List.length_map, List.length_map] at length
      exact length.le.trans bounded
    · rw [after, List.length_append, List.length_singleton]
      exact new.room

theorem Reachable.triggerMap (reachable : Reachable B budget) : TriggerMap B budget where
  distinct := reachable.edgesRecorded.distinct
  apart := fun edge listed => (reachable.edgesProper edge listed).2
  inRange := reachable.wellFormed.edges_inRange
  registered := reachable.wellFormed.edges_registered
  kinds := reachable.edgesRecorded.kinds
  bounded := reachable.edges_bounded.trans (Nat.mod_le _ _)
  counted := by
    have wellFormed := reachable.wellFormed
    have bounded := reachable.edges_bounded
    rw [causalityEdgeCount, if_neg (not_not.mpr wellFormed.initialized)]
    split
    · rename_i missing
      rcases eq_or_ne budget.edges [] with none | some
      · rw [none]
        rfl
      · rw [wellFormed.edges_stored some] at missing
        cases missing
    · rw [UInt16.toNat_ofNat']
      omega

/-- What `op_may_trigger` and `register_op` do to the table of a reachable state, whatever their
arguments are. -/
structure TableCalls (B : Build) (budget : Budget) : Prop where
  register : ∀ hal profile,
    ((machine B).next budget ⟨hal, .registerOp profile⟩).edges = budget.edges
  accepted : ∀ hal parent child kind,
    ((machine B).reply budget ⟨hal, .opMayTrigger parent child kind⟩).status = .ok →
    ∃ weight, weight.toUInt32 = kind ∧ SetsPair budget.edges
      ((machine B).next budget ⟨hal, .opMayTrigger parent child kind⟩).edges parent child weight
  refused : ∀ hal parent child kind,
    ((machine B).reply budget ⟨hal, .opMayTrigger parent child kind⟩).status ≠ .ok →
    ((machine B).next budget ⟨hal, .opMayTrigger parent child kind⟩).edges = budget.edges

theorem tableCalls (B : Build) (budget : Budget) : TableCalls B budget where
  register := fun hal profile => next_edges budget _ fun _ _ _ _ called => by cases called
  accepted := by
    intro hal parent child kind accepted
    rcases edgeSet_of_accepted accepted with ⟨enabled, -, -⟩
    rw [reply_opMayTrigger hal enabled] at accepted
    rw [next_opMayTrigger hal enabled]
    have same (isKind : isTriggerKind kind = true) : kind.toUInt8.toUInt32 = kind := by
      simp only [isTriggerKind, Bool.or_eq_true, decide_eq_true_eq] at isKind
      rcases isKind with ((rfl | rfl) | rfl) | rfl
      all_goals rfl
    rcases opMayTrigger_cases B budget parent child kind with
      ⟨passes, edges, updated, after⟩ | ⟨new, -, after⟩ | ⟨rejected, -⟩
    · rw [after]
      exact ⟨_, same passes.kind, updateEdge_setsPair updated⟩
    · rw [after]
      exact ⟨_, same new.kind, append_setsPair new.fresh _⟩
    · exact absurd accepted rejected
  refused := by
    intro hal parent child kind refused
    cases enabled : B.enableCausality with
    | false => simp only [Machine.next, machine, exec, enabled, Bool.false_eq_true, if_false]
    | true =>
        rw [reply_opMayTrigger hal enabled] at refused
        rw [next_opMayTrigger hal enabled]
        rcases opMayTrigger_cases B budget parent child kind with
          ⟨-, edges, -, after⟩ | ⟨-, -, after⟩ | ⟨-, after⟩
        · rw [after] at refused
          exact absurd rfl refused
        · rw [after] at refused
          exact absurd rfl refused
        · rw [after]

/-- In every reachable state the trigger table is a bounded finite map. An accepted call sets one
pair of it, and a call that is refused leaves it alone, also in the storage, where the new edge is
taken back. -/
theorem trigger_table_map (reachable : Reachable B budget) :
    TriggerMap B budget ∧ TableCalls B budget ∧
      ∀ (table : EdgeTable) (maxOps parent child weight : UInt8),
        (table.mayTrigger B maxOps parent child weight).1 ≠ .ok →
        (table.mayTrigger B maxOps parent child weight).2.edgeCount = table.edgeCount ∧
          (table.mayTrigger B maxOps parent child weight).2.recorded = table.recorded :=
  ⟨reachable.triggerMap, tableCalls B budget, fun _ _ _ _ _ => EdgeTable.mayTrigger_refused⟩

theorem trigger_table_map_chain :
    TriggerMap Build.full ((machine Build.full).run .sample
      (registerOps 3 ++ [.trigger 0 1, .trigger 1 2, .trigger 2 0, .trigger 0 1])) :=
  (trigger_table_map ((Reachable.of_started started_sample).run _)).1

end Loxbudget
