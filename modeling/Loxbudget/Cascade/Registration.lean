import Loxbudget.Lib.Arcs
import Loxbudget.Model.Calls

/-!
# Registration of trigger edges

`loxbudget_op_may_trigger` changes the kind of a recorded edge or appends a new one.
Seen as a relation between ops, the table either stays as it is or gains one arc.
-/

namespace Loxbudget

/-- Some recorded edge leads from the parent to the child. -/
def triggers (edges : List Edge) (parent child : OpId) : Prop :=
  ∃ edge ∈ edges, edge.parent = parent ∧ edge.child = child

instance (edges : List Edge) (parent child : OpId) : Decidable (triggers edges parent child) :=
  inferInstanceAs (Decidable (∃ edge ∈ edges, edge.parent = parent ∧ edge.child = child))

theorem triggers_append (edges : List Edge) (edge : Edge) :
    triggers (edges ++ [edge]) = Arcs.withArc (triggers edges) edge.parent edge.child := by
  funext parent child
  simp only [triggers, Arcs.withArc, List.mem_append, List.mem_singleton, or_and_right,
    exists_or, exists_eq_left, eq_iff_iff]
  constructor
  · rintro (old | ⟨rfl, rfl⟩)
    · exact Or.inl old
    · exact Or.inr ⟨rfl, rfl⟩
  · rintro (old | ⟨rfl, rfl⟩)
    · exact Or.inl old
    · exact Or.inr ⟨rfl, rfl⟩

theorem updateEdge_eq_none {parent child : OpId} {weight : UInt8} {edges : List Edge} :
    updateEdge parent child weight edges = none ↔ ¬triggers edges parent child := by
  induction edges with
  | nil => simp [updateEdge, triggers]
  | cons edge edges ih =>
      simp only [updateEdge]
      split
      · rename_i found
        simp [triggers, found]
      · rename_i other
        rw [Option.map_eq_none_iff, ih]
        simp only [triggers, List.mem_cons, exists_eq_or_imp, other, false_or]

theorem updateEdge_pairs {parent child : OpId} {weight : UInt8} {before after : List Edge}
    (updated : updateEdge parent child weight before = some after) :
    after.map (fun edge => (edge.parent, edge.child)) =
      before.map fun edge => (edge.parent, edge.child) := by
  induction before generalizing after with
  | nil => simp [updateEdge] at updated
  | cons edge before ih =>
      simp only [updateEdge] at updated
      split at updated
      · simp only [Option.some.injEq] at updated
        subst updated
        rfl
      · rcases Option.map_eq_some_iff.mp updated with ⟨rest, later, rfl⟩
        simp only [List.map_cons, ih later]

theorem triggers_iff_mem_pairs {edges : List Edge} {parent child : OpId} :
    triggers edges parent child ↔
      (parent, child) ∈ edges.map fun edge => (edge.parent, edge.child) := by
  simp [triggers]

theorem updateEdge_triggers {parent child : OpId} {weight : UInt8} {before after : List Edge}
    (updated : updateEdge parent child weight before = some after) :
    triggers after = triggers before := by
  funext first last
  rw [eq_iff_iff, triggers_iff_mem_pairs, triggers_iff_mem_pairs, updateEdge_pairs updated]

/-! ## One call -/

/-- The call passes the checks that `op_may_trigger` makes before it reads the edge table. -/
structure Budget.MayRelate (B : Build) (budget : Budget) (parent child : OpId) (kind : UInt32) :
    Prop where
  initialized : budget.magic = magicInit
  hasStorage : budget.causalityHasStorage B = true
  parentInRange : parent < budget.maxOps
  childInRange : child < budget.maxOps
  parent_ne : parent ≠ child
  kind : isTriggerKind kind = true
  parentRegistered : budget.opCfg parent = true
  childRegistered : budget.opCfg child = true

/-- The call is for a pair that is not recorded, and the table has room for it. -/
structure Budget.NewPair (B : Build) (budget : Budget) (parent child : OpId) (kind : UInt32) :
    Prop extends budget.MayRelate B parent child kind where
  fresh : ¬triggers budget.edges parent child
  room : budget.edges.length < B.causalityMaxEdges % 65536

variable {B : Build} {budget : Budget} {parent child : OpId} {kind : UInt32}

theorem opMayTrigger_of_mayRelate (passes : budget.MayRelate B parent child kind) :
    opMayTrigger B budget parent child kind =
      match updateEdge parent child kind.toUInt8 budget.edges with
      | some edges => (.ok, { budget with edges := edges })
      | none =>
          if budget.edges.length ≥ B.causalityMaxEdges % 65536 then (.noSpace, budget)
          else if pathExists B budget.maxOps (budget.edges ++ [⟨parent, child, kind.toUInt8⟩])
            child parent then (.badState, budget)
          else
            (.ok, { budget with edges := budget.edges ++ [⟨parent, child, kind.toUInt8⟩] }) := by
  have inRange : ¬(parent ≥ budget.maxOps ∨ child ≥ budget.maxOps) :=
    not_or.mpr ⟨UInt8.not_le.mpr passes.parentInRange, UInt8.not_le.mpr passes.childInRange⟩
  have registered : ¬(budget.opCfg parent = false ∨ budget.opCfg child = false) := by
    simp [passes.parentRegistered, passes.childRegistered]
  simp only [opMayTrigger]
  rw [if_neg (not_not.mpr passes.initialized), if_neg (by simp [passes.hasStorage]),
    if_neg inRange, if_neg passes.parent_ne, if_neg (by simp [passes.kind])]
  exact if_neg registered

/-- A call for a new pair answers with the outcome of the cycle search. -/
theorem opMayTrigger_of_newPair (new : budget.NewPair B parent child kind) :
    opMayTrigger B budget parent child kind =
      if pathExists B budget.maxOps (budget.edges ++ [⟨parent, child, kind.toUInt8⟩])
        child parent then (.badState, budget)
      else (.ok, { budget with edges := budget.edges ++ [⟨parent, child, kind.toUInt8⟩] }) := by
  rw [opMayTrigger_of_mayRelate new.toMayRelate, updateEdge_eq_none.mpr new.fresh]
  simp only [ge_iff_le, Nat.not_le.mpr new.room, if_false]

theorem opMayTrigger_of_not_mayRelate (fails : ¬budget.MayRelate B parent child kind) :
    (opMayTrigger B budget parent child kind).1 ≠ .ok ∧
      (opMayTrigger B budget parent child kind).2 = budget := by
  simp only [opMayTrigger]
  split
  · exact ⟨by simp, rfl⟩
  rename_i initialized
  split
  · exact ⟨by simp, rfl⟩
  rename_i hasStorage
  split
  · exact ⟨by simp, rfl⟩
  rename_i inRange
  split
  · exact ⟨by simp, rfl⟩
  rename_i parent_ne
  split
  · exact ⟨by simp, rfl⟩
  rename_i isKind
  split
  · exact ⟨by simp, rfl⟩
  rename_i registered
  simp only [not_or, ge_iff_le, UInt8.not_le, Bool.not_eq_false, ne_eq, not_not]
    at initialized hasStorage inRange isKind registered
  exact absurd ⟨initialized, hasStorage, inRange.1, inRange.2, parent_ne, isKind, registered.1,
    registered.2⟩ fails

theorem opMayTrigger_cases (B : Build) (budget : Budget) (parent child : OpId) (kind : UInt32) :
    (budget.MayRelate B parent child kind ∧
        ∃ edges, updateEdge parent child kind.toUInt8 budget.edges = some edges ∧
          opMayTrigger B budget parent child kind = (.ok, { budget with edges := edges })) ∨
      (budget.NewPair B parent child kind ∧
        pathExists B budget.maxOps (budget.edges ++ [⟨parent, child, kind.toUInt8⟩])
          child parent = false ∧
        opMayTrigger B budget parent child kind =
          (.ok, { budget with edges := budget.edges ++ [⟨parent, child, kind.toUInt8⟩] })) ∨
      (opMayTrigger B budget parent child kind).1 ≠ .ok ∧
        (opMayTrigger B budget parent child kind).2 = budget := by
  by_cases passes : budget.MayRelate B parent child kind
  · rcases recorded : updateEdge parent child kind.toUInt8 budget.edges with _ | edges
    · by_cases room : budget.edges.length < B.causalityMaxEdges % 65536
      · have new : budget.NewPair B parent child kind :=
          ⟨passes, updateEdge_eq_none.mp recorded, room⟩
        rw [opMayTrigger_of_newPair new]
        cases pathExists B budget.maxOps (budget.edges ++ [⟨parent, child, kind.toUInt8⟩])
            child parent with
        | true => exact Or.inr (Or.inr ⟨by simp, rfl⟩)
        | false => exact Or.inr (Or.inl ⟨new, rfl, rfl⟩)
      · rw [opMayTrigger_of_mayRelate passes, recorded]
        simp only [ge_iff_le, Nat.not_lt.mp room, if_true]
        exact Or.inr (Or.inr ⟨by simp, trivial⟩)
    · refine Or.inl ⟨passes, edges, rfl, ?_⟩
      rw [opMayTrigger_of_mayRelate passes, recorded]
  · exact Or.inr (Or.inr (opMayTrigger_of_not_mayRelate passes))

theorem next_opMayTrigger (hal : Hal) (enabled : B.enableCausality = true) :
    (machine B).next budget ⟨hal, .opMayTrigger parent child kind⟩ =
      (opMayTrigger B budget parent child kind).2 := by
  simp only [Machine.next, machine, exec, enabled, if_true]

theorem reply_opMayTrigger (hal : Hal) (enabled : B.enableCausality = true) :
    ((machine B).reply budget ⟨hal, .opMayTrigger parent child kind⟩).status =
      (opMayTrigger B budget parent child kind).1 := by
  simp only [Machine.reply, machine, exec, enabled, if_true]
  rfl

end Loxbudget
