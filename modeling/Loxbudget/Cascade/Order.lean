import Loxbudget.Cascade.Coverage
import Loxbudget.Decision.Admission

/-!
# The order of registration

Registering the same edges in another order permutes the edge table. The totals of
a cascade walk would not notice if the walk added every edge of the ops that it
reaches, since then they are a sum over the table. What the walk leaves out does
depend on the order: it passes over an edge whose child it has visited before, and
which of two edges into a shared child comes first is a matter of the stack.
-/

namespace Loxbudget

/-- A call of `op_may_trigger`. -/
structure TriggerCall where
  parent : OpId
  child : OpId
  kind : UInt32
  deriving DecidableEq

/-- The call as an event. -/
def TriggerCall.event (hal : Hal) (call : TriggerCall) : Event :=
  ⟨hal, .opMayTrigger call.parent call.child call.kind⟩

/-- The edge that the call records. -/
def TriggerCall.edge (call : TriggerCall) : Edge :=
  ⟨call.parent, call.child, call.kind.toUInt8⟩

/-- Every one of the calls succeeds. -/
def Registers (B : Build) (hal : Hal) (budget : Budget) (calls : List TriggerCall) : Prop :=
  (machine B).Along (fun budget event => ((machine B).reply budget event).status = .ok) budget
    (calls.map (TriggerCall.event hal))

/-- The iteration passes over no active edge that has something to add on the ground that its
child has been visited. -/
def WalkState.CountsEdges (B : Build) (budget : Budget) (pressure : Pressure)
    (walk : WalkState) : Prop :=
  ∀ cur rest, walk.stack = cur :: rest → cur.op ∉ walk.visited →
    cur.depth < UInt8.ofNat B.causalityMaxDepth →
    ∀ edge ∈ budget.edges, edge.parent = cur.op → edge.isActive pressure = true →
      edge.child ∈ cur.op :: walk.visited → ∀ resource, budget.edgeNeed resource edge = 0

/-- No iteration of the walk that `check` makes for the op goes wrong or passes over an edge. -/
def CountsEachEdge (B : Build) (budget : Budget) (op : OpId) : Prop :=
  ∀ iteration,
    let walk := (WalkState.step B budget budget.pressure)^[iteration]
      (WalkState.start op (budget.ownNeeds op))
    walk.Thorough B budget budget.pressure op ∧ walk.CountsEdges B budget budget.pressure

/-! ## The edge table -/

variable {B : Build} {budget : Budget} {hal : Hal}

/-- Calls for distinct new pairs append their edges in the order of the calls. -/
theorem run_registers {calls : List TriggerCall}
    (distinct : (calls.map fun call => (call.parent, call.child)).Nodup)
    (new : ∀ call ∈ calls, ¬triggers budget.edges call.parent call.child)
    (registers : Registers B hal budget calls) :
    (machine B).run budget (calls.map (TriggerCall.event hal)) =
      { budget with edges := budget.edges ++ calls.map TriggerCall.edge } := by
  induction calls generalizing budget with
  | nil => simp
  | cons call calls ih =>
      rcases registers with ⟨accepted, later⟩
      rw [List.map_cons, List.nodup_cons] at distinct
      have enabled : B.enableCausality = true := by
        by_contra disabled
        simp [Machine.reply, machine, exec, TriggerCall.event, disabled, Reply.ofStatus]
          at accepted
      have appended : (machine B).next budget (call.event hal) =
          { budget with edges := budget.edges ++ [call.edge] } := by
        simp only [TriggerCall.event] at accepted ⊢
        rw [reply_opMayTrigger hal enabled] at accepted
        rw [next_opMayTrigger hal enabled]
        rcases opMayTrigger_cases B budget call.parent call.child call.kind with
          ⟨-, edges, updated, -⟩ | ⟨-, -, after⟩ | ⟨rejected, -⟩
        · rw [updateEdge_eq_none.mpr (new call List.mem_cons_self)] at updated
          exact absurd updated (by simp)
        · rw [after]
          rfl
        · exact absurd accepted rejected
      rw [List.map_cons, Machine.run_cons, appended]
      rw [appended] at later
      have fresh : ∀ other ∈ calls,
          ¬triggers (budget.edges ++ [call.edge]) other.parent other.child := by
        intro other listed
        rw [triggers_append]
        rintro (old | ⟨sameParent, sameChild⟩)
        · exact new other (List.mem_cons_of_mem _ listed) old
        · refine distinct.1 (List.mem_map.mpr ⟨other, listed, ?_⟩)
          exact Prod.ext sameParent sameChild
      rw [ih distinct.2 fresh later]
      simp only [List.append_assoc, List.singleton_append, List.map_cons]

/-! ## Sums over the edge table -/

variable {pressure : Pressure} {root : OpId} {own : NeedPerRes}

theorem sum_map_filter {Item : Type*} (selects : Item → Bool) (amount : Item → Nat)
    (items : List Item) :
    ((items.filter selects).map amount).sum =
      (items.map fun item => if selects item = true then amount item else 0).sum := by
  rw [List.sum_map_ite]
  simp

/-- What one expansion adds, if it passes over no edge that counts. -/
theorem sum_followedEdges (wellFormed : WellFormed B budget)
    (counts : ∀ iteration, WalkState.CountsEdges B budget pressure
      ((WalkState.step B budget pressure)^[iteration] (WalkState.start root own)))
    {cur : WalkEntry} {older : List WalkEntry}
    (expansion : cur :: older <:+ cascadeExpansions B budget pressure root)
    (shallow : cur.depth < UInt8.ofNat B.causalityMaxDepth) (resource : ResourceId) :
    ((followedEdges B budget pressure older cur).map (budget.edgeNeed resource)).sum =
      (budget.edges.map fun edge =>
        if edge.isActive pressure = true ∧ edge.parent = cur.op
        then budget.edgeNeed resource edge else 0).sum := by
  rcases Worklist.exists_iteration expansion with ⟨iteration, -, before, fresh, rest, top⟩
  have counted := counts iteration
  rw [WalkState.iterate_eq] at counted
  simp only [WalkState.CountsEdges, WalkState.ofSearch, before] at counted
  simp only [followedEdges, ge_iff_le, UInt8.not_le.mpr shallow, if_false]
  rw [sum_map_filter]
  refine congrArg List.sum (List.map_congr_left fun edge listed => ?_)
  by_cases leaves : edge.isActive pressure = true ∧ edge.parent = cur.op
  · by_cases seen : edge.child ∈ cur.op :: older.map WalkEntry.op
    · have zero := counted cur rest top fresh shallow edge listed leaves.2 leaves.1 seen resource
      simp [zero]
    · have follows : walkFollows pressure budget.maxOps cur.op (cur.op :: older.map WalkEntry.op)
          edge = true := by
        simp only [walkFollows, decide_eq_true_eq]
        exact ⟨leaves.2, leaves.1, (wellFormed.edges_inRange edge listed).2, seen⟩
      rw [if_pos follows, if_pos leaves]
  · have stays : walkFollows pressure budget.maxOps cur.op (cur.op :: older.map WalkEntry.op)
        edge = false := by
      simp only [walkFollows, decide_eq_false_iff_not]
      exact fun follows => leaves ⟨follows.2.1, follows.1⟩
    simp [stays, leaves]

/-- The ops whose edges some expansions have followed. -/
def followedParents (B : Build) (expanded : List WalkEntry) : List OpId :=
  (expanded.filter fun cur => cur.depth < UInt8.ofNat B.causalityMaxDepth).map WalkEntry.op

theorem followedParents_of_shallow {cur : WalkEntry} {older : List WalkEntry}
    (shallow : cur.depth < UInt8.ofNat B.causalityMaxDepth) :
    followedParents B (cur :: older) = cur.op :: followedParents B older := by
  simp [followedParents, shallow]

theorem followedParents_of_deep {cur : WalkEntry} {older : List WalkEntry}
    (deep : ¬cur.depth < UInt8.ofNat B.causalityMaxDepth) :
    followedParents B (cur :: older) = followedParents B older := by
  simp [followedParents, deep]

/-- No op is expanded twice. -/
theorem notMem_followedParents {cur : WalkEntry} {older : List WalkEntry}
    (expansion : cur :: older <:+ cascadeExpansions B budget pressure root) :
    cur.op ∉ followedParents B older := by
  rcases Worklist.exists_iteration expansion with ⟨-, -, -, fresh, -⟩
  intro listed
  rcases List.mem_map.mp listed with ⟨entry, kept, same⟩
  exact fresh (List.mem_map.mpr ⟨entry, (List.mem_filter.mp kept).1, same⟩)

theorem followedEdges_of_deep {cur : WalkEntry} {older : List WalkEntry}
    (deep : ¬cur.depth < UInt8.ofNat B.causalityMaxDepth) :
    followedEdges B budget pressure older cur = [] :=
  if_pos (UInt8.not_lt.mp deep)

/-- The active edges of the expanded ops are those of the last one and those of the others. -/
theorem sum_followedParents_cons {cur : WalkEntry} {older : List WalkEntry}
    (expansion : cur :: older <:+ cascadeExpansions B budget pressure root)
    (shallow : cur.depth < UInt8.ofNat B.causalityMaxDepth) (resource : ResourceId) :
    (budget.edges.map fun edge =>
        if edge.isActive pressure = true ∧ edge.parent ∈ followedParents B (cur :: older)
        then budget.edgeNeed resource edge else 0).sum =
      (budget.edges.map fun edge =>
        if edge.isActive pressure = true ∧ edge.parent ∈ followedParents B older
        then budget.edgeNeed resource edge else 0).sum +
      (budget.edges.map fun edge =>
        if edge.isActive pressure = true ∧ edge.parent = cur.op
        then budget.edgeNeed resource edge else 0).sum := by
  have fresh := notMem_followedParents expansion
  rw [followedParents_of_shallow shallow, ← List.sum_map_add]
  refine congrArg List.sum (List.map_congr_left fun edge _ => ?_)
  by_cases leaves : edge.parent = cur.op
  · simp [leaves, fresh]
  · simp [leaves]

/-- What some expansions add, if they pass over no edge that counts: the sum over the active edges
of the ops that they expand. -/
theorem sum_followedBy (wellFormed : WellFormed B budget)
    (counts : ∀ iteration, WalkState.CountsEdges B budget pressure
      ((WalkState.step B budget pressure)^[iteration] (WalkState.start root own)))
    {expanded : List WalkEntry}
    (part : expanded <:+ cascadeExpansions B budget pressure root) (resource : ResourceId) :
    ((followedBy B budget pressure expanded).map (budget.edgeNeed resource)).sum =
      (budget.edges.map fun edge =>
        if edge.isActive pressure = true ∧ edge.parent ∈ followedParents B expanded
        then budget.edgeNeed resource edge else 0).sum := by
  induction expanded with
  | nil => simp [followedBy, followedParents]
  | cons cur older ih =>
      simp only [followedBy, List.map_append, List.sum_append]
      rw [ih ((List.suffix_cons cur older).trans part)]
      by_cases shallow : cur.depth < UInt8.ofNat B.causalityMaxDepth
      · rw [sum_followedEdges wellFormed counts part shallow,
          sum_followedParents_cons part shallow]
      · rw [followedParents_of_deep shallow, followedEdges_of_deep shallow]
        simp

theorem relays_of_followedParents {edge : Edge} (listed : edge ∈ budget.edges)
    (active : edge.isActive pressure = true)
    (followed : edge.parent ∈ followedParents B (cascadeExpansions B budget pressure root)) :
    Relays B budget pressure root edge.parent := by
  rcases List.mem_map.mp followed with ⟨cur, kept, same⟩
  rcases List.mem_filter.mp kept with ⟨expanded, shallow⟩
  have below := UInt8.lt_iff_toNat_lt.mp (of_decide_eq_true shallow)
  rw [UInt8.toNat_ofNat'] at below
  rw [← same]
  exact ⟨⟨cur.depth.toNat, Nat.lt_of_lt_of_le below (Nat.mod_le _ _),
    walk_of_entry (Or.inl expanded)⟩, edge.child, edge, listed, active, same.symm, rfl⟩

/-- The ops whose edges a thorough walk follows are those that relay. -/
theorem mem_followedParents (wellFormed : WellFormed B budget)
    (thorough : ∀ iteration, WalkState.Thorough B budget pressure root
      ((WalkState.step B budget pressure)^[iteration] (WalkState.start root own)))
    {edge : Edge} (listed : edge ∈ budget.edges) (active : edge.isActive pressure = true) :
    edge.parent ∈ followedParents B (cascadeExpansions B budget pressure root) ↔
      Relays B budget pressure root edge.parent := by
  constructor
  · exact relays_of_followedParents listed active
  · intro relays
    rcases expanded_of_relays wellFormed thorough relays with
      ⟨cur, older, same, shallow, expansion⟩
    refine List.mem_map.mpr ⟨cur, List.mem_filter.mpr ⟨?_, decide_eq_true shallow⟩, same⟩
    exact expansion.subset List.mem_cons_self

/-! ## Two orders -/

variable {edges : List Edge}

theorem activates_perm (perm : budget.edges.Perm edges) :
    Budget.activates { budget with edges := edges } pressure = budget.activates pressure := by
  funext parent child
  simp only [Budget.activates, perm.mem_iff]

theorem relays_perm (perm : budget.edges.Perm edges) :
    Relays B { budget with edges := edges } pressure root = Relays B budget pressure root := by
  funext op
  simp only [Relays, activates_perm perm]

/-- Two walks over the same edges in different orders that count each edge come to the same
totals. -/
theorem causalityAddScaledNeeds_perm (perm : budget.edges.Perm edges)
    (wellFormed : WellFormed B budget) (wellFormed' : WellFormed B { budget with edges := edges })
    (op : OpId) (counts : CountsEachEdge B budget op)
    (counts' : CountsEachEdge B { budget with edges := edges } op) :
    causalityAddScaledNeeds B { budget with edges := edges } op (budget.ownNeeds op)
        budget.pressure =
      causalityAddScaledNeeds B budget op (budget.ownNeeds op) budget.pressure := by
  by_cases walks : budget.causalityHasStorage B = true ∧ op < budget.maxOps
  · have hasStorage' : Budget.causalityHasStorage B { budget with edges := edges } = true := walks.1
    rw [causalityAddScaledNeeds_eq walks.1 walks.2, causalityAddScaledNeeds_eq hasStorage' walks.2]
    congr 1
    funext resource
    apply UInt16.toNat_inj.mp
    rw [addEdges_toNat wellFormed, addEdges_toNat wellFormed']
    simp only [cascadeEdges]
    rw [sum_followedBy wellFormed (fun iteration => (counts iteration).2) List.suffix_rfl,
      sum_followedBy wellFormed' (fun iteration => (counts' iteration).2) List.suffix_rfl]
    congr 2
    rw [(perm.symm.map _).sum_eq]
    refine congrArg List.sum (List.map_congr_left fun edge listed => ?_)
    change (if _ then budget.edgeNeed resource edge else 0) = _
    by_cases active : edge.isActive budget.pressure = true
    · have parents : edge.parent ∈ followedParents B
            (cascadeExpansions B { budget with edges := edges } budget.pressure op) ↔
          edge.parent ∈ followedParents B (cascadeExpansions B budget budget.pressure op) := by
        rw [mem_followedParents wellFormed (fun iteration => (counts iteration).1) listed active,
          mem_followedParents wellFormed' (fun iteration => (counts' iteration).1)
            (perm.subset listed) active, relays_perm perm]
      simp only [active, true_and, parents]
    · rw [if_neg fun both => active both.1, if_neg fun both => active both.1]
  · rw [causalityAddScaledNeeds_eq_none walks, causalityAddScaledNeeds_eq_none]
    exact walks

/-! ## The decision -/

theorem checkNeeds_edges (profile : OpProfile) (out : Decision) (needs : List Need)
    (pass : NeedsPass) :
    checkNeeds B hal { budget with edges := edges } profile out needs pass =
      checkNeeds B hal budget profile out needs pass := by
  induction needs generalizing pass with
  | nil => rfl
  | cons need needs ih =>
      have first : checkNeed B hal { budget with edges := edges } profile out need pass =
          checkNeed B hal budget profile out need pass := rfl
      simp only [checkNeeds, first]
      split
      · rfl
      · exact ih _

theorem checkCascade_edges {op : OpId}
    (walked : causalityAddScaledNeeds B { budget with edges := edges } op own budget.pressure =
      causalityAddScaledNeeds B budget op own budget.pressure) (out : Decision) :
    checkCascade B { budget with edges := edges } op out own =
      checkCascade B budget op out own := by
  simp only [checkCascade, walked]
  rfl

/-- The decision depends on the edge table only through the totals of the walk. -/
theorem decide_edges (hal : Hal) (wellFormed : WellFormed B budget) {op : OpId}
    (walked : causalityAddScaledNeeds B { budget with edges := edges } op (budget.ownNeeds op)
        budget.pressure =
      causalityAddScaledNeeds B budget op (budget.ownNeeds op) budget.pressure) :
    (decide B hal { budget with edges := edges } op).1 = (decide B hal budget op).1 := by
  have sameProfile : Budget.profile { budget with edges := edges } op = budget.profile op := rfl
  simp only [decide, sameProfile]
  rcases budget.profile op with _ | profile
  · rfl
  simp only
  split
  · rfl
  split
  · rfl
  have sameGate : Budget.halPreconditions hal { budget with edges := edges } profile =
      budget.halPreconditions hal profile := rfl
  rw [sameGate]
  split
  · rfl
  rw [checkNeeds_edges]
  rcases checked : checkNeeds B hal budget profile
    ⟨profile.mappedAction budget.pressure, budget.pressure, 0xFF, 0, 0, .ok⟩ (budget.needs op)
    ⟨budget.rateState, fun _ => 0⟩ with ⟨pass, _ | d⟩
  · have accumulated := checkNeeds_ownNeeds wellFormed (congrArg Prod.snd checked)
    rw [checked] at accumulated
    simp only at accumulated ⊢
    have cascade : ∀ out, checkCascade B
          { budget with rateState := pass.rateState, edges := edges } op out pass.needPerRes =
        checkCascade B { budget with rateState := pass.rateState } op out pass.needPerRes := by
      intro out
      rw [accumulated]
      exact (checkCascade_booked pass.rateState _ op _).trans
        ((checkCascade_edges walked out).trans (checkCascade_booked pass.rateState _ op _).symm)
    rw [cascade]
    split
    · rfl
    · rfl
  · rfl

theorem reply_check_edges (hal : Hal) (wellFormed : WellFormed B budget) {op : OpId} (out : Bool)
    (walked : causalityAddScaledNeeds B { budget with edges := edges } op (budget.ownNeeds op)
        budget.pressure =
      causalityAddScaledNeeds B budget op (budget.ownNeeds op) budget.pressure) :
    (machine B).reply { budget with edges := edges } ⟨hal, .check op out⟩ =
      (machine B).reply budget ⟨hal, .check op out⟩ := by
  have decided := decide_edges hal wellFormed walked
  have valid : budget.validate = .ok := validate_eq_ok.mpr wellFormed.initialized
  have valid' : Budget.validate { budget with edges := edges } = .ok := valid
  simp only [Machine.reply, machine, exec, check]
  cases out with
  | false => rfl
  | true => simp only [Bool.true_eq_false, if_false, valid, valid', ne_eq, not_true, decided]

/-- If the walks from an op count each edge, `check` decides on the op in the same way after either
order of registration. -/
theorem check_order_independent (reachable : Reachable B budget) (hal : Hal)
    (calls calls' : List TriggerCall) (reordered : calls.Perm calls')
    (distinct : (calls.map fun call => (call.parent, call.child)).Nodup)
    (new : ∀ call ∈ calls, ¬triggers budget.edges call.parent call.child)
    (registers : Registers B hal budget calls) (registers' : Registers B hal budget calls')
    (op : OpId) (out : Bool)
    (counts : CountsEachEdge B ((machine B).run budget (calls.map (TriggerCall.event hal))) op)
    (counts' : CountsEachEdge B ((machine B).run budget (calls'.map (TriggerCall.event hal))) op)
    (hal' : Hal) :
    (machine B).reply ((machine B).run budget (calls.map (TriggerCall.event hal)))
        ⟨hal', .check op out⟩ =
      (machine B).reply ((machine B).run budget (calls'.map (TriggerCall.event hal)))
        ⟨hal', .check op out⟩ := by
  have distinct' := (reordered.map fun call => (call.parent, call.child)).nodup distinct
  have wellFormed := (reachable.run (calls.map (TriggerCall.event hal))).wellFormed
  have wellFormed' := (reachable.run (calls'.map (TriggerCall.event hal))).wellFormed
  rw [run_registers distinct new registers] at counts wellFormed ⊢
  rw [run_registers distinct' (fun call listed => new call (reordered.symm.subset listed))
    registers'] at counts' wellFormed' ⊢
  have perm := (reordered.map TriggerCall.edge).append_left budget.edges
  have walked := causalityAddScaledNeeds_perm perm wellFormed wellFormed' op counts counts'
  exact (reply_check_edges hal' wellFormed out walked).symm

/-- A walk over few edges that all leave the root counts each of them. -/
theorem countsEachEdge_of_star {op : OpId} (few : budget.edges.length ≤ B.stackCapacity)
    (deep : 1 < (UInt8.ofNat B.causalityMaxDepth).toNat)
    (star : ∀ edge ∈ budget.edges, edge.parent = op ∧ edge.child ≠ op) :
    CountsEachEdge B budget op := by
  intro iteration walk
  constructor
  · refine WalkState.thorough_of_few few (fun length last path => ?_) iteration
    refine Nat.lt_of_le_of_lt (path.length_le_one ?_) deep
    rintro parent child ⟨edge, listed, -, rfl, rfl⟩
    exact star edge listed
  · intro cur rest top fresh _ edge listed leaves _ seen
    have isRoot : cur.op = op := leaves.symm.trans (star edge listed).1
    simp only [walk, WalkState.iterate_eq, WalkState.ofSearch] at fresh seen
    -- the root is the first op to be expanded, so nothing has been visited before it
    cases iteration with
    | zero =>
        simp only [Worklist.after_zero, Worklist.start, List.map_nil, List.mem_singleton] at seen
        exact absurd (seen.trans isRoot) (star edge listed).2
    | succ iteration =>
        have first : [(⟨op, 0⟩ : WalkEntry)] <:+
            ((walkSearch B budget budget.pressure).after ⟨op, 0⟩ (iteration + 1)).expanded :=
          Worklist.expanded_suffix_after (walkSearch B budget budget.pressure) ⟨op, 0⟩
            (Nat.succ_le_succ (Nat.zero_le iteration))
        rw [isRoot] at fresh
        exact absurd ((first.map WalkEntry.op).subset List.mem_cons_self) fresh

/-- Three ops, the second of which needs six of ten. -/
def threeOps : List Event :=
  registerOps 3 ++ [.permissive (.setResource 0 10 0), .permissive (.opSetNeed 1 0 6)]

theorem check_order_independent_star :
    (machine Build.full).reply ((machine Build.full).run ((machine Build.full).run .sample threeOps)
        ([⟨0, 1, 255⟩, ⟨0, 2, 255⟩].map (TriggerCall.event (Hal.permissive 0))))
        ⟨Hal.permissive 0, .check 0 true⟩ =
      (machine Build.full).reply ((machine Build.full).run ((machine Build.full).run .sample threeOps)
        ([⟨0, 2, 255⟩, ⟨0, 1, 255⟩].map (TriggerCall.event (Hal.permissive 0))))
        ⟨Hal.permissive 0, .check 0 true⟩ :=
  check_order_independent ((Reachable.of_started started_sample).run threeOps) (Hal.permissive 0)
    [⟨0, 1, 255⟩, ⟨0, 2, 255⟩] [⟨0, 2, 255⟩, ⟨0, 1, 255⟩] (by decide) (by decide)
    (by decide +kernel) ⟨by decide +kernel, by decide +kernel, trivial⟩
    ⟨by decide +kernel, by decide +kernel, trivial⟩ 0 true
    (countsEachEdge_of_star (by decide +kernel) (by decide) (by decide +kernel))
    (countsEachEdge_of_star (by decide +kernel) (by decide) (by decide +kernel)) (Hal.permissive 0)

/-- With op 1 on top of the stack the edge into it from op 2 is passed over; with op 2 on top it
counts a second time. -/
theorem check_order_dependent :
    ¬∀ (B : Build) (budget : Budget), Reachable B budget → ∀ (hal : Hal)
      (calls calls' : List TriggerCall), calls.Perm calls' →
      (calls.map fun call => (call.parent, call.child)).Nodup →
      (∀ call ∈ calls, ¬triggers budget.edges call.parent call.child) →
      Registers B hal budget calls → Registers B hal budget calls' → ∀ op out hal',
      (machine B).reply ((machine B).run budget (calls.map (TriggerCall.event hal)))
          ⟨hal', .check op out⟩ =
        (machine B).reply ((machine B).run budget (calls'.map (TriggerCall.event hal)))
          ⟨hal', .check op out⟩ := by
  intro always
  have same := always Build.full _ ((Reachable.of_started started_sample).run threeOps)
    (Hal.permissive 0) [⟨0, 1, 255⟩, ⟨0, 2, 255⟩, ⟨2, 1, 255⟩]
    [⟨0, 2, 255⟩, ⟨0, 1, 255⟩, ⟨2, 1, 255⟩] (by decide) (by decide) (by decide +kernel)
    ⟨by decide +kernel, by decide +kernel, by decide +kernel, trivial⟩
    ⟨by decide +kernel, by decide +kernel, by decide +kernel, trivial⟩ 0 true (Hal.permissive 0)
  revert same
  decide +kernel

end Loxbudget
