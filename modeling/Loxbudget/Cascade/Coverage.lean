import Loxbudget.Cascade.Totals
import Loxbudget.Lib.Arcs

/-!
# Which ops a cascade covers

An op within `LOXBUDGET_CAUSALITY_MAX_DEPTH` active edges of the root should
contribute to the totals. It does if the walk expands the op before it, and for
that two things must not go wrong on the way: a push must not be lost to a full
stack, and no op may be taken from the stack first with a depth at which its own
edges are not followed any more, although a shorter path leads to it.

The walk marks an op as visited at whatever depth it comes across it first, so the
second thing does happen: with five edges an op at distance two is missed.
-/

namespace Loxbudget

/-- Some active edge leads from the parent to the child. -/
def Budget.activates (budget : Budget) (pressure : Pressure) (parent child : OpId) : Prop :=
  ∃ edge ∈ budget.edges, edge.isActive pressure = true ∧ edge.parent = parent ∧ edge.child = child

instance (budget : Budget) (pressure : Pressure) (parent child : OpId) :
    Decidable (budget.activates pressure parent child) :=
  inferInstanceAs (Decidable (∃ edge ∈ budget.edges, edge.isActive pressure = true ∧
    edge.parent = parent ∧ edge.child = child))

/-- The op is reached by between one and `LOXBUDGET_CAUSALITY_MAX_DEPTH` active edges. -/
def Covered (B : Build) (budget : Budget) (pressure : Pressure) (root op : OpId) : Prop :=
  op ≠ root ∧ ∃ length, 1 ≤ length ∧ length ≤ B.causalityMaxDepth ∧
    Arcs.Walk (budget.activates pressure) root length op

/-- The totals are `own` and what some active edges add, among them one into every covered op. -/
def Covers (B : Build) (budget : Budget) (pressure : Pressure) (root : OpId)
    (own totals : NeedPerRes) : Prop :=
  ∃ counted : List Edge,
    (∀ edge ∈ counted, edge ∈ budget.edges ∧ edge.isActive pressure = true) ∧
    (∀ op, Covered B budget pressure root op → ∃ edge ∈ counted, edge.child = op) ∧
    ∀ resource, (totals resource).toNat =
      min 65535 ((own resource).toNat + (counted.map (budget.edgeNeed resource)).sum)

/-- Every covered op has the needs of one of its edges in the totals. -/
theorem Covers.edgeNeed_le {B : Build} {budget : Budget} {pressure : Pressure} {root op : OpId}
    {own totals : NeedPerRes} (covers : Covers B budget pressure root own totals)
    (covered : Covered B budget pressure root op) :
    ∃ edge ∈ budget.edges, edge.isActive pressure = true ∧ edge.child = op ∧
      ∀ resource, min 65535 (budget.edgeNeed resource edge) ≤ (totals resource).toNat := by
  rcases covers with ⟨counted, active, into, sums⟩
  rcases into op covered with ⟨edge, listed, child⟩
  refine ⟨edge, (active edge listed).1, (active edge listed).2, child, ?_⟩
  intro resource
  have part : budget.edgeNeed resource edge ≤ (counted.map (budget.edgeNeed resource)).sum :=
    List.single_le_sum (fun _ _ => Nat.zero_le _) _ (List.mem_map_of_mem listed)
  rw [sums resource]
  omega

/-- The op has active edges that lead to covered ops: fewer active edges than
`LOXBUDGET_CAUSALITY_MAX_DEPTH` lead to it. -/
def Relays (B : Build) (budget : Budget) (pressure : Pressure) (root op : OpId) : Prop :=
  (∃ length < B.causalityMaxDepth, Arcs.Walk (budget.activates pressure) root length op) ∧
    ∃ child, budget.activates pressure op child

/-- The iteration does not go wrong: it loses no push of an op that relays, and expands no such op
at the depth limit. -/
structure WalkState.Thorough (B : Build) (budget : Budget) (pressure : Pressure) (root : OpId)
    (walk : WalkState) : Prop where
  pushes : ∀ cur rest, walk.stack = cur :: rest → cur.op ∉ walk.visited →
    cur.depth < UInt8.ofNat B.causalityMaxDepth →
    ∀ edge ∈ budget.edges,
      walkFollows pressure budget.maxOps cur.op (cur.op :: walk.visited) edge = true →
      Relays B budget pressure root edge.child →
      edge.child ∈ (walk.step B budget pressure).stack.map WalkEntry.op
  inDepth : ∀ cur rest, walk.stack = cur :: rest → cur.op ∉ walk.visited →
    Relays B budget pressure root cur.op → cur.depth < UInt8.ofNat B.causalityMaxDepth

/-! ## Followed edges -/

variable {B : Build} {budget : Budget} {pressure : Pressure} {root : OpId}

theorem mem_followedEdges {older : List WalkEntry} {cur : WalkEntry} {edge : Edge} :
    edge ∈ followedEdges B budget pressure older cur ↔
      cur.depth < UInt8.ofNat B.causalityMaxDepth ∧ edge ∈ budget.edges ∧
        walkFollows pressure budget.maxOps cur.op (cur.op :: older.map WalkEntry.op) edge =
          true := by
  simp only [followedEdges]
  split
  · rename_i deep
    simp [UInt8.not_lt.mpr deep]
  · rename_i shallow
    simp [UInt8.not_le.mp shallow]

theorem mem_followedBy {expanded : List WalkEntry} {edge : Edge} :
    edge ∈ followedBy B budget pressure expanded ↔
      ∃ cur older, cur :: older <:+ expanded ∧
        edge ∈ followedEdges B budget pressure older cur := by
  induction expanded with
  | nil => simp [followedBy]
  | cons first expanded ih =>
      simp only [followedBy, List.mem_append, ih, List.suffix_cons_iff, List.cons.injEq]
      constructor
      · rintro (⟨cur, older, expansion, followed⟩ | followed)
        · exact ⟨cur, older, Or.inr expansion, followed⟩
        · exact ⟨first, expanded, Or.inl ⟨rfl, rfl⟩, followed⟩
      · rintro ⟨cur, older, ⟨rfl, rfl⟩ | expansion, followed⟩
        · exact Or.inr followed
        · exact Or.inl ⟨cur, older, expansion, followed⟩

theorem activates_of_follows {cur : OpId} {visited : List OpId} {edge : Edge}
    (listed : edge ∈ budget.edges)
    (follows : walkFollows pressure budget.maxOps cur visited edge = true) :
    budget.activates pressure cur edge.child := by
  simp only [walkFollows, decide_eq_true_eq] at follows
  exact ⟨edge, listed, follows.2.1, follows.1, rfl⟩

/-- An entry is one active edge further from the root than the entry that offers it. -/
theorem walk_of_offer {older : List WalkEntry} {cur offer : WalkEntry}
    (walk : Arcs.Walk (budget.activates pressure) root cur.depth.toNat cur.op)
    (offered : offer ∈ (walkSearch B budget pressure).offers older cur) :
    Arcs.Walk (budget.activates pressure) root offer.depth.toNat offer.op := by
  rcases List.mem_map.mp offered with ⟨edge, followed, rfl⟩
  rcases mem_followedEdges.mp followed with ⟨shallow, listed, follows⟩
  have depth : (cur.depth + 1).toNat = cur.depth.toNat + 1 := by
    have below := UInt8.lt_iff_toNat_lt.mp shallow
    have limit := (UInt8.ofNat B.causalityMaxDepth).toNat_lt
    rw [UInt8.toNat_add, UInt8.toNat_one]
    omega
  simp only [depth]
  exact .snoc walk (activates_of_follows listed follows)

/-- The depth of an entry is the number of active edges over which the walk has come to it. -/
theorem walk_of_entry {count : Nat} {entry : WalkEntry}
    (found : entry ∈ ((walkSearch B budget pressure).after ⟨root, 0⟩ count).expanded ∨
      entry ∈ ((walkSearch B budget pressure).after ⟨root, 0⟩ count).stack) :
    Arcs.Walk (budget.activates pressure) root entry.depth.toNat entry.op :=
  Worklist.entry_invariant (walkSearch B budget pressure)
    (fun entry => Arcs.Walk (budget.activates pressure) root entry.depth.toNat entry.op)
    .nil (fun _ _ _ walk offered => walk_of_offer walk offered) found

/-- An expansion above the depth limit follows an active edge, unless it has seen its child. -/
theorem followed_or_seen (older : List WalkEntry) (cur : WalkEntry)
    (wellFormed : WellFormed B budget) {edge : Edge}
    (shallow : cur.depth < UInt8.ofNat B.causalityMaxDepth)
    (listed : edge ∈ budget.edges) (active : edge.isActive pressure = true)
    (leaves : edge.parent = cur.op) :
    edge ∈ followedEdges B budget pressure older cur ∨
      edge.child ∈ (cur :: older).map WalkEntry.op := by
  by_cases seen : edge.child ∈ cur.op :: older.map WalkEntry.op
  · exact Or.inr seen
  · refine Or.inl (mem_followedEdges.mpr ⟨shallow, listed, ?_⟩)
    simp only [walkFollows, decide_eq_true_eq]
    exact ⟨leaves, active, (wellFormed.edges_inRange edge listed).2, seen⟩

/-! ## Coverage -/

variable {own : NeedPerRes}

/-- A thorough walk is a search that loses no push of an op that relays. -/
theorem walkSearch_lossless
    (thorough : ∀ iteration, WalkState.Thorough B budget pressure root
      ((WalkState.step B budget pressure)^[iteration] (WalkState.start root own)))
    (iteration : Nat) :
    (walkSearch B budget pressure).Lossless (Relays B budget pressure root)
      ((walkSearch B budget pressure).after ⟨root, 0⟩ iteration) := by
  have pushes := (thorough iteration).pushes
  rw [WalkState.iterate_eq, WalkState.step_ofSearch, ← Worklist.after_succ] at pushes
  intro cur rest top fresh offer offered relays
  rcases List.mem_map.mp offered with ⟨edge, followed, rfl⟩
  rcases mem_followedEdges.mp followed with ⟨shallow, listed, follows⟩
  rw [← Worklist.after_succ]
  exact Or.inr (pushes cur rest top fresh shallow edge listed follows relays)

/-- An op that relays and that a thorough walk has expanded was expanded above the depth limit. -/
theorem expanded_above
    (thorough : ∀ iteration, WalkState.Thorough B budget pressure root
      ((WalkState.step B budget pressure)^[iteration] (WalkState.start root own)))
    {op : OpId} (relays : Relays B budget pressure root op)
    (expanded : op ∈ (cascadeExpansions B budget pressure root).map WalkEntry.op) :
    ∃ cur older, cur.op = op ∧ cur.depth < UInt8.ofNat B.causalityMaxDepth ∧
      cur :: older <:+ cascadeExpansions B budget pressure root := by
  rcases List.mem_map.mp expanded with ⟨cur, listed, rfl⟩
  rcases List.append_of_mem listed with ⟨newer, older, split⟩
  have expansion : cur :: older <:+ cascadeExpansions B budget pressure root :=
    ⟨newer, split.symm⟩
  rcases Worklist.exists_iteration expansion with ⟨iteration, -, before, fresh, rest, top⟩
  have inDepth := (thorough iteration).inDepth
  rw [WalkState.iterate_eq] at inDepth
  refine ⟨cur, older, rfl, inDepth cur rest top ?_ relays, expansion⟩
  simp only [WalkState.ofSearch, before]
  exact fresh

/-- A thorough walk expands every op that relays, and follows its edges. -/
theorem expanded_of_relays (wellFormed : WellFormed B budget)
    (thorough : ∀ iteration, WalkState.Thorough B budget pressure root
      ((WalkState.step B budget pressure)^[iteration] (WalkState.start root own)))
    {op : OpId} (relays : Relays B budget pressure root op) :
    ∃ cur older, cur.op = op ∧ cur.depth < UInt8.ofNat B.causalityMaxDepth ∧
      cur :: older <:+ cascadeExpansions B budget pressure root := by
  have ended := walkSearch_ends B budget pressure ⟨root, 0⟩
  apply expanded_above thorough relays
  rcases relays with ⟨⟨length, short, walk⟩, triggers⟩
  induction walk with
  | nil => exact (Worklist.root_known (walkSearch B budget pressure) ⟨root, 0⟩ _).expanded ended
  | @snoc length parent op walk final ih =>
      have relays : Relays B budget pressure root op :=
        ⟨⟨length + 1, short, .snoc walk final⟩, triggers⟩
      have parentRelays : Relays B budget pressure root parent :=
        ⟨⟨length, Nat.lt_of_succ_lt short, walk⟩, ⟨op, final⟩⟩
      rcases expanded_above thorough parentRelays (ih parentRelays.2 (Nat.lt_of_succ_lt short))
        with ⟨cur, older, rfl, shallow, expansion⟩
      rcases final with ⟨edge, listed, active, leaves, rfl⟩
      rcases followed_or_seen older _ wellFormed shallow listed active leaves with
        followed | seen
      · have offered : (⟨edge.child, cur.depth + 1⟩ : WalkEntry) ∈
            (walkSearch B budget pressure).offers older cur := List.mem_map_of_mem followed
        exact (Worklist.offer_known (fun iteration _ => walkSearch_lossless thorough iteration)
          expansion offered relays).expanded ended
      · exact (expansion.map WalkEntry.op).subset seen

/-- Every op other than the root that the walk has expanded was reached by an edge it followed. -/
theorem followed_of_expanded {op : OpId} (op_ne : op ≠ root)
    (expanded : op ∈ (cascadeExpansions B budget pressure root).map WalkEntry.op) :
    ∃ edge ∈ cascadeEdges B budget pressure root, edge.child = op := by
  rcases List.mem_map.mp expanded with ⟨entry, listed, rfl⟩
  rcases Worklist.offered_of_mem (Or.inl listed) with rfl | ⟨cur, older, expansion, offered⟩
  · exact absurd rfl op_ne
  · rcases List.mem_map.mp offered with ⟨edge, followed, rfl⟩
    exact ⟨edge, mem_followedBy.mpr ⟨cur, older, expansion, followed⟩, rfl⟩

/-- A thorough walk follows an edge into every covered op. -/
theorem followed_of_covered (wellFormed : WellFormed B budget)
    (thorough : ∀ iteration, WalkState.Thorough B budget pressure root
      ((WalkState.step B budget pressure)^[iteration] (WalkState.start root own)))
    {op : OpId} (covered : Covered B budget pressure root op) :
    ∃ edge ∈ cascadeEdges B budget pressure root, edge.child = op := by
  rcases covered with ⟨op_ne, length, positive, within, walk⟩
  cases walk with
  | nil => exact absurd rfl op_ne
  | @snoc length parent op walk final =>
      have relays : Relays B budget pressure root parent := ⟨⟨length, within, walk⟩, ⟨op, final⟩⟩
      rcases expanded_of_relays wellFormed thorough relays with
        ⟨cur, older, rfl, shallow, expansion⟩
      rcases final with ⟨edge, listed, active, leaves, rfl⟩
      rcases followed_or_seen older _ wellFormed shallow listed active leaves with
        followed | seen
      · exact ⟨edge, mem_followedBy.mpr ⟨cur, older, expansion, followed⟩, rfl⟩
      · exact followed_of_expanded op_ne ((expansion.map WalkEntry.op).subset seen)

/-- A walk over no more edges than the stack has entries, in a graph in which no path from the
root is as long as the depth limit, does not go wrong. -/
theorem WalkState.thorough_of_few (few : budget.edges.length ≤ B.stackCapacity)
    (short : ∀ length op, Arcs.Walk (budget.activates pressure) root length op →
      length < (UInt8.ofNat B.causalityMaxDepth).toNat) (iteration : Nat) :
    WalkState.Thorough B budget pressure root
      ((WalkState.step B budget pressure)^[iteration] (WalkState.start root own)) := by
  rw [WalkState.iterate_eq]
  constructor
  · intro cur rest top fresh shallow edge listed follows _
    rw [WalkState.step_ofSearch]
    have room : edgesLeft budget.edges [] ≤ B.stackCapacity := by rwa [edgesLeft_nil]
    have offered : (⟨edge.child, cur.depth + 1⟩ : WalkEntry) ∈
        (walkSearch B budget pressure).offers
          ((walkSearch B budget pressure).after ⟨root, 0⟩ iteration).expanded cur :=
      List.mem_map_of_mem (mem_followedEdges.mpr ⟨shallow, listed, follows⟩)
    exact List.mem_map_of_mem
      ((walkSearch_spends B budget pressure).pushed room top fresh offered)
  · intro cur rest top _ _
    have waiting : cur ∈ ((walkSearch B budget pressure).after ⟨root, 0⟩ iteration).stack := by
      have top' : ((walkSearch B budget pressure).after ⟨root, 0⟩ iteration).stack = cur :: rest :=
        top
      rw [top']
      exact List.mem_cons_self
    exact UInt8.lt_iff_toNat_lt.mpr (short _ cur.op (walk_of_entry (Or.inr waiting)))

/-- If no iteration of the walk goes wrong, the totals that it hands back cover every op within
`LOXBUDGET_CAUSALITY_MAX_DEPTH` active edges of the root. -/
theorem cascade_covers (reachable : Reachable B budget) (root : OpId) (pressure : Pressure)
    (own totals : NeedPerRes)
    (handed : causalityAddScaledNeeds B budget root own pressure = some totals)
    (thorough : ∀ iteration, WalkState.Thorough B budget pressure root
      ((WalkState.step B budget pressure)^[iteration] (WalkState.start root own))) :
    Covers B budget pressure root own totals := by
  have wellFormed := reachable.wellFormed
  refine ⟨cascadeEdges B budget pressure root, ?_, ?_, ?_⟩
  · intro edge counted
    rcases mem_followedBy.mp counted with ⟨cur, older, -, followed⟩
    rcases mem_followedEdges.mp followed with ⟨-, listed, follows⟩
    simp only [walkFollows, decide_eq_true_eq] at follows
    exact ⟨listed, follows.2.1⟩
  · intro op covered
    exact followed_of_covered wellFormed thorough covered
  · intro resource
    rw [causalityAddScaledNeeds_eq_some handed]
    exact addEdges_toNat wellFormed _ _ resource

/-- One op that always triggers another one. -/
def oneTrigger : List Event :=
  registerOps 2 ++ [.permissive (.setResource 0 10 0), .permissive (.opSetNeed 1 0 6),
    .trigger 0 1]

theorem cascade_covers_oneTrigger :
    ∃ totals, causalityAddScaledNeeds Build.full ((machine Build.full).run .sample oneTrigger) 0
        (fun _ => 0) .normal = some totals ∧
      Covers Build.full ((machine Build.full).run .sample oneTrigger) .normal 0 (fun _ => 0)
        totals := by
  have star : ∀ edge ∈ ((machine Build.full).run .sample oneTrigger).edges,
      edge.parent = 0 ∧ edge.child ≠ 0 := by decide +kernel
  have handed : (causalityAddScaledNeeds Build.full ((machine Build.full).run .sample oneTrigger)
      0 (fun _ => 0) .normal).isSome = true := by decide +kernel
  rcases Option.isSome_iff_exists.mp handed with ⟨totals, handed⟩
  refine ⟨totals, handed, cascade_covers ((Reachable.of_started started_sample).run oneTrigger) 0
    .normal _ totals handed (WalkState.thorough_of_few (by decide +kernel) ?_)⟩
  intro length op walk
  refine Nat.lt_of_le_of_lt (walk.length_le_one ?_) (by decide)
  rintro node next ⟨edge, listed, -, rfl, rfl⟩
  exact star edge listed

/-- The root triggers an op both directly and over two other ops. -/
def shortcutTriggers : List Event :=
  registerOps 5 ++ [.permissive (.setResource 0 100 0), .permissive (.opSetNeed 4 0 9),
    .trigger 0 3, .trigger 0 1, .trigger 1 2, .trigger 2 3, .trigger 3 4]

/-- The walk comes to op 3 over the long path first, so it misses op 4 at distance two. -/
theorem cascade_misses_op :
    ¬∀ (B : Build) (budget : Budget), Reachable B budget →
      ∀ root pressure own totals,
        causalityAddScaledNeeds B budget root own pressure = some totals →
        Covers B budget pressure root own totals := by
  intro always
  have reachable := (Reachable.of_started started_sample).run shortcutTriggers
  have nothing : (causalityAddScaledNeeds Build.full
      ((machine Build.full).run .sample shortcutTriggers) 0 (fun _ => 0) .normal).map (· 0) =
      some 0 := by decide +kernel
  have needed : ∀ edge ∈ ((machine Build.full).run .sample shortcutTriggers).edges,
      edge.child = 4 →
      ((machine Build.full).run .sample shortcutTriggers).edgeNeed 0 edge = 9 := by
    decide +kernel
  have direct : ((machine Build.full).run .sample shortcutTriggers).activates .normal 0 3 := by
    decide +kernel
  have onward : ((machine Build.full).run .sample shortcutTriggers).activates .normal 3 4 := by
    decide +kernel
  rcases Option.map_eq_some_iff.mp nothing with ⟨totals, handed, total⟩
  have covers := always Build.full _ reachable 0 .normal _ totals handed
  have covered : Covered Build.full ((machine Build.full).run .sample shortcutTriggers) .normal
      0 4 :=
    ⟨by decide, 2, by decide, by decide, .snoc (.snoc .nil direct) onward⟩
  rcases covers.edgeNeed_le covered with ⟨edge, listed, -, child, least⟩
  have bound := least 0
  rw [needed edge listed child, total] at bound
  exact absurd bound (by decide)

end Loxbudget
