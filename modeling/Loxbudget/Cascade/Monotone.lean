import Loxbudget.Cascade.Order
import Mathlib.Data.List.Nodup

/-!
# Whether more links make the decision stricter

A further trigger edge, or a raised kind, should add to the totals of a cascade walk and take
nothing away. A call that makes no edge active leaves the walk as it was, and so does one whose
parent the walk does not expand: the weights along it have then only grown. Otherwise the new
edge changes the order in which the walk comes across the ops, and it may hide edges that were
counted before. If the new walk counts each edge, it counts at least what the old one did.
-/

namespace Loxbudget

/-- The same edge with a weight at least as large. -/
structure Edge.Raised (edge edge' : Edge) : Prop where
  parent : edge'.parent = edge.parent
  child : edge'.child = edge.child
  weight : edge.weightQ8 ≤ edge'.weightQ8

/-- The weight is one of the four trigger kinds. -/
def Edge.HasKind (edge : Edge) : Prop :=
  edge.weightQ8 = 0 ∨ edge.weightQ8 = triggerRare ∨ edge.weightQ8 = 128 ∨
    edge.weightQ8 = triggerAlways

/-- Recording the edge does not lower the kind of a recorded one. -/
def RaisesKind (edges : List Edge) (edge : Edge) : Prop :=
  ∀ other ∈ edges, other.parent = edge.parent → other.child = edge.child →
    other.weightQ8 ≤ edge.weightQ8

/-! ## The recorded edges -/

theorem Edge.Raised.refl (edge : Edge) : edge.Raised edge :=
  ⟨rfl, rfl, UInt8.le_refl _⟩

theorem Edge.Raised.active {edge edge' : Edge} (raised : edge.Raised edge')
    (kind : edge.HasKind) (kind' : edge'.HasKind) {pressure : Pressure}
    (active : edge.isActive pressure = true) : edge'.isActive pressure = true := by
  have weight := raised.weight
  simp only [HasKind, Edge.isActive, triggerRare, triggerAlways] at kind kind' active ⊢
  rcases kind with same | same | same | same
  all_goals
    rw [same] at weight active
    rcases kind' with same' | same' | same' | same'
    all_goals
      rw [same'] at weight ⊢
      revert weight active
  all_goals simp +decide

theorem isTriggerKind_hasKind {kind : UInt32} (isKind : isTriggerKind kind = true)
    (parent child : OpId) : (Edge.mk parent child kind.toUInt8).HasKind := by
  simp only [isTriggerKind, Bool.or_eq_true, decide_eq_true_eq] at isKind
  rcases isKind with ((rfl | rfl) | rfl) | rfl
  all_goals simp +decide [Edge.HasKind]

/-- The recorded edges have a kind each, and no pair is recorded twice. -/
structure EdgesRecorded (edges : List Edge) : Prop where
  kinds : ∀ edge ∈ edges, edge.HasKind
  distinct : (edges.map fun edge => (edge.parent, edge.child)).Nodup

theorem EdgesRecorded.set {B : Build} {maxOps : UInt8} {edge : Edge} {before after : List Edge}
    (recorded : EdgesRecorded before) (kind : edge.HasKind)
    (set : EdgeSet B maxOps edge before after) : EdgesRecorded after := by
  rcases set with updated | ⟨missing, -, -, rfl⟩
  · refine ⟨?_, ?_⟩
    · intro other listed
      rcases updateEdge_mem updated listed with old | rfl
      · exact recorded.kinds other old
      · exact kind
    · rw [updateEdge_pairs updated]
      exact recorded.distinct
  · refine ⟨?_, ?_⟩
    · intro other listed
      rcases List.mem_append.mp listed with old | added
      · exact recorded.kinds other old
      · rw [List.mem_singleton.mp added]
        exact kind
    · rw [List.map_append, List.map_singleton, List.nodup_append]
      refine ⟨recorded.distinct, by simp, ?_⟩
      rintro pair listed _ added rfl
      rw [List.mem_singleton.mp added] at listed
      exact updateEdge_eq_none.mp missing (triggers_iff_mem_pairs.mpr listed)

variable {B : Build} {budget : Budget}

theorem edgeSet_of_accepted {hal : Hal} {parent child : OpId} {kind : UInt32}
    (accepted : ((machine B).reply budget ⟨hal, .opMayTrigger parent child kind⟩).status = .ok) :
    B.enableCausality = true ∧ (Edge.mk parent child kind.toUInt8).HasKind ∧
      ∃ edges, EdgeSet B budget.maxOps ⟨parent, child, kind.toUInt8⟩ budget.edges edges ∧
        (machine B).next budget ⟨hal, .opMayTrigger parent child kind⟩ =
          { budget with edges := edges } := by
  have enabled : B.enableCausality = true := by
    by_contra disabled
    simp [Machine.reply, machine, exec, disabled, Reply.ofStatus] at accepted
  rw [reply_opMayTrigger hal enabled] at accepted
  rw [next_opMayTrigger hal enabled]
  rcases opMayTrigger_cases B budget parent child kind with
    ⟨passes, edges, updated, after⟩ | ⟨new, closes, after⟩ | ⟨rejected, -⟩
  · refine ⟨enabled, isTriggerKind_hasKind passes.kind parent child, edges, Or.inl updated, ?_⟩
    rw [after]
  · refine ⟨enabled, isTriggerKind_hasKind new.kind parent child, _,
      Or.inr ⟨updateEdge_eq_none.mpr new.fresh, new.room, closes, rfl⟩, ?_⟩
    rw [after]
  · exact absurd accepted rejected

theorem Reachable.edgesRecorded (reachable : Reachable B budget) : EdgesRecorded budget.edges := by
  have initially : ∀ start, Started B start → EdgesRecorded start.edges := by
    intro start started
    rw [started.fresh.edges]
    exact ⟨by simp, List.nodup_nil⟩
  have preserved : ∀ budget event, EdgesRecorded budget.edges →
      EdgesRecorded ((machine B).next budget event).edges := by
    intro budget event recorded
    rcases next_edges_cases B budget event with
      same | ⟨-, parent, child, kind, -, ⟨passes, updated⟩ | ⟨new, missed, after⟩⟩
    · rwa [same]
    · have set : EdgeSet B budget.maxOps ⟨parent, child, kind.toUInt8⟩ budget.edges _ :=
        Or.inl updated
      exact recorded.set (isTriggerKind_hasKind passes.kind parent child) set
    · have set : EdgeSet B budget.maxOps ⟨parent, child, kind.toUInt8⟩ budget.edges _ :=
        Or.inr ⟨updateEdge_eq_none.mpr new.fresh, new.room, missed, after⟩
      exact recorded.set (isTriggerKind_hasKind new.kind parent child) set
  exact reachable.induction initially preserved

/-! ## The same walk over raised edges -/

/-- Setting an edge raises the selected edges, if the selection does not read the weight of the
edge that is set. -/
theorem EdgeSet.filter_raised {maxOps : UInt8} {edge : Edge} {before after : List Edge}
    (set : EdgeSet B maxOps edge before after) (raises : RaisesKind before edge)
    {selects : Edge → Bool}
    (recorded : ∀ other ∈ before, other.parent = edge.parent → other.child = edge.child →
      selects edge = selects other)
    (new : ¬triggers before edge.parent edge.child → selects edge = false) :
    List.Forall₂ Edge.Raised (before.filter selects) (after.filter selects) := by
  rcases set with updated | ⟨missing, -, -, rfl⟩
  · clear new
    induction before generalizing after with
    | nil => simp [updateEdge] at updated
    | cons first before ih =>
        simp only [updateEdge] at updated
        split at updated
        · rename_i found
          obtain rfl := Option.some.inj updated
          have same : ({ first with weightQ8 := edge.weightQ8 } : Edge) = edge := by
            rw [found.1, found.2]
          have weight := raises first List.mem_cons_self found.1 found.2
          have alike := recorded first List.mem_cons_self found.1 found.2
          have raised : first.Raised edge := ⟨found.1.symm, found.2.symm, weight⟩
          rw [same]
          cases selected : selects first with
          | true =>
              rw [List.filter_cons_of_pos selected,
                List.filter_cons_of_pos (alike.trans selected)]
              exact .cons raised (List.forall₂_same.mpr fun _ _ => .refl _)
          | false =>
              rw [List.filter_cons_of_neg (by simp [selected]),
                List.filter_cons_of_neg (by simp [alike, selected])]
              exact List.forall₂_same.mpr fun _ _ => .refl _
        · rcases Option.map_eq_some_iff.mp updated with ⟨rest, later, rfl⟩
          have tail := ih (fun other listed => raises other (List.mem_cons_of_mem _ listed))
            (fun other listed => recorded other (List.mem_cons_of_mem _ listed)) later
          cases selected : selects first with
          | true =>
              rw [List.filter_cons_of_pos selected, List.filter_cons_of_pos selected]
              exact .cons (.refl _) tail
          | false =>
              rw [List.filter_cons_of_neg (by simp [selected]),
                List.filter_cons_of_neg (by simp [selected])]
              exact tail
  · have unselected := new (updateEdge_eq_none.mp missing)
    have same : (before ++ [edge]).filter selects = before.filter selects := by
      simp [List.filter_append, unselected]
    rw [same]
    exact List.forall₂_same.mpr fun _ _ => .refl _

theorem edgeNeed_le {edge edge' : Edge} (raised : edge.Raised edge') (resource : ResourceId) :
    budget.edgeNeed resource edge ≤ budget.edgeNeed resource edge' := by
  have weight := UInt8.le_iff_toNat_le.mp raised.weight
  simp only [Budget.edgeNeed, raised.child, scaledNeed_toNat]
  exact Nat.div_le_div_right (Nat.add_le_add_right (Nat.mul_le_mul_left _ weight) _)

/-- Raised edges add at least as much. -/
theorem sum_edgeNeed_le {edges edges' : List Edge}
    (raised : List.Forall₂ Edge.Raised edges edges') (resource : ResourceId) :
    (edges.map (budget.edgeNeed resource)).sum ≤ (edges'.map (budget.edgeNeed resource)).sum := by
  induction raised with
  | nil => exact Nat.le_refl _
  | cons head _ ih =>
      simp only [List.map_cons, List.sum_cons]
      exact Nat.add_le_add (edgeNeed_le head resource) ih

variable {pressure : Pressure} {root : OpId} {edges : List Edge}

/-- What a walk follows from an expansion, over the old edges and over the new ones. -/
def FollowsAlike (B : Build) (budget : Budget) (pressure : Pressure) (edges : List Edge)
    (older : List WalkEntry) (cur : WalkEntry) : Prop :=
  List.Forall₂ Edge.Raised (followedEdges B budget pressure older cur)
    (followedEdges B { budget with edges := edges } pressure older cur)

theorem FollowsAlike.offers {older : List WalkEntry} {cur : WalkEntry}
    (alike : FollowsAlike B budget pressure edges older cur) :
    (walkSearch B { budget with edges := edges } pressure).offers older cur =
      (walkSearch B budget pressure).offers older cur := by
  simp only [FollowsAlike] at alike
  simp only [walkSearch]
  generalize followedEdges B budget pressure older cur = before at alike ⊢
  generalize followedEdges B { budget with edges := edges } pressure older cur = after at alike ⊢
  induction alike with
  | nil => rfl
  | cons head _ ih => simp only [List.map_cons, head.child, ih]

theorem followedBy_raised {expanded : List WalkEntry}
    (alike : ∀ older, ∀ cur ∈ expanded, FollowsAlike B budget pressure edges older cur) :
    List.Forall₂ Edge.Raised (followedBy B budget pressure expanded)
      (followedBy B { budget with edges := edges } pressure expanded) := by
  induction expanded with
  | nil => exact .nil
  | cons cur older ih =>
      simp only [followedBy]
      have before := ih fun older' entry listed => alike older' entry (List.mem_cons_of_mem _ listed)
      exact List.rel_append before (alike older cur List.mem_cons_self)

/-- A walk that follows alike from every entry that it can come across goes the same way over the
new edges, and over raised ones. -/
theorem cascadeEdges_raised (holds : WalkEntry → Prop) (atRoot : holds ⟨root, 0⟩)
    (offered : ∀ older cur offer, holds cur →
      offer ∈ (walkSearch B budget pressure).offers older cur → holds offer)
    (alike : ∀ older cur, holds cur → FollowsAlike B budget pressure edges older cur)
    (longer : budget.edges.length ≤ edges.length) :
    List.Forall₂ Edge.Raised (cascadeEdges B budget pressure root)
      (cascadeEdges B { budget with edges := edges } pressure root) := by
  have ended := walkSearch_ends B budget pressure ⟨root, 0⟩
  have after_eq : ∀ count,
      (walkSearch B { budget with edges := edges } pressure).after ⟨root, 0⟩ count =
        (walkSearch B budget pressure).after ⟨root, 0⟩ count :=
    Worklist.after_congr holds rfl rfl atRoot offered
      fun older cur held => (alike older cur held).offers
  have same : cascadeExpansions B { budget with edges := edges } pressure root =
      cascadeExpansions B budget pressure root := by
    simp only [cascadeExpansions, after_eq]
    rw [Worklist.after_of_ended ended (Nat.succ_le_succ longer)]
  simp only [cascadeEdges, same]
  apply followedBy_raised
  intro older cur expanded
  exact alike older cur
    (Worklist.entry_invariant (walkSearch B budget pressure) holds atRoot offered (Or.inl expanded))

/-! ## Calls that leave the walk as it was -/

variable {edge : Edge}

theorem EdgesRecorded.eq_of_pair (recorded : EdgesRecorded budget.edges) {first second : Edge}
    (listed : first ∈ budget.edges) (listed' : second ∈ budget.edges)
    (parent : first.parent = second.parent) (child : first.child = second.child) :
    first = second :=
  List.inj_on_of_nodup_map recorded.distinct listed listed' (Prod.ext parent child)

/-- The call makes an edge count at the pressure that did not count before. -/
def Budget.NewlyActive (budget : Budget) (pressure : Pressure) (edge : Edge) : Prop :=
  edge.isActive pressure = true ∧ ¬budget.activates pressure edge.parent edge.child

theorem followsAlike_of_settled (set : EdgeSet B budget.maxOps edge budget.edges edges)
    (raises : RaisesKind budget.edges edge) (recorded : EdgesRecorded budget.edges)
    (kind : edge.HasKind) (settled : ¬budget.NewlyActive pressure edge)
    (older : List WalkEntry) (cur : WalkEntry) :
    FollowsAlike B budget pressure edges older cur := by
  have recordedActive : edge.isActive pressure = true →
      budget.activates pressure edge.parent edge.child := by
    intro active
    by_contra fresh
    exact settled ⟨active, fresh⟩
  simp only [FollowsAlike, followedEdges]
  split
  · exact .nil
  refine set.filter_raised raises ?_ ?_
  · intro other listed parent child
    have active_iff : edge.isActive pressure = other.isActive pressure := by
      rw [Bool.eq_iff_iff]
      constructor
      · intro active
        rcases recordedActive active with ⟨found, listed', active', parent', child'⟩
        rw [recorded.eq_of_pair listed listed' (parent.trans parent'.symm)
          (child.trans child'.symm)]
        exact active'
      · intro active
        have raised : other.Raised edge :=
          ⟨parent.symm, child.symm, raises other listed parent child⟩
        exact raised.active (recorded.kinds other listed) kind active
    simp only [walkFollows, parent, child, active_iff]
  · intro fresh
    have inactive : edge.isActive pressure = false := by
      by_contra active
      rcases recordedActive (by simpa using active) with ⟨found, listed, -, parent, child⟩
      exact fresh ⟨found, listed, parent, child⟩
    simp [walkFollows, inactive]

theorem followsAlike_of_far (set : EdgeSet B budget.maxOps edge budget.edges edges)
    (raises : RaisesKind budget.edges edge)
    (far : ¬∃ length < B.causalityMaxDepth,
      Arcs.Walk (budget.activates pressure) root length edge.parent)
    (older : List WalkEntry) {cur : WalkEntry}
    (walk : Arcs.Walk (budget.activates pressure) root cur.depth.toNat cur.op) :
    FollowsAlike B budget pressure edges older cur := by
  simp only [FollowsAlike, followedEdges]
  split
  · exact .nil
  rename_i shallow
  have elsewhere : edge.parent ≠ cur.op := by
    intro same
    have below := UInt8.lt_iff_toNat_lt.mp (UInt8.not_le.mp shallow)
    rw [UInt8.toNat_ofNat'] at below
    refine far ⟨cur.depth.toNat, Nat.lt_of_lt_of_le below (Nat.mod_le _ _), ?_⟩
    rw [same]
    exact walk
  refine set.filter_raised raises ?_ ?_
  · intro other _ parent _
    simp [walkFollows, elsewhere, parent]
  · intro _
    simp [walkFollows, elsewhere]

/-! ## Walks that count each edge -/

theorem EdgeSet.exists_raised {maxOps : UInt8} {before after : List Edge}
    (set : EdgeSet B maxOps edge before after) (raises : RaisesKind before edge) :
    ∃ kept added, after = kept ++ added ∧ List.Forall₂ Edge.Raised before kept := by
  rcases id set with updated | ⟨-, -, -, rfl⟩
  · have recorded : triggers before edge.parent edge.child := by
      by_contra missing
      rw [updateEdge_eq_none.mpr missing] at updated
      exact absurd updated (by simp)
    have raised : List.Forall₂ Edge.Raised (before.filter fun _ => true)
        (after.filter fun _ => true) :=
      set.filter_raised raises (fun _ _ _ _ => rfl) fun missing => absurd recorded missing
    rw [List.filter_true, List.filter_true] at raised
    exact ⟨after, [], (List.append_nil after).symm, raised⟩
  · exact ⟨before, [edge], rfl, List.forall₂_same.mpr fun _ _ => .refl _⟩

theorem exists_raised_of_mem {before kept : List Edge}
    (raised : List.Forall₂ Edge.Raised before kept) {other : Edge} (listed : other ∈ before) :
    ∃ other' ∈ kept, other.Raised other' := by
  induction raised with
  | nil => exact absurd listed List.not_mem_nil
  | @cons first first' _ _ head _ ih =>
      rcases List.mem_cons.mp listed with rfl | later
      · exact ⟨first', List.mem_cons_self, head⟩
      · rcases ih later with ⟨other', listed', found⟩
        exact ⟨other', List.mem_cons_of_mem _ listed', found⟩

/-- Every active edge is there after the call, with the same ends. -/
theorem activates_of_set (set : EdgeSet B budget.maxOps edge budget.edges edges)
    (raises : RaisesKind budget.edges edge) (recorded : EdgesRecorded budget.edges)
    (recorded' : EdgesRecorded edges) {parent child : OpId}
    (active : budget.activates pressure parent child) :
    Budget.activates { budget with edges := edges } pressure parent child := by
  rcases set.exists_raised raises with ⟨kept, added, rfl, raised⟩
  rcases active with ⟨other, listed, active, rfl, rfl⟩
  rcases exists_raised_of_mem raised listed with ⟨other', listed', raised'⟩
  have listedAfter : other' ∈ kept ++ added := List.mem_append_left _ listed'
  exact ⟨other', listedAfter, raised'.active (recorded.kinds other listed)
    (recorded'.kinds other' listedAfter) active, raised'.parent, raised'.child⟩

theorem relays_of_set (set : EdgeSet B budget.maxOps edge budget.edges edges)
    (raises : RaisesKind budget.edges edge) (recorded : EdgesRecorded budget.edges)
    (recorded' : EdgesRecorded edges) {op : OpId} (relays : Relays B budget pressure root op) :
    Relays B { budget with edges := edges } pressure root op := by
  have more : ∀ parent child, budget.activates pressure parent child →
      Budget.activates { budget with edges := edges } pressure parent child :=
    fun _ _ => activates_of_set set raises recorded recorded'
  rcases relays with ⟨⟨length, short, walk⟩, child, active⟩
  exact ⟨⟨length, short, walk.mono more⟩, child, more op child active⟩

theorem sum_followedEdges_le (older : List WalkEntry) (cur : WalkEntry) (resource : ResourceId) :
    ((followedEdges B budget pressure older cur).map (budget.edgeNeed resource)).sum ≤
      (budget.edges.map fun edge =>
        if edge.isActive pressure = true ∧ edge.parent = cur.op
        then budget.edgeNeed resource edge else 0).sum := by
  simp only [followedEdges]
  split
  · exact Nat.zero_le _
  rw [sum_map_filter]
  refine List.sum_le_sum fun edge _ => ?_
  split
  · rename_i follows
    simp only [walkFollows, decide_eq_true_eq] at follows
    rw [if_pos ⟨follows.2.1, follows.1⟩]
  · exact Nat.zero_le _

/-- No walk adds more than all active edges of the ops that it expands. -/
theorem sum_followedBy_le {expanded : List WalkEntry}
    (part : expanded <:+ cascadeExpansions B budget pressure root) (resource : ResourceId) :
    ((followedBy B budget pressure expanded).map (budget.edgeNeed resource)).sum ≤
      (budget.edges.map fun edge =>
        if edge.isActive pressure = true ∧ edge.parent ∈ followedParents B expanded
        then budget.edgeNeed resource edge else 0).sum := by
  induction expanded with
  | nil => exact Nat.zero_le _
  | cons cur older ih =>
      have before := ih ((List.suffix_cons cur older).trans part)
      simp only [followedBy, List.map_append, List.sum_append]
      by_cases shallow : cur.depth < UInt8.ofNat B.causalityMaxDepth
      · rw [sum_followedParents_cons part shallow]
        exact Nat.add_le_add before (sum_followedEdges_le older cur resource)
      · rw [followedParents_of_deep shallow, followedEdges_of_deep shallow]
        simpa using before

theorem sum_if_le {before kept : List Edge} (raised : List.Forall₂ Edge.Raised before kept)
    {counts counts' : Edge → Prop} [DecidablePred counts] [DecidablePred counts']
    (more : ∀ edge ∈ before, ∀ edge' ∈ kept, edge.Raised edge' → counts edge → counts' edge')
    (resource : ResourceId) :
    (before.map fun edge => if counts edge then budget.edgeNeed resource edge else 0).sum ≤
      (kept.map fun edge => if counts' edge then budget.edgeNeed resource edge else 0).sum := by
  induction raised with
  | nil => exact Nat.le_refl _
  | @cons first first' _ _ head _ ih =>
      have rest := ih fun edge listed edge' listed' =>
        more edge (List.mem_cons_of_mem _ listed) edge' (List.mem_cons_of_mem _ listed')
      simp only [List.map_cons, List.sum_cons]
      refine Nat.add_le_add ?_ rest
      split
      · rename_i counted
        rw [if_pos (more first List.mem_cons_self first' List.mem_cons_self head counted)]
        exact edgeNeed_le head resource
      · exact Nat.zero_le _

/-- A walk over the new edges that counts each of them adds at least what the walk over the old
ones does. -/
theorem sum_cascadeEdges_le (set : EdgeSet B budget.maxOps edge budget.edges edges)
    (raises : RaisesKind budget.edges edge) (recorded : EdgesRecorded budget.edges)
    (recorded' : EdgesRecorded edges) {op : OpId}
    (wellFormed' : WellFormed B { budget with edges := edges })
    (counts : CountsEachEdge B { budget with edges := edges } op) (resource : ResourceId) :
    ((cascadeEdges B budget budget.pressure op).map (budget.edgeNeed resource)).sum ≤
      ((cascadeEdges B { budget with edges := edges } budget.pressure op).map
        (budget.edgeNeed resource)).sum := by
  have after_eq := sum_followedBy wellFormed' (fun iteration => (counts iteration).2)
    List.suffix_rfl resource
  have before_le : ((cascadeEdges B budget budget.pressure op).map
      (budget.edgeNeed resource)).sum ≤ _ := sum_followedBy_le List.suffix_rfl resource
  refine before_le.trans (le_trans ?_ (Eq.ge after_eq))
  rcases set.exists_raised raises with ⟨kept, added, rfl, raised⟩
  simp only [List.map_append, List.sum_append]
  refine le_trans ?_ (Nat.le_add_right _ _)
  refine sum_if_le raised ?_ resource
  rintro first listed first' listed' head ⟨active, followed⟩
  have listedAfter : first' ∈ kept ++ added := List.mem_append_left _ listed'
  have active' := head.active (recorded.kinds first listed) (recorded'.kinds first' listedAfter)
    active
  refine ⟨active', ?_⟩
  have relays := relays_of_set set raises recorded recorded'
    (relays_of_followedParents listed active followed)
  rw [← head.parent] at relays
  exact (mem_followedParents wellFormed' (fun iteration => (counts iteration).1) listedAfter
    active').mpr relays

/-! ## The decision -/

/-- The call makes no edge active, or one whose parent is too far from the op; or the walk from the
op after the call counts each edge. -/
def HidesNothing (B : Build) (budget : Budget) (op : OpId) (edge : Edge) (after : Budget) : Prop :=
  ¬budget.NewlyActive budget.pressure edge ∨
    (¬∃ length < B.causalityMaxDepth,
      Arcs.Walk (budget.activates budget.pressure) op length edge.parent) ∨
    CountsEachEdge B after op

/-- `check` denies the op. -/
def Denies (B : Build) (hal : Hal) (budget : Budget) (op : OpId) : Prop :=
  ∃ d, (check B hal budget op true).2.1 = some d ∧ d.action.allows = false

theorem EdgeSet.length_le {maxOps : UInt8} {before after : List Edge}
    (set : EdgeSet B maxOps edge before after) (raises : RaisesKind before edge) :
    before.length ≤ after.length := by
  rcases set.exists_raised raises with ⟨kept, added, rfl, raised⟩
  rw [List.length_append, raised.length_eq]
  exact Nat.le_add_right _ _

theorem total_le (reachable : Reachable B budget)
    (set : EdgeSet B budget.maxOps edge budget.edges edges)
    (reachable' : Reachable B { budget with edges := edges })
    (raises : RaisesKind budget.edges edge) (kind : edge.HasKind) {op : OpId}
    (hides : HidesNothing B budget op edge { budget with edges := edges }) (own : NeedPerRes)
    (resource : ResourceId) :
    addEdges budget (cascadeEdges B budget budget.pressure op) own resource ≤
      addEdges { budget with edges := edges }
        (cascadeEdges B { budget with edges := edges } budget.pressure op) own resource := by
  have recorded := reachable.edgesRecorded
  have recorded' : EdgesRecorded edges := reachable'.edgesRecorded
  have longer := set.length_le raises
  have sums : ((cascadeEdges B budget budget.pressure op).map (budget.edgeNeed resource)).sum ≤
      ((cascadeEdges B { budget with edges := edges } budget.pressure op).map
        (budget.edgeNeed resource)).sum := by
    rcases hides with settled | far | counts
    · have alike := followsAlike_of_settled set raises recorded kind settled
      exact sum_edgeNeed_le (cascadeEdges_raised (fun _ => True) trivial
        (fun _ _ _ _ _ => trivial) (fun older cur _ => alike older cur) longer) resource
    · exact sum_edgeNeed_le (cascadeEdges_raised
        (fun cur => Arcs.Walk (budget.activates budget.pressure) op cur.depth.toNat cur.op) .nil
        (fun _ _ _ walk offered => walk_of_offer walk offered)
        (fun older cur walk => followsAlike_of_far set raises far older walk) longer) resource
    · exact sum_cascadeEdges_le set raises recorded recorded' reachable'.wellFormed counts resource
  rw [UInt16.le_iff_toNat_le, addEdges_toNat reachable.wellFormed,
    addEdges_toNat reachable'.wellFormed]
  change min 65535 (_ + _) ≤ min 65535 (_ + ((cascadeEdges B { budget with edges := edges }
    budget.pressure op).map (budget.edgeNeed resource)).sum)
  omega

theorem TotalAdmitted.of_le {totals totals' : NeedPerRes} {resource : ResourceId}
    (admitted : TotalAdmitted budget totals' resource)
    (less : totals resource ≤ totals' resource) : TotalAdmitted budget totals resource := by
  have less' := UInt16.le_iff_toNat_le.mp less
  refine ⟨fun isState nonzero => admitted.stateLimit isState ?_, fun notState => ?_⟩
  · intro zero
    rw [zero] at less
    exact nonzero (UInt16.le_zero_iff.mp less)
  · have fits := admitted.fits notState
    simp only [Resource.Fits] at fits ⊢
    omega

/-- An op that is admissible after the call was admissible before it. -/
theorem Admissible.before {hal : Hal} {op : OpId} {profile : OpProfile}
    (admissible : Admissible B hal { budget with edges := edges } op profile)
    (less : ∀ resource, addEdges budget (cascadeEdges B budget budget.pressure op)
        (budget.ownNeeds op) resource ≤
      addEdges { budget with edges := edges }
        (cascadeEdges B { budget with edges := edges } budget.pressure op) (budget.ownNeeds op)
        resource) : Admissible B hal budget op profile where
  registered := admissible.registered
  mapped := admissible.mapped
  lockdown := admissible.lockdown
  bootProven := admissible.bootProven
  voltageOk := admissible.voltageOk
  networkUp := admissible.networkUp
  needs := fun need listed amount_ne =>
    have admitted := admissible.needs need listed amount_ne
    ⟨admitted.stateLimit, admitted.fits, admitted.lifetime, admitted.windows⟩
  cascade := by
    intro enabled totals walked resource
    by_cases walks : budget.causalityHasStorage B = true ∧ op < budget.maxOps
    · have hasStorage' : Budget.causalityHasStorage B { budget with edges := edges } = true :=
        walks.1
      have admitted := admissible.cascade enabled _
        (causalityAddScaledNeeds_eq hasStorage' walks.2 _ _) resource
      obtain rfl := causalityAddScaledNeeds_eq_some walked
      exact TotalAdmitted.of_le ⟨admitted.stateLimit, admitted.fits⟩ (less resource)
    · rw [causalityAddScaledNeeds_eq_none walks] at walked
      exact absurd walked (by simp)

/-- If `check` denies an op, it still denies it after an accepted `op_may_trigger` that records a
new edge or raises the kind of a recorded one and hides nothing from the walk. -/
theorem more_triggers_deny {B : Build} {budget : Budget} (reachable : Reachable B budget)
    (hal : Hal) (parent child : OpId) (kind : UInt32)
    (accepted : ((machine B).reply budget ⟨hal, .opMayTrigger parent child kind⟩).status = .ok)
    (raises : RaisesKind budget.edges ⟨parent, child, kind.toUInt8⟩) (op : OpId)
    (hides : HidesNothing B budget op ⟨parent, child, kind.toUInt8⟩
      ((machine B).next budget ⟨hal, .opMayTrigger parent child kind⟩))
    (hal' : Hal) (denies : Denies B hal' budget op) :
    Denies B hal' ((machine B).next budget ⟨hal, .opMayTrigger parent child kind⟩) op := by
  have reachable' : Reachable B ((machine B).next budget ⟨hal, .opMayTrigger parent child kind⟩) :=
    reachable.run [_]
  rcases edgeSet_of_accepted accepted with ⟨-, hasKind, edges, set, after⟩
  rw [after] at hides reachable' ⊢
  refine ⟨(decide B hal' { budget with edges := edges } op).1,
    by rw [check_of_initialized reachable'.wellFormed.initialized], ?_⟩
  rcases denies with ⟨d, checked, denied⟩
  have decided : d = (decide B hal' budget op).1 := by
    rw [check_of_initialized reachable.wellFormed.initialized] at checked
    exact (Option.some.inj checked).symm
  subst decided
  rcases decide_cases hal' reachable'.wellFormed reachable'.sound op with
    ⟨profile, -, admissible, -⟩ | ⟨denied', -⟩
  · have less := total_le reachable set reachable' raises hasKind hides (budget.ownNeeds op)
    have before : Admissible B hal' budget op profile := admissible.before less
    rcases decide_cases hal' reachable.wellFormed reachable.sound op with
      ⟨other, -, admissible', decided, -⟩ | ⟨-, inadmissible⟩
    · rw [decided] at denied
      rw [allows_iff.mpr admissible'.mapped] at denied
      exact absurd denied Bool.true_eq_false.mp
    · exact absurd before (inadmissible profile)
  · exact denied'

/-- An op that may trigger a second one, which always triggers a third that needs eight of six. -/
def chainOfTwo : List Event :=
  registerOps 3 ++ [.permissive (.setResource 0 6 0), .permissive (.opSetNeed 2 0 8),
    .trigger 0 1, .trigger 1 2]

/-- A link of an op that the checked op does not trigger. -/
theorem more_triggers_deny_far :
    let budget := (machine Build.full).run .sample chainOfTwo
    Denies Build.full (Hal.permissive 0) ((machine Build.full).next budget (.trigger 0 2)) 1 := by
  intro budget
  have reachable : Reachable Build.full budget := (Reachable.of_started started_sample).run _
  have accepted : ((machine Build.full).reply budget (.trigger 0 2)).status = .ok := by
    decide +kernel
  have raises : RaisesKind budget.edges ⟨0, 2, 255⟩ := by
    have fresh : ∀ other ∈ budget.edges, ¬(other.parent = 0 ∧ other.child = 2) := by
      decide +kernel
    exact fun other listed parent child => absurd ⟨parent, child⟩ (fresh other listed)
  have far : ¬∃ length < Build.full.causalityMaxDepth,
      Arcs.Walk (budget.activates budget.pressure) 1 length 0 := by
    have unreached : ∀ edge ∈ budget.edges, edge.child ≠ 0 := by decide +kernel
    rintro ⟨length, -, walk⟩
    cases walk with
    | snoc walk final =>
        rcases final with ⟨edge, listed, -, -, child⟩
        exact unreached edge listed child
  have denied : (decide Build.full (Hal.permissive 0) budget 1).1.action.allows = false := by
    decide +kernel
  have checked : (check Build.full (Hal.permissive 0) budget 1 true).2.1 =
      some (decide Build.full (Hal.permissive 0) budget 1).1 := by
    rw [check_of_initialized reachable.wellFormed.initialized]
  exact more_triggers_deny reachable (Hal.permissive 0) 0 2 255 accepted raises 1
    (Or.inr (Or.inl far)) (Hal.permissive 0) ⟨_, checked, denied⟩

/-- A direct link of kind MAYBE is visited first and hides the edge over which the third op was
counted in full. -/
theorem more_triggers_allow :
    ¬∀ (B : Build) (budget : Budget), Reachable B budget → ∀ (hal : Hal) (parent child : OpId)
      (kind : UInt32),
      ((machine B).reply budget ⟨hal, .opMayTrigger parent child kind⟩).status = .ok →
      RaisesKind budget.edges ⟨parent, child, kind.toUInt8⟩ → ∀ op hal',
      Denies B hal' budget op →
      Denies B hal' ((machine B).next budget ⟨hal, .opMayTrigger parent child kind⟩) op := by
  intro always
  have reachable := (Reachable.of_started started_sample).run chainOfTwo
  have fresh : ∀ other ∈ ((machine Build.full).run .sample chainOfTwo).edges,
      ¬(other.parent = 0 ∧ other.child = 2) := by decide +kernel
  have before : ((check Build.full (Hal.permissive 0)
      ((machine Build.full).run .sample chainOfTwo) 0 true).2.1.map (·.action)) = some .wait := by
    decide +kernel
  have after : ((check Build.full (Hal.permissive 0) ((machine Build.full).next
      ((machine Build.full).run .sample chainOfTwo)
      ⟨Hal.permissive 0, .opMayTrigger 0 2 128⟩) 0 true).2.1.map (·.action)) =
      some .allowFull := by decide +kernel
  rcases Option.map_eq_some_iff.mp before with ⟨d, checked, waits⟩
  have denied := always Build.full _ reachable (Hal.permissive 0) 0 2 128 (by decide +kernel)
    (fun other listed parent child => absurd ⟨parent, child⟩ (fresh other listed)) 0
    (Hal.permissive 0) ⟨d, checked, by rw [waits]; rfl⟩
  rcases denied with ⟨d', checked', denied⟩
  rw [checked', Option.map_some, Option.some.injEq] at after
  rw [after] at denied
  exact absurd denied Bool.true_eq_false.mp

end Loxbudget
