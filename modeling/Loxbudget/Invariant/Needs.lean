import Mathlib.Data.Set.Card
import Loxbudget.Invariant.Tables
import Loxbudget.Model.NeedsTable

/-!
# The needs table as a finite map

The needs map pairs of an op and a resource to amounts. An accepted `op_set_need` sets one pair,
it is refused for want of space only where the list of the op is full of other resources, and
`register_op` never touches an op that is already there. The same holds of the array that the ops
share in the storage.
-/

namespace Loxbudget

/-! ## The list of one op -/

/-- The entries in use come before the free ones. -/
def PackedNeeds (needs : List Need) : Prop :=
  needs.Pairwise fun need need' => need'.amount ≠ 0 → need.amount ≠ 0

theorem packedNeeds_replicate (count : Nat) : PackedNeeds (List.replicate count ⟨0, 0⟩) :=
  List.pairwise_replicate.mpr (Or.inr id)

/-- The scan for a free entry has passed entries in use only. -/
theorem NeedSet.packed {resource : ResourceId} {amount : UInt16} {before after : List Need}
    (set : NeedSet resource amount before after) (packed : PackedNeeds before)
    (amount_ne : amount ≠ 0) : PackedNeeds after := by
  rcases set.split with ⟨front, entry, back, rfl, rfl, kind⟩
  simp only [PackedNeeds] at packed ⊢
  rw [List.pairwise_append, List.pairwise_cons] at packed ⊢
  rcases packed with ⟨inFront, ⟨-, inBack⟩, across⟩
  have used : ∀ other ∈ front, other.amount ≠ 0 := by
    intro other listed
    rcases kind with ⟨entry_ne, -⟩ | ⟨-, -, passed⟩
    · exact across other listed entry List.mem_cons_self entry_ne
    · exact passed other listed
  exact ⟨inFront, ⟨fun _ _ _ => amount_ne, inBack⟩, fun other listed _ _ _ => used other listed⟩

theorem ncard_needed {needs : List Need} (distinct : DistinctNeeds needs) :
    {resource | needOf needs resource ≠ 0}.ncard =
      (needs.filter fun need => need.amount ≠ 0).length := by
  have named : {resource | needOf needs resource ≠ 0} =
      ((needs.filter fun need => need.amount ≠ 0).map Need.resource).toFinset := by
    ext resource
    simp only [Set.mem_ofPred_eq, List.coe_toFinset, List.mem_map, List.mem_filter,
      decide_eq_true_eq]
    constructor
    · intro needed
      rcases exists_mem_of_needOf_ne needed with ⟨need, listed, -, used, same⟩
      exact ⟨need, ⟨listed, used⟩, same⟩
    · rintro ⟨need, ⟨listed, used⟩, rfl⟩
      rwa [needOf_of_mem distinct listed used]
  have once : ((needs.filter fun need => need.amount ≠ 0).map Need.resource).Nodup := by
    rw [List.Nodup, List.pairwise_map, List.pairwise_filter]
    apply distinct.imp
    intro need need' apart used used'
    exact apart (by simpa using used) (by simpa using used')
  rw [named, Set.ncard_coe_finset, List.toFinset_card_of_nodup once, List.length_map]

/-- Every entry is in use if as many resources are needed as there are entries. -/
theorem ncard_needed_eq_length {needs : List Need} (distinct : DistinctNeeds needs) :
    {resource | needOf needs resource ≠ 0}.ncard = needs.length ↔
      ∀ need ∈ needs, need.amount ≠ 0 := by
  rw [ncard_needed distinct, List.length_filter_eq_length_iff]
  exact forall₂_congr fun _ _ => decide_eq_true_iff

/-! ## One call -/

variable {B : Build} {budget : Budget} {op : OpId} {resource : ResourceId} {amount : UInt16}

/-- The tests that `op_set_need` makes before it looks at the list of the op. -/
structure Budget.MayNeed (budget : Budget) (op : OpId) (resource : ResourceId) (amount : UInt16) :
    Prop where
  initialized : budget.magic = magicInit
  opInRange : op < budget.maxOps
  resourceInRange : resource < budget.maxResources
  amount_ne : amount ≠ 0
  registered : budget.opCfg op = true
  configured : budget.resCfg resource = true

theorem opSetNeed_of_mayNeed (passes : budget.MayNeed op resource amount) :
    opSetNeed budget op resource amount =
      match updateNeed resource amount (budget.needs op) with
      | some needs => (.ok, { budget with needs := Function.update budget.needs op needs })
      | none =>
          match insertNeed resource amount (budget.needs op) with
          | some needs => (.ok, { budget with needs := Function.update budget.needs op needs })
          | none => (.noSpace, budget) := by
  have inRange : ¬(op ≥ budget.maxOps ∨ resource ≥ budget.maxResources) := by
    rintro (outside | outside)
    · exact absurd passes.opInRange (UInt8.not_lt.mpr outside)
    · exact absurd passes.resourceInRange (UInt8.not_lt.mpr outside)
  rewrite [opSetNeed, Budget.validate, if_neg (not_not.mpr passes.initialized),
    if_neg (not_not.mpr rfl), if_neg inRange, if_neg passes.amount_ne,
    if_neg (by simp [passes.registered]), if_neg (by simp [passes.configured])]
  rfl

/-- A call that does not pass the tests is refused, and not for want of space. -/
theorem opSetNeed_of_not_mayNeed (fails : ¬budget.MayNeed op resource amount) :
    (opSetNeed budget op resource amount).1 ≠ .ok ∧
      (opSetNeed budget op resource amount).1 ≠ .noSpace ∧
      (opSetNeed budget op resource amount).2 = budget := by
  rw [opSetNeed, Budget.validate]
  by_cases initialized : budget.magic = magicInit
  · rw [if_neg (not_not.mpr initialized), if_neg (not_not.mpr rfl)]
    by_cases outside : op ≥ budget.maxOps ∨ resource ≥ budget.maxResources
    · simp [outside]
    by_cases zero : amount = 0
    · simp [zero]
    cases registered : budget.opCfg op with
    | false => simp [outside, zero]
    | true =>
        cases configured : budget.resCfg resource with
        | false => simp [outside, zero]
        | true =>
            simp only [not_or, ge_iff_le, UInt8.not_le] at outside
            exact absurd ⟨initialized, outside.1, outside.2, zero, registered, configured⟩ fails
  · simp [initialized]

/-- What `op_set_need` does: it sets an entry of the list of the op, or finds neither an entry for
the resource nor a free one, or fails a test. -/
theorem opSetNeed_cases (budget : Budget) (op : OpId) (resource : ResourceId) (amount : UInt16) :
    (budget.MayNeed op resource amount ∧ ∃ needs,
        NeedSet resource amount (budget.needs op) needs ∧
        opSetNeed budget op resource amount =
          (.ok, { budget with needs := Function.update budget.needs op needs })) ∨
      (budget.MayNeed op resource amount ∧ needOf (budget.needs op) resource = 0 ∧
        (∀ need ∈ budget.needs op, need.amount ≠ 0) ∧
        opSetNeed budget op resource amount = (.noSpace, budget)) ∨
      ¬budget.MayNeed op resource amount := by
  by_cases passes : budget.MayNeed op resource amount
  · rw [opSetNeed_of_mayNeed passes]
    cases updated : updateNeed resource amount (budget.needs op) with
    | some needs => exact Or.inl ⟨passes, needs, Or.inl updated, rfl⟩
    | none =>
        cases inserted : insertNeed resource amount (budget.needs op) with
        | some needs => exact Or.inl ⟨passes, needs, Or.inr ⟨updated, inserted⟩, rfl⟩
        | none =>
            rw [insertNeed_eq, Slots.replaceFirst_eq_none] at inserted
            exact Or.inr (Or.inl ⟨passes, updateNeed_eq_none.mp updated, inserted, rfl⟩)
  · exact Or.inr (Or.inr passes)

/-- A set list has no room for a refusal. -/
theorem NeedSet.not_full {before after : List Need} (set : NeedSet resource amount before after) :
    Loxbudget.needOf before resource ≠ 0 ∨ ∃ need ∈ before, need.amount = 0 := by
  rcases set.split with ⟨front, entry, back, rfl, rfl, ⟨used, rfl⟩ | ⟨free, -⟩⟩
  · left
    intro absent
    exact needOf_eq_zero.mp absent entry (by simp) used rfl
  · right
    exact ⟨entry, by simp, free⟩

/-- For want of space a call is refused where the list is full of other resources. -/
theorem opSetNeed_noSpace (wellFormed : WellFormed B budget)
    (passes : budget.MayNeed op resource amount) :
    (opSetNeed budget op resource amount).1 = .noSpace ↔
      needOf (budget.needs op) resource = 0 ∧
        {other | other ≠ resource ∧ needOf (budget.needs op) other ≠ 0}.ncard =
          B.maxNeedsPerOp := by
  have full (absent : needOf (budget.needs op) resource = 0) :
      {other | other ≠ resource ∧ needOf (budget.needs op) other ≠ 0}.ncard = B.maxNeedsPerOp ↔
        ∀ need ∈ budget.needs op, need.amount ≠ 0 := by
    have others : {other | other ≠ resource ∧ needOf (budget.needs op) other ≠ 0} =
        {other | needOf (budget.needs op) other ≠ 0} := by
      ext other
      refine and_iff_right_of_imp fun needed same => needed ?_
      rw [same, absent]
    rw [others, ← wellFormed.needs_length op]
    exact ncard_needed_eq_length (wellFormed.needs_distinct op)
  rcases opSetNeed_cases budget op resource amount with
    ⟨-, needs, set, accepted⟩ | ⟨-, absent, used, refused⟩ | fails
  · rw [accepted]
    constructor
    · intro refused
      cases refused
    · rintro ⟨absent, others⟩
      rcases NeedSet.not_full set with listed | ⟨need, listed, free⟩
      · exact absurd absent listed
      · exact absurd free ((full absent).mp others need listed)
  · rw [refused]
    exact ⟨fun _ => ⟨absent, (full absent).mpr used⟩, fun _ => rfl⟩
  · exact absurd passes fails

theorem opSetNeed_accepted (wellFormed : WellFormed B budget)
    (accepted : (opSetNeed budget op resource amount).1 = .ok) (op' : OpId)
    (resource' : ResourceId) :
    needOf ((opSetNeed budget op resource amount).2.needs op') resource' =
      if (op', resource') = (op, resource) then amount else needOf (budget.needs op') resource' := by
  rcases opSetNeed_cases budget op resource amount with
    ⟨passes, needs, set, called⟩ | ⟨-, -, -, refused⟩ | fails
  · rw [called]
    change needOf (Function.update budget.needs op needs op') resource' = _
    by_cases same : op' = op
    · subst same
      rw [Function.update_self, set.needOf (wellFormed.needs_distinct op') passes.amount_ne,
        Function.update_apply]
      simp
    · rw [Function.update_of_ne same, if_neg fun pair => same (congrArg Prod.fst pair)]
  · rw [refused] at accepted
    cases accepted
  · exact absurd accepted (opSetNeed_of_not_mayNeed fails).1

/-! ## The array in the storage -/

namespace NeedsTable

variable {table : NeedsTable}

theorem mem_places {i : Nat} :
    i ∈ places B op ↔
      op.toNat * B.maxNeedsPerOp ≤ i ∧ i < op.toNat * B.maxNeedsPerOp + B.maxNeedsPerOp := by
  rw [places, List.mem_map]
  constructor
  · rintro ⟨offset, listed, rfl⟩
    have below := List.mem_range.mp listed
    rw [place]
    omega
  · rintro ⟨lower, upper⟩
    refine ⟨i - op.toNat * B.maxNeedsPerOp, List.mem_range.mpr (by omega), ?_⟩
    rw [place]
    omega

theorem nodup_places : (places B op).Nodup :=
  List.nodup_range.map fun _ _ same => Nat.add_left_cancel same

theorem places_disjoint {op' : OpId} (other : op' ≠ op) {i : Nat} (listed : i ∈ places B op) :
    i ∉ places B op' := by
  rw [mem_places] at listed ⊢
  rintro ⟨lower, upper⟩
  rcases Nat.lt_or_gt_of_ne fun same => other (UInt8.toNat_inj.mp same) with before | behind
  · have apart := Nat.mul_le_mul_right B.maxNeedsPerOp before
    rw [Nat.succ_mul] at apart
    omega
  · have apart := Nat.mul_le_mul_right B.maxNeedsPerOp behind
    rw [Nat.succ_mul] at apart
    omega

theorem list_update {i : Nat} (listed : i ∈ places B op) (entry : Need) :
    list B ⟨Function.update table.entries i entry⟩ =
      Function.update (table.list B) op
        ((places B op).map (Function.update table.entries i entry)) := by
  funext op'
  by_cases same : op' = op
  · rw [same, Function.update_self, list]
  · rw [Function.update_of_ne same, list, list,
      Slots.map_update_of_notMem (places_disjoint same listed)]

theorem list_clear (B : Build) (table : NeedsTable) (op : OpId) :
    (table.clear B op).list B =
      Function.update (table.list B) op (List.replicate B.maxNeedsPerOp ⟨0, 0⟩) := by
  funext op'
  by_cases same : op' = op
  · rw [same, Function.update_self, List.eq_replicate_iff]
    refine ⟨by rw [list, places, List.length_map, List.length_map, List.length_range], ?_⟩
    intro need listed
    rcases List.mem_map.mp listed with ⟨i, here, rfl⟩
    exact if_pos (mem_places.mp here)
  · rw [Function.update_of_ne same, list, list]
    apply List.map_congr_left
    intro i here
    exact if_neg fun inside => places_disjoint same (mem_places.mpr inside) here

/-- What the two loops do to the array is what they do to the list of the op. -/
theorem setNeed_list (stored : table.list B = budget.needs)
    (passes : budget.MayNeed op resource amount) :
    (table.setNeed B op resource amount).1 = (opSetNeed budget op resource amount).1 ∧
      (table.setNeed B op resource amount).2.list B =
        (opSetNeed budget op resource amount).2.needs := by
  rw [opSetNeed_of_mayNeed passes, updateNeed_eq, insertNeed_eq, setNeed, ← stored, list,
    Slots.replaceFirst_map table.entries nodup_places,
    Slots.replaceFirst_map table.entries nodup_places]
  cases updated : (places B op).find? fun i =>
      (table.entries i).amount ≠ 0 ∧ (table.entries i).resource = resource with
  | some i => exact ⟨rfl, list_update (List.mem_of_find?_eq_some updated) _⟩
  | none =>
      cases inserted : (places B op).find? fun i => (table.entries i).amount = 0 with
      | some i => exact ⟨rfl, list_update (List.mem_of_find?_eq_some inserted) _⟩
      | none => exact ⟨rfl, stored⟩

end NeedsTable

/-! ## Runs -/

/-- The needs are a map from ops and configured resources to amounts, each list in the first
entries of its op. -/
structure NeedsMap (B : Build) (budget : Budget) : Prop where
  bounded : ∀ op, (budget.needs op).length = B.maxNeedsPerOp
  distinct : ∀ op, DistinctNeeds (budget.needs op)
  packed : ∀ op, PackedNeeds (budget.needs op)
  configured : ∀ op, ∀ need ∈ budget.needs op, need.amount ≠ 0 →
    need.resource < budget.maxResources ∧ budget.resCfg need.resource = true

theorem QuietEffect.packed {nowMs : UInt32} {after : Budget}
    (effect : QuietEffect B nowMs budget after) (packed : ∀ op, PackedNeeds (budget.needs op))
    (op : OpId) : PackedNeeds (after.needs op) := by
  cases effect with
  | register id profile inRange fresh =>
      by_cases same : op = id
      · simpa [same] using packedNeeds_replicate B.maxNeedsPerOp
      · simpa [Function.update_of_ne same] using packed op
  | need id resource amount needs opInRange registered resourceInRange configured amount_ne set =>
      by_cases same : op = id
      · simpa [same] using NeedSet.packed set (packed id) amount_ne
      · simpa [Function.update_of_ne same] using packed op
  | booked booked =>
      rw [booked.frame]
      exact packed op
  | _ => exact packed op

theorem Reachable.needs_packed (reachable : Reachable B budget) :
    ∀ op, PackedNeeds (budget.needs op) := by
  apply reachable.induction
  · intro start started op
    rw [started.fresh.needs]
    exact packedNeeds_replicate _
  · intro budget event packed op
    rcases next_cases B budget event with
      effect | ⟨entered, middle, slotId, booked, -, -, after⟩ | ⟨lease, -, after⟩
    · exact effect.packed packed op
    · rw [after, booked.frame]
      exact packed op
    · rw [after]
      exact packed op

theorem Reachable.needsMap (reachable : Reachable B budget) : NeedsMap B budget where
  bounded := reachable.wellFormed.needs_length
  distinct := reachable.wellFormed.needs_distinct
  packed := reachable.needs_packed
  configured := reachable.wellFormed.needs_configured

/-- What `op_set_need` and `register_op` do to the needs of a reachable state. -/
structure NeedsCalls (B : Build) (budget : Budget) : Prop where
  noSpace : ∀ hal op resource amount, (budget.profile op).isSome = true →
    resource < budget.maxResources → budget.resCfg resource = true → 0 < amount →
    (((machine B).reply budget ⟨hal, .opSetNeed op resource amount⟩).status = .noSpace ↔
      needOf (budget.needs op) resource = 0 ∧
        {other | other ≠ resource ∧ needOf (budget.needs op) other ≠ 0}.ncard = B.maxNeedsPerOp)
  accepted : ∀ hal op resource amount,
    ((machine B).reply budget ⟨hal, .opSetNeed op resource amount⟩).status = .ok →
    let after := (machine B).next budget ⟨hal, .opSetNeed op resource amount⟩
    needOf (after.needs op) resource = amount ∧
      ∀ op' resource', (op', resource') ≠ (op, resource) →
        needOf (after.needs op') resource' = needOf (budget.needs op') resource'
  register : ∀ hal profile op, (budget.profile op).isSome = true →
    let after := (machine B).next budget ⟨hal, .registerOp profile⟩
    after.needs op = budget.needs op ∧ after.profile op = budget.profile op

theorem registerOp_keeps (profile : Option RawProfile)
    (registered : (budget.profile op).isSome = true) :
    (registerOp B budget profile).2.needs op = budget.needs op ∧
      (registerOp B budget profile).2.profile op = budget.profile op := by
  rcases registerOp_cases B budget profile with ⟨raw, parsed, -, -, fresh, after⟩ | ⟨-, after⟩
  · have other : op ≠ raw.opId := by
      rintro rfl
      exact Bool.false_ne_true (fresh.symm.trans (profile_isSome.mp registered).2)
    rw [after]
    simp only [Budget.profile, Function.update_of_ne other, and_self]
  · rw [after]
    exact ⟨rfl, rfl⟩

theorem Reachable.needsCalls (reachable : Reachable B budget) : NeedsCalls B budget where
  noSpace := by
    intro hal op resource amount registered resourceInRange configured positive
    have ⟨opInRange, opConfigured⟩ := profile_isSome.mp registered
    exact opSetNeed_noSpace reachable.wellFormed ⟨reachable.wellFormed.initialized, opInRange,
      resourceInRange, UInt16.pos_iff_ne_zero.mp positive, opConfigured, configured⟩
  accepted := by
    intro hal op resource amount accepted
    have set := opSetNeed_accepted reachable.wellFormed accepted
    refine ⟨(set op resource).trans (if_pos rfl), ?_⟩
    intro op' resource' other
    exact (set op' resource').trans (if_neg other)
  register := fun hal profile op registered => registerOp_keeps profile registered

/-- The array in the storage follows the lists of the ops through the calls that write to it. -/
structure NeedsStored (B : Build) (budget : Budget) (table : NeedsTable) : Prop where
  setNeed : ∀ op resource amount, budget.MayNeed op resource amount →
    (table.setNeed B op resource amount).1 = (opSetNeed budget op resource amount).1 ∧
      (table.setNeed B op resource amount).2.list B = (opSetNeed budget op resource amount).2.needs
  register : ∀ raw, (registerOp B budget (some raw)).1 = .ok →
    (table.clear B raw.opId).list B = (registerOp B budget (some raw)).2.needs

theorem NeedsTable.needsStored {table : NeedsTable} (stored : table.list B = budget.needs) :
    NeedsStored B budget table where
  setNeed := fun _ _ _ passes => setNeed_list stored passes
  register := by
    intro raw accepted
    rcases registerOp_cases B budget (some raw) with
      ⟨raw, parsed, given, -, -, after⟩ | ⟨refused, -⟩
    · cases given
      rw [after, list_clear, stored]
    · exact absurd accepted refused

/-- In every reachable state the needs are a bounded finite map. An accepted call sets one pair of
it, only a full list is short of space, and no registration touches an op that is there. The array
that the ops share follows the map. -/
theorem needs_table_map (reachable : Reachable B budget) :
    NeedsMap B budget ∧ NeedsCalls B budget ∧
      ∀ table : NeedsTable, table.list B = budget.needs → NeedsStored B budget table :=
  ⟨reachable.needsMap, reachable.needsCalls, fun _ => NeedsTable.needsStored⟩

theorem needs_table_map_oneOp :
    NeedsCalls Build.full ((machine Build.full).run .sample oneOp) :=
  (needs_table_map ((Reachable.of_started started_sample).run _)).2.1

end Loxbudget
