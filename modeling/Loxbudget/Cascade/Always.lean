import Loxbudget.Cascade.Coverage
import Loxbudget.Decision.Admission

/-!
# Ops that are always triggered

The root of a cascade walk is expanded first and nothing but the root has been
visited then, so every active edge of the root is followed. An op that `check`
allows therefore leaves room for the scaled needs of what it always triggers.

`LOXBUDGET_TRIGGER_ALWAYS` is the weight 255 of 256. The rounding of the scaled
amount makes up for that only up to an amount of 128.
-/

namespace Loxbudget

variable {B : Build} {budget : Budget}

/-- The edge always triggers the child of the parent. -/
def Budget.AlwaysTriggers (budget : Budget) (parent child : OpId) : Prop :=
  ∃ edge ∈ budget.edges, edge.parent = parent ∧ edge.child = child ∧
    edge.weightQ8 = triggerAlways

instance (budget : Budget) (parent child : OpId) :
    Decidable (budget.AlwaysTriggers parent child) :=
  inferInstanceAs (Decidable (∃ edge ∈ budget.edges, edge.parent = parent ∧ edge.child = child ∧
    edge.weightQ8 = triggerAlways))

/-- `check` allows the op. -/
def ChecksOut (B : Build) (hal : Hal) (budget : Budget) (op : OpId) : Prop :=
  ∃ d after, check B hal budget op true = (.ok, some d, after) ∧ d.action.allows = true

/-- A walk follows every active edge of its root. -/
theorem followed_of_root (reachable : Reachable B budget)
    (deep : UInt8.ofNat B.causalityMaxDepth ≠ 0) {pressure : Pressure} {edge : Edge}
    (listed : edge ∈ budget.edges) (active : edge.isActive pressure = true) :
    edge ∈ cascadeEdges B budget pressure edge.parent := by
  have first : (⟨edge.parent, 0⟩ : WalkEntry) :: [] <:+
      cascadeExpansions B budget pressure edge.parent :=
    Worklist.expanded_suffix_after (walkSearch B budget pressure) ⟨edge.parent, 0⟩
      (Nat.succ_le_succ (Nat.zero_le budget.edges.length))
  have shallow : (0 : UInt8) < UInt8.ofNat B.causalityMaxDepth := by
    rw [UInt8.lt_iff_toNat_lt]
    have nonzero : (UInt8.ofNat B.causalityMaxDepth).toNat ≠ 0 := fun zero =>
      deep (UInt8.toNat_inj.mp zero)
    exact Nat.pos_of_ne_zero nonzero
  rcases followed_or_seen [] ⟨edge.parent, 0⟩ reachable.wellFormed shallow listed active rfl with
    followed | seen
  · exact mem_followedBy.mpr ⟨_, [], first, followed⟩
  · have loop : edge.child = edge.parent := by simpa using seen
    exact absurd loop.symm (reachable.edgesProper edge listed).2

/-- An op that `check` allows is admissible. -/
theorem ChecksOut.admissible {hal : Hal} {op : OpId} (allowed : ChecksOut B hal budget op)
    (reachable : Reachable B budget) : ∃ profile, Admissible B hal budget op profile := by
  rcases allowed with ⟨d, after, checked, allows⟩
  rw [check_of_initialized reachable.wellFormed.initialized] at checked
  simp only [Prod.mk.injEq, Option.some.injEq, true_and] at checked
  rcases decide_cases hal reachable.wellFormed reachable.sound op with
    ⟨profile, -, admissible, -⟩ | ⟨denies, -⟩
  · exact ⟨profile, admissible⟩
  · rw [checked.1, allows] at denies
    exact absurd denies Bool.true_eq_false.mp

/-- The total of a resource after the walk includes the scaled needs of what the root always
triggers. -/
theorem always_le_total (reachable : Reachable B budget)
    (deep : UInt8.ofNat B.causalityMaxDepth ≠ 0) {parent child : OpId}
    (always : budget.AlwaysTriggers parent child) {own totals : NeedPerRes}
    (walked : causalityAddScaledNeeds B budget parent own budget.pressure = some totals)
    (resource : ResourceId) :
    min 65535 ((own resource).toNat +
        ((needOf (budget.needs child) resource).toNat * 255 + 128) / 256) ≤
      (totals resource).toNat := by
  rcases always with ⟨edge, listed, rfl, rfl, weight⟩
  have active : edge.isActive budget.pressure = true := by
    simp [Edge.isActive, weight, triggerAlways, triggerRare]
  have scaled : budget.edgeNeed resource edge =
      ((needOf (budget.needs edge.child) resource).toNat * 255 + 128) / 256 := by
    simp only [Budget.edgeNeed, scaledNeed_toNat, weight]
    rfl
  have part : budget.edgeNeed resource edge ≤
      ((cascadeEdges B budget budget.pressure edge.parent).map (budget.edgeNeed resource)).sum :=
    List.single_le_sum (fun _ _ => Nat.zero_le _) _
      (List.mem_map_of_mem (followed_of_root reachable deep listed active))
  rw [causalityAddScaledNeeds_eq_some walked, addEdges_toNat reachable.wellFormed, ← scaled]
  omega

/-- If `check` allows an op, its needs and the scaled needs of each op that it always triggers fit
into what is left of every resource that counts, as long as they total at most `0xFFFF` or less
than that is left; up to an amount of 128 the scaled needs are the needs themselves. -/
theorem always_scaled_fits (reachable : Reachable B budget)
    (deep : UInt8.ofNat B.causalityMaxDepth ≠ 0) (hal : Hal) (parent child : OpId)
    (always : budget.AlwaysTriggers parent child) (allowed : ChecksOut B hal budget parent)
    (resource : ResourceId) (counts : (budget.resources resource).kind ≠ .state) :
    let held := (budget.resources resource).used.toNat + (budget.resources resource).reserved.toNat
    let limit := (budget.resources resource).limit.toNat
    let own := (needOf (budget.needs parent) resource).toNat
    let triggered := (needOf (budget.needs child) resource).toNat
    let scaled := (triggered * 255 + 128) / 256
    (own + scaled ≤ 65535 ∨ limit < held + 65535 → held + (own + scaled) ≤ limit) ∧
      (triggered ≤ 128 → own + triggered ≤ 65535 ∨ limit < held + 65535 →
        held + (own + triggered) ≤ limit) := by
  intro held limit own triggered scaled
  have scaled_fits : held + min 65535 (own + scaled) ≤ limit := by
    rcases allowed.admissible reachable with ⟨profile, admissible⟩
    have ownNeed : budget.ownNeeds parent resource = needOf (budget.needs parent) resource :=
      if_neg counts
    rcases id always with ⟨edge, listed, rfl, -⟩
    have enabled := (reachable.edgesProper edge listed).1
    have hasStorage := reachable.wellFormed.edges_stored (List.ne_nil_of_mem listed)
    have inRange := (reachable.wellFormed.edges_inRange edge listed).1
    have walked := causalityAddScaledNeeds_eq hasStorage inRange (budget.ownNeeds edge.parent)
      budget.pressure
    have total := always_le_total reachable deep always walked resource
    have fits := (admissible.cascade enabled _ walked resource).fits counts
    simp only [Resource.Fits] at fits
    rw [ownNeed] at total
    omega
  constructor
  · intro unsaturated
    omega
  · intro small unsaturated
    have same : scaled = triggered := by omega
    omega

/-- An op and an op that it always triggers, with their needs of one resource. -/
def pairNeeding (limit own triggered : UInt16) : List Event :=
  registerOps 2 ++ [.permissive (.setResource 0 limit 0), .permissive (.opSetNeed 0 0 own),
    .permissive (.opSetNeed 1 0 triggered), .trigger 0 1]

theorem always_scaled_fits_pair :
    let budget := (machine Build.full).run .sample (pairNeeding 10 4 6)
    (budget.resources 0).used.toNat + (budget.resources 0).reserved.toNat +
        ((needOf (budget.needs 0) 0).toNat + (needOf (budget.needs 1) 0).toNat) ≤
      (budget.resources 0).limit.toNat :=
  (always_scaled_fits ((Reachable.of_started started_sample).run (pairNeeding 10 4 6)) (by decide)
    (Hal.permissive 0) 0 1 (by decide +kernel) ⟨_, _, rfl, by decide +kernel⟩ 0
    (by decide +kernel)).2 (by decide +kernel) (Or.inl (by decide +kernel))

/-- If `check` allows the op, it fits into the resource together with what it always triggers. -/
def TriggersFit (B : Build) (hal : Hal) (budget : Budget) (parent child : OpId)
    (resource : ResourceId) : Prop :=
  Reachable B budget → budget.AlwaysTriggers parent child → ChecksOut B hal budget parent →
    (budget.resources resource).kind ≠ .state → needOf (budget.needs child) resource ≠ 0 →
    (budget.resources resource).used.toNat + (budget.resources resource).reserved.toNat +
      ((needOf (budget.needs parent) resource).toNat +
        (needOf (budget.needs child) resource).toNat) ≤
      (budget.resources resource).limit.toNat

/-- The weight 255 of 256, and a build that follows no edges. -/
theorem always_underestimated :
    ¬TriggersFit Build.full (Hal.permissive 0)
        ((machine Build.full).run .sample (pairNeeding 128 0 129)) 0 1 0 ∧
      ¬TriggersFit { Build.full with causalityMaxDepth := 0 } (Hal.permissive 0)
        ((machine { Build.full with causalityMaxDepth := 0 }).run
          (init { Build.full with causalityMaxDepth := 0 } (Hal.permissive 0) .zero .sample).2
          (pairNeeding 10 0 20)) 0 1 0 := by
  constructor
  · intro fit
    have bound := fit ((Reachable.of_started started_sample).run _) (by decide +kernel)
      ⟨_, _, rfl, by decide +kernel⟩ (by decide +kernel) (by decide +kernel)
    revert bound
    decide +kernel
  · intro fit
    have started : Started { Build.full with causalityMaxDepth := 0 }
        (init { Build.full with causalityMaxDepth := 0 } (Hal.permissive 0) .zero .sample).2 :=
      ⟨Hal.permissive 0, .zero, .sample, Prod.ext (by decide +kernel) rfl⟩
    have bound := fit ((Reachable.of_started started).run _) (by decide +kernel)
      ⟨_, _, rfl, by decide +kernel⟩ (by decide +kernel) (by decide +kernel)
    revert bound
    decide +kernel

end Loxbudget
