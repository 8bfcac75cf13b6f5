import Loxbudget.Cascade.Monotone
import Loxbudget.Decision.Agreement
import Loxbudget.Decision.Independence
import Loxbudget.Rate.Buckets
import Loxbudget.Rate.Lifetime

/-!
# Load

What is reserved and consumed bears on a decision in one direction only: an instance with less of
it admits whatever another one of the same configuration admits, with the same action. So a lease
that is given back never costs anybody an admission; and as long as the clock stands still, an op
that has been denied stays denied whatever is entered in between.
-/

namespace Loxbudget

variable {B : Build} {hal : Hal} {budget light heavy : Budget} {op : OpId} {profile : OpProfile}

/-! ## Windows -/

namespace RateWindow

variable {impl : RateImpl} {window : RateWindow} {nowMs amount consumed : UInt32}

/-- A window that has been rolled to a clock reading is not rolled any further by it. -/
theorem roll_consumed :
    ({ window.roll impl nowMs with consumed := consumed } : RateWindow).roll impl nowMs =
      { window.roll impl nowMs with consumed := consumed } := by
  by_cases unlimited : window.unlimited = true
  · have same : ({ window with consumed := consumed } : RateWindow).unlimited = true := unlimited
    simp only [roll, if_pos unlimited, if_pos same]
  · have limited : ¬({ window.roll impl nowMs with
        consumed := consumed } : RateWindow).unlimited = true := by
      change ¬(window.roll impl nowMs).unlimited = true
      rw [roll_unlimited]
      exact unlimited
    have duration_ne : window.windowDurationMs ≠ 0 := by
      intro zero
      simp [RateWindow.unlimited, zero] at unlimited
    rw [roll.eq_def impl { window.roll impl nowMs with consumed := consumed }, if_neg limited]
    cases impl with
    | tokenBucket =>
        simp only [roll, if_neg unlimited]
        by_cases sameTime : nowMs - window.windowStartMs = 0
        · simp [refill, sameTime]
        · simp [refill, sameTime]
    | fixedWindow =>
        simp only [roll, if_neg unlimited]
        by_cases expired : nowMs - window.windowStartMs ≥ window.windowDurationMs
        · simp [restartIfExpired, expired, duration_ne]
        · simp [restartIfExpired, expired]

theorem commit_frame (impl : RateImpl) (window : RateWindow) (nowMs amount : UInt32) :
    ∃ consumed, window.commit impl nowMs amount =
      { window.roll impl nowMs with consumed := consumed } := by
  by_cases unlimited : window.unlimited = true
  · exact ⟨window.consumed, by simp only [commit, roll, if_pos unlimited]⟩
  · cases impl with
    | tokenBucket =>
        rw [commit_tokenBucket (by simpa using unlimited)]
        simp only [roll, if_neg unlimited]
        exact ⟨_, rfl⟩
    | fixedWindow =>
        simp only [commit, roll, if_neg unlimited]
        split
        · exact ⟨_, rfl⟩
        · exact ⟨_, rfl⟩

/-- What a window admits right after a commit, it has admitted before. -/
theorem Admits.of_commit {other : UInt32}
    (admits : (window.commit impl nowMs other).Admits impl nowMs amount) :
    window.Admits impl nowMs amount := by
  rcases commit_frame impl window nowMs other with ⟨consumed, frame⟩
  have rolled : (window.commit impl nowMs other).roll impl nowMs =
      window.commit impl nowMs other := by
    rw [frame]
    exact roll_consumed
  have limit : (window.commit impl nowMs other).limit = window.limit := by
    rw [frame]
    exact roll_limit impl window nowMs
  by_cases unlimited : window.unlimited = true
  · exact Or.inl unlimited
  have limited : window.unlimited = false := by simpa using unlimited
  have limited' : (window.commit impl nowMs other).unlimited = false := by
    rw [frame]
    exact (roll_unlimited impl window nowMs).trans limited
  have room := admits.resolve_left (by simp [limited'])
  right
  rw [rolled, limit] at room
  cases impl with
  | tokenBucket =>
      have tokens := commit_tokens limited nowMs other
      simp only [tokens] at room
      simp only [roll, if_neg unlimited]
      omega
  | fixedWindow =>
      have consumed := commit_consumed limited nowMs other
      have limit_lt := window.limit.toNat_lt
      have rolled_lt := (window.roll .fixedWindow nowMs).consumed.toNat_lt
      simp only [consumed] at room
      simp only
      omega

end RateWindow

namespace RateState

/-- One rate state admits every amount that the other one admits at a clock reading. -/
structure Laxer (impl : RateImpl) (nowMs : UInt32) (lax strict : RateState) : Prop where
  lifetime : ∀ amount, strict.AdmitsLifetime amount → lax.AdmitsLifetime amount
  windows : ∀ amount, strict.AdmitsWindows impl nowMs amount → lax.AdmitsWindows impl nowMs amount

namespace Laxer

variable {impl : RateImpl} {nowMs : UInt32} {rate lax between strict : RateState}

theorem refl (impl : RateImpl) (nowMs : UInt32) (rate : RateState) :
    Laxer impl nowMs rate rate :=
  ⟨fun _ => id, fun _ => id⟩

theorem trans (first : Laxer impl nowMs lax between) (second : Laxer impl nowMs between strict) :
    Laxer impl nowMs lax strict :=
  ⟨fun amount admits => first.lifetime amount (second.lifetime amount admits),
    fun amount admits => first.windows amount (second.windows amount admits)⟩

theorem of_rolledTo (rolled : rate.RolledTo impl nowMs strict) : Laxer impl nowMs rate strict where
  lifetime amount admits := by
    rw [AdmitsLifetime, ← rolled.limitLifetime, ← rolled.consumedLifetime]
    exact admits
  windows amount admits := by
    have same : (rollWindows impl nowMs amount (rate.rolled impl nowMs).windows).2 =
        (rollWindows impl nowMs amount rate.windows).2 := rollWindows_rolled_snd rate
    rw [← rolled.rolled_eq, rollWindows_rolled_snd] at same
    exact (rollWindows_snd _ _ _ _).mp (same ▸ (rollWindows_snd _ _ _ _).mpr admits)

theorem of_commit (amount : UInt32) :
    Laxer impl nowMs rate (rate.commit impl nowMs amount) where
  lifetime other admits := by
    have limit_lt := rate.limitLifetime.toNat_lt
    have consumed := rate.commit_consumedLifetime impl nowMs amount
    rcases admits with unlimited | within
    · exact Or.inl unlimited
    · right
      change _ ≤ rate.limitLifetime.toNat at within
      rw [consumed] at within
      have consumed_lt := rate.consumedLifetime.toNat_lt
      omega
  windows other admits := by
    intro window listed
    exact (admits _ (List.mem_map_of_mem listed)).of_commit

end Laxer

end RateState

/-! ## Instances -/

/-- What is taken of a resource. -/
def Resource.load (resource : Resource) : Nat :=
  resource.used.toNat + resource.reserved.toNat

/-- The same resource with at most the load of the other. -/
structure Resource.AtMost (resource other : Resource) : Prop where
  kind : resource.kind = other.kind
  limit : resource.limit = other.limit
  load : resource.load ≤ other.load

theorem Resource.AtMost.fits {resource other : Resource} {amount : UInt16}
    (atMost : resource.AtMost other) (fits : other.Fits amount) : resource.Fits amount := by
  have load := atMost.load
  simp only [Resource.load, Resource.Fits, atMost.limit] at load fits ⊢
  omega

/-- The same instance with at most the load of the other, and with windows that admit at the clock
reading what the windows of the other admit. -/
structure Lighter (B : Build) (nowMs : UInt32) (light heavy : Budget) : Prop where
  frame : ∃ leaseSlots journal decisionHook, light =
    { heavy with
      resources := light.resources
      rateState := light.rateState
      leaseSlots := leaseSlots
      journal := journal
      decisionHook := decisionHook }
  resources : ∀ resource, (light.resources resource).AtMost (heavy.resources resource)
  rates : ∀ resource, (light.rateState resource).Laxer B.rateImpl nowMs (heavy.rateState resource)

namespace Lighter

variable {nowMs : UInt32} {between : Budget}

theorem refl (B : Build) (nowMs : UInt32) (budget : Budget) : Lighter B nowMs budget budget :=
  ⟨⟨_, _, _, rfl⟩, fun _ => ⟨rfl, rfl, Nat.le_refl _⟩, fun _ => .refl _ _ _⟩

theorem trans (first : Lighter B nowMs light between) (second : Lighter B nowMs between heavy) :
    Lighter B nowMs light heavy where
  frame := by
    rcases first.frame with ⟨leaseSlots, journal, decisionHook, frame⟩
    rcases second.frame with ⟨_, _, _, frame'⟩
    refine ⟨leaseSlots, journal, decisionHook, ?_⟩
    rw [frame'] at frame
    exact frame
  resources resource :=
    have first := first.resources resource
    have second := second.resources resource
    ⟨first.kind.trans second.kind, first.limit.trans second.limit, first.load.trans second.load⟩
  rates resource := (first.rates resource).trans (second.rates resource)

/-- The walk over the triggers reads none of what differs. -/
theorem walk_eq (resources : ResourceId → Resource) (rateState : ResourceId → RateState)
    (leaseSlots : List LeaseSlot) (journal : Journal) (decisionHook : Bool) (op : OpId)
    (needPerRes : NeedPerRes) (pressure : Pressure) :
    causalityAddScaledNeeds B
        { budget with
          resources := resources, rateState := rateState, leaseSlots := leaseSlots
          journal := journal, decisionHook := decisionHook } op needPerRes pressure =
      causalityAddScaledNeeds B budget op needPerRes pressure := by
  have scan (cur : OpId) (depth : UInt8) (edges : List Edge) (walk : WalkState) :
      WalkState.scan B
          { budget with
            resources := resources, rateState := rateState, leaseSlots := leaseSlots
            journal := journal, decisionHook := decisionHook } pressure cur depth edges walk =
        WalkState.scan B budget pressure cur depth edges walk := by
    induction edges generalizing walk with
    | nil => rfl
    | cons edge edges ih => simp only [WalkState.scan, ih]
  have step : WalkState.step B
      { budget with
        resources := resources, rateState := rateState, leaseSlots := leaseSlots
        journal := journal, decisionHook := decisionHook } pressure =
      WalkState.step B budget pressure := by
    funext walk
    simp only [WalkState.step, scan]
  simp only [causalityAddScaledNeeds, step]
  rfl

theorem needAdmitted (lighter : Lighter B hal.nowMs light heavy) {need : Need}
    (admitted : NeedAdmitted B hal heavy profile need) :
    NeedAdmitted B hal light profile need := by
  have resource := lighter.resources need.resource
  have rate := lighter.rates need.resource
  refine ⟨?_, ?_, ?_, ?_⟩
  · intro isState
    rw [resource.limit]
    exact admitted.stateLimit (resource.kind.symm.trans isState)
  · intro notState
    apply resource.fits
    apply admitted.fits
    rw [← resource.kind]
    exact notState
  · intro enabled limited consumable
    exact rate.lifetime _ (admitted.lifetime enabled limited (resource.kind.symm.trans consumable))
  · intro enabled limited consumable
    exact rate.windows _ (admitted.windows enabled limited (resource.kind.symm.trans consumable))

theorem totalAdmitted (lighter : Lighter B nowMs light heavy) {totals : NeedPerRes}
    {resource : ResourceId} (admitted : TotalAdmitted heavy totals resource) :
    TotalAdmitted light totals resource := by
  have atMost := lighter.resources resource
  refine ⟨?_, ?_⟩
  · intro isState needed
    rw [atMost.limit]
    exact admitted.stateLimit (atMost.kind.symm.trans isState) needed
  · intro notState
    apply atMost.fits
    apply admitted.fits
    rw [← atMost.kind]
    exact notState

/-- What the heavier instance admits, the lighter one admits. -/
theorem admissible (lighter : Lighter B hal.nowMs light heavy)
    (admissible : Admissible B hal heavy op profile) : Admissible B hal light op profile := by
  have needs (need : Need) := @lighter.needAdmitted B hal light heavy profile need
  have total (totals : NeedPerRes) (resource : ResourceId) :=
    @lighter.totalAdmitted B light heavy hal.nowMs totals resource
  have own : light.ownNeeds op = heavy.ownNeeds op := by
    rcases lighter.frame with ⟨_, _, _, frame⟩
    funext resource
    rw [Budget.ownNeeds, Budget.ownNeeds, (lighter.resources resource).kind]
    rw [frame]
  rcases lighter.frame with ⟨leaseSlots, journal, decisionHook, frame⟩
  generalize light.resources = lightResources at frame
  generalize light.rateState = lightRates at frame
  subst frame
  exact
    { registered := admissible.registered
      mapped := admissible.mapped
      lockdown := admissible.lockdown
      bootProven := admissible.bootProven
      voltageOk := admissible.voltageOk
      networkUp := admissible.networkUp
      needs := fun need listed amount_ne => needs need (admissible.needs need listed amount_ne)
      cascade := fun enabled totals walked resource => by
        rw [walk_eq, own] at walked
        exact total totals resource (admissible.cascade enabled totals walked resource) }

end Lighter

/-! ## Decisions under load -/

/-- `check` allows the op, with the given action. -/
def AllowsAs (B : Build) (hal : Hal) (budget : Budget) (op : OpId) (action : Action) : Prop :=
  action.allows = true ∧ ∃ d, (check B hal budget op true).2.1 = some d ∧ d.action = action

theorem allowsAs_iff (reachable : Reachable B budget) (action : Action) :
    AllowsAs B hal budget op action ↔
      ∃ profile, Admissible B hal budget op profile ∧
        action = profile.mappedAction budget.pressure := by
  have wellFormed := reachable.wellFormed
  simp only [AllowsAs, check_of_initialized wellFormed.initialized, Option.some.injEq,
    exists_eq_left']
  rcases decide_cases hal wellFormed reachable.sound op with
    ⟨profile, -, admissible, decided, -⟩ | ⟨denies, inadmissible⟩
  · constructor
    · rintro ⟨-, same⟩
      exact ⟨profile, admissible, same.symm.trans decided⟩
    · rintro ⟨other, admissible', rfl⟩
      obtain rfl : other = profile :=
        Option.some.inj (admissible'.registered.symm.trans admissible.registered)
      exact ⟨allows_iff.mpr admissible'.mapped, decided⟩
  · constructor
    · rintro ⟨allows, same⟩
      rw [same, allows] at denies
      exact absurd denies Bool.true_eq_false.mp
    · rintro ⟨profile, admissible, -⟩
      exact absurd admissible (inadmissible profile)

theorem Lighter.allowsAs (lighter : Lighter B hal.nowMs light heavy)
    (reachable : Reachable B light) (reachable' : Reachable B heavy) {action : Action}
    (allows : AllowsAs B hal heavy op action) : AllowsAs B hal light op action := by
  rcases (allowsAs_iff reachable' action).mp allows with ⟨profile, admissible, mapped⟩
  have pressure : light.pressure = heavy.pressure := by
    rcases lighter.frame with ⟨_, _, _, frame⟩
    rw [frame]
  rw [allowsAs_iff reachable action, pressure]
  exact ⟨profile, lighter.admissible admissible, mapped⟩

/-! ## What a call does to the load -/

theorem Resource.commit_limit (resource : Resource) (amount : UInt16) :
    (resource.commit amount).limit = resource.limit := by
  simp only [Resource.commit]
  split <;> rfl

theorem released_lighter (nowMs : UInt32) (wellFormed : WellFormed B budget) (lease : Lease) :
    Lighter B nowMs (budget.released lease) budget := by
  refine ⟨⟨_, _, _, rfl⟩, ?_, fun _ => .refl _ _ _⟩
  intro resource
  have distinct := wellFormed.needs_distinct lease.op
  rcases releaseResources_exact budget.resources distinct resource with ⟨kind, used, -, reserved⟩
  refine ⟨kind, ?_, ?_⟩
  · simp only [Budget.released, releaseResources_apply distinct]
    rw [Resource.release_frame]
  · change (releaseResources _ _ resource).used.toNat +
      (releaseResources _ _ resource).reserved.toNat ≤ _
    rw [used, reserved]
    apply Nat.add_le_add_left
    split
    · exact Nat.sub_le _ _
    · exact Nat.le_refl _

theorem leave_lighter (nowMs : UInt32) (wellFormed : WellFormed B budget) (lease : Lease) :
    Lighter B nowMs (leave budget lease).2 budget := by
  by_cases accepts : Accepts budget lease
  · rw [leave_of_accepts accepts]
    exact released_lighter nowMs wellFormed lease
  · rw [(leave_of_not_accepts accepts).2]
    exact .refl _ _ _

theorem booked_lighter {nowMs : UInt32} {after : Budget} (booked : Booked B nowMs budget after) :
    Lighter B nowMs budget after := by
  have resources := booked.resources
  refine ⟨⟨budget.leaseSlots, budget.journal, budget.decisionHook, ?_⟩, ?_, ?_⟩
  · rw [booked.frame]
  · intro resource
    rw [resources]
    exact ⟨rfl, rfl, Nat.le_refl _⟩
  · intro resource
    exact .of_rolledTo (booked.rolled resource)

/-- The clock stands at one reading during the call. -/
structure Hal.StandsAt (nowMs : UInt32) (hal : Hal) : Prop where
  reading : hal.nowMs = nowMs
  commits : ∀ index, hal.commitNowMs index = nowMs

theorem acquired_heavier {nowMs : UInt32} (stands : hal.StandsAt nowMs)
    (wellFormed : WellFormed B budget) (sound : budget.Sound) (cleared : Cleared budget op)
    (slotId : UInt8) : Lighter B nowMs budget (budget.acquired B hal op slotId) := by
  have distinct := wellFormed.needs_distinct op
  refine ⟨⟨budget.leaseSlots, _, _, rfl⟩, ?_, ?_⟩
  · intro resource
    rcases commitResources_exact distinct (cleared.fits sound) sound resource with
      ⟨kind, reserved, used, -⟩
    refine ⟨kind.symm, ?_, ?_⟩
    · simp only [Budget.acquired, commitResources_apply distinct]
      split
      · rfl
      · exact (Resource.commit_limit _ _).symm
    · change _ ≤ (commitResources _ _ resource).used.toNat +
        (commitResources _ _ resource).reserved.toNat
      rw [used, reserved]
      exact Nat.add_le_add (Nat.le_add_right _ _) (Nat.le_add_right _ _)
  · intro resource
    have committed := commitNeeds_rateState B hal (budget.ops op) distinct 0 budget resource
    by_cases counted : RateLimited B budget (budget.ops op) resource ∧
        needOf (budget.needs op) resource ≠ 0
    · have counts := committed.1 counted
      rw [stands.commits] at counts
      simp only [Budget.acquired, counts]
      exact .of_commit _
    · simp only [Budget.acquired, committed.2 counted]
      exact .refl _ _ _

/-- The call neither configures the instance nor gives anything back. -/
def Call.takes : Call → Bool
  | .check _ _ | .enter _ _ | .yieldCheck _ _ => true
  | .snapshot _ | .auditClear | .setDecisionHook _ => true
  | _ => false

theorem next_heavier {nowMs : UInt32} (wellFormed : WellFormed B budget) (sound : budget.Sound)
    {event : Event} (stands : event.hal.StandsAt nowMs) (takes : event.call.takes = true) :
    Lighter B nowMs budget ((machine B).next budget event) := by
  rcases event with ⟨hal, call⟩
  cases call with
  | check op out =>
      have booked := check_booked B hal budget op out
      rw [stands.reading] at booked
      exact booked_lighter booked
  | enter op out =>
      rcases enter_cases B hal budget op out with
        ⟨booked, -⟩ | ⟨middle, slotId, booked, cleared, -, entered⟩
      · rw [stands.reading] at booked
        exact booked_lighter booked
      · rw [stands.reading] at booked
        rw [next_enter, entered]
        exact (booked_lighter booked).trans
          (acquired_heavier stands (wellFormed.booked booked) (sound.booked booked) cleared slotId)
  | yieldCheck lease out => exact .refl _ _ _
  | snapshot out => exact .refl _ _ _
  | auditClear =>
      have writes := next_writes B budget ⟨hal, .auditClear⟩ rfl
      generalize (machine B).next budget ⟨hal, .auditClear⟩ = after at writes ⊢
      cases writes with
      | auditClear journal =>
          exact ⟨⟨_, budget.journal, _, rfl⟩, fun _ => ⟨rfl, rfl, Nat.le_refl _⟩,
            fun _ => .refl _ _ _⟩
  | setDecisionHook hook =>
      have writes := next_writes B budget ⟨hal, .setDecisionHook hook⟩ rfl
      generalize (machine B).next budget ⟨hal, .setDecisionHook hook⟩ = after at writes ⊢
      cases writes with
      | setDecisionHook _ decisionHook =>
          exact ⟨⟨_, _, budget.decisionHook, rfl⟩, fun _ => ⟨rfl, rfl, Nat.le_refl _⟩,
            fun _ => .refl _ _ _⟩
  | _ => exact absurd takes Bool.false_ne_true

/-! ## Runs -/

/-- A lease that is given back costs nobody an admission: what is allowed before any leaves, with
whatever leases, is allowed after them, with the same action. -/
theorem leaves_never_deny (reachable : Reachable B budget) {events : List Event}
    (leaves : ∀ event ∈ events, ∃ lease, event.call = .leave lease) (hal : Hal) (op : OpId)
    (action : Action) (allows : AllowsAs B hal budget op action) :
    AllowsAs B hal ((machine B).run budget events) op action := by
  induction events generalizing budget with
  | nil => exact allows
  | cons event events ih =>
      have later := fun event listed => leaves event (List.mem_cons_of_mem _ listed)
      have next : Reachable B ((machine B).next budget event) := reachable.run [event]
      refine ih next later ?_
      rcases event with ⟨hal', call⟩
      rcases leaves _ List.mem_cons_self with ⟨lease, rfl⟩
      have lighter := leave_lighter hal.nowMs reachable.wellFormed lease
      exact lighter.allowsAs next reachable allows

/-- One op that may be entered twice, after its first enter. -/
def enteredOnce : List Event :=
  oneOp ++ [.permissive (.enter 0 true)]

theorem leaves_never_deny_once :
    let budget := (machine Build.full).run .sample enteredOnce
    AllowsAs Build.full (Hal.permissive 7)
      ((machine Build.full).run budget [.permissive (.leave ⟨0, 0x1000, 0, 0⟩)]) 0 .allowFull :=
  leaves_never_deny ((Reachable.of_started started_sample).run enteredOnce)
    (fun _ listed => ⟨_, congrArg Event.call (List.mem_singleton.mp listed)⟩) (Hal.permissive 7) 0
    .allowFull ⟨rfl, _, rfl, by decide +kernel⟩

theorem run_heavier {nowMs : UInt32} (reachable : Reachable B budget) {events : List Event}
    (stands : ∀ event ∈ events, event.hal.StandsAt nowMs)
    (takes : ∀ event ∈ events, event.call.takes = true) :
    Lighter B nowMs budget ((machine B).run budget events) := by
  induction events generalizing budget with
  | nil => exact .refl B nowMs budget
  | cons event events ih =>
      have step : Lighter B nowMs budget ((machine B).next budget event) :=
        next_heavier reachable.wellFormed reachable.sound (stands _ List.mem_cons_self)
          (takes _ List.mem_cons_self)
      have next : Reachable B ((machine B).next budget event) := reachable.run [event]
      exact step.trans (ih next (fun event listed => stands event (List.mem_cons_of_mem _ listed))
        fun event listed => takes event (List.mem_cons_of_mem _ listed))

theorem denies_iff (reachable : Reachable B budget) :
    Denies B hal budget op ↔ ∀ action, ¬AllowsAs B hal budget op action := by
  simp only [Denies, AllowsAs, check_of_initialized reachable.wellFormed.initialized,
    Option.some.injEq, exists_eq_left']
  constructor
  · rintro denies action ⟨allows, rfl⟩
    rw [allows] at denies
    exact Bool.false_ne_true denies.symm
  · intro refuses
    by_contra allows
    exact refuses _ ⟨by simpa using allows, rfl⟩

/-- While the clock stands and nothing is given back or configured, what is denied stays denied,
whatever is checked and entered. -/
theorem denied_stays_denied (reachable : Reachable B budget) {events : List Event} {hal : Hal}
    (stands : ∀ event ∈ events, event.hal.StandsAt hal.nowMs)
    (takes : ∀ event ∈ events, event.call.takes = true) (op : OpId)
    (denies : Denies B hal budget op) : Denies B hal ((machine B).run budget events) op := by
  have after : Reachable B ((machine B).run budget events) := reachable.run events
  have heavier := run_heavier reachable stands takes
  rw [denies_iff reachable] at denies
  rw [denies_iff after]
  intro action allows
  exact denies action (heavier.allowsAs reachable after allows)

theorem denied_stays_denied_twice :
    let budget := (machine Build.full).run .sample (enteredOnce ++ [.permissive (.enter 0 true)])
    Denies Build.full (Hal.permissive 0)
      ((machine Build.full).run budget [.permissive (.check 0 true), .permissive (.enter 0 true)])
      0 := by
  apply denied_stays_denied ((Reachable.of_started started_sample).run _)
  · intro event listed
    simp only [List.mem_cons, List.not_mem_nil, or_false] at listed
    rcases listed with rfl | rfl
    · exact ⟨rfl, fun _ => rfl⟩
    · exact ⟨rfl, fun _ => rfl⟩
  · decide
  · exact ⟨_, rfl, by decide +kernel⟩

end Loxbudget
