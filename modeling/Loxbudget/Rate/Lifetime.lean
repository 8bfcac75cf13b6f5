import Loxbudget.Decision.Reasons
import Loxbudget.Rate.Timeline

/-!
# What a resource grants over its lifetime

The lifetime counter of a resource is moved by the commit loop of `enter` alone. No call lowers
it or sets it back, so it is told by the history of the grants; and an op that it has turned away
stays turned away, until the limit, the resource or the needs of the op are set anew.
-/

namespace Loxbudget

variable {B : Build} {budget : Budget} {op : OpId} {res : ResourceId}

/-! ## The counter and the grants -/

/-- The amount that one call grants on a resource under its lifetime limit. -/
def lifetimeGranted (B : Build) (res : ResourceId) (before : Budget) (event : Event)
    (reply : Reply) : Nat :=
  match event.call with
  | .enter op _ => if reply.status = .ok then (before.rateGrant B op res).toNat else 0
  | _ => 0

theorem lifetimeGranted_enter (hal : Hal) (out : Bool) :
    lifetimeGranted B res budget ⟨hal, .enter op out⟩
        ((machine B).reply budget ⟨hal, .enter op out⟩) =
      if (enter B hal budget op out).1.1 = .ok then (budget.rateGrant B op res).toNat else 0 := rfl

/-- The instance with the total that it has granted on a resource. -/
def lifetimeMachine (B : Build) (res : ResourceId) : Machine (Budget × Nat) Event Reply :=
  (machine B).observe fun total before event reply _ =>
    total + lifetimeGranted B res before event reply

theorem RateState.commit_consumedLifetime (impl : RateImpl) (rate : RateState)
    (nowMs amount : UInt32) :
    (rate.commit impl nowMs amount).consumedLifetime.toNat =
      min 4294967295 (rate.consumedLifetime.toNat + amount.toNat) := by
  have consumed_lt := rate.consumedLifetime.toNat_lt
  have room : (0xFFFFFFFF - rate.consumedLifetime).toNat =
      4294967295 - rate.consumedLifetime.toNat := by
    have largest : rate.consumedLifetime ≤ 0xFFFFFFFF := by
      rw [UInt32.le_iff_toNat_le]
      simp only [UInt32.reduceToNat]
      omega
    rw [UInt32.toNat_sub_of_le _ _ largest]
    rfl
  simp only [RateState.commit]
  split
  · rename_i full
    have full' := UInt32.lt_iff_toNat_lt.mp full
    simp only [UInt32.reduceToNat]
    omega
  · rename_i fits
    have fits' := UInt32.le_iff_toNat_le.mp (UInt32.not_lt.mp fits)
    rw [UInt32.toNat_add]
    omega

/-- The critical section of an `enter` counts its grant, up to the end of the range, and leaves
the limit as it is. -/
theorem acquired_lifetime (wellFormed : WellFormed B budget) (hal : Hal) (op : OpId)
    (slotId : UInt8) (res : ResourceId) :
    ((budget.acquired B hal op slotId).rateState res).consumedLifetime.toNat =
        min 4294967295 ((budget.rateState res).consumedLifetime.toNat +
          (budget.rateGrant B op res).toNat) ∧
      ((budget.acquired B hal op slotId).rateState res).limitLifetime =
        (budget.rateState res).limitLifetime := by
  have committed := commitNeeds_rateState B hal (budget.ops op) (wellFormed.needs_distinct op) 0
    budget res
  have consumed_lt := (budget.rateState res).consumedLifetime.toNat_lt
  simp only [Budget.acquired]
  by_cases counted : RateLimited B budget (budget.ops op) res ∧ needOf (budget.needs op) res ≠ 0
  · rw [committed.1 counted, RateState.commit_consumedLifetime, Budget.rateGrant,
      if_pos counted.1, UInt16.toNat_toUInt32]
    exact ⟨rfl, rfl⟩
  · have free : budget.rateGrant B op res = 0 := by
      by_contra granted
      exact counted (Budget.rateGrant_ne_zero.mp granted)
    rw [committed.2 counted, free]
    simp only [UInt16.toNat_zero, and_true]
    omega

theorem QuietEffect.consumedLifetime {nowMs : UInt32} {before after : Budget}
    (effect : QuietEffect B nowMs before after) (res : ResourceId) :
    (after.rateState res).consumedLifetime = (before.rateState res).consumedLifetime := by
  cases effect with
  | rateLimit other index window fresh =>
      by_cases same : res = other
      · subst same
        simp
      · simp [Function.update_of_ne same]
  | lifetimeLimit other lifetimeMax =>
      by_cases same : res = other
      · subst same
        simp
      · simp [Function.update_of_ne same]
  | booked booked => exact (booked.rolled res).consumedLifetime
  | _ => rfl

/-- The counter after one call: what the call has granted is added, up to the end of the range. -/
theorem next_consumedLifetime (wellFormed : WellFormed B budget) (event : Event)
    (res : ResourceId) :
    (((machine B).next budget event).rateState res).consumedLifetime.toNat =
      min 4294967295 ((budget.rateState res).consumedLifetime.toNat +
        lifetimeGranted B res budget event ((machine B).reply budget event)) := by
  have consumed_lt := (budget.rateState res).consumedLifetime.toNat_lt
  have still : ∀ {after : Budget},
      (after.rateState res).consumedLifetime = (budget.rateState res).consumedLifetime →
      (after.rateState res).consumedLifetime.toNat =
        min 4294967295 ((budget.rateState res).consumedLifetime.toNat + 0) := by
    intro after same
    rw [same]
    omega
  by_cases quiet : event.call.isQuiet = true
  · have effect := next_quiet B budget event quiet
    rcases event with ⟨hal, call⟩
    cases call with
    | enter op out => exact absurd quiet Bool.false_ne_true
    | _ => exact still (effect.consumedLifetime res)
  · rcases event with ⟨hal, call⟩
    cases call with
    | enter op out =>
        have booked := check_booked B hal budget op true
        rw [next_enter, lifetimeGranted_enter]
        rcases enter_checked B hal budget op out with
          ⟨failed, after⟩ | ⟨slotId, -, -, entered⟩
        · rw [after, if_neg failed]
          exact still (booked.rolled res).consumedLifetime
        · have counted := (acquired_lifetime (wellFormed.booked booked) hal op slotId res).1
          rw [booked.rateGrant, (booked.rolled res).consumedLifetime] at counted
          rw [entered, if_pos rfl]
          exact counted
    | leave lease =>
        rcases leave_frame budget lease with ⟨resources, leaseSlots, left⟩
        rw [next_leave, left]
        exact still rfl
    | _ => exact absurd rfl quiet

/-! ## The limit -/

/-- An `enter` that goes on to the critical section has found its needs within the lifetime
limits. -/
theorem admitsLifetime_of_begun {hal : Hal} {after : Budget} {out : Bool}
    (wellFormed : WellFormed B budget) (sound : budget.Sound)
    (begun : enterBegin B hal budget op out = (none, after))
    (granted : budget.rateGrant B op res ≠ 0) :
    (budget.rateState res).AdmitsLifetime (budget.rateGrant B op res).toUInt32 := by
  rcases Budget.rateGrant_ne_zero.mp granted with ⟨limited, needed⟩
  rcases enterBegin_decided begun with ⟨-, -, -, allowed, -, -⟩
  rcases decide_cases hal wellFormed sound op with ⟨profile, -, admissible, -⟩ | ⟨denied, -⟩
  · rcases exists_mem_of_needOf_ne needed with ⟨need, listed, amount, amount_ne, named⟩
    have lifetime := (admissible.needs need listed amount_ne).lifetime
    rw [named, amount] at lifetime
    rw [Budget.rateGrant, if_pos limited]
    rw [profile_eq_ops admissible.registered] at limited
    exact lifetime limited.1 limited.2.1 limited.2.2
  · exact absurd (denied.symm.trans allowed) Bool.false_ne_true

/-- What an `enter` grants fits what the limit has left. -/
theorem enter_grant_le (wellFormed : WellFormed B budget) (sound : budget.Sound) {hal : Hal}
    {out : Bool} (entered : (enter B hal budget op out).1.1 = .ok)
    (granted : budget.rateGrant B op res ≠ 0)
    (limit_ne : (budget.rateState res).limitLifetime ≠ 0) :
    (budget.rateState res).consumedLifetime.toNat + (budget.rateGrant B op res).toNat ≤
      (budget.rateState res).limitLifetime.toNat := by
  rcases enter_checked B hal budget op out with ⟨failed, -⟩ | ⟨slotId, begun, -, -⟩
  · exact absurd entered failed
  · rcases admitsLifetime_of_begun wellFormed sound begun granted with unset | within
    · exact absurd unset limit_ne
    · rwa [UInt16.toNat_toUInt32] at within

theorem enter_lifetime_le (wellFormed : WellFormed B budget) (sound : budget.Sound) {hal : Hal}
    {out : Bool} (entered : (enter B hal budget op out).1.1 = .ok)
    (granted : budget.rateGrant B op res ≠ 0)
    (limit_ne : (budget.rateState res).limitLifetime ≠ 0) :
    ((enter B hal budget op out).2.rateState res).limitLifetime =
        (budget.rateState res).limitLifetime ∧
      ((enter B hal budget op out).2.rateState res).consumedLifetime ≤
        (budget.rateState res).limitLifetime := by
  have booked := check_booked B hal budget op true
  rcases enter_checked B hal budget op out with ⟨failed, -⟩ | ⟨slotId, -, -, after⟩
  · exact absurd entered failed
  · have counted := acquired_lifetime (wellFormed.booked booked) hal op slotId res
    rw [booked.rateGrant, (booked.rolled res).consumedLifetime,
      (booked.rolled res).limitLifetime] at counted
    have within := enter_grant_le wellFormed sound entered granted limit_ne
    rw [after]
    refine ⟨counted.2, ?_⟩
    rw [UInt32.le_iff_toNat_le, counted.1]
    omega

/-! ## An op that is turned away -/

/-- The op asks for more of the resource than its lifetime limit leaves. -/
structure Spent (B : Build) (op : OpId) (res : ResourceId) (budget : Budget) : Prop where
  registered : op < budget.maxOps ∧ budget.opCfg op = true
  limited : RateLimited B budget (budget.ops op) res
  needed : needOf (budget.needs op) res ≠ 0
  exhausted : ¬(budget.rateState res).AdmitsLifetime (needOf (budget.needs op) res).toUInt32

theorem Spent.denied (spent : Spent B op res budget) (wellFormed : WellFormed B budget)
    (sound : budget.Sound) (hal : Hal) : (decide B hal budget op).1.action.allows = false := by
  rcases decide_cases hal wellFormed sound op with ⟨profile, -, admissible, -⟩ | ⟨denied, -⟩
  · rcases exists_mem_of_needOf_ne spent.needed with ⟨need, listed, amount, amount_ne, named⟩
    have lifetime := (admissible.needs need listed amount_ne).lifetime
    have limited := spent.limited
    rw [named, amount] at lifetime
    rw [profile_eq_ops admissible.registered] at limited
    exact absurd (lifetime limited.1 limited.2.1 limited.2.2) spent.exhausted
  · exact denied

/-- A change that keeps the op, its need and the limit, and does not lower the counter. -/
theorem Spent.of_kept {after : Budget} (spent : Spent B op res budget)
    (registered : after.maxOps = budget.maxOps ∧ after.opCfg op = true)
    (profile : after.ops op = budget.ops op) (needs : after.needs op = budget.needs op)
    (kind : (after.resources res).kind = (budget.resources res).kind)
    (limit : (after.rateState res).limitLifetime = (budget.rateState res).limitLifetime)
    (consumed : (budget.rateState res).consumedLifetime.toNat ≤
      (after.rateState res).consumedLifetime.toNat) : Spent B op res after := by
  refine ⟨?_, ?_, ?_, ?_⟩
  · rw [registered.1]
    exact ⟨spent.registered.1, registered.2⟩
  · simpa only [RateLimited, profile, kind] using spent.limited
  · rw [needs]
    exact spent.needed
  · have exhausted := spent.exhausted
    simp only [RateState.AdmitsLifetime, not_or, not_le] at exhausted ⊢
    rw [needs, limit]
    exact ⟨exhausted.1, by omega⟩

/-- The calls after which an op may fit a lifetime limit again: the limit or the resource is set,
or the needs of the op are changed. -/
def Relieves (B : Build) (op : OpId) (res : ResourceId) (budget : Budget) (event : Event) : Prop :=
  match event.call with
  | .setLifetimeLimit other _ => other = res
  | .setResource other _ _ => other = res
  | .opSetNeed _ _ _ => ((machine B).next budget event).needs op ≠ budget.needs op
  | _ => False

theorem registerOp_kept (B : Build) (budget : Budget) (profile : Option RawProfile)
    (registered : budget.opCfg op = true) :
    (registerOp B budget profile).2.opCfg op = true ∧
      (registerOp B budget profile).2.ops op = budget.ops op ∧
      (registerOp B budget profile).2.needs op = budget.needs op := by
  rcases registerOp_cases B budget profile with
    ⟨raw, parsed, -, -, fresh, accepted⟩ | ⟨-, same⟩
  · have other : op ≠ raw.opId := by
      rintro rfl
      rw [fresh] at registered
      exact Bool.false_ne_true registered
    rw [accepted]
    simpa [Function.update_of_ne other] using registered
  · rw [same]
    exact ⟨registered, rfl, rfl⟩

theorem next_limitLifetime (wellFormed : WellFormed B budget) (event : Event)
    (res : ResourceId) (apart : match event.call with
      | .setLifetimeLimit other _ => other ≠ res
      | .setResource other _ _ => other ≠ res
      | _ => True) :
    (((machine B).next budget event).rateState res).limitLifetime =
        (budget.rateState res).limitLifetime ∧
      (((machine B).next budget event).resources res).kind = (budget.resources res).kind := by
  by_cases quiet : event.call.isQuiet = true
  · have writes := next_writes B budget event quiet
    rcases event with ⟨hal, call⟩
    cases call with
    | setLifetimeLimit other lifetimeMax =>
        simp only at apart
        simp only [Machine.next, machine, exec]
        split
        · rcases setLifetimeLimit_cases budget other lifetimeMax with ⟨-, unchanged⟩ | stored
          · rw [unchanged]
            exact ⟨rfl, rfl⟩
          · rw [stored]
            simp [Function.update_of_ne (Ne.symm apart)]
        · exact ⟨rfl, rfl⟩
    | setRateLimit other window limit =>
        simp only [Machine.next, machine, exec]
        split
        · rcases setRateLimit_cases B hal budget other window limit with
            ⟨-, unchanged⟩ | ⟨-, -, stored⟩
          · rw [unchanged]
            exact ⟨rfl, rfl⟩
          · rw [stored]
            by_cases same : res = other
            · subst same
              simp
            · simp [Function.update_of_ne same]
        · exact ⟨rfl, rfl⟩
    | check op out =>
        have booked := check_booked B hal budget op out
        change ((check B hal budget op out).2.2.rateState res).limitLifetime = _ ∧
          ((check B hal budget op out).2.2.resources res).kind = _
        rw [booked.resources]
        exact ⟨(booked.rolled res).limitLifetime, rfl⟩
    | setResource other limit kind =>
        simp only at apart
        generalize (machine B).next budget ⟨hal, .setResource other limit kind⟩ = after
          at writes ⊢
        cases writes with
        | setResource _ _ _ resources resCfg written =>
            rcases written with rfl | ⟨kind', rfl⟩
            · exact ⟨rfl, rfl⟩
            · simp [Function.update_of_ne (Ne.symm apart)]
    | enter => exact absurd quiet Bool.false_ne_true
    | leave => exact absurd quiet Bool.false_ne_true
    | _ =>
        generalize (machine B).next budget _ = after at writes ⊢
        cases writes
        exact ⟨rfl, rfl⟩
  · rcases event with ⟨hal, call⟩
    cases call with
    | enter op out =>
        have booked := check_booked B hal budget op true
        rw [next_enter]
        rcases enter_checked B hal budget op out with
          ⟨-, after⟩ | ⟨slotId, -, -, entered⟩
        · rw [after, booked.resources]
          exact ⟨(booked.rolled res).limitLifetime, rfl⟩
        · have committed := acquired_lifetime (wellFormed.booked booked) hal op slotId res
          rw [(booked.rolled res).limitLifetime] at committed
          rw [entered]
          refine ⟨committed.2, ?_⟩
          simp only [Budget.acquired]
          rw [commitResources_apply ((wellFormed.booked booked).needs_distinct op),
            booked.resources]
          split
          · rfl
          · exact Resource.commit_kind _ _
    | leave lease =>
        rw [next_leave]
        by_cases accepts : Accepts budget lease
        · rw [leave_of_accepts accepts]
          refine ⟨rfl, ?_⟩
          simp only [Budget.released]
          rw [releaseResources_apply (wellFormed.needs_distinct lease.op)]
          exact Resource.release_kind _ _
        · rw [(leave_of_not_accepts accepts).2]
          exact ⟨rfl, rfl⟩
    | _ => exact absurd rfl quiet

theorem next_registered (B : Build) (budget : Budget) (event : Event)
    (registered : budget.opCfg op = true) :
    ((machine B).next budget event).maxOps = budget.maxOps ∧
      ((machine B).next budget event).opCfg op = true ∧
      ((machine B).next budget event).ops op = budget.ops op ∧
      ((∀ other resource amount, event.call ≠ .opSetNeed other resource amount) →
        ((machine B).next budget event).needs op = budget.needs op) := by
  by_cases quiet : event.call.isQuiet = true
  · have writes := next_writes B budget event quiet
    rcases event with ⟨hal, call⟩
    cases call with
    | registerOp profile =>
        have kept := registerOp_kept B budget profile registered
        have maxOps : ((machine B).next budget ⟨hal, .registerOp profile⟩).maxOps =
            budget.maxOps := by
          generalize (machine B).next budget ⟨hal, .registerOp profile⟩ = after at writes ⊢
          cases writes
          rfl
        exact ⟨maxOps, kept.1, kept.2.1, fun _ => kept.2.2⟩
    | opSetNeed other resource amount =>
        generalize (machine B).next budget _ = after at writes ⊢
        cases writes
        exact ⟨rfl, registered, rfl, fun never => absurd rfl (never other resource amount)⟩
    | enter => exact absurd quiet Bool.false_ne_true
    | leave => exact absurd quiet Bool.false_ne_true
    | _ =>
        generalize (machine B).next budget _ = after at writes ⊢
        cases writes
        exact ⟨rfl, registered, rfl, fun _ => rfl⟩
  · rcases event with ⟨hal, call⟩
    cases call with
    | enter op out =>
        rw [next_enter]
        rcases enter_cases B hal budget op out with
          ⟨booked, -⟩ | ⟨middle, slotId, booked, -, -, entered⟩
        · rw [booked.frame]
          exact ⟨rfl, registered, rfl, fun _ => rfl⟩
        · rw [entered, booked.frame]
          exact ⟨rfl, registered, rfl, fun _ => rfl⟩
    | leave lease =>
        rcases leave_frame budget lease with ⟨resources, leaseSlots, left⟩
        rw [next_leave, left]
        exact ⟨rfl, registered, rfl, fun _ => rfl⟩
    | _ => exact absurd rfl quiet

theorem Spent.next (spent : Spent B op res budget) (wellFormed : WellFormed B budget)
    (event : Event) (unrelieved : ¬Relieves B op res budget event) :
    Spent B op res ((machine B).next budget event) := by
  have counted := next_consumedLifetime wellFormed event res
  have counter_lt := (budget.rateState res).consumedLifetime.toNat_lt
  have limits := next_limitLifetime wellFormed event res
  have registered := next_registered B budget event spent.registered.2
  have apart : (match event.call with
      | .setLifetimeLimit other _ => other ≠ res
      | .setResource other _ _ => other ≠ res
      | _ => True) := by
    simp only [Relieves] at unrelieved
    split
    · rename_i call
      simpa only [call] using unrelieved
    · rename_i call
      simpa only [call] using unrelieved
    · trivial
  have needs : ((machine B).next budget event).needs op = budget.needs op := by
    by_cases sets : ∃ other resource amount, event.call = .opSetNeed other resource amount
    · rcases sets with ⟨other, resource, amount, call⟩
      simpa only [Relieves, call, ne_eq, not_not] using unrelieved
    · exact registered.2.2.2 fun other resource amount call => sets ⟨other, resource, amount, call⟩
  refine spent.of_kept ⟨registered.1, registered.2.1⟩ registered.2.2.1 needs (limits apart).2
    (limits apart).1 ?_
  omega

theorem Spent.run (spent : Spent B op res budget) (wellFormed : WellFormed B budget)
    {events : List Event}
    (unrelieved : (machine B).Along (fun budget event => ¬Relieves B op res budget event) budget
      events) : Spent B op res ((machine B).run budget events) := by
  have preserved : ∀ budget event, (WellFormed B budget ∧ Spent B op res budget) →
      ¬Relieves B op res budget event →
      WellFormed B ((machine B).next budget event) ∧
        Spent B op res ((machine B).next budget event) := by
    rintro budget event ⟨wellFormed, spent⟩ unrelieved
    exact ⟨wellFormed.next event, spent.next wellFormed event unrelieved⟩
  exact (Machine.run_invariant preserved ⟨wellFormed, spent⟩ unrelieved).2

/-- A decision with the reason LIFETIME_EXHAUSTED names a resource that the op has spent. -/
theorem spent_of_reason (wellFormed : WellFormed B budget) (hal : Hal) (op : OpId)
    (reason : (decide B hal budget op).1.reason = .lifetimeExhausted) :
    Spent B op (decide B hal budget op).1.deniedResource budget := by
  have explained := decide_explained wellFormed hal op
  generalize (decide B hal budget op).1 = d at explained reason ⊢
  cases explained with
  | unknownOp => simp [Decision.early] at reason
  | locked => simp [Decision.early] at reason
  | blocked =>
      simp only [Decision.early] at reason
      split at reason
      · simp at reason
      · simp at reason
  | precondition _ _ reason' failed =>
      rcases halPreconditions_eq_some failed with ⟨rfl, -⟩ | ⟨rfl, -⟩
      · simp [Decision.early] at reason
      · simp [Decision.early] at reason
  | need profile registered _ need listed amount_ne d denied =>
      cases denied with
      | lifetime limited exhausted =>
          have known := profile_isSome.mp (by rw [registered]; rfl)
          have amount := needOf_of_mem (wellFormed.needs_distinct op) listed amount_ne
          rw [← profile_eq_ops registered] at limited
          simp only [Decision.naming]
          refine ⟨known, limited, ?_, ?_⟩
          · rw [amount]
            exact amount_ne
          · rw [amount]
            exact exhausted
      | _ => simp [Decision.naming] at reason
  | total _ _ _ _ _ _ _ _ _ d denied => cases denied <;> simp [Decision.naming] at reason
  | granted => simp [Budget.openDecision] at reason

/-! ## Every run -/

theorem check_of_reachable {hal : Hal} (reachable : Reachable B budget) :
    (check B hal budget op true).2.1 = some (decide B hal budget op).1 ∧
      (check B hal budget op true).2.2 = (decide B hal budget op).2 := by
  rw [check_of_initialized reachable.wellFormed.initialized]
  exact ⟨rfl, rfl⟩

/-- The counter of a resource is the total granted on it since `init`, cut off at the largest
value that it can hold. -/
theorem consumedLifetime_eq_total (reachable : Reachable B budget) {total : Nat}
    (counted : (budget.rateState res).consumedLifetime.toNat = min 4294967295 total)
    (events : List Event) :
    ((((lifetimeMachine B res).run (budget, total) events).1.rateState res).consumedLifetime).toNat =
      min 4294967295 ((lifetimeMachine B res).run (budget, total) events).2 := by
  have preserved : ∀ (state : Budget × Nat) (event : Event),
      Reachable B state.1 ∧
        (state.1.rateState res).consumedLifetime.toNat = min 4294967295 state.2 →
      Reachable B ((lifetimeMachine B res).next state event).1 ∧
        ((((lifetimeMachine B res).next state event).1.rateState res).consumedLifetime).toNat =
          min 4294967295 ((lifetimeMachine B res).next state event).2 := by
    rintro ⟨budget, total⟩ event ⟨reachable, counted⟩
    have step := next_consumedLifetime reachable.wellFormed event res
    simp only at counted
    rw [counted] at step
    refine ⟨reachable.run [event], step.trans ?_⟩
    simp only [lifetimeMachine, Machine.observe_next]
    omega
  exact (Machine.run_invariant' preserved ⟨reachable, counted⟩).2

theorem consumedLifetime_le_run (reachable : Reachable B budget) (events : List Event) :
    (budget.rateState res).consumedLifetime ≤
      (((machine B).run budget events).rateState res).consumedLifetime := by
  have preserved : ∀ (after : Budget) (event : Event),
      Reachable B after ∧
        (budget.rateState res).consumedLifetime ≤ (after.rateState res).consumedLifetime →
      Reachable B ((machine B).next after event) ∧
        (budget.rateState res).consumedLifetime ≤
          (((machine B).next after event).rateState res).consumedLifetime := by
    rintro after event ⟨reachable, lower⟩
    have step := next_consumedLifetime reachable.wellFormed event res
    have counter_lt := (after.rateState res).consumedLifetime.toNat_lt
    refine ⟨reachable.run [event], ?_⟩
    rw [UInt32.le_iff_toNat_le] at lower ⊢
    omega
  exact (Machine.run_invariant' preserved ⟨reachable, UInt32.le_refl _⟩).2

/-- After every run within one `init`: the lifetime counter of a resource is the total granted on
it, while it was CONSUMABLE, to ops without the bypass flag, and no later run lowers it; right
after a grant it is within the limit, if one is set; and an op whose check is denied for the limit
is denied by every later check, as long as no call relieves it. -/
theorem lifetime_budget {B : Build} {start : Budget} (started : Started B start)
    (res : ResourceId) (events : List Event) :
    let final := (lifetimeMachine B res).run (start, 0) events
    (final.1.rateState res).consumedLifetime.toNat = min 4294967295 final.2 ∧
      (∀ later, (final.1.rateState res).consumedLifetime ≤
        (((machine B).run final.1 later).rateState res).consumedLifetime) ∧
      (∀ hal op out, (enter B hal final.1 op out).1.1 = .ok → final.1.rateGrant B op res ≠ 0 →
        let after := (enter B hal final.1 op out).2.rateState res
        after.limitLifetime ≠ 0 → after.consumedLifetime ≤ after.limitLifetime) ∧
      ∀ hal op d, (check B hal final.1 op true).2.1 = some d → d.reason = .lifetimeExhausted →
        d.deniedResource = res →
        let checked := (check B hal final.1 op true).2.2
        ∀ later,
          (machine B).Along (fun budget event => ¬Relieves B op res budget event) checked later →
          ∀ hal', ∃ d', (check B hal' ((machine B).run checked later) op true).2.1 = some d' ∧
            d'.action.allows = false := by
  intro final
  have reachable : Reachable B final.1 := by
    refine ⟨start, started, events, ?_⟩
    exact (machine B).observe_run_fst _ _
  refine ⟨?_, fun later => consumedLifetime_le_run reachable later, ?_, ?_⟩
  · apply consumedLifetime_eq_total (Reachable.of_started started)
    rw [started.fresh.rateState]
    rfl
  · intro hal op out entered granted after limit_ne
    have kept := (next_limitLifetime reachable.wellFormed ⟨hal, .enter op out⟩ res trivial).1
    rw [next_enter] at kept
    rw [kept] at limit_ne
    have within := enter_lifetime_le reachable.wellFormed reachable.sound entered granted limit_ne
    rw [within.1]
    exact within.2
  · intro hal op d decided reason named checked later unrelieved hal'
    have decided_eq : d = (decide B hal final.1 op).1 := by
      rw [(check_of_reachable reachable).1] at decided
      exact (Option.some.inj decided).symm
    subst decided_eq
    have spent := spent_of_reason reachable.wellFormed hal op reason
    rw [named] at spent
    have checkedReachable : Reachable B checked := reachable.run [⟨hal, .check op true⟩]
    have spent' : Spent B op res checked := spent.next reachable.wellFormed
      ⟨hal, .check op true⟩ (by simp [Relieves])
    have laterReachable : Reachable B ((machine B).run checked later) :=
      checkedReachable.run later
    have spentLater := spent'.run checkedReachable.wellFormed unrelieved
    exact ⟨_, (check_of_reachable laterReachable).1,
      spentLater.denied laterReachable.wellFormed laterReachable.sound hal'⟩

/-- An op that needs two units is entered once under a lifetime limit of three. -/
def enterOnce : List Event :=
  [.permissive (.setResource 0 100 1), .permissive (.registerOp (some (.permissive 0))),
    .permissive (.opSetNeed 0 0 2), .permissive (.setLifetimeLimit 0 3),
    .permissive (.enter 0 true)]

theorem lifetime_budget_enterOnce :
    let final := (lifetimeMachine Build.full 0).run (.sample, 0) enterOnce
    let checked := (check Build.full (Hal.permissive 0) final.1 0 true).2.2
    (final.1.rateState 0).consumedLifetime.toNat = min 4294967295 final.2 ∧
      ∃ d', (check Build.full (Hal.permissive 5000) checked 0 true).2.1 = some d' ∧
        d'.action.allows = false := by
  intro final checked
  rcases lifetime_budget started_sample 0 enterOnce with ⟨total, -, -, denied⟩
  have final_eq : (lifetimeMachine Build.full 0).run (.sample, 0) enterOnce = final := rfl
  rw [final_eq] at denied
  have reachable : Reachable Build.full final.1 := by
    refine ⟨.sample, started_sample, enterOnce, ?_⟩
    exact (machine Build.full).observe_run_fst _ _
  have exhausted : (decide Build.full (Hal.permissive 0) final.1 0).1.reason =
      .lifetimeExhausted := by decide +kernel
  have named : (decide Build.full (Hal.permissive 0) final.1 0).1.deniedResource = 0 := by
    decide +kernel
  exact ⟨total, denied (Hal.permissive 0) 0 _ (check_of_reachable reachable).1 exhausted named []
    trivial (Hal.permissive 5000)⟩

end Loxbudget
