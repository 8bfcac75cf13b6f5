import Loxbudget.Decision.Agreement
import Loxbudget.Invariant.Instance
import Loxbudget.Lease.Tokens
import Loxbudget.Model.Lives

/-!
# Leases of other instances and of earlier lives

What tells the leases of one instance from those of another, or of an earlier life of the same
one, is the sixteen-bit base that `init` derives from the address and the clock. Instances with
different bases never accept each other's leases, whatever they run; with equal bases the first
leases that they issue are already interchangeable.
-/

namespace Loxbudget

/-! ## The base of the magics -/

/-- The sixteen bits that `init` takes from the address and the clock. -/
def magicSeed (budgetAddr : UInt64) (nowMs : UInt32) : UInt16 :=
  (budgetAddr ^^^ nowMs.toUInt64).toUInt16

/-- Two seeds that come to the same base, as 0 is replaced by 0xA5C3. -/
def SameBase (seed seed' : UInt16) : Prop :=
  seed = seed' ∨ seed = 0 ∧ seed' = 0xA5C3 ∨ seed = 0xA5C3 ∧ seed' = 0

instance (seed seed' : UInt16) : Decidable (SameBase seed seed') :=
  inferInstanceAs (Decidable (_ ∨ _ ∧ _ ∨ _ ∧ _))

theorem initialMagicBase_eq_iff {addr addr' : UInt64} {nowMs nowMs' : UInt32} :
    initialMagicBase addr nowMs = initialMagicBase addr' nowMs' ↔
      SameBase (magicSeed addr nowMs) (magicSeed addr' nowMs') := by
  have base (addr : UInt64) (nowMs : UInt32) : initialMagicBase addr nowMs =
      if magicSeed addr nowMs = 0 then 0xA5C3 else magicSeed addr nowMs := rfl
  rw [base, base, SameBase]
  generalize magicSeed addr nowMs = seed
  generalize magicSeed addr' nowMs' = seed'
  have distinct : (0 : UInt16) ≠ 0xA5C3 := by decide
  by_cases zero : seed = 0
  · by_cases zero' : seed' = 0
    · simp [zero, zero']
    · simp only [zero, if_true, if_neg zero', true_and, eq_comm]
      simp [zero']
  · by_cases zero' : seed' = 0
    · simp [zero, zero']
    · simp [zero, zero']

/-- `leave` and `yield_check` turn the lease away. -/
def Refuses (budget : Budget) (lease : Lease) : Prop :=
  (leave budget lease).1 ≠ .ok ∧ ∀ out, (yieldCheck budget lease out).1 ≠ .ok

theorem refuses_iff {budget : Budget} {lease : Lease} :
    Refuses budget lease ↔ ¬Accepts budget lease := by
  rw [← leave_eq_ok]
  constructor
  · intro refuses
    exact refuses.1
  · intro refuses
    refine ⟨refuses, fun out => ?_⟩
    cases out with
    | false => simp [yieldCheck]
    | true =>
        rw [yieldCheck_status]
        exact refuses

/-! ## Issued leases carry the base -/

variable {B : Build} {budget : Budget}

/-- What `enter` returns is made from the base of the instance. -/
theorem issuedToken_magic {event : Event} {lease : Lease}
    (issued : issuedToken (event.call, (machine B).reply budget event) = some lease) :
    lease.magic = budget.leaseMagicBase ^^^ lease.id.toUInt16 := by
  rcases next_tokens B budget event with
    ⟨-, issues, -⟩ | ⟨op, middle, slotId, booked, -, -, issues, -⟩ | ⟨_, -, -, issues, -⟩
  · rw [issues] at issued
    cases issued
  · rw [issues] at issued
    cases issued
    exact booked.leaseMagicForId slotId
  · rw [issues] at issued
    cases issued

theorem wasIssued_magic (start : Budget) (events : List Event) {lease : Lease}
    (issued : wasIssued ((historyMachine B).run (start, []) events).2 lease = true) :
    lease.magic = start.leaseMagicBase ^^^ lease.id.toUInt16 := by
  have preserved : ∀ (state : Budget × History) (event : Event),
      (state.1.leaseMagicBase = start.leaseMagicBase ∧ ∀ lease, wasIssued state.2 lease = true →
        lease.magic = start.leaseMagicBase ^^^ lease.id.toUInt16) →
      ((historyMachine B).next state event).1.leaseMagicBase = start.leaseMagicBase ∧
        ∀ lease, wasIssued ((historyMachine B).next state event).2 lease = true →
          lease.magic = start.leaseMagicBase ^^^ lease.id.toUInt16 := by
    rintro ⟨budget, history⟩ event ⟨base, earlier⟩
    refine ⟨(SameInstance.next B budget event).leaseMagicBase.trans base, ?_⟩
    intro lease issued
    simp only [historyMachine, Machine.observe_next, wasIssued, List.any_cons,
      Bool.or_eq_true] at issued
    rcases issued with now | before
    · rcases (Option.any_eq_true _ _).mp now with ⟨token, issues, same⟩
      rcases Lease.sameToken_iff.mp same with ⟨id, magic, -⟩
      rw [← magic, ← id, ← base]
      exact issuedToken_magic issues
    · exact earlier lease before
  exact (Machine.run_invariant' preserved ⟨rfl, fun _ none => by simp [wasIssued] at none⟩).2
    lease issued

theorem refuses_of_bases_ne {start start' : Budget} (events later : List Event) {lease : Lease}
    (bases : start.leaseMagicBase ≠ start'.leaseMagicBase)
    (issued : wasIssued ((historyMachine B).run (start, []) events).2 lease = true) :
    Refuses ((machine B).run start' later) lease := by
  rw [refuses_iff]
  intro accepts
  have forged := accepts.magic
  rw [Budget.leaseMagicForId, (SameInstance.run B start' later).leaseMagicBase,
    wasIssued_magic start events issued] at forged
  exact bases ((UInt16.xor_left_inj _).mp forged)

/-! ## The first lease of a life -/

/-- An op is registered and entered. -/
def firstEnter : List Event :=
  [.permissive (.registerOp (some (.permissive 0))), .permissive (.enter 0 true)]

/-- The lease that the first of these calls of a life returns. -/
def Budget.firstLease (start : Budget) : Lease :=
  ⟨0, start.leaseMagicBase, 0, 0⟩

/-- Registration of an op on an instance that has none. -/
theorem registerOp_started {start : Budget} (fresh : Fresh B start) (ops_pos : 0 < start.maxOps) :
    ∃ profile, profile.flags = 0 ∧ (∀ pressure, profile.mappedAction pressure = .allowFull) ∧
      registerOp B start (some (.permissive 0)) =
        (.ok,
          { start with
            ops := Function.update start.ops 0 profile
            opCfg := Function.update start.opCfg 0 true
            needs := Function.update start.needs 0 (List.replicate B.maxNeedsPerOp ⟨0, 0⟩) }) := by
  refine ⟨⟨0, 1, .allowFull, .allowFull, .allowFull, .allowFull, .allowFull, 0⟩, rfl, ?_, ?_⟩
  · intro pressure
    cases pressure <;> rfl
  · have inside : ¬(RawProfile.permissive 0).opId ≥ start.maxOps := UInt8.not_le.mpr ops_pos
    have parsed : (RawProfile.permissive 0).parse =
        some ⟨0, 1, .allowFull, .allowFull, .allowFull, .allowFull, .allowFull, 0⟩ := rfl
    have lenient : start.strictHalMissing
        ⟨0, 1, .allowFull, .allowFull, .allowFull, .allowFull, .allowFull, 0⟩ = false := by
      simp [Budget.strictHalMissing, OpProfile.has]
    have low : ¬(RawProfile.permissive 0).priority > 3 := by decide
    simp only [registerOp, validate_eq_ok.mpr fresh.initialized, ne_eq, not_true, if_false,
      if_neg inside, if_neg low, parsed, fresh.opCfg, Bool.false_eq_true, lenient]
    rfl

/-- An op without flags whose actions all allow it is admitted while no resource is configured. -/
theorem admissible_of_unconfigured {hal : Hal} {op : OpId} {profile : OpProfile}
    (wellFormed : WellFormed B budget) (sound : budget.Sound)
    (unconfigured : ∀ resource, budget.resCfg resource = false)
    (registered : budget.profile op = some profile) (flags : profile.flags = 0)
    (mapped : ∀ pressure, profile.mappedAction pressure = .allowFull)
    (calm : budget.pressure = .normal) : Admissible B hal budget op profile where
  registered := registered
  mapped := Or.inl (mapped budget.pressure)
  lockdown := by simp [calm]
  bootProven := by simp [OpProfile.has, flags]
  voltageOk := by simp [OpProfile.has, flags]
  networkUp := by simp [OpProfile.has, flags]
  needs := by
    intro need listed amount_ne
    have configured := (wellFormed.needs_configured op need listed amount_ne).2
    rw [unconfigured] at configured
    cases configured
  cascade := by
    intro _ totals walked resource
    have zero : totals resource = 0 :=
      total_eq_zero wellFormed walked (by simp [unconfigured resource])
    refine ⟨fun _ nonzero => absurd zero nonzero, fun _ => ?_⟩
    rw [zero]
    exact (sound resource).capacity

/-- An admitted op that finds every slot free takes the first one, and its lease is accepted. -/
theorem enter_idle {hal : Hal} {op : OpId} {profile : OpProfile} (reachable : Reachable B budget)
    (admissible : Admissible B hal budget op profile) (leases_pos : 0 < budget.maxLeases)
    (idle : ∀ slot ∈ budget.leaseSlots, slot.active = false) :
    (enter B hal budget op true).1 = (.ok, some (budget.issuedLease hal op 0)) ∧
      Accepts (enter B hal budget op true).2 (budget.issuedLease hal op 0) := by
  have wellFormed := reachable.wellFormed
  have slots := wellFormed.slots_length
  have slot_idle : ∀ id, id < budget.maxLeases → (budget.leaseSlot id).active = false := by
    intro id inRange
    have bound := UInt8.lt_iff_toNat_lt.mp inRange
    rw [Budget.leaseSlot, List.getD_eq_getElem?_getD, List.getElem?_eq_getElem (slots ▸ bound)]
    exact idle _ (List.getElem_mem _)
  rcases (check_allows_iff reachable hal op _).mpr ⟨profile, admissible, rfl⟩ with
    ⟨d, after, checked, decided, allowed⟩
  rcases enter_agrees_with_check reachable hal op with ⟨d', checked', accepts, -, -, enters⟩
  have same : d' = d := Option.some.inj (checked'.symm.trans (congrArg (·.2.1) checked))
  have accepted : (enter B hal budget op true).1.1 = .ok := by
    rw [accepts, same, decided]
    have first : 0 < budget.leaseSlots.length := by
      rw [slots]
      exact UInt8.lt_iff_toNat_lt.mp leases_pos
    exact ⟨allowed, budget.leaseSlots[0], List.getElem_mem _, idle _ (List.getElem_mem _)⟩
  rcases enters accepted with ⟨slotId, entered, issued⟩
  have lowest : slotId = 0 := by
    by_contra later
    have active := entered.lowest 0 (UInt8.pos_iff_ne_zero.mpr later)
    rw [slot_idle 0 leases_pos] at active
    cases active
  subst lowest
  have fixed := SameInstance.next B budget ⟨hal, .enter op true⟩
  rw [next_enter] at fixed
  refine ⟨Prod.ext accepted issued, ?_⟩
  constructor
  · rw [fixed.magic]
    exact wellFormed.initialized
  · rw [fixed.maxLeases]
    exact leases_pos
  · rw [Budget.leaseMagicForId, fixed.leaseMagicBase]
    rfl
  · have registered := congrArg Option.isSome admissible.registered
    rw [Option.isSome_some, profile_isSome] at registered
    rw [profile_isSome, fixed.maxOps, entered.profiles.2]
    exact registered
  · exact congrArg LeaseSlot.active entered.taken
  · exact congrArg LeaseSlot.magic entered.taken

theorem history_two (B : Build) (start : Budget) (first second : Event) :
    ((historyMachine B).run (start, []) [first, second]).2 =
      (second.call, (machine B).reply ((machine B).next start first) second) ::
        [(first.call, (machine B).reply start first)] := rfl

/-- A life whose first op is entered issues the lease that is made from its base, and accepts
it. -/
theorem firstEnter_accepted {start : Budget} (started : Started B start)
    (ops_pos : 0 < start.maxOps) (leases_pos : 0 < start.maxLeases)
    (calm : start.pressure = .normal) :
    wasIssued ((historyMachine B).run (start, []) firstEnter).2 start.firstLease = true ∧
      Accepts ((machine B).run start firstEnter) start.firstLease := by
  have fresh := started.fresh
  rcases registerOp_started fresh ops_pos with ⟨profile, flags, mapped, registration⟩
  let registered := (machine B).next start (.permissive (.registerOp (some (.permissive 0))))
  have registered_eq : registered =
      { start with
        ops := Function.update start.ops 0 profile
        opCfg := Function.update start.opCfg 0 true
        needs := Function.update start.needs 0 (List.replicate B.maxNeedsPerOp ⟨0, 0⟩) } :=
    congrArg Prod.snd registration
  have reachable : Reachable B registered := (Reachable.of_started started).run [_]
  have profile_eq : registered.profile 0 = some profile := by
    simp [registered_eq, Budget.profile, UInt8.not_le.mpr ops_pos]
  have unconfigured : ∀ resource, registered.resCfg resource = false := by
    intro resource
    rw [registered_eq]
    exact congrFun fresh.resCfg resource
  have calm' : registered.pressure = .normal := by
    rw [registered_eq]
    exact calm
  have slots : registered.leaseSlots = List.replicate start.maxLeases.toNat .zero := by
    rw [registered_eq]
    exact fresh.leaseSlots
  have admissible : Admissible B (Hal.permissive 0) registered 0 profile :=
    admissible_of_unconfigured reachable.wellFormed reachable.sound unconfigured profile_eq flags
      mapped calm'
  have leases_pos' : 0 < registered.maxLeases := by
    rw [registered_eq]
    exact leases_pos
  have idle : ∀ slot ∈ registered.leaseSlots, slot.active = false := by
    intro slot listed
    rw [slots] at listed
    rw [List.eq_of_mem_replicate listed]
    rfl
  have issued : registered.issuedLease (Hal.permissive 0) 0 0 = start.firstLease := by
    rw [registered_eq]
    exact congrArg (Lease.mk 0 · 0 0) UInt16.xor_zero
  rcases enter_idle reachable admissible leases_pos' idle with ⟨entered, accepts⟩
  rw [issued] at entered accepts
  have ran : (machine B).run start firstEnter =
      (enter B (Hal.permissive 0) registered 0 true).2 := by
    rw [firstEnter, Machine.run_cons, Machine.run_cons, Machine.run_nil]
    exact next_enter B registered (Hal.permissive 0) 0 true
  rw [ran]
  refine ⟨?_, accepts⟩
  have reply_eq : (machine B).reply registered (.permissive (.enter 0 true)) =
      ⟨.ok, none, some start.firstLease, none, none⟩ := by
    rw [Event.permissive, reply_enter, entered]
  have recorded : ((historyMachine B).run (start, []) firstEnter).2 =
      (.enter 0 true, (machine B).reply registered (.permissive (.enter 0 true))) ::
        [(.registerOp (some (.permissive 0)),
          (machine B).reply start (.permissive (.registerOp (some (.permissive 0)))))] :=
    history_two B start _ _
  rw [recorded, reply_eq]
  have issues : issuedToken (.enter 0 true, ⟨.ok, none, some start.firstLease, none, none⟩) =
      some start.firstLease := rfl
  exact (history_cons_issued issues _ _).1.mpr (Or.inl (Lease.sameToken_iff.mpr ⟨rfl, rfl, rfl⟩))

/-! ## Two instances, two lives -/

/-- No lease that one of two instances has issued is accepted by the other. -/
def KeptApart (states : (Budget × History) × (Budget × History)) : Prop :=
  ∀ lease, (wasIssued states.1.2 lease = true → Refuses states.2.1 lease) ∧
    (wasIssued states.2.2 lease = true → Refuses states.1.1 lease)

/-- What a successful `init` leaves for the calls of `firstEnter`. -/
theorem init_first {hal : Hal} {previous start : Budget} {args : InitArgs}
    (success : init B hal previous args = (.ok, start)) :
    Started B start ∧ 0 < start.maxOps ∧ 0 < start.maxLeases ∧ start.pressure = .normal ∧
      start.leaseMagicBase = initialMagicBase args.budgetAddr hal.nowMs := by
  have started : Started B start := ⟨hal, previous, args, success⟩
  rcases init_eq_ok.mp success with ⟨valid, cfg, given, -, rfl⟩
  have validArgs := validateInitArgs_ok valid given
  exact ⟨started, validArgs.maxOps_pos, validArgs.maxLeases_pos, rfl, rfl⟩

/-- Instances with one base accept each other's first lease. -/
theorem firstLease_crosses {hal hal' : Hal} {previous previous' start start' : Budget}
    {args args' : InitArgs} (first : init B hal previous args = (.ok, start))
    (second : init B hal' previous' args' = (.ok, start'))
    (same : SameBase (magicSeed args.budgetAddr hal.nowMs) (magicSeed args'.budgetAddr hal'.nowMs)) :
    wasIssued ((historyMachine B).run (start, []) firstEnter).2 start.firstLease = true ∧
      ¬Refuses ((machine B).run start' firstEnter) start.firstLease := by
  rcases init_first first with ⟨started, ops_pos, leases_pos, calm, base⟩
  rcases init_first second with ⟨started', ops_pos', leases_pos', calm', base'⟩
  have bases : start.leaseMagicBase = start'.leaseMagicBase := by
    rw [base, base', initialMagicBase_eq_iff]
    exact same
  have lease_eq : start.firstLease = start'.firstLease := by
    rw [Budget.firstLease, Budget.firstLease, bases]
  refine ⟨(firstEnter_accepted started ops_pos leases_pos calm).1, ?_⟩
  rw [refuses_iff, not_not, lease_eq]
  exact (firstEnter_accepted started' ops_pos' leases_pos' calm').2

/-- Two instances never accept each other's leases, and a life of an instance never accepts a
lease of an earlier one, exactly if the addresses and the readings of the clock at `init` do not
come to the same base. -/
theorem leases_stay_iff {B : Build} {hal hal' : Hal} {previous previous' start start' : Budget}
    {args args' : InitArgs} (first : init B hal previous args = (.ok, start))
    (second : init B hal' previous' args' = (.ok, start')) :
    ((∀ events, KeptApart (((historyMachine B).beside (historyMachine B)).run
        ((start, []), (start', [])) events)) ↔
      ¬SameBase (magicSeed args.budgetAddr hal.nowMs) (magicSeed args'.budgetAddr hal'.nowMs)) ∧
    ((∀ events between again later,
        let ended := (historyMachine B).run (start, []) events
        init B hal' ((lifeMachine B).run (deinit ended.1).2 between) args' = (.ok, again) →
        ∀ lease, wasIssued ended.2 lease = true → Refuses ((machine B).run again later) lease) ↔
      ¬SameBase (magicSeed args.budgetAddr hal.nowMs) (magicSeed args'.budgetAddr hal'.nowMs)) := by
  have base := (init_first first).2.2.2.2
  have base' := (init_first second).2.2.2.2
  have again_eq : ∀ between again, init B hal' between args' = (.ok, again) → again = start' := by
    intro between again third
    rcases init_eq_ok.mp second with ⟨-, cfg, given, -, rfl⟩
    rcases init_eq_ok.mp third with ⟨-, cfg', given', -, rfl⟩
    rw [Option.some.inj (given'.symm.trans given)]
  have bases_ne : ¬SameBase (magicSeed args.budgetAddr hal.nowMs)
      (magicSeed args'.budgetAddr hal'.nowMs) → start.leaseMagicBase ≠ start'.leaseMagicBase := by
    intro apart same
    rw [base, base', initialMagicBase_eq_iff] at same
    exact apart same
  constructor
  · constructor
    · intro kept same
      rcases firstLease_crosses first second same with ⟨issued, accepted⟩
      have apart := (kept (firstEnter.map .inl ++ firstEnter.map .inr) start.firstLease).1
      rw [Machine.beside_run, historyMachine_run] at apart
      exact accepted (apart issued)
    · intro apart events lease
      rw [Machine.beside_run, historyMachine_run, historyMachine_run]
      exact ⟨refuses_of_bases_ne _ _ (bases_ne apart),
        refuses_of_bases_ne _ _ (bases_ne apart).symm⟩
  · constructor
    · intro kept same
      rcases firstLease_crosses first second same with ⟨issued, accepted⟩
      refine accepted (kept firstEnter [] start' firstEnter ?_ _ issued)
      rw [init_eq_ok] at second ⊢
      exact second
    · intro apart events between again later ended success lease issued
      rw [again_eq _ _ success]
      exact refuses_of_bases_ne events later (bases_ne apart) issued

/-- An instance 64 KiB behind the sample instance. -/
def InitArgs.twin : InitArgs :=
  ⟨0x11000, some 0x42000, 100000, some ⟨8, 16, 4, 0, 0, none⟩⟩

/-- The instance that these arguments start at a reading of the clock. -/
def Budget.twin (nowMs : UInt32) : Budget :=
  (init Build.full (Hal.permissive nowMs) .zero .twin).2

theorem init_sample (nowMs : UInt32) (previous : Budget) :
    ∃ start, init Build.full (Hal.permissive nowMs) previous .sample = (.ok, start) :=
  ⟨_, init_eq_ok.mpr ⟨by decide, _, rfl, by decide, rfl⟩⟩

theorem init_twin (nowMs : UInt32) :
    init Build.full (Hal.permissive nowMs) .zero .twin = (.ok, .twin nowMs) := by
  have accepted : (init Build.full (Hal.permissive nowMs) .zero .twin).1 = .ok := by
    rw [init_eq_ok.mpr ⟨by decide, _, rfl, by decide, rfl⟩]
  exact Prod.ext accepted rfl

/-- The twin and the sample instance keep their leases when the twin is started a millisecond
later. -/
theorem leases_stay_twin :
    KeptApart (((historyMachine Build.full).beside (historyMachine Build.full)).run
      ((.sample, []), (.twin 1, [])) (firstEnter.map .inl ++ firstEnter.map .inr)) := by
  have first : init Build.full (Hal.permissive 0) .zero .sample = (.ok, .sample) :=
    Prod.ext (by decide +kernel) rfl
  exact (leases_stay_iff first (init_twin 1)).1.mpr (by decide) _

/-- Started in the same millisecond, the twin accepts a lease of the sample instance; and the
sample instance accepts a lease from before its `deinit`, when it is initialised again 65536
milliseconds later. -/
theorem leases_cross :
    (∃ events lease,
      let states := ((historyMachine Build.full).beside (historyMachine Build.full)).run
        ((.sample, []), (.twin 0, [])) events
      InitArgs.sample.budgetAddr ≠ InitArgs.twin.budgetAddr ∧
        wasIssued states.1.2 lease = true ∧ (leave states.2.1 lease).1 = .ok) ∧
    ∃ events again later lease,
      let ended := (historyMachine Build.full).run (.sample, []) events
      init Build.full (Hal.permissive 65536) (deinit ended.1).2 .sample = (.ok, again) ∧
        wasIssued ended.2 lease = true ∧
        (leave ((machine Build.full).run again later) lease).1 = .ok := by
  have first : init Build.full (Hal.permissive 0) .zero .sample = (.ok, .sample) :=
    Prod.ext (by decide +kernel) rfl
  have accepted {budget : Budget} {lease : Lease} (admits : ¬Refuses budget lease) :
      (leave budget lease).1 = .ok := by
    rw [refuses_iff, not_not] at admits
    exact leave_eq_ok.mpr admits
  constructor
  · rcases firstLease_crosses first (init_twin 0) (by decide) with ⟨issued, admits⟩
    refine ⟨firstEnter.map .inl ++ firstEnter.map .inr, Budget.sample.firstLease, by decide, ?_⟩
    rw [Machine.beside_run, historyMachine_run]
    exact ⟨issued, accepted admits⟩
  · rcases init_sample 65536 (deinit ((historyMachine Build.full).run (.sample, [])
      firstEnter).1).2 with ⟨again, second⟩
    rcases firstLease_crosses first second (by decide) with ⟨issued, admits⟩
    exact ⟨firstEnter, again, firstEnter, Budget.sample.firstLease, second, issued, accepted admits⟩

end Loxbudget
