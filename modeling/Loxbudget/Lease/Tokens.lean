import Loxbudget.Invariant.Tables

/-!
# Which leases are accepted

A lease token is good from the `enter` that returns it until the `leave` that
consumes it. The code cannot tell whether a token is good: a slot stores neither the
op that holds it nor a generation, and the magic depends on the slot index only. So
a token is accepted whenever its slot is active and its op is registered.

The history of a run is kept beside the instance, and the tests of the code are
compared with it at every step. They agree exactly along the runs in which no lease
is presented while its slot is held for a different op.
-/

namespace Loxbudget

/-- The two leases name the same token. -/
def Lease.sameToken (lease other : Lease) : Bool :=
  lease.id = other.id ∧ lease.magic = other.magic ∧ lease.op = other.op

/-- The calls of a run with their replies, the latest first. -/
abbrev History := List (Call × Reply)

/-- The token that a call has returned, if it was a successful `enter`. -/
def issuedToken : Call × Reply → Option Lease
  | (.enter _ _, reply) => if reply.status = .ok then reply.lease else none
  | _ => none

/-- The token that a call has consumed, if it was a successful `leave`. -/
def consumedToken : Call × Reply → Option Lease
  | (.leave lease, reply) => if reply.status = .ok then some lease else none
  | _ => none

/-- Some `enter` has returned the token. -/
def wasIssued (history : History) (lease : Lease) : Bool :=
  history.any fun entry => (issuedToken entry).any (·.sameToken lease)

/-- Some `enter` has returned the token, and no successful `leave` has consumed it since. -/
def goodToken : History → Lease → Bool
  | [], _ => false
  | entry :: earlier, lease =>
      if (issuedToken entry).any (·.sameToken lease) then true
      else if (consumedToken entry).any (·.sameToken lease) then false
      else goodToken earlier lease

/-- The op of the last `enter` that was given the slot. -/
def slotHolder : History → UInt8 → Option OpId
  | [], _ => none
  | entry :: earlier, id =>
      match issuedToken entry with
      | some lease => if lease.id = id then some lease.op else slotHolder earlier id
      | none => slotHolder earlier id

/-- The instance with the history of its calls. -/
def historyMachine (B : Build) : Machine (Budget × History) Event Reply :=
  (machine B).observe fun history _ event reply _ => (event.call, reply) :: history

/-- The history does not influence the instance. -/
theorem historyMachine_run (B : Build) (state : Budget × History) (events : List Event) :
    ((historyMachine B).run state events).1 = (machine B).run state.1 events :=
  (machine B).observe_run_fst _ state

/-- A call neither issues nor consumes a token, or it is an `enter` that issues the token of the
slot that it takes, or a `leave` that consumes the token that it presents. -/
theorem next_tokens (B : Build) (budget : Budget) (event : Event) :
    let entry := (event.call, (machine B).reply budget event)
    let after := (machine B).next budget event
    (QuietEffect B event.hal.nowMs budget after ∧ issuedToken entry = none ∧
        consumedToken entry = none) ∨
      (∃ op middle slotId, Booked B event.hal.nowMs budget middle ∧ Cleared middle op ∧
        middle.freeSlot = some slotId ∧
        issuedToken entry = some (middle.issuedLease event.hal op slotId) ∧
        after = middle.acquired B event.hal op slotId) ∨
      ∃ lease, event.call = .leave lease ∧ Accepts budget lease ∧ issuedToken entry = none ∧
        consumedToken entry = some lease ∧ after = budget.released lease := by
  intro entry after
  by_cases quiet : event.call.isQuiet = true
  · have effect := next_quiet B budget event quiet
    rcases event with ⟨hal, call⟩
    left
    cases call with
    | enter op out => exact absurd quiet Bool.false_ne_true
    | leave lease => exact absurd quiet Bool.false_ne_true
    | _ => exact ⟨effect, rfl, rfl⟩
  · rcases event with ⟨hal, call⟩
    cases call with
    | enter op out =>
        rcases enter_cases B hal budget op out with
          ⟨booked, failed⟩ | ⟨middle, slotId, booked, cleared, free, entered⟩
        · left
          refine ⟨.booked booked, ?_, rfl⟩
          simp [entry, issuedToken, reply_enter, failed]
        · right
          left
          refine ⟨op, middle, slotId, booked, cleared, free, ?_, ?_⟩
          · simp [entry, issuedToken, reply_enter, entered]
          · rw [show after = (enter B hal budget op out).2 from rfl, entered]
    | leave lease =>
        have entry_eq : entry = (.leave lease, .ofStatus (leave budget lease).1) := rfl
        have after_eq : after = (leave budget lease).2 := rfl
        by_cases accepts : Accepts budget lease
        · rw [leave_of_accepts accepts] at entry_eq after_eq
          right
          right
          exact ⟨lease, rfl, accepts, rfl, by rw [entry_eq]; rfl, after_eq⟩
        · rcases leave_of_not_accepts accepts with ⟨failed, unchanged⟩
          left
          rw [after_eq, unchanged, entry_eq]
          exact ⟨.unchanged, rfl, by simp [consumedToken, Reply.ofStatus, failed]⟩
    | _ => exact absurd rfl quiet

/-- What a step should do about the token it presents, if it presents one: accept it only if it is
good, and reject one that was issued and is no longer good, without any change. -/
def TokenChecked (B : Build) (state : Budget × History) (event : Event) : Prop :=
  let reply := (machine B).reply state.1 event
  match event.call with
  | .leave lease =>
      (reply.status = .ok → goodToken state.2 lease = true) ∧
      (wasIssued state.2 lease = true → goodToken state.2 lease = false →
        reply.status = .badState ∧ (machine B).next state.1 event = state.1)
  | .yieldCheck lease out =>
      (reply.status = .ok → goodToken state.2 lease = true) ∧
      (out = true → wasIssued state.2 lease = true → goodToken state.2 lease = false →
        reply.status = .badState)
  | _ => True

/-- The lease names an active slot, by its id and magic, and a registered op, but the slot is held
for another op. -/
def Misdirected (state : Budget × History) (lease : Lease) : Prop :=
  lease.id < state.1.maxLeases ∧ lease.magic = state.1.leaseMagicForId lease.id ∧
    (state.1.profile lease.op).isSome = true ∧ (state.1.leaseSlot lease.id).active = true ∧
    slotHolder state.2 lease.id ≠ some lease.op

/-- No misdirected lease is presented. -/
def WellDirected (state : Budget × History) (event : Event) : Prop :=
  match event.call with
  | .leave lease => ¬Misdirected state lease
  | .yieldCheck lease out => out = true → ¬Misdirected state lease
  | _ => True

theorem TokenChecked.good_of_leave {B : Build} {state : Budget × History} {hal : Hal}
    {lease : Lease} (checked : TokenChecked B state ⟨hal, .leave lease⟩)
    (status : (leave state.1 lease).1 = .ok) : goodToken state.2 lease = true :=
  checked.1 status

/-! ## The history invariant -/

/-- What the slots know about the history, as long as every token was left by its own op. -/
structure TokenInvariant (B : Build) (state : Budget × History) : Prop where
  wellFormed : WellFormed B state.1
  issued : ∀ lease, wasIssued state.2 lease = true →
    lease.id < state.1.maxLeases ∧ lease.magic = state.1.leaseMagicForId lease.id ∧
      (state.1.profile lease.op).isSome = true
  good_iff : ∀ lease, goodToken state.2 lease = true ↔
    (state.1.leaseSlot lease.id).active = true ∧
      lease.magic = state.1.leaseMagicForId lease.id ∧
      slotHolder state.2 lease.id = some lease.op

theorem Lease.sameToken_iff {lease other : Lease} :
    lease.sameToken other = true ↔
      lease.id = other.id ∧ lease.magic = other.magic ∧ lease.op = other.op := by
  simp [Lease.sameToken]

theorem history_cons_silent {entry : Call × Reply} (issues : issuedToken entry = none)
    (consumes : consumedToken entry = none) (history : History) (lease : Lease) :
    wasIssued (entry :: history) lease = wasIssued history lease ∧
      goodToken (entry :: history) lease = goodToken history lease ∧
      slotHolder (entry :: history) lease.id = slotHolder history lease.id := by
  simp [wasIssued, goodToken, slotHolder, issues, consumes]

theorem history_cons_issued {entry : Call × Reply} {token : Lease}
    (issues : issuedToken entry = some token) (history : History) (lease : Lease) :
    (wasIssued (entry :: history) lease = true ↔
        token.sameToken lease = true ∨ wasIssued history lease = true) ∧
      (goodToken (entry :: history) lease = true ↔
        token.sameToken lease = true ∨ goodToken history lease = true) ∧
      slotHolder (entry :: history) lease.id =
        if token.id = lease.id then some token.op else slotHolder history lease.id := by
  refine ⟨by simp [wasIssued, issues], ?_, by simp [slotHolder, issues]⟩
  have consumes : consumedToken entry = none := by
    rcases entry with ⟨call, reply⟩
    cases call <;> simp [issuedToken, consumedToken] at issues ⊢
  simp only [goodToken, issues, consumes, Option.any_some, Option.any_none, Bool.false_eq_true,
    if_false]
  split <;> simp [*]

theorem history_cons_consumed {entry : Call × Reply} {token : Lease}
    (consumes : consumedToken entry = some token) (history : History) (lease : Lease) :
    wasIssued (entry :: history) lease = wasIssued history lease ∧
      (goodToken (entry :: history) lease = true ↔
        ¬token.sameToken lease = true ∧ goodToken history lease = true) ∧
      slotHolder (entry :: history) lease.id = slotHolder history lease.id := by
  have issues : issuedToken entry = none := by
    rcases entry with ⟨call, reply⟩
    cases call <;> simp [issuedToken, consumedToken] at consumes ⊢
  refine ⟨by simp [wasIssued, issues], ?_, by simp [slotHolder, issues]⟩
  simp only [goodToken, issues, consumes, Option.any_some, Option.any_none, Bool.false_eq_true,
    if_false]
  split <;> simp [*]

theorem TokenInvariant.of_fresh {B : Build} {budget : Budget} (fresh : Fresh B budget) :
    TokenInvariant B (budget, []) where
  wellFormed := fresh.wellFormed
  issued := by simp [wasIssued]
  good_iff := by simp [goodToken, slotHolder]

theorem TokenInvariant.silent {B : Build} {budget after : Budget} {history : History}
    {entry : Call × Reply} (invariant : TokenInvariant B (budget, history))
    (issues : issuedToken entry = none) (consumes : consumedToken entry = none)
    (wellFormed : WellFormed B after)
    (slots : after.leaseSlots = budget.leaseSlots ∧ after.maxLeases = budget.maxLeases ∧
      ∀ id, after.leaseMagicForId id = budget.leaseMagicForId id)
    (registered : ∀ op, (budget.profile op).isSome = true → (after.profile op).isSome = true) :
    TokenInvariant B (after, entry :: history) := by
  rcases slots with ⟨leaseSlots, maxLeases, magics⟩
  have leaseSlot : ∀ id, after.leaseSlot id = budget.leaseSlot id := by
    intro id
    simp only [Budget.leaseSlot]
    rw [leaseSlots]
  refine ⟨wellFormed, ?_, ?_⟩
  · intro lease issued
    simp only [(history_cons_silent issues consumes history lease).1] at issued
    have before := invariant.issued lease issued
    simp only at before ⊢
    rw [maxLeases, magics]
    exact ⟨before.1, before.2.1, registered lease.op before.2.2⟩
  · intro lease
    have before := invariant.good_iff lease
    rcases history_cons_silent issues consumes history lease with ⟨-, good, holder⟩
    simp only at before ⊢
    rw [leaseSlot, magics, good, holder]
    exact before

theorem TokenInvariant.acquired {B : Build} {budget middle : Budget} {history : History}
    {hal : Hal} {op : OpId} {slotId : UInt8} {entry : Call × Reply} {nowMs : UInt32}
    (invariant : TokenInvariant B (budget, history)) (booked : Booked B nowMs budget middle)
    (cleared : Cleared middle op) (free : middle.freeSlot = some slotId)
    (issues : issuedToken entry = some (middle.issuedLease hal op slotId)) :
    TokenInvariant B (middle.acquired B hal op slotId, entry :: history) := by
  have wellFormed := invariant.wellFormed.booked booked
  rcases freeSlot_spec wellFormed.slots_few free with ⟨inRange, inactive⟩
  have magics : ∀ id, (middle.acquired B hal op slotId).leaseMagicForId id =
      budget.leaseMagicForId id := fun id => booked.leaseMagicForId id
  have profiles : ∀ other, (middle.acquired B hal op slotId).profile other =
      budget.profile other := fun other => booked.profile other
  have maxLeases : (middle.acquired B hal op slotId).maxLeases = budget.maxLeases :=
    booked.maxLeases
  have named : ∀ lease, (middle.issuedLease hal op slotId).sameToken lease = true ↔
      slotId = lease.id ∧ lease.magic = budget.leaseMagicForId slotId ∧ op = lease.op := by
    intro lease
    rw [Lease.sameToken_iff, ← booked.leaseMagicForId, eq_comm (a := lease.magic)]
    rfl
  refine ⟨wellFormed.acquired hal op slotId, ?_, ?_⟩
  · intro lease issued
    simp only at issued ⊢
    rw [magics, profiles, maxLeases]
    rcases (history_cons_issued issues history lease).1.mp issued with now | before
    · rcases (named lease).mp now with ⟨rfl, magic, rfl⟩
      rw [wellFormed.slots_length, booked.maxLeases] at inRange
      refine ⟨UInt8.lt_iff_toNat_lt.mpr inRange, magic, ?_⟩
      rw [← booked.profile]
      exact cleared.registered
    · exact invariant.issued lease before
  · intro lease
    have before := invariant.good_iff lease
    rcases history_cons_issued issues history lease with ⟨-, good, holder⟩
    simp only at before ⊢
    rw [good, holder, named, magics]
    by_cases sameSlot : slotId = lease.id
    · subst sameSlot
      have gone : ¬goodToken history lease = true := by
        rw [before, ← booked.leaseSlot, inactive]
        simp
      rw [acquired_leaseSlot_self inRange]
      simp [gone, Budget.issuedLease]
    · rw [acquired_leaseSlot_of_ne (Ne.symm sameSlot), booked.leaseSlot, before]
      simp [sameSlot, Budget.issuedLease]

theorem TokenInvariant.released {B : Build} {budget : Budget} {history : History}
    {lease : Lease} {entry : Call × Reply} (invariant : TokenInvariant B (budget, history))
    (accepts : Accepts budget lease) (directed : ¬Misdirected (budget, history) lease)
    (consumes : consumedToken entry = some lease) :
    TokenInvariant B (budget.released lease, entry :: history) := by
  have held : slotHolder history lease.id = some lease.op := by
    by_contra other
    exact directed ⟨accepts.idInRange, accepts.magic, accepts.registered, accepts.active, other⟩
  have magics : ∀ id, (budget.released lease).leaseMagicForId id = budget.leaseMagicForId id :=
    fun _ => rfl
  refine ⟨invariant.wellFormed.released lease, ?_, ?_⟩
  · intro other issued
    simp only [(history_cons_consumed consumes history other).1] at issued
    exact invariant.issued other issued
  · intro other
    have before := invariant.good_iff other
    rcases history_cons_consumed consumes history other with ⟨-, good, holder⟩
    simp only at before ⊢
    rw [good, holder, magics]
    by_cases sameSlot : other.id = lease.id
    · have consumed : goodToken history other = true → lease.sameToken other = true := by
        rw [before, sameSlot, held]
        rintro ⟨-, magic, sameOp⟩
        refine Lease.sameToken_iff.mpr ⟨sameSlot.symm, ?_, Option.some.inj sameOp⟩
        rw [accepts.magic, magic]
      rw [sameSlot, released_leaseSlot_self accepts.active]
      simp only [Bool.false_eq_true, false_and, iff_false, not_and]
      exact fun unnamed isGood => unnamed (consumed isGood)
    · have unnamed : ¬lease.sameToken other = true := fun same =>
        sameSlot (Lease.sameToken_iff.mp same).1.symm
      rw [released_leaseSlot_of_ne sameSlot]
      simpa [unnamed] using before

/-! ## Every run -/

/-- A step that presents no misdirected lease keeps the invariant. -/
theorem TokenInvariant.next {B : Build} {state : Budget × History} {event : Event}
    (invariant : TokenInvariant B state) (directed : WellDirected state event) :
    TokenInvariant B ((historyMachine B).next state event) := by
  rcases state with ⟨budget, history⟩
  have wellFormed := invariant.wellFormed
  rw [historyMachine, Machine.observe_next]
  rcases next_tokens B budget event with
    ⟨effect, issues, consumes⟩ | ⟨op, middle, slotId, booked, cleared, free, issues, after⟩ |
    ⟨lease, called, accepts, -, consumes, after⟩
  · exact invariant.silent issues consumes (wellFormed.quiet effect) effect.slots
      fun op => effect.registered
  · rw [after]
    exact invariant.acquired booked cleared free issues
  · rw [after]
    rw [WellDirected, called] at directed
    exact invariant.released accepts directed consumes

/-- The tests of the code agree with the history, unless the lease is misdirected. -/
theorem TokenInvariant.accepts_iff {B : Build} {budget : Budget} {history : History}
    (invariant : TokenInvariant B (budget, history)) (lease : Lease) :
    ¬Misdirected (budget, history) lease ↔
      ((leave budget lease).1 = .ok → goodToken history lease = true) ∧
        (wasIssued history lease = true → goodToken history lease = false →
          (leave budget lease).1 = .badState ∧ (leave budget lease).2 = budget) := by
  have good_iff := invariant.good_iff lease
  simp only at good_iff
  have unused : ¬Misdirected (budget, history) lease → Accepts budget lease →
      goodToken history lease = true := by
    intro directed accepts
    refine good_iff.mpr ⟨accepts.active, accepts.magic, ?_⟩
    by_contra other
    exact directed ⟨accepts.idInRange, accepts.magic, accepts.registered, accepts.active, other⟩
  constructor
  · intro directed
    refine ⟨fun status => unused directed (leave_eq_ok.mp status), ?_⟩
    intro issued spent
    have refuses : ¬Accepts budget lease := by
      intro accepts
      simp [unused directed accepts] at spent
    exact ⟨leave_eq_badState invariant.wellFormed.initialized (invariant.issued lease issued).1
      refuses, (leave_of_not_accepts refuses).2⟩
  · rintro ⟨onlyGood, -⟩ ⟨idInRange, magic, registered, active, other⟩
    have accepts : Accepts budget lease :=
      ⟨invariant.wellFormed.initialized, idInRange, magic, registered, active,
        (invariant.wellFormed.slots_magic lease.id active).trans magic.symm⟩
    exact other (good_iff.mp (onlyGood (leave_eq_ok.mpr accepts))).2.2

theorem TokenInvariant.checked_iff {B : Build} {state : Budget × History} {event : Event}
    (invariant : TokenInvariant B state) : WellDirected state event ↔ TokenChecked B state event := by
  rcases state with ⟨budget, history⟩
  rcases event with ⟨hal, call⟩
  cases call with
  | leave lease => exact invariant.accepts_iff lease
  | yieldCheck lease out =>
      have accepts_iff := invariant.accepts_iff lease
      have status := @yieldCheck_status budget lease
      show (out = true → ¬Misdirected (budget, history) lease) ↔
        ((yieldCheck budget lease out).1 = .ok → goodToken history lease = true) ∧
          (out = true → wasIssued history lease = true → goodToken history lease = false →
            (yieldCheck budget lease out).1 = .badState)
      cases out with
      | false => simp [yieldCheck]
      | true =>
          rw [accepts_iff, status]
          simp only [forall_const]
          apply and_congr_right
          intro _
          constructor
          · exact fun rejected issued spent => (rejected issued spent).1
          · intro rejected issued spent
            have failed := rejected issued spent
            refine ⟨failed, (leave_of_not_accepts ?_).2⟩
            rw [← leave_eq_ok, failed]
            simp
  | _ => exact Iff.rfl

/-- Over a run of public calls from a successful `init`, `leave` and `yield_check` accept only good
tokens, and reject the spent ones without any change, exactly if no lease is presented while its
slot is held for a different op. -/
theorem token_good_once {B : Build} {start : Budget} (started : Started B start)
    (events : List Event) :
    (historyMachine B).Along (TokenChecked B) (start, []) events ↔
      (historyMachine B).Along WellDirected (start, []) events := by
  symm
  have preserved : ∀ state event, TokenInvariant B state → WellDirected state event →
      TokenInvariant B ((historyMachine B).next state event) :=
    fun _ _ invariant directed => invariant.next directed
  exact Machine.along_iff_along preserved (fun _ _ invariant => invariant.checked_iff)
    (TokenInvariant.of_fresh started.fresh)

/-- Two ops take the first slot one after the other. -/
def slotReuse : List Event :=
  [.permissive (.setResource 0 10 0),
    .permissive (.registerOp (some (.permissive 0))),
    .permissive (.registerOp (some (.permissive 1))),
    .permissive (.opSetNeed 0 0 5),
    .permissive (.opSetNeed 1 0 3),
    .permissive (.enter 0 true),
    .permissive (.leave ⟨0, 0x1000, 0, 0⟩),
    .permissive (.enter 1 true)]

/-- The token of the first op is accepted a second time once the second op holds its slot. -/
theorem token_good_twice :
    ¬∀ (B : Build) (start : Budget), Started B start → ∀ events,
      (historyMachine B).Along (TokenChecked B) (start, []) events := by
  intro always
  have run := always Build.full .sample started_sample
    (slotReuse ++ [.permissive (.leave ⟨0, 0x1000, 0, 0⟩)])
  have last := (Machine.along_append _ _ _ _ _).mp run
  have status : (leave ((historyMachine Build.full).run (.sample, []) slotReuse).1
      ⟨0, 0x1000, 0, 0⟩).1 = .ok := by decide +kernel
  have spent : goodToken ((historyMachine Build.full).run (.sample, []) slotReuse).2
      ⟨0, 0x1000, 0, 0⟩ = false := by decide +kernel
  have good := TokenChecked.good_of_leave last.2.1 status
  rw [spent] at good
  exact Bool.false_ne_true good

theorem token_good_once_reuse :
    (historyMachine Build.full).Along (TokenChecked Build.full) (.sample, []) slotReuse ↔
      (historyMachine Build.full).Along WellDirected (.sample, []) slotReuse :=
  token_good_once started_sample slotReuse

end Loxbudget
