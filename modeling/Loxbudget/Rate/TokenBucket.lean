import Loxbudget.Rate.FixedWindow

/-!
# What a token bucket grants over time

A refill is computed in 64 bits from the wrapped difference of two clock readings and
then narrowed to 32 bits. Every loss on the way lowers the tokens, so the bucket is an
account with a cap of the limit, refilled no faster than the limit per duration. A
commit refills once more at a later reading, and the narrowing may take the tokens away
that the decision has seen; but what it takes away it does not give back, so that every
grant is still paid for.
-/

namespace Loxbudget

open Metering (Entry Paid total closedInterval)

/-! ## The arithmetic of a refill -/

namespace RateWindow

/-- The tokens of a full bucket, in Q16.16. -/
@[irreducible]
def capacity (window : RateWindow) : Nat :=
  window.limit.toNat * 65536

/-- The tokens after a refill, before they are narrowed to 32 bits. -/
@[irreducible]
def refilled (window : RateWindow) (nowMs : UInt32) : Nat :=
  min window.capacity (window.consumed.toNat +
    window.capacity * (nowMs - window.windowStartMs).toNat % 18446744073709551616 /
      window.windowDurationMs.toNat)

theorem refilled_le_capacity (window : RateWindow) (nowMs : UInt32) :
    window.refilled nowMs ≤ window.capacity := by
  rw [refilled]
  exact Nat.min_le_left _ _

/-- A refill comes from the time that has passed, at the rate of the bucket. -/
theorem refilled_rate (window : RateWindow) (nowMs : UInt32) :
    window.refilled nowMs * window.windowDurationMs.toNat ≤
      window.consumed.toNat * window.windowDurationMs.toNat +
        window.capacity * (nowMs - window.windowStartMs).toNat := by
  have upper : window.refilled nowMs ≤ window.consumed.toNat +
      window.capacity * (nowMs - window.windowStartMs).toNat % 18446744073709551616 /
        window.windowDurationMs.toNat := by
    rw [refilled]
    exact Nat.min_le_right _ _
  have scaled := Nat.mul_le_mul_right window.windowDurationMs.toNat upper
  have wrapped := Nat.mod_le (window.capacity * (nowMs - window.windowStartMs).toNat)
    18446744073709551616
  have floored := Nat.div_mul_le_self
    (window.capacity * (nowMs - window.windowStartMs).toNat % 18446744073709551616)
    window.windowDurationMs.toNat
  rw [Nat.add_mul] at scaled
  omega

theorem consumed_le_refilled {window : RateWindow}
    (capped : window.consumed.toNat ≤ window.capacity) (nowMs : UInt32) :
    window.consumed.toNat ≤ window.refilled nowMs := by
  rw [refilled]
  exact Nat.le_min.mpr ⟨capped, Nat.le_add_right _ _⟩

theorem refill_of_stands {window : RateWindow} {nowMs : UInt32}
    (stands : nowMs - window.windowStartMs = 0) : window.refill nowMs = window := by
  simp [refill, stands]

theorem toNat_ite_min (sum cap : UInt64) :
    (if sum > cap then cap else sum).toNat = min cap.toNat sum.toNat := by
  split
  · rename_i full
    have full' := UInt64.lt_iff_toNat_lt.mp full
    omega
  · rename_i room
    have room' := UInt64.le_iff_toNat_le.mp (UInt64.not_lt.mp room)
    omega

theorem refill_stored {window : RateWindow} {nowMs : UInt32}
    (moves : nowMs - window.windowStartMs ≠ 0)
    (fits : window.consumed.toNat +
      window.capacity * (nowMs - window.windowStartMs).toNat % 18446744073709551616 /
        window.windowDurationMs.toNat < 18446744073709551616) :
    (window.refill nowMs).consumed.toNat = window.refilled nowMs % 4294967296 := by
  have cap_eq := toNat_shiftLeft_sixteen window.limit
  have product : (window.limit.toUInt64 <<< 16 *
      (nowMs - window.windowStartMs).toUInt64).toNat =
      window.capacity * (nowMs - window.windowStartMs).toNat % 18446744073709551616 := by
    rw [UInt64.toNat_mul, cap_eq, UInt32.toNat_toUInt64, capacity]
  have tokens : (window.consumed.toUInt64 + window.limit.toUInt64 <<< 16 *
      (nowMs - window.windowStartMs).toUInt64 / window.windowDurationMs.toUInt64).toNat =
      window.consumed.toNat +
        window.capacity * (nowMs - window.windowStartMs).toNat % 18446744073709551616 /
          window.windowDurationMs.toNat := by
    rw [UInt64.toNat_add, UInt64.toNat_div, product, UInt32.toNat_toUInt64,
      UInt32.toNat_toUInt64]
    exact Nat.mod_eq_of_lt fits
  have stored : (window.refill nowMs).consumed =
      (if window.consumed.toUInt64 + window.limit.toUInt64 <<< 16 *
          (nowMs - window.windowStartMs).toUInt64 / window.windowDurationMs.toUInt64 >
          window.limit.toUInt64 <<< 16 then window.limit.toUInt64 <<< 16
        else window.consumed.toUInt64 + window.limit.toUInt64 <<< 16 *
          (nowMs - window.windowStartMs).toUInt64 /
            window.windowDurationMs.toUInt64).toUInt32 := by
    simp [refill, moves]
  rw [stored, UInt64.toNat_toUInt32, toNat_ite_min, tokens, cap_eq, refilled, capacity]

theorem refill_consumed {window : RateWindow} (capped : window.consumed.toNat ≤ window.capacity)
    (long : 2 ≤ window.windowDurationMs.toNat) (nowMs : UInt32) :
    (window.refill nowMs).consumed.toNat = window.refilled nowMs % 4294967296 := by
  have consumed_lt := window.consumed.toNat_lt
  by_cases stands : nowMs - window.windowStartMs = 0
  · rw [refill_of_stands stands, refilled, stands]
    simp only [UInt32.toNat_zero, Nat.mul_zero, Nat.zero_mod, Nat.zero_div, Nat.add_zero]
    rw [Nat.min_eq_right capped]
    omega
  · apply refill_stored stands
    have added : window.capacity * (nowMs - window.windowStartMs).toNat %
        18446744073709551616 / window.windowDurationMs.toNat < 9223372036854775808 := by
      apply (Nat.div_lt_iff_lt_mul (by omega)).mpr
      have wrapped := Nat.mod_lt (window.capacity * (nowMs - window.windowStartMs).toNat)
        (by decide : 18446744073709551616 > 0)
      omega
    omega

theorem refill_start (window : RateWindow) (nowMs : UInt32) :
    (window.refill nowMs).windowStartMs = nowMs := by
  simp only [refill]
  split
  · rfl
  · rename_i stands
    have back := UInt32.sub_add_cancel nowMs window.windowStartMs
    rw [not_not.mp stands, UInt32.zero_add] at back
    exact back

theorem commit_tokenBucket {window : RateWindow} (limited : window.unlimited = false)
    (nowMs amount : UInt32) :
    window.commit .tokenBucket nowMs amount =
      { window.refill nowMs with
        consumed :=
          if (window.refill nowMs).consumed.toUInt64 ≥ amount.toUInt64 <<< 16 then
            ((window.refill nowMs).consumed.toUInt64 - amount.toUInt64 <<< 16).toUInt32
          else 0 } := by
  have rolled : (window.rollAndCheck .tokenBucket nowMs 0).1 = window.refill nowMs := by
    simp [rollAndCheck, limited]
  simp only [commit, limited, Bool.false_eq_true, if_false, rolled]
  split <;> rfl

/-- A commit takes its amount from what the refill comes to, even if the narrowing has taken
tokens away since the decision. -/
theorem commit_pays {window : RateWindow} (limited : window.unlimited = false)
    (capped : window.consumed.toNat ≤ window.capacity)
    (long : 2 ≤ window.windowDurationMs.toNat) (nowMs amount : UInt32)
    (enough : amount.toNat * 65536 ≤ window.consumed.toNat) :
    amount.toNat * 65536 + (window.commit .tokenBucket nowMs amount).consumed.toNat ≤
      window.refilled nowMs := by
  have kept := consumed_le_refilled capped nowMs
  rw [commit_tokenBucket limited]
  simp only
  split
  · rename_i covers
    have narrowed : (window.refill nowMs).consumed.toNat ≤ window.refilled nowMs := by
      rw [refill_consumed capped long]
      exact Nat.mod_le _ _
    have covers' := UInt64.le_iff_toNat_le.mp covers
    rw [toNat_shiftLeft_sixteen, UInt32.toNat_toUInt64] at covers'
    have rest : ((window.refill nowMs).consumed.toUInt64 - amount.toUInt64 <<< 16).toUInt32.toNat ≤
        (window.refill nowMs).consumed.toNat - amount.toNat * 65536 := by
      rw [UInt64.toNat_toUInt32, UInt64.toNat_sub_of_le _ _ covers, toNat_shiftLeft_sixteen,
        UInt32.toNat_toUInt64]
      exact Nat.mod_le _ _
    calc amount.toNat * 65536 + _
        ≤ amount.toNat * 65536 +
            ((window.refill nowMs).consumed.toNat - amount.toNat * 65536) :=
          Nat.add_le_add_left rest _
      _ = (window.refill nowMs).consumed.toNat := Nat.add_sub_cancel' covers'
      _ ≤ window.refilled nowMs := narrowed
  · rw [UInt32.toNat_zero, Nat.add_zero]
    exact enough.trans kept

theorem commit_limit_tokenBucket {window : RateWindow} (limited : window.unlimited = false)
    (nowMs amount : UInt32) :
    (window.commit .tokenBucket nowMs amount).limit = window.limit := by
  rw [commit_tokenBucket limited]
  exact refill_limit window nowMs

theorem commit_duration_tokenBucket {window : RateWindow} (limited : window.unlimited = false)
    (nowMs amount : UInt32) :
    (window.commit .tokenBucket nowMs amount).windowDurationMs = window.windowDurationMs := by
  rw [commit_tokenBucket limited]
  exact refill_duration window nowMs

theorem commit_start_tokenBucket {window : RateWindow} (limited : window.unlimited = false)
    (nowMs amount : UInt32) :
    (window.commit .tokenBucket nowMs amount).windowStartMs = nowMs := by
  rw [commit_tokenBucket limited]
  exact refill_start window nowMs

end RateWindow

/-! ## One bucket -/

/-- A bucket from which the trace is paid, and the time of its last refill. -/
structure BucketMeter (limit duration : UInt32) (window : RateWindow) (trace : List Entry)
    (now : Nat) : Prop where
  limit_eq : window.limit = limit
  duration_eq : window.windowDurationMs = duration
  account : ∃ last ≤ now, window.windowStartMs = UInt32.ofNat last ∧
    Paid 65536 (limit.toNat * 65536) duration.toNat trace window.consumed.toNat last

namespace BucketMeter

variable {limit duration : UInt32} {window : RateWindow} {trace : List Entry} {now : Nat}

theorem configured {hal : Hal} {setting : UInt32} (reading : hal.nowMs = UInt32.ofNat now) :
    BucketMeter limit (windowDurationMs setting)
      (configuredWindow .tokenBucket hal setting limit) [] now where
  limit_eq := rfl
  duration_eq := rfl
  account := by
    refine ⟨now, le_refl now, reading, Paid.opened ?_⟩
    simp only [configuredWindow, UInt64.toNat_toUInt32, RateWindow.toNat_shiftLeft_sixteen]
    exact Nat.mod_le _ _

theorem later (meter : BucketMeter limit duration window trace now) {time : Nat}
    (after : now ≤ time) : BucketMeter limit duration window trace time := by
  rcases meter.account with ⟨last, past, reading, paid⟩
  exact { meter with account := ⟨last, past.trans after, reading, paid⟩ }

theorem limited (meter : BucketMeter limit duration window trace now) (limit_ne : limit ≠ 0)
    (long : 2 ≤ duration.toNat) : window.unlimited = false := by
  have duration_ne : duration ≠ 0 := by
    rintro rfl
    simp at long
  simp [RateWindow.unlimited, meter.limit_eq, meter.duration_eq, limit_ne, duration_ne]

theorem capped (meter : BucketMeter limit duration window trace now) :
    window.consumed.toNat ≤ window.capacity := by
  rcases meter.account with ⟨last, past, reading, paid⟩
  rw [RateWindow.capacity, meter.limit_eq]
  exact paid.capped

/-- At a later reading the account holds what the refill comes to. -/
theorem refilled (meter : BucketMeter limit duration window trace now) {time : Nat}
    (after : now ≤ time) :
    Paid 65536 (limit.toNat * 65536) duration.toNat trace
      (window.refilled (UInt32.ofNat time)) time := by
  rcases meter.account with ⟨last, past, reading, paid⟩
  have capacity_eq : window.capacity = limit.toNat * 65536 := by
    rw [RateWindow.capacity, meter.limit_eq]
  have rate := window.refilled_rate (UInt32.ofNat time)
  rw [reading, toNat_elapsed (past.trans after), meter.duration_eq, capacity_eq] at rate
  apply paid.refill (past.trans after)
  · rw [← capacity_eq]
    exact window.refilled_le_capacity _
  · have wrapped := Nat.mod_le (time - last) 4294967296
    have slower := Nat.mul_le_mul_left (limit.toNat * 65536) wrapped
    omega

theorem paid_reset {limit duration tokens time : Nat} {trace : List Entry}
    (paid : Paid 65536 limit duration trace tokens time) (before after : RateWindow) :
    Paid 65536 limit duration (resetBetween time before after ++ trace) tokens time := by
  simp only [resetBetween]
  split
  · exact paid.reset
  · exact paid

theorem roll (meter : BucketMeter limit duration window trace now) (limit_ne : limit ≠ 0)
    (long : 2 ≤ duration.toNat) {time : Nat} (after : now ≤ time) :
    let rolled := window.roll .tokenBucket (UInt32.ofNat time)
    BucketMeter limit duration rolled (resetBetween time window rolled ++ trace) time := by
  intro rolled
  have rolled_eq : rolled = window.refill (UInt32.ofNat time) := by
    simp [rolled, RateWindow.roll, meter.limited limit_ne long]
  have stored := RateWindow.refill_consumed meter.capped
    (by rw [meter.duration_eq]; exact long) (UInt32.ofNat time)
  have narrowed : (window.refill (UInt32.ofNat time)).consumed.toNat ≤
      window.refilled (UInt32.ofNat time) := by
    rw [stored]
    exact Nat.mod_le _ _
  rw [rolled_eq]
  refine ⟨?_, ?_, time, le_refl time, RateWindow.refill_start _ _, ?_⟩
  · rw [RateWindow.refill_limit, meter.limit_eq]
  · rw [RateWindow.refill_duration, meter.duration_eq]
  · exact paid_reset ((meter.refilled after).lose narrowed) _ _

theorem rolledTo (meter : BucketMeter limit duration window trace now) (limit_ne : limit ≠ 0)
    (long : 2 ≤ duration.toNat) {time : Nat} (after : now ≤ time) {window' : RateWindow}
    (rolled : window.RolledTo .tokenBucket (UInt32.ofNat time) window') :
    BucketMeter limit duration window' (resetBetween time window window' ++ trace) time := by
  rcases rolled with rfl | rfl
  · simpa [resetBetween] using meter.later after
  · exact meter.roll limit_ne long after

/-- What the decision has found in the bucket is committed at a later reading. -/
theorem commit (meter : BucketMeter limit duration window trace now) (limit_ne : limit ≠ 0)
    (long : 2 ≤ duration.toNat) {time : Nat} (after : now ≤ time) {amount : UInt16}
    (enough : amount.toNat * 65536 ≤ window.consumed.toNat) :
    let committed := window.commit .tokenBucket (UInt32.ofNat time) amount.toUInt32
    BucketMeter limit duration committed
      (.grant time amount.toNat :: (resetBetween time window committed ++ trace)) time := by
  intro committed
  have limited := meter.limited limit_ne long
  have long' : 2 ≤ window.windowDurationMs.toNat := by
    rw [meter.duration_eq]
    exact long
  have pays := RateWindow.commit_pays limited meter.capped long' (UInt32.ofNat time)
    amount.toUInt32 (by simpa using enough)
  rw [UInt16.toNat_toUInt32] at pays
  refine ⟨?_, ?_, time, le_refl time, ?_, ?_⟩
  · rw [RateWindow.commit_limit_tokenBucket limited, meter.limit_eq]
  · rw [RateWindow.commit_duration_tokenBucket limited, meter.duration_eq]
  · exact RateWindow.commit_start_tokenBucket limited _ _
  · exact (paid_reset (meter.refilled after) _ _).grant pays

/-- One call keeps the trace paid. -/
theorem step {B : Build} (bucket : B.rateImpl = .tokenBucket) {clock : Clock}
    (meter : BucketMeter limit duration window trace now) (limit_ne : limit ≠ 0)
    (long : 2 ≤ duration.toNat) (after : now ≤ clock.now) {entries : List Entry}
    {window' : RateWindow} (step : WindowStep B clock window entries window') :
    BucketMeter limit duration window' (entries ++ trace) clock.lease := by
  cases step with
  | rolled rolled =>
      rw [bucket] at rolled
      exact (meter.rolledTo limit_ne long after rolled).later
        ((clock.now_le_commit 0).trans (clock.lease_le 0))
  | @granted checked _ i amount admits rolled committed =>
      rw [bucket] at admits rolled committed
      subst rolled committed
      have decided := meter.roll limit_ne long after
      have enough : amount.toNat * 65536 ≤
          (window.roll .tokenBucket (UInt32.ofNat clock.now)).consumed.toNat := by
        rcases admits with unlimited | enough
        · simp [meter.limited limit_ne long] at unlimited
        · simpa using enough
      have granted := decided.commit limit_ne long (clock.now_le_commit i) enough
      rw [List.cons_append, List.append_assoc]
      exact granted.later (clock.lease_le i)

end BucketMeter

/-! ## Every run -/

theorem windowDurationMs_long {window : UInt32} (duration_ne : windowDurationMs window ≠ 0) :
    2 ≤ (windowDurationMs window).toNat := by
  simp only [windowDurationMs] at duration_ne ⊢
  split
  · decide
  split
  · decide
  split
  · decide
  split
  · decide
  · simp_all

/-- In the token-bucket build, from the `set_rate_limit` that sets a window of a resource on and
as long as it is not set again, under a real clock that is read modulo 2^32: in any interval of
real time at most the limit is granted, and what the rate of the limit per duration brings in
during the interval. -/
theorem token_bucket_bounds_grants {B : Build} (bucket : B.rateImpl = .tokenBucket)
    {budget : Budget} (reachable : Reachable B budget) {set : TimedEvent} {res : ResourceId}
    {window limit : UInt32} (call : set.event.call = .setRateLimit res window limit)
    (accepted : ((timedMachine B).reply budget set).status = .ok) (limit_ne : limit ≠ 0)
    {events : List TimedEvent}
    (undisturbed : (meterMachine B res window.toUInt8.toNat).Along (Undisturbed B res window)
      ((timedMachine B).next budget set, ⟨[], set.clock.now⟩) events) (since length : Nat) :
    let trace := ((meterMachine B res window.toUInt8.toNat).run
      ((timedMachine B).next budget set, ⟨[], set.clock.now⟩) events).2.trace
    total (closedInterval since (since + length) trace) * (windowDurationMs window).toNat ≤
      limit.toNat * (windowDurationMs window).toNat + limit.toNat * length := by
  intro trace
  have long := windowDurationMs_long
    (configured_of_accepted reachable.fourWindows call accepted).2.1
  have opened : BucketMeter limit (windowDurationMs window)
      (configuredWindow B.rateImpl set.event.hal window limit) [] set.clock.now := by
    rw [bucket]
    exact BucketMeter.configured set.now_eq
  rcases (meter_invariant reachable call accepted opened
    (fun _ _ _ _ _ _ held later step => held.step bucket limit_ne long later step)
    undisturbed).account with ⟨last, -, -, paid⟩
  have bound := paid.within since (since + length) (Nat.le_add_right _ _)
  rw [Nat.add_sub_cancel_left, Nat.mul_right_comm, Nat.mul_right_comm _ 65536 length,
    Nat.mul_right_comm limit.toNat, ← Nat.add_mul] at bound
  exact Nat.le_of_mul_le_mul_right bound (by decide)

/-- The default build with token buckets. -/
def Build.bucket : Build :=
  { Build.full with rateImpl := .tokenBucket }

theorem started_bucket : Started Build.bucket .sample :=
  ⟨Hal.permissive 0, .zero, .sample, Prod.ext (by decide +kernel) rfl⟩

theorem token_bucket_bounds_threeEnters :
    let set : TimedEvent := .at 500 (.setRateLimit 0 0 3)
    let start := (timedMachine Build.bucket).next
      ((machine Build.bucket).run .sample oneConsumer) set
    let trace := ((meterMachine Build.bucket 0 0).run (start, ⟨[], 500⟩) threeEnters).2.trace
    total (closedInterval 700 (700 + 900) trace) * 1000 ≤ 3 * 1000 + 3 * 900 := by
  intro set start trace
  have accepted : ((timedMachine Build.bucket).reply
      ((machine Build.bucket).run .sample oneConsumer) set).status = .ok := by decide +kernel
  have undisturbed : (meterMachine Build.bucket 0 0).Along (Undisturbed Build.bucket 0 0)
      (start, ⟨[], 500⟩) threeEnters := by
    refine ⟨⟨?_, nofun⟩, ⟨?_, nofun⟩, ⟨?_, nofun⟩, trivial⟩
    all_goals decide +kernel
  have reachable := (Reachable.of_started started_bucket).run oneConsumer
  have call : set.event.call = .setRateLimit 0 0 3 := rfl
  exact token_bucket_bounds_grants rfl reachable call accepted (by decide) undisturbed 700 900

/-! ## A resource that is declared anew -/

/-- The instance with what the successful `enter`s of ops without
`LOXBUDGET_OPF_BYPASS_RATE_LIMIT` have granted on a resource, of whatever kind it is. -/
def grantMachine (B : Build) (res : ResourceId) :
    Machine (Budget × List Entry) TimedEvent Reply :=
  (timedMachine B).observe fun trace before timed reply _ =>
    match timed.event.call with
    | .enter op _ =>
        if reply.status = .ok ∧ (before.ops op).has opfBypassRateLimit = false then
          .grant (timed.clock.commit (needIndex (before.needs op) res))
            (needOf (before.needs op) res).toNat :: trace
        else trace
    | _ => trace

/-- The resource becomes REUSABLE after its limit was set, and the op is entered. -/
def redeclared : List TimedEvent :=
  [.at 600 (.setResource 0 100 0), .at 600 (.enter 0 true)]

/-- The windows of a resource stay when it is declared anew, but nothing looks at them unless it
is CONSUMABLE. -/
theorem token_bucket_overgrants_redeclared :
    let set : TimedEvent := .at 500 (.setRateLimit 0 0 1)
    let start := (timedMachine Build.bucket).next
      ((machine Build.bucket).run .sample oneConsumer) set
    let trace := ((grantMachine Build.bucket 0).run (start, []) redeclared).2
    Reachable Build.bucket start ∧
      ((timedMachine Build.bucket).reply
        ((machine Build.bucket).run .sample oneConsumer) set).status = .ok ∧
      (meterMachine Build.bucket 0 0).Along (Undisturbed Build.bucket 0 0)
        (start, ⟨[], 500⟩) redeclared ∧
      ¬ total (closedInterval 600 (600 + 0) trace) * (windowDurationMs 0).toNat ≤
        (1 : UInt32).toNat * (windowDurationMs 0).toNat + (1 : UInt32).toNat * 0 := by
  intro set start trace
  refine ⟨?_, ?_, ⟨⟨?_, nofun⟩, ⟨?_, nofun⟩, trivial⟩, ?_⟩
  · exact ((Reachable.of_started started_bucket).run oneConsumer).run [set.event]
  all_goals decide +kernel

end Loxbudget
