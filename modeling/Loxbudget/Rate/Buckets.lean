import Loxbudget.Rate.TokenBucket

/-!
# For which limits the arithmetic of a token bucket is exact

`set_rate_limit` takes any 32-bit limit, and keeps the tokens of the bucket in Q16.16 in
32 bits as well. Below 65536 neither the product of the refill nor a cast loses anything;
from 65536 on the bucket does not even start full. The clock readings of the calls are
arbitrary here: a bucket measures the time that has passed by 32-bit subtraction.
-/

namespace Loxbudget

/-! ## One bucket -/

namespace RateWindow

/-- The bucket holds no more than its capacity. -/
def Capped (window : RateWindow) : Prop :=
  window.consumed.toNat ≤ window.capacity

theorem Capped.refill {window : RateWindow} (capped : window.Capped) (nowMs : UInt32) :
    (window.refill nowMs).Capped := by
  simp only [Capped, capacity, refill_limit] at capped ⊢
  simp only [RateWindow.refill]
  split
  · rw [UInt64.toNat_toUInt32, toNat_ite_min, toNat_shiftLeft_sixteen]
    exact (Nat.mod_le _ _).trans (Nat.min_le_left _ _)
  · exact capped

theorem Capped.roll {window : RateWindow} (capped : window.Capped) (nowMs : UInt32) :
    (window.roll .tokenBucket nowMs).Capped := by
  simp only [RateWindow.roll]
  split
  · exact capped
  · exact capped.refill nowMs

theorem commit_tokens {window : RateWindow} (limited : window.unlimited = false)
    (nowMs amount : UInt32) :
    (window.commit .tokenBucket nowMs amount).consumed.toNat =
      (window.refill nowMs).consumed.toNat - amount.toNat * 65536 := by
  have tokens_lt := (window.refill nowMs).consumed.toNat_lt
  rw [commit_tokenBucket limited]
  simp only
  split
  · rename_i covers
    rw [UInt64.toNat_toUInt32, UInt64.toNat_sub_of_le _ _ covers, toNat_shiftLeft_sixteen,
      UInt32.toNat_toUInt64]
    omega
  · rename_i short
    have short' := UInt64.lt_iff_toNat_lt.mp (UInt64.not_le.mp short)
    rw [toNat_shiftLeft_sixteen, UInt32.toNat_toUInt64] at short'
    simp only [UInt32.toNat_zero]
    omega

theorem Capped.commit {window : RateWindow} (capped : window.Capped) (nowMs amount : UInt32) :
    (window.commit .tokenBucket nowMs amount).Capped := by
  by_cases limited : window.unlimited = true
  · simpa [RateWindow.commit, limited] using capped
  · have limited' : window.unlimited = false := by simpa using limited
    have refilled := capped.refill nowMs
    simp only [Capped, capacity, refill_limit] at refilled ⊢
    rw [commit_tokens limited', commit_limit_tokenBucket limited']
    omega

section Small

variable {window : RateWindow} (small : window.limit.toNat < 65536)
include small

/-- The product of a refill fits 64 bits. -/
theorem product_exact (nowMs : UInt32) :
    (window.limit.toUInt64 <<< 16 * (nowMs - window.windowStartMs).toUInt64).toNat =
      window.limit.toNat * 65536 * (nowMs - window.windowStartMs).toNat := by
  have elapsed_lt := (nowMs - window.windowStartMs).toNat_lt
  have bound : window.limit.toNat * 65536 * (nowMs - window.windowStartMs).toNat ≤
      65535 * 65536 * 4294967295 :=
    Nat.mul_le_mul (Nat.mul_le_mul_right 65536 (by omega)) (by omega)
  rw [UInt64.toNat_mul, toNat_shiftLeft_sixteen, UInt32.toNat_toUInt64]
  apply Nat.mod_eq_of_lt
  omega

/-- A refill adds what the limit per duration brings in, rounded down, up to a full bucket. -/
theorem refill_exact (capped : window.Capped) (nowMs : UInt32) :
    (window.refill nowMs).consumed.toNat =
      min (window.limit.toNat * 65536) (window.consumed.toNat +
        window.limit.toNat * 65536 * (nowMs - window.windowStartMs).toNat /
          window.windowDurationMs.toNat) := by
  have product := product_exact small nowMs
  have product_lt := UInt64.toNat_lt
    (window.limit.toUInt64 <<< 16 * (nowMs - window.windowStartMs).toUInt64)
  have elapsed_lt := (nowMs - window.windowStartMs).toNat_lt
  have product_le : window.limit.toNat * 65536 * (nowMs - window.windowStartMs).toNat ≤
      65535 * 65536 * 4294967295 :=
    Nat.mul_le_mul (Nat.mul_le_mul_right 65536 (by omega)) (by omega)
  have consumed_lt := window.consumed.toNat_lt
  simp only [Capped, capacity] at capped
  by_cases stands : nowMs - window.windowStartMs = 0
  · rw [refill_of_stands stands, stands]
    simp only [UInt32.toNat_zero, Nat.mul_zero, Nat.zero_div, Nat.add_zero]
    exact (Nat.min_eq_right capped).symm
  · have unwrapped : window.capacity * (nowMs - window.windowStartMs).toNat %
        18446744073709551616 =
        window.limit.toNat * 65536 * (nowMs - window.windowStartMs).toNat := by
      rw [capacity]
      exact Nat.mod_eq_of_lt (by omega)
    have divided := Nat.div_le_self
      (window.limit.toNat * 65536 * (nowMs - window.windowStartMs).toNat)
      window.windowDurationMs.toNat
    rw [refill_stored stands (by rw [unwrapped]; omega), refilled, unwrapped, capacity]
    apply Nat.mod_eq_of_lt
    omega

theorem le_refill (capped : window.Capped) (nowMs : UInt32) :
    window.consumed.toNat ≤ (window.refill nowMs).consumed.toNat := by
  rw [refill_exact small capped]
  simp only [Capped, capacity] at capped
  exact Nat.le_min.mpr ⟨capped, Nat.le_add_right _ _⟩

theorem refill_full (capped : window.Capped) (duration_ne : window.windowDurationMs ≠ 0)
    {nowMs : UInt32} (waited : window.windowDurationMs ≤ nowMs - window.windowStartMs) :
    (window.refill nowMs).consumed.toNat = window.limit.toNat * 65536 := by
  have positive : 0 < window.windowDurationMs.toNat :=
    Nat.pos_of_ne_zero fun zero => duration_ne (UInt32.toNat_inj.mp zero)
  have filled : window.limit.toNat * 65536 ≤
      window.limit.toNat * 65536 * (nowMs - window.windowStartMs).toNat /
        window.windowDurationMs.toNat := by
    rw [Nat.le_div_iff_mul_le positive]
    exact Nat.mul_le_mul_left _ (UInt32.le_iff_toNat_le.mp waited)
  rw [refill_exact small capped]
  omega

end Small

/-- The arithmetic of a bucket is that of unbounded integers, at whatever reading it is looked at
next: the product and the sum of a refill, and the difference of a commit. A bucket that has
waited for its duration admits any amount up to its limit. -/
structure ComputesExactly (window : RateWindow) : Prop where
  product : ∀ nowMs : UInt32,
    (window.limit.toUInt64 <<< 16 * (nowMs - window.windowStartMs).toUInt64).toNat =
      window.limit.toNat * 65536 * (nowMs - window.windowStartMs).toNat
  refill : ∀ nowMs : UInt32, (window.refill nowMs).consumed.toNat =
    min (window.limit.toNat * 65536) (window.consumed.toNat +
      window.limit.toNat * 65536 * (nowMs - window.windowStartMs).toNat /
        window.windowDurationMs.toNat)
  commit : ∀ nowMs amount : UInt32, (window.commit .tokenBucket nowMs amount).consumed.toNat =
    (window.refill nowMs).consumed.toNat - amount.toNat * 65536
  fills : ∀ nowMs amount : UInt32, window.windowDurationMs ≤ nowMs - window.windowStartMs →
    amount ≤ window.limit → (window.rollAndCheck .tokenBucket nowMs amount).2 = true

theorem computesExactly {window : RateWindow} (limited : window.unlimited = false)
    (small : window.limit.toNat < 65536) (capped : window.Capped) : window.ComputesExactly where
  product := product_exact small
  refill := refill_exact small capped
  commit := commit_tokens limited
  fills := by
    intro nowMs amount waited amount_le
    have duration_ne : window.windowDurationMs ≠ 0 := by
      intro zero
      simp [unlimited, zero] at limited
    rw [rollAndCheck_snd]
    right
    have rolled : window.roll .tokenBucket nowMs = window.refill nowMs := by
      simp [roll, limited]
    simp only
    rw [rolled, refill_full small capped duration_ne waited]
    exact Nat.mul_le_mul_right 65536 (UInt32.le_iff_toNat_le.mp amount_le)

end RateWindow

/-! ## The capacity is never exceeded -/

variable {B : Build} {budget : Budget} {res : ResourceId}

theorem configuredWindow_capped (hal : Hal) (window limit : UInt32) :
    (configuredWindow .tokenBucket hal window limit).Capped := by
  simp only [RateWindow.Capped, RateWindow.capacity, configuredWindow]
  rw [UInt64.toNat_toUInt32, RateWindow.toNat_shiftLeft_sixteen]
  exact Nat.mod_le _ _

/-- In the token-bucket build no bucket ever holds more than its capacity. -/
theorem Reachable.capped (bucket : B.rateImpl = .tokenBucket) (reachable : Reachable B budget)
    (res : ResourceId) {window : UInt32} (window_le : window ≤ 3) :
    (budget.window res window.toUInt8.toNat).Capped := by
  refine reachable.window_invariant ?_ ?_ ?_ ?_ res window_le
  · simp [RateWindow.Capped, RateWindow.zero]
  · rw [bucket]
    exact configuredWindow_capped
  · rw [bucket]
    exact fun _ _ capped => capped.roll _
  · rw [bucket]
    exact fun _ _ _ capped => capped.commit _ _

/-! ## From the call that sets the limit -/

theorem run_window_limit (bucket : B.rateImpl = .tokenBucket) (reachable : Reachable B budget)
    {window : UInt32} (window_le : window ≤ 3)
    (limited : (budget.window res window.toUInt8.toNat).unlimited = false) {events : List Event}
    (kept : (machine B).Along (fun budget event => ¬SetsWindow B res window budget event) budget
      events) :
    let final := ((machine B).run budget events).window res window.toUInt8.toNat
    final.limit = (budget.window res window.toUInt8.toNat).limit ∧ final.unlimited = false := by
  intro final
  let start := budget.window res window.toUInt8.toNat
  have preserved : ∀ state event,
      Reachable B state ∧ (state.window res window.toUInt8.toNat).limit = start.limit ∧
        (state.window res window.toUInt8.toNat).unlimited = false →
      ¬SetsWindow B res window state event →
      Reachable B ((machine B).next state event) ∧
        (((machine B).next state event).window res window.toUInt8.toNat).limit = start.limit ∧
        (((machine B).next state event).window res window.toUInt8.toNat).unlimited = false := by
    rintro state event ⟨reached, limit, unset⟩ keeps
    refine ⟨reached.run [event], ?_⟩
    rcases next_window_cases reached.wellFormed reached.fourWindows window_le keeps with
      ⟨checked, rolled, after⟩
    have same : checked.limit = start.limit ∧ checked.unlimited = false := by
      rcases rolled with rfl | rfl
      · exact ⟨limit, unset⟩
      · rw [RateWindow.roll_limit, RateWindow.roll_unlimited]
        exact ⟨limit, unset⟩
    rcases after with after | ⟨nowMs, amount, after⟩
    · rw [after]
      exact same
    · rw [after, bucket]
      have duration := RateWindow.commit_duration_tokenBucket same.2 nowMs amount
      have limit' := RateWindow.commit_limit_tokenBucket same.2 nowMs amount
      refine ⟨limit'.trans same.1, ?_⟩
      rw [RateWindow.unlimited, limit', duration]
      exact same.2
  exact (Machine.run_invariant preserved ⟨reachable, rfl, limited⟩ kept).2

/-- In the token-bucket build, for every limit above 0 that `set_rate_limit` accepts: the bucket
starts with the limit in tokens, and computes exactly in every later state until it is set again,
exactly if the limit is below 65536. -/
theorem bucket_exact_iff {B : Build} (bucket : B.rateImpl = .tokenBucket) {budget : Budget}
    (reachable : Reachable B budget) {set : Event} {res : ResourceId} {window limit : UInt32}
    (call : set.call = .setRateLimit res window limit)
    (accepted : ((machine B).reply budget set).status = .ok) (limit_ne : limit ≠ 0) :
    let start := (machine B).next budget set
    ((start.window res window.toUInt8.toNat).consumed.toNat = limit.toNat * 65536 ∧
        ∀ events, (machine B).Along
            (fun budget event => ¬SetsWindow B res window budget event) start events →
          (((machine B).run start events).window res window.toUInt8.toNat).ComputesExactly) ↔
      limit.toNat < 65536 := by
  intro start
  rcases set with ⟨hal, made⟩
  simp only at call
  subst call
  rcases next_window_set reachable.fourWindows accepted with ⟨window_le, duration_ne, configured⟩
  rw [bucket] at configured
  have tokens : (start.window res window.toUInt8.toNat).consumed.toNat =
      limit.toNat * 65536 % 4294967296 := by
    rw [configured]
    simp only [configuredWindow]
    rw [UInt64.toNat_toUInt32, RateWindow.toNat_shiftLeft_sixteen]
  have limited : (start.window res window.toUInt8.toNat).unlimited = false := by
    rw [configured]
    simp [configuredWindow, RateWindow.unlimited, limit_ne, duration_ne]
  have startReached : Reachable B start := reachable.run [_]
  constructor
  · rintro ⟨full, -⟩
    rw [tokens] at full
    omega
  · intro small
    refine ⟨by omega, ?_⟩
    intro events kept
    rcases run_window_limit bucket startReached window_le limited kept with ⟨same, unset⟩
    refine RateWindow.computesExactly unset ?_ ((startReached.run events).capped bucket res
      window_le)
    rw [same, configured]
    exact small

theorem bucket_exact_iff_three :
    let budget := (machine Build.bucket).run .sample oneConsumer
    let set := Event.permissive (.setRateLimit 0 0 3)
    let start := (machine Build.bucket).next budget set
    ((start.window 0 0).consumed.toNat = (3 : UInt32).toNat * 65536 ∧
        ∀ events, (machine Build.bucket).Along
            (fun budget event => ¬SetsWindow Build.bucket 0 0 budget event) start events →
          (((machine Build.bucket).run start events).window 0 0).ComputesExactly) ↔
      (3 : UInt32).toNat < 65536 := by
  intro budget set start
  have reachable := (Reachable.of_started started_bucket).run oneConsumer
  have call : set.call = .setRateLimit 0 0 3 := rfl
  have accepted : ((machine Build.bucket).reply budget set).status = .ok := by decide +kernel
  have limit_ne : (3 : UInt32) ≠ 0 := by decide
  exact bucket_exact_iff rfl reachable call accepted limit_ne

/-- A limit of 65536 a second is accepted, starts an empty bucket, and a whole second without a
grant leaves it empty. -/
theorem bucket_starts_empty :
    let budget := (machine Build.bucket).run .sample oneConsumer
    let set := Event.permissive (.setRateLimit 0 0 65536)
    let window := ((machine Build.bucket).next budget set).window 0 0
    Reachable Build.bucket budget ∧ ((machine Build.bucket).reply budget set).status = .ok ∧
      window.consumed.toNat ≠ (65536 : UInt32).toNat * 65536 ∧
      window.windowDurationMs ≤ 1000 - window.windowStartMs ∧
      (window.rollAndCheck .tokenBucket 1000 1).2 = false := by
  intro budget set window
  refine ⟨(Reachable.of_started started_bucket).run oneConsumer, ?_, ?_, ?_, ?_⟩
  all_goals decide +kernel

end Loxbudget
