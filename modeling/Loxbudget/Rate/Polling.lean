import Loxbudget.Rate.TokenBucket

/-!
# Polling a token bucket

Every look at a token bucket refills it in whole parts, 65536 to a token, and takes the
reading for the time of the next refill. The fraction that a refill rounds off is not
kept anywhere, so that a bucket fills more slowly the more often it is looked at. What
is lost is computed exactly here: polls leave no less than one look at the end exactly
if the fractions add up to less than one part, or the bucket is full anyway.
-/

namespace Loxbudget

open Metering (fill gaps whole fractions)

namespace RateWindow

/-- A token bucket after looks at some times, each for some amount, and no grant. -/
def polled (window : RateWindow) : List (Nat × UInt32) → RateWindow
  | [] => window
  | (time, amount) :: later =>
      (window.rollAndCheck .tokenBucket (UInt32.ofNat time) amount).1.polled later

theorem rollAndCheck_refill {window : RateWindow} (limited : window.unlimited = false)
    (nowMs amount : UInt32) :
    (window.rollAndCheck .tokenBucket nowMs amount).1 = window.refill nowMs := by
  simp [rollAndCheck, limited]

theorem capacity_refill (window : RateWindow) (nowMs : UInt32) :
    (window.refill nowMs).capacity = window.capacity := by
  rw [capacity, capacity, refill_limit]

theorem unlimited_refill (window : RateWindow) (nowMs : UInt32) :
    (window.refill nowMs).unlimited = window.unlimited := by
  simp [unlimited]

/-- With a limit of 16 bits nothing wraps and nothing is narrowed. -/
theorem refill_fill {window : RateWindow} (small : window.limit.toNat < 65536) {since time : Nat}
    (reading : window.windowStartMs = UInt32.ofNat since) (forward : since ≤ time)
    (recent : time - since < 4294967296) :
    (window.refill (UInt32.ofNat time)).consumed.toNat =
      fill window.capacity window.windowDurationMs.toNat window.consumed.toNat
        (time - since) := by
  have elapsed : (UInt32.ofNat time - window.windowStartMs).toNat = time - since := by
    rw [reading, toNat_elapsed forward, Nat.mod_eq_of_lt recent]
  have capacity_le : window.capacity ≤ 65535 * 65536 := by
    rw [capacity]
    exact Nat.mul_le_mul_right 65536 (by omega)
  have product_le : window.capacity * (time - since) ≤ 65535 * 65536 * 4294967295 :=
    Nat.mul_le_mul capacity_le (by omega)
  have unwrapped : window.capacity * (time - since) % 18446744073709551616 =
      window.capacity * (time - since) := by
    apply Nat.mod_eq_of_lt
    omega
  by_cases stands : UInt32.ofNat time - window.windowStartMs = 0
  · have still : time - since = 0 := by
      rw [← elapsed, stands]
      rfl
    rw [refill_of_stands stands, fill, if_pos still]
  · have moves : time - since ≠ 0 := by
      rw [← elapsed]
      exact fun still => stands (UInt32.toNat_inj.mp still)
    have divided := Nat.div_le_self (window.capacity * (time - since))
      window.windowDurationMs.toNat
    have consumed_lt := window.consumed.toNat_lt
    rw [refill_stored stands (by rw [elapsed, unwrapped]; omega), refilled, elapsed, unwrapped,
      fill, if_neg moves]
    apply Nat.mod_eq_of_lt
    -- A full bucket of a small limit fits into 32 bits.
    exact (min_le_left _ _).trans_lt (capacity_le.trans_lt (by decide))

theorem le_last_of_isChain {since till time : Nat} {earlier : List Nat}
    (ordered : List.IsChain (· ≤ ·) (since :: (earlier ++ [till])))
    (listed : time ∈ earlier ++ [till]) : time ≤ till := by
  rcases List.mem_append.mp listed with before | last
  · have sorted := (List.pairwise_cons.mp (List.isChain_iff_pairwise.mp ordered)).2
    exact (List.pairwise_append.mp sorted).2.2 time before till List.mem_cons_self
  · exact le_of_eq (List.mem_singleton.mp last)

/-- Polls fill the bucket gap by gap. -/
theorem polled_fill {window : RateWindow} (limited : window.unlimited = false)
    (small : window.limit.toNat < 65536) {since : Nat}
    (reading : window.windowStartMs = UInt32.ofNat since) {polls : List (Nat × UInt32)}
    (ordered : List.IsChain (· ≤ ·) (since :: polls.map Prod.fst))
    (recent : ∀ poll ∈ polls, poll.1 - since < 4294967296) :
    (window.polled polls).consumed.toNat =
      (gaps since (polls.map Prod.fst)).foldl
        (fill window.capacity window.windowDurationMs.toNat) window.consumed.toNat := by
  induction polls generalizing window since with
  | nil => rfl
  | cons poll later ih =>
      rcases poll with ⟨time, amount⟩
      simp only [List.map_cons, List.isChain_cons_cons] at ordered
      rw [polled, rollAndCheck_refill limited]
      have now := recent _ List.mem_cons_self
      have later_recent : ∀ poll ∈ later, poll.1 - time < 4294967296 := by
        intro poll listed
        have bound := recent poll (List.mem_cons_of_mem _ listed)
        have first := ordered.1
        omega
      have limited' : (window.refill (UInt32.ofNat time)).unlimited = false := by
        rw [unlimited_refill, limited]
      have small' : (window.refill (UInt32.ofNat time)).limit.toNat < 65536 := by
        rw [refill_limit]
        exact small
      rw [ih limited' small' (refill_start window _) ordered.2 later_recent, capacity_refill,
        refill_duration, List.map_cons, gaps, List.foldl_cons,
        refill_fill small reading ordered.1 now]

/-- In the token-bucket build, for a limit of 16 bits, from any tokens and over any polls within
2^32 milliseconds of the last refill: the bucket holds at least what one poll at the end would
have left, and is full after a whole duration, exactly if the fractions that the polls round off
come to less than one part of a token, or the whole parts fill the bucket anyway. -/
theorem polls_lose_nothing_iff {window : RateWindow} (limit_ne : window.limit ≠ 0)
    (small : window.limit.toNat < 65536) (duration_ne : window.windowDurationMs ≠ 0)
    {opened last : Nat} (reading : window.windowStartMs = UInt32.ofNat opened)
    {earlier : List (Nat × UInt32)}
    (ordered : List.IsChain (· ≤ ·) (opened :: (earlier.map Prod.fst ++ [last])))
    (recent : last - opened < 4294967296) (amount single : UInt32) :
    let intervals := gaps opened (earlier.map Prod.fst ++ [last])
    let duration := window.windowDurationMs.toNat
    let after := (window.polled (earlier ++ [(last, amount)])).consumed.toNat
    ((window.rollAndCheck .tokenBucket (UInt32.ofNat last) single).1.consumed.toNat ≤ after ∧
        (duration ≤ last - opened → after = window.capacity)) ↔
      fractions window.capacity duration intervals < duration ∨
        window.capacity ≤ window.consumed.toNat + whole window.capacity duration intervals := by
  intro intervals duration after
  have limited : window.unlimited = false := by
    simp [unlimited, limit_ne, duration_ne]
  have positive : 0 < duration := by
    apply Nat.pos_of_ne_zero
    exact fun zero => duration_ne (UInt32.toNat_inj.mp zero)
  have span := Metering.sum_gaps ordered
  have once := refill_fill small reading span.2 recent
  have after_eq : after =
      intervals.foldl (fill window.capacity duration) window.consumed.toNat := by
    have times : (earlier ++ [(last, amount)]).map Prod.fst = earlier.map Prod.fst ++ [last] := by
      simp
    have within : ∀ poll ∈ earlier ++ [(last, amount)], poll.1 - opened < 4294967296 := by
      intro poll listed
      have listed' : poll.1 ∈ earlier.map Prod.fst ++ [last] := by
        rw [← times]
        exact List.mem_map_of_mem listed
      have upper := le_last_of_isChain ordered listed'
      omega
    have ordered' : List.IsChain (· ≤ ·)
        (opened :: (earlier ++ [(last, amount)]).map Prod.fst) := by
      rw [times]
      exact ordered
    have filled := polled_fill limited small reading ordered' within
    rw [times] at filled
    exact filled
  rw [rollAndCheck_refill limited, once, ← span.1, after_eq,
    ← Metering.fill_le_foldl_iff window.capacity window.consumed.toNat positive intervals]
  constructor
  · exact fun both => both.1
  · intro fills
    refine ⟨fills, fun waited => ?_⟩
    have full := Metering.fill_full window.capacity window.consumed.toNat positive waited
    have moves : intervals.sum ≠ 0 := Nat.ne_of_gt (positive.trans_le waited)
    have most := Metering.foldl_fill_le window.capacity duration window.consumed.toNat moves
    rw [full] at fills
    exact Nat.le_antisymm most fills

/-- Polls every 10 ms of a bucket that refills 131072 parts an hour. -/
theorem polls_lose_tenMs :
    let window : RateWindow := ⟨500, 3600000, 0, 2⟩
    let after := (window.polled ([(510, 2), (520, 2)] ++ [(530, 2)])).consumed.toNat
    ¬ ((window.rollAndCheck .tokenBucket (UInt32.ofNat 530) 2).1.consumed.toNat ≤ after ∧
      ((3600000 : UInt32).toNat ≤ 530 - 500 → after = window.capacity)) := by
  intro window after kept
  have limit_ne : window.limit ≠ 0 := by decide
  have reading : window.windowStartMs = UInt32.ofNat 500 := rfl
  have ordered : List.IsChain (· ≤ ·)
      (500 :: ([((510 : Nat), (2 : UInt32)), (520, 2)].map Prod.fst ++ [530])) := by decide
  have condition := (polls_lose_nothing_iff limit_ne (by decide) (by decide) reading
    ordered (by decide) 2 2).mp kept
  revert condition
  decide +kernel

end RateWindow

/-! ## Polls by `check` -/

/-- Whatever ops are checked, and whatever the checks come to, a window is only ever polled. -/
theorem checks_polled {B : Build} (bucket : B.rateImpl = .tokenBucket) (budget : Budget)
    {events : List TimedEvent}
    (checks : ∀ timed ∈ events, ∃ op out, timed.event.call = .check op out)
    (res : ResourceId) (index : Nat) :
    ∃ polls : List (Nat × UInt32),
      (polls.map Prod.fst).Sublist (events.map fun timed => timed.clock.now) ∧
        ((timedMachine B).run budget events).window res index =
          (budget.window res index).polled polls := by
  induction events generalizing budget with
  | nil => exact ⟨[], List.Sublist.refl _, rfl⟩
  | cons timed events ih =>
      rcases ih ((timedMachine B).next budget timed)
        fun other listed => checks other (List.mem_cons_of_mem _ listed) with
        ⟨polls, within, same⟩
      rcases checks timed List.mem_cons_self with ⟨op, out, call⟩
      have after : (timedMachine B).next budget timed =
          (check B timed.event.hal budget op out).2.2 := by
        simp [timedMachine, Machine.next, exec, call]
      have rolled := (check_booked B timed.event.hal budget op out).window res index
      rw [← after, timed.now_eq, bucket] at rolled
      rw [Machine.run_cons, same]
      rcases rolled with unchanged | moved
      · exact ⟨polls, within.trans (List.sublist_cons_self _ _), by rw [unchanged]⟩
      · refine ⟨(timed.clock.now, 0) :: polls, within.cons_cons _, ?_⟩
        rw [moved, RateWindow.polled, RateWindow.rollAndCheck_fst]

/-- An hourly limit of two, used up at once. -/
def drained : List TimedEvent :=
  [.at 500 (.setRateLimit 0 2 2), .at 500 (.enter 0 true)]

/-- Checks every 10 ms leave the bucket empty; the last of them alone refills it. -/
theorem checks_lose_tenMs :
    let budget := (timedMachine Build.bucket).run
      ((machine Build.bucket).run .sample oneConsumer) drained
    let polled := (timedMachine Build.bucket).run budget
      [.at 510 (.check 0 true), .at 520 (.check 0 true), .at 530 (.check 0 true)]
    let once := (timedMachine Build.bucket).run budget [.at 530 (.check 0 true)]
    Reachable Build.bucket budget ∧ (budget.window 0 2).limit = 2 ∧
      (budget.window 0 2).windowStartMs = UInt32.ofNat 500 ∧
      ¬ (once.window 0 2).consumed ≤ (polled.window 0 2).consumed := by
  intro budget polled once
  have refilled : (once.window 0 2).consumed = 1 := by decide +kernel
  have empty : (polled.window 0 2).consumed = 0 := by decide +kernel
  refine ⟨?_, by decide +kernel, by decide +kernel, ?_⟩
  · exact ((Reachable.of_started started_bucket).run oneConsumer).run
      (drained.map TimedEvent.event)
  · rw [refilled, empty]
    decide

end Loxbudget
