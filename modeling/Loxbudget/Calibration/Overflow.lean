import Loxbudget.Calibration.Durations

/-!
# The 32-bit words of the estimators

The desired positions grow by up to 65536 with each sample, in signed words of 32 bits: that of
the last marker is 65536 times the number of samples. Up to 32767 samples nothing leaves its
range, and the addition for the next one does.
-/

namespace Loxbudget

namespace P2Estimator

/-! ## Exact steps -/

/-- What one sample computes in `int32_t` has its exact value: the new desired positions, and, as
the adjustment loop comes to each inner marker, its shifted position and its lag. -/
structure StepExact (e : P2Estimator) (x : UInt32) : Prop where
  added : ∀ i < 5, ((e.countSample (x <<< 16)).markerNPrimeQ16 i).toInt =
    (e.markerNPrimeQ16 i).toInt + (e.dnQ16 i).toInt32.toInt
  shifted : ∀ i, 1 ≤ i → i < 4 → ((e.found (x <<< 16) i).markerN i <<< 16).toInt32.toInt =
    ((e.found (x <<< 16) i).markerN i).toNat * 65536
  subtracted : ∀ i, 1 ≤ i → i < 4 → (e.found (x <<< 16) i).lag i =
    ((e.found (x <<< 16) i).markerNPrimeQ16 i).toInt -
      ((e.found (x <<< 16) i).markerN i).toNat * 65536

/-- The estimator after a stream of words of 32 bits. -/
def streamed (pQ16 : UInt32) (xs : List UInt32) : P2Estimator :=
  xs.foldl (addSample · pQ16) (p2Init pQ16)

theorem streamed_append (pQ16 : UInt32) (xs : List UInt32) (x : UInt32) :
    streamed pQ16 (xs ++ [x]) = (streamed pQ16 xs).addSample pQ16 x := by
  rw [streamed, List.foldl_append]
  rfl

/-! ## Positions -/

/-- The positions are increasing up to the number of samples, whatever the heights are. -/
structure Spaced (e : P2Estimator) (n : Nat) : Prop where
  increasing : ∀ i < 4, (e.markerN i).toNat < (e.markerN (i + 1)).toNat
  last : (e.markerN 4).toNat = n

namespace Spaced

variable {e : P2Estimator} {n i : Nat}

theorem seed5 (e : P2Estimator) (pQ16 : UInt32) : (e.seed5 pQ16).Spaced 5 := by
  refine ⟨?_, rfl⟩
  intro i inside
  have lower := Estimates.seed5_pos e pQ16 (show i < 5 by omega)
  have upper := Estimates.seed5_pos e pQ16 (show i + 1 < 5 by omega)
  simp only [markers] at lower upper
  omega

theorem le (spaced : e.Spaced n) (inside : i ≤ 4) : (e.markerN i).toNat ≤ n := by
  have below : ∀ j, i ≤ j → j ≤ 4 → (e.markerN i).toNat ≤ (e.markerN j).toNat := by
    intro j le
    induction j, le using Nat.le_induction with
    | base => exact fun _ => le_rfl
    | succ j _ ih =>
        intro inner
        exact (ih (by omega)).trans (spaced.increasing j (by omega)).le
  rw [← spaced.last]
  exact below 4 inside le_rfl

theorem countSample (spaced : e.Spaced n) (few : n + 1 < 2147483648) (xQ16 : UInt32) :
    (e.countSample xQ16).Spaced (n + 1) := by
  have bumped : ∃ k < 4, (e.countSample xQ16).markerN = fun i =>
      if k < i ∧ i < 5 then e.markerN i + 1 else e.markerN i := by
    simp only [P2Estimator.countSample]
    split
    · exact ⟨0, by decide, rfl⟩
    split
    · exact ⟨3, by decide, rfl⟩
    · refine ⟨_, ?_, rfl⟩
      cases found : e.findCell xQ16 with
      | none => exact (by decide : 0 < 4)
      | some k =>
          have listed := List.mem_of_find?_eq_some found
          simpa using listed
  rcases bumped with ⟨k, inside, bumped⟩
  have up : ∀ i ≤ 4, (e.markerN i + 1).toNat = (e.markerN i).toNat + 1 := by
    intro i inside
    have bound := spaced.le inside
    rw [UInt32.toNat_add]
    simp only [UInt32.reduceToNat]
    omega
  constructor
  · intro i inner
    have before := spaced.increasing i inner
    rw [bumped]
    simp only
    split
    · rename_i above
      rw [if_pos (by omega), up i (by omega), up (i + 1) (by omega)]
      omega
    · split
      · rw [up (i + 1) (by omega)]
        omega
      · exact before
  · rw [bumped]
    simp only
    rw [if_pos (by omega), up 4 le_rfl, spaced.last]

theorem direction_room (e : P2Estimator) (i : Nat) :
    e.direction i = 0 ∨
      e.direction i = 1 ∧ e.markerN (i + 1) - e.markerN i > 1 ∨
      e.direction i = -1 ∧ e.markerN i - e.markerN (i - 1) > 1 := by
  simp only [direction]
  split
  · rename_i up
    exact Or.inr (Or.inl ⟨rfl, up.2⟩)
  split
  · rename_i down
    exact Or.inr (Or.inr ⟨rfl, down.2⟩)
  · exact Or.inl rfl

theorem update (spaced : e.Spaced n) (low : 1 ≤ i) (high : i ≤ 3) {e' : P2Estimator}
    {position : UInt32} (moved : e'.markerN = Function.update e.markerN i position)
    (above : (e.markerN (i - 1)).toNat < position.toNat)
    (below : position.toNat < (e.markerN (i + 1)).toNat) : e'.Spaced n := by
  constructor
  · intro j inner
    rw [moved]
    by_cases here : j = i
    · subst here
      rw [Function.update_self, Function.update_of_ne (by omega)]
      exact below
    · by_cases next : j + 1 = i
      · subst next
        rw [Function.update_self, Function.update_of_ne here]
        exact above
      · rw [Function.update_of_ne here, Function.update_of_ne next]
        exact spaced.increasing j inner
  · rw [moved, Function.update_of_ne (by omega)]
    exact spaced.last

theorem adjust (spaced : e.Spaced n) (few : n < 2147483648) (low : 1 ≤ i) (high : i ≤ 3) :
    (e.adjust i).Spaced n := by
  have below := spaced.increasing (i - 1) (by omega)
  have above := spaced.increasing i (by omega)
  rw [Nat.sub_add_cancel low] at below
  have bound := spaced.le (show i + 1 ≤ 4 by omega)
  have room (lower upper : UInt32) (lt : lower.toNat < upper.toNat) (gap : upper - lower > 1) :
      lower.toNat + 1 < upper.toNat := by
    rw [gt_iff_lt, UInt32.lt_iff_toNat_lt,
      UInt32.toNat_sub_of_le _ _ (UInt32.le_iff_toNat_le.mpr lt.le)] at gap
    simp only [UInt32.reduceToNat] at gap
    omega
  have cast : (e.markerN i).toInt32.toInt = (e.markerN i).toNat := toInt32_toInt (by omega)
  simp only [P2Estimator.adjust]
  split
  · exact spaced
  · rename_i moves
    have position := ofInt_toNat ((e.markerN i).toInt32.toInt + e.direction i)
    rw [cast] at position
    rw [cast]
    rcases direction_room e i with still | ⟨up, gap⟩ | ⟨down, gap⟩
    · exact absurd still moves
    · have space := room _ _ above gap
      rw [up] at position
      rw [up]
      exact spaced.update low high rfl (by omega) (by omega)
    · have space := room _ _ below gap
      rw [down] at position
      rw [down]
      exact spaced.update low high rfl (by omega) (by omega)

theorem found (spaced : e.Spaced n) (few : n + 1 < 2147483648) (xQ16 : UInt32) (high : i ≤ 4) :
    (e.found xQ16 i).Spaced (n + 1) := by
  induction i with
  | zero => exact spaced.countSample few xQ16
  | succ i ih =>
      rcases Nat.eq_zero_or_pos i with rfl | low
      · exact spaced.countSample few xQ16
      · rw [found_succ e xQ16 low]
        exact (ih (by omega)).adjust few low (by omega)

end Spaced

/-! ## The stream -/

/-- The estimator after `n` samples, fewer than 32768: it is collecting the first five, or its
desired positions have the values that they should have. -/
inductive Progress (e : P2Estimator) (pQ16 : UInt32) (n : Nat) : Prop where
  | collecting (few : n < 5) (buffer : Nat → UInt32)
      (slot : e = { p2Init pQ16 with initialBuffer := buffer, count := UInt32.ofNat n })
  | estimating (many : 5 ≤ n) (exact : ExactP2) (tracks : e.Tracks exact pQ16 n)
      (spaced : e.Spaced n) (top : (e.markerNPrimeQ16 4).toInt = 65536 * n)

section Stream

variable {e : P2Estimator} {pQ16 : UInt32} {n : Nat}

theorem increment_top (tracked : ExactP2) (tracks : e.Tracks tracked pQ16 n) :
    (e.dnQ16 4).toInt32.toInt = 65536 :=
  tracks.increments 4 (by decide)

/-- Up to the sample before the 32768th, a step is exact. -/
theorem stepExact_of_tracks {exact : ExactP2} (tracks : e.Tracks exact pQ16 n)
    (spaced : e.Spaced n) (small : pQ16.toNat ≤ 65536) (few : n + 1 < 32768) (x : UInt32) :
    e.StepExact x := by
  have inner (i : Nat) (high : i < 4) :
      ((e.found (x <<< 16) i).markerN i <<< 16).toInt32.toInt =
        ((e.found (x <<< 16) i).markerN i).toNat * 65536 ∧
      ((e.found (x <<< 16) i).markerN i).toNat ≤ n + 1 := by
    have position := (spaced.found (by omega) (x <<< 16) high.le).le high.le
    have scaled := toNat_shiftLeft_sixteen_of_lt
      (show ((e.found (x <<< 16) i).markerN i).toNat < 65536 by omega)
    refine ⟨?_, position⟩
    rw [toInt32_toInt (by omega), scaled]
    push_cast
    rfl
  have desired (i : Nat) : (e.found (x <<< 16) i).markerNPrimeQ16 =
      (e.countSample (x <<< 16)).markerNPrimeQ16 := by
    induction i with
    | zero => rfl
    | succ i ih =>
        rcases Nat.eq_zero_or_pos i with rfl | low
        · rfl
        · rw [found_succ e _ low, (adjust_desired _ _).2]
          exact ih
  refine ⟨?_, fun i _ high => (inner i high).1, ?_⟩
  · intro i inside
    rw [(tracks.advance small few (x <<< 16) inside).1, ExactP2.advance, if_pos inside,
      tracks.desired i inside, tracks.increments i inside]
  · intro i _ high
    have advanced := tracks.advance small few (x <<< 16) (show i < 5 by omega)
    have position := (inner i high).2
    rw [lag, Int32.toInt_sub, (inner i high).1, desired i, advanced.1]
    exact Int.bmod_eq_of_le (by omega) (by omega)

/-- The step lemma. -/
theorem Progress.addSample (progress : e.Progress pQ16 n) (small : pQ16.toNat ≤ 65536)
    (few : n + 1 < 32768) (x : UInt32) : (e.addSample pQ16 x).Progress pQ16 (n + 1) := by
  cases progress with
  | collecting open' buffer slot =>
      subst slot
      have counted : UInt32.ofNat n + 1 = UInt32.ofNat (n + 1) := (UInt32.ofNat_add n 1).symm
      simp only [P2Estimator.addSample]
      rw [if_pos (show (p2Init pQ16).initialized = false from rfl)]
      simp only [counted]
      by_cases last : n = 4
      · subst last
        rw [if_pos (by decide)]
        exact .estimating le_rfl _ (Tracks.seed small [] _) (Spaced.seed5 _ pQ16) rfl
      · have unfilled : UInt32.ofNat (n + 1) ≠ 5 := by
          rw [← UInt32.toNat_inj.ne, UInt32.toNat_ofNat']
          simp only [UInt32.reduceToNat]
          omega
        rw [if_neg unfilled]
        exact .collecting (by omega) _ rfl
  | estimating many exact tracks spaced top =>
      have desired := (addSample_desired tracks.initialized pQ16 x).2
      refine .estimating (by omega) _ (tracks.add small few x 0) ?_ ?_
      · rw [addSample_eq_found tracks.initialized]
        exact spaced.found (by omega) (x <<< 16) le_rfl
      · have added := (stepExact_of_tracks tracks spaced small few x).added 4 (by decide)
        rw [desired, added, top, increment_top exact tracks]
        push_cast
        omega

theorem streamed_progress (small : pQ16.toNat ≤ 65536) {xs : List UInt32}
    (few : xs.length < 32768) : (streamed pQ16 xs).Progress pQ16 xs.length := by
  induction xs using List.reverseRecOn with
  | nil => exact .collecting (by decide) (fun _ => 0) rfl
  | append_singleton xs x ih =>
      rw [List.length_append, List.length_singleton] at few ⊢
      rw [streamed_append]
      exact (ih (by omega)).addSample small few x

theorem streamed_exact (small : pQ16.toNat ≤ 65536) {xs : List UInt32}
    (few : xs.length + 1 < 32768) (initialized : (streamed pQ16 xs).initialized = true)
    (x : UInt32) : (streamed pQ16 xs).StepExact x := by
  cases streamed_progress small (show xs.length < 32768 by omega) with
  | collecting _ buffer slot =>
      rw [slot] at initialized
      cases initialized
  | estimating _ exact tracks spaced _ => exact stepExact_of_tracks tracks spaced small few x

/-- The addition for the 32768th sample leaves the range. -/
theorem streamed_overflow (small : pQ16.toNat ≤ 65536) {xs : List UInt32}
    (last : xs.length = 32767) (x : UInt32) :
    (streamed pQ16 xs).initialized = true ∧ ¬(streamed pQ16 xs).StepExact x := by
  cases streamed_progress small (show xs.length < 32768 by omega) with
  | collecting few => omega
  | estimating _ exact tracks _ top =>
      refine ⟨tracks.initialized, fun stepExact => ?_⟩
      have added := stepExact.added 4 (by decide)
      have range := ((streamed pQ16 xs).countSample (x <<< 16)).markerNPrimeQ16 4 |>.toInt_lt
      rw [top, increment_top exact tracks] at added
      omega

end Stream

end P2Estimator

/-! ## Sessions -/

namespace CalibState

variable {op : OpId} {targetSamples : UInt32} {samples : List Sample} {sample : Sample}

/-- The five estimators of a slot, each with what a sample feeds it. -/
def feeds (s : CalibState) (sample : Sample) : List (P2Estimator × UInt32) :=
  [(s.ramP50, sample.ramUsed.toUInt32), (s.ramP95, sample.ramUsed.toUInt32),
    (s.ramP99, sample.ramUsed.toUInt32), (s.durP95, sample.durationUs),
    (s.durP99, sample.durationUs)]

/-- The estimators that are past their seed take a sample in exact steps. -/
def TakesExactly (s : CalibState) (sample : Sample) : Prop :=
  ∀ fed ∈ s.feeds sample, fed.1.initialized = true → fed.1.StepExact fed.2

theorem fed_eq_streamed (pQ16 : UInt32) (samples : List Sample) :
    P2Estimator.fed pQ16 (samples.map Sample.ramUsed) =
      P2Estimator.streamed pQ16 (samples.map fun sample => sample.ramUsed.toUInt32) := by
  rw [P2Estimator.fed, P2Estimator.streamed, List.foldl_map, List.foldl_map]

/-- Each of the estimators has been fed one word for each sample. -/
theorem feeds_streamed {fed : P2Estimator × UInt32}
    (listed : fed ∈ (session op targetSamples samples).feeds sample) :
    ∃ pQ16 xs, pQ16.toNat ≤ 65536 ∧ xs.length = samples.length ∧
      fed.1 = P2Estimator.streamed pQ16 xs := by
  have reflects := session_reflects op targetSamples samples
  have durations := session_durations op targetSamples samples
  simp only [feeds, List.mem_cons, List.not_mem_nil, or_false] at listed
  rcases listed with rfl | rfl | rfl | rfl | rfl
  · exact ⟨_, _, by decide, List.length_map _, reflects.ramP50.trans (fed_eq_streamed _ _)⟩
  · exact ⟨_, _, by decide, List.length_map _, reflects.ramP95.trans (fed_eq_streamed _ _)⟩
  · exact ⟨_, _, by decide, List.length_map _, reflects.ramP99.trans (fed_eq_streamed _ _)⟩
  · exact ⟨0xF333, _, by decide, List.length_map _, durations.1⟩
  · exact ⟨0xFD70, _, by decide, List.length_map _, durations.2⟩

theorem session_takesExactly (few : samples.length + 1 < 32768) (sample : Sample) :
    (session op targetSamples samples).TakesExactly sample := by
  rintro ⟨e, x⟩ listed initialized
  rcases feeds_streamed listed with ⟨pQ16, xs, small, length, rfl⟩
  exact P2Estimator.streamed_exact small (by omega) initialized x

/-- The 32768th sample is not taken exactly, whatever it is. -/
theorem session_overflows (last : samples.length = 32767) (sample : Sample) :
    ¬(session op targetSamples samples).TakesExactly sample := by
  intro takesExactly
  have listed : ((session op targetSamples samples).ramP50, sample.ramUsed.toUInt32) ∈
      (session op targetSamples samples).feeds sample := List.mem_cons_self
  have stepExact := takesExactly _ listed
  rcases feeds_streamed listed with ⟨pQ16, xs, small, length, streamed⟩
  have overflow := P2Estimator.streamed_overflow small (length.trans last)
    sample.ramUsed.toUInt32
  rw [← streamed] at overflow
  exact overflow.2 (stepExact overflow.1)

end CalibState

/-! ## Runs -/

/-- An accepted sample goes into an active slot. -/
theorem Device.sample_accepted {B : Build} {device : Device} {op : OpId} {sample : Sample}
    (accepted : (Device.exec B device (.calibrateSample op (some sample))).1 = .status .ok) :
    device.calibOff ≠ 0 ∧ (device.slots op).active = true := by
  cases enabled : B.enableCalibration with
  | false =>
      simp only [Device.exec, enabled] at accepted
      cases accepted
  | true =>
      simp only [Device.exec, enabled, if_true, calibrateSample] at accepted
      split at accepted
      · rename_i refused
        exact absurd (DeviceReply.status.inj accepted) refused
      · rename_i admitted
        have session := sessionStatus_ok (not_not.mp admitted)
        exact ⟨session.2.2.1, session.2.2.2.2⟩

/-- Wherever a run accepts these samples for an op, one after the other, it takes each of them
exactly. -/
def TakenExactly (samples : List Sample) : Prop :=
  ∀ (B : Build) (start : Device) (events : List DeviceEvent) (op : OpId) (sample : Sample),
    Device.Started B start →
    (Device.exec B (sampledRun B start events).1 (.calibrateSample op (some sample))).1 =
      .status .ok →
    (sampledRun B start events).2 op ++ [sample] <+: samples →
    ((sampledRun B start events).1.slots op).TakesExactly sample

/-- A stream of samples is taken exactly, by all five estimators, if and only if it has fewer than
32768 samples. -/
theorem takenExactly_iff (samples : List Sample) :
    TakenExactly samples ↔ samples.length < 32768 := by
  constructor
  · intro taken
    by_contra many
    have enabled : Build.full.enableCalibration = true := rfl
    have inside : 32767 < samples.length := by omega
    have fed := feeding_beginSession.feedAll enabled (samples.take 32767)
    rw [List.nil_append, ← Machine.run_append] at fed
    have next : samples.take 32767 ++ [samples[32767]] <+: samples := by
      rw [List.take_append_getElem inside]
      exact List.take_prefix _ _
    have exactly := taken Build.full .sample _ 0 samples[32767] Device.started_sample
      (fed.accepted enabled _) (by rwa [fed.history])
    rw [fed.slot] at exactly
    refine CalibState.session_overflows ?_ _ exactly
    rw [List.length_take]
    omega
  · intro few B start events op sample started accepted within
    have placed := (Device.sample_accepted accepted).1
    have kept : (sampledRun B start events).1.calibOff = start.calibOff := by
      rw [sampledRun, sampledMachine, Machine.observe_run_fst]
      exact Device.run_calibOff B start events
    have sessions := Sessions.run (B := B) (started.slots (kept ▸ placed)) events
    rcases (sessions op).of_active (Device.sample_accepted accepted).2 with
      ⟨targetSamples, -, slot⟩
    have slot' : (sampledRun B start events).1.slots op = .session op targetSamples
        ((sampledRun B start events).2 op) := slot
    have length := within.length_le
    rw [List.length_append, List.length_singleton] at length
    rw [slot']
    exact CalibState.session_takesExactly (by omega) sample

/-- 32768 equal samples are not. -/
theorem long_stream_overflows : ¬TakenExactly (List.replicate 32768 ⟨100, 10⟩) := by
  rw [takenExactly_iff, List.length_replicate]
  decide

end Loxbudget
