import Loxbudget.Calibration.Limits

/-!
# The percentiles of the durations

The estimators of the durations are those of the RAM usage: a sample enters the marker order
shifted left by sixteen bits, in a word of 32 bits. Durations that fit 16 bits are reported
between the least and the greatest of them; a longer one loses its upper half, and what is
reported then is below 65536 whatever was observed.
-/

namespace Loxbudget

namespace CalibState

variable {op : OpId} {targetSamples : UInt32} {samples : List Sample}

/-- The estimators of a session have been fed the durations as they came. -/
theorem session_durations (op : OpId) (targetSamples : UInt32) (samples : List Sample) :
    (session op targetSamples samples).durP95 =
        (samples.map Sample.durationUs).foldl (P2Estimator.addSample · 0xF333) (p2Init 0xF333) ∧
      (session op targetSamples samples).durP99 =
        (samples.map Sample.durationUs).foldl (P2Estimator.addSample · 0xFD70) (p2Init 0xFD70) := by
  induction samples using List.reverseRecOn with
  | nil => exact ⟨rfl, rfl⟩
  | append_singleton samples sample ih =>
      rw [session_append, List.map_append, List.foldl_append, List.foldl_append]
      rcases addSample_eq (session op targetSamples samples) sample with ⟨_, _, added⟩
      rw [added]
      exact ⟨congrArg (P2Estimator.addSample · 0xF333 sample.durationUs) ih.1,
        congrArg (P2Estimator.addSample · 0xFD70 sample.durationUs) ih.2⟩

end CalibState

namespace P2Estimator

variable {pQ16 : UInt32} {durations : List UInt32}

/-- A stream of durations that fit 16 bits is a stream of 16-bit values. -/
theorem foldl_eq_fed (short : ∀ duration ∈ durations, duration < 65536) :
    durations.foldl (addSample · pQ16) (p2Init pQ16) =
      fed pQ16 (durations.map UInt32.toUInt16) := by
  have widened : (durations.map UInt32.toUInt16).map UInt16.toUInt32 = durations := by
    rw [List.map_map]
    conv_rhs => rw [← List.map_id durations]
    apply List.map_congr_left
    intro duration listed
    have small := UInt32.lt_iff_toNat_lt.mp (short duration listed)
    apply UInt32.toNat_inj.mp
    simp only [UInt32.reduceToNat] at small
    simp only [Function.comp_apply, UInt16.toNat_toUInt32, UInt32.toNat_toUInt16, id_eq]
    omega
  conv_lhs => rw [← widened]
  rw [List.foldl_map, fed]

/-- What is reported of durations that fit 16 bits lies between two of them. -/
theorem percentile_between (short : ∀ duration ∈ durations, duration < 65536)
    (many : 5 ≤ durations.length) (few : durations.length < 2147483648) :
    ∃ low ∈ durations, ∃ high ∈ durations,
      low ≤ (durations.foldl (addSample · pQ16) (p2Init pQ16)).getQQ16 >>> 16 ∧
        (durations.foldl (addSample · pQ16) (p2Init pQ16)).getQQ16 >>> 16 ≤ high := by
  have narrowed {value : UInt16} (listed : value ∈ durations.map UInt32.toUInt16) :
      ∃ duration ∈ durations, duration.toNat = value.toNat := by
    rcases List.mem_map.mp listed with ⟨duration, listed', rfl⟩
    have small := UInt32.lt_iff_toNat_lt.mp (short duration listed')
    simp only [UInt32.reduceToNat] at small
    refine ⟨duration, listed', ?_⟩
    rw [UInt32.toNat_toUInt16]
    omega
  have between : ∃ low ∈ durations.map UInt32.toUInt16, ∃ high ∈ durations.map UInt32.toUInt16,
      low ≤ (fed pQ16 (durations.map UInt32.toUInt16)).reported ∧
        (fed pQ16 (durations.map UInt32.toUInt16)).reported ≤ high :=
    reported_between_samples (by simpa using many) (by simpa using few)
  rw [foldl_eq_fed short]
  rcases between with ⟨low, low_listed, high, high_listed, lower, upper⟩
  rcases narrowed low_listed with ⟨least, least_listed, least_eq⟩
  rcases narrowed high_listed with ⟨greatest, greatest_listed, greatest_eq⟩
  rw [UInt16.le_iff_toNat_le, reported_toNat] at lower upper
  refine ⟨least, least_listed, greatest, greatest_listed, ?_, ?_⟩
  · rw [UInt32.le_iff_toNat_le, shiftRight_toNat]
    omega
  · rw [UInt32.le_iff_toNat_le, shiftRight_toNat]
    omega

/-- No duration from 65536 on is ever reported. -/
theorem percentile_lt (e : P2Estimator) : e.getQQ16 >>> 16 < 65536 := by
  have height := e.getQQ16.toNat_lt
  rw [UInt32.lt_iff_toNat_lt, shiftRight_toNat]
  simp only [UInt32.reduceToNat]
  omega

end P2Estimator

/-! ## Sessions -/

/-- The percentiles lie between the shortest and the longest duration of the samples. -/
def SuggestedProfile.DurationsInRange (profile : SuggestedProfile) (samples : List Sample) : Prop :=
  ∀ shortest longest,
    IsLeast {duration | ∃ sample ∈ samples, sample.durationUs = duration} shortest →
    IsGreatest {duration | ∃ sample ∈ samples, sample.durationUs = duration} longest →
    (shortest ≤ profile.durationP95Us ∧ profile.durationP95Us ≤ longest) ∧
      (shortest ≤ profile.durationP99Us ∧ profile.durationP99Us ≤ longest)

theorem CalibState.session_inRange (op : OpId) (targetSamples : UInt32) {samples : List Sample}
    (short : ∀ sample ∈ samples, sample.durationUs < 65536) (many : 5 ≤ samples.length)
    (few : samples.length < 2147483648) :
    (session op targetSamples samples).computeSuggested.DurationsInRange samples := by
  intro shortest longest least greatest
  have between (pQ16 : UInt32) :
      shortest ≤ ((samples.map Sample.durationUs).foldl (P2Estimator.addSample · pQ16)
          (p2Init pQ16)).getQQ16 >>> 16 ∧
        ((samples.map Sample.durationUs).foldl (P2Estimator.addSample · pQ16)
          (p2Init pQ16)).getQQ16 >>> 16 ≤ longest := by
    have short' : ∀ duration ∈ samples.map Sample.durationUs, duration < 65536 := by
      simpa using short
    rcases P2Estimator.percentile_between short' (by simpa using many) (by simpa using few) with
      ⟨low, low_listed, high, high_listed, lower, upper⟩
    exact ⟨UInt32.le_trans (least.2 (List.mem_map.mp low_listed)) lower,
      UInt32.le_trans upper (greatest.2 (List.mem_map.mp high_listed))⟩
  rcases session_durations op targetSamples samples with ⟨durP95, durP99⟩
  have p95 : (session op targetSamples samples).computeSuggested.durationP95Us =
      (session op targetSamples samples).durP95.getQQ16 >>> 16 := rfl
  have p99 : (session op targetSamples samples).computeSuggested.durationP99Us =
      (session op targetSamples samples).durP99.getQQ16 >>> 16 := rfl
  rw [p95, p99, durP95, durP99]
  exact ⟨between 0xF333, between 0xFD70⟩

/-- A session in which every sample takes 65536 microseconds or longer does not. -/
theorem CalibState.not_inRange_of_long (s : CalibState) {samples : List Sample} {duration : UInt32}
    (long : 65536 ≤ duration) (some_sample : samples ≠ [])
    (constant : ∀ sample ∈ samples, sample.durationUs = duration) :
    ¬s.computeSuggested.DurationsInRange samples := by
  intro inRange
  rcases List.exists_mem_of_ne_nil samples some_sample with ⟨sample, listed⟩
  have observed : ∀ other, (∃ sample ∈ samples, sample.durationUs = other) → other = duration := by
    rintro other ⟨sample, listed, rfl⟩
    exact constant sample listed
  have least : IsLeast {other | ∃ sample ∈ samples, sample.durationUs = other} duration :=
    ⟨⟨sample, listed, constant sample listed⟩, fun other seen =>
      observed other seen ▸ UInt32.le_refl duration⟩
  have greatest : IsGreatest {other | ∃ sample ∈ samples, sample.durationUs = other} duration :=
    ⟨⟨sample, listed, constant sample listed⟩, fun other seen =>
      observed other seen ▸ UInt32.le_refl duration⟩
  have above := (inRange duration duration least greatest).1.1
  have below : s.computeSuggested.durationP95Us < 65536 := s.durP95.percentile_lt
  exact absurd (UInt32.le_trans long above) (UInt32.not_le.mpr below)

/-! ## A session can be fed anything -/

/-- A device in the middle of a session, with the samples of it. -/
structure Feeding (observed : Device × (OpId → List Sample)) (op : OpId) (targetSamples : UInt32)
    (samples : List Sample) : Prop where
  valid : observed.1.budget.calibValidate = .ok
  placed : observed.1.calibOff ≠ 0
  inside : op < observed.1.budget.maxOps
  registered : observed.1.budget.opRegistered op = true
  slot : observed.1.slots op = .session op targetSamples samples
  history : observed.2 op = samples

namespace Feeding

variable {B : Build} {observed : Device × (OpId → List Sample)} {op : OpId}
  {targetSamples : UInt32} {samples : List Sample}

theorem status (feeding : Feeding observed op targetSamples samples) :
    observed.1.sessionStatus op true = .ok := by
  have reflects := CalibState.session_reflects op targetSamples samples
  simp [Device.sessionStatus, feeding.valid, feeding.placed, UInt8.not_le.mpr feeding.inside,
    feeding.registered, feeding.slot, reflects.active, reflects.opId]

theorem accepted (enabled : B.enableCalibration = true)
    (feeding : Feeding observed op targetSamples samples) (sample : Sample) :
    (Device.exec B observed.1 (.calibrateSample op (some sample))).1 = .status .ok := by
  simp [Device.exec, enabled, Device.calibrateSample, feeding.status]

theorem feed (enabled : B.enableCalibration = true)
    (feeding : Feeding observed op targetSamples samples) (sample : Sample) :
    Feeding ((sampledMachine B).next observed (.calibrateSample op (some sample))) op targetSamples
      (samples ++ [sample]) := by
  rcases observed with ⟨device, history⟩
  have status : device.sessionStatus op true = .ok := feeding.status
  have executed : Device.exec B device (.calibrateSample op (some sample)) =
      (.status .ok, { device with
        slots := Function.update device.slots op ((device.slots op).addSample sample) }) := by
    simp [Device.exec, enabled, Device.calibrateSample, status]
  change Feeding ((Device.exec B device (.calibrateSample op (some sample))).2,
    sampled history device (.calibrateSample op (some sample))
      (Device.exec B device (.calibrateSample op (some sample))).1
      (Device.exec B device (.calibrateSample op (some sample))).2) op targetSamples _
  rw [executed]
  refine ⟨feeding.valid, feeding.placed, feeding.inside, feeding.registered, ?_, ?_⟩
  · rw [CalibState.session_append, ← feeding.slot]
    exact Function.update_self ..
  · rw [← feeding.history]
    exact Function.update_self ..

theorem feedAll (enabled : B.enableCalibration = true)
    (feeding : Feeding observed op targetSamples samples) (more : List Sample) :
    Feeding ((sampledMachine B).run observed
      (more.map fun sample => .calibrateSample op (some sample))) op targetSamples
      (samples ++ more) := by
  induction more generalizing observed samples with
  | nil =>
      rw [List.append_nil]
      exact feeding
  | cons sample more ih =>
      have fed := ih (feeding.feed enabled sample)
      rw [List.append_assoc] at fed
      exact fed

theorem reported (enabled : B.enableCalibration = true)
    (feeding : Feeding observed op targetSamples samples) :
    ∃ after, Device.exec B observed.1 (.calibrateEnd op true) =
      (.profile .ok (some (CalibState.session op targetSamples samples).computeSuggested),
        after) := by
  have status := feeding.status
  refine ⟨(Device.exec B observed.1 (.calibrateEnd op true)).2, ?_⟩
  simp only [Device.exec, enabled, if_true, Device.calibrateEnd, status, ne_eq, not_true, if_false,
    feeding.slot]

end Feeding

/-- An op is registered and a session for it is begun. -/
def beginSession : List DeviceEvent :=
  [.core (.permissive (.registerOp (some (.permissive 0)))), .calibrateBegin 0 1]

theorem feeding_beginSession :
    Feeding (sampledRun Build.full .sample beginSession) 0 1 [] :=
  ⟨by decide +kernel, by decide +kernel, by decide +kernel, by decide +kernel, rfl, rfl⟩

/-- Whatever the samples are, some session reports them. -/
theorem reported_of_samples (samples : List Sample) :
    ∃ events after, (sampledRun Build.full .sample events).2 0 = samples ∧
      Device.exec Build.full (sampledRun Build.full .sample events).1 (.calibrateEnd 0 true) =
        (.profile .ok (some (CalibState.session 0 1 samples).computeSuggested), after) := by
  have enabled : Build.full.enableCalibration = true := rfl
  have fed := feeding_beginSession.feedAll enabled samples
  rw [List.nil_append, ← Machine.run_append] at fed
  rcases fed.reported enabled with ⟨after, reported⟩
  exact ⟨_, after, fed.history, reported⟩

/-- Given the durations that can occur: every session of at least five and fewer than 2^31
samples, in whatever run of calls, reports percentiles between the shortest and the longest
duration, exactly if all of them fit 16 bits. -/
theorem durations_in_range_iff (durations : Set UInt32) :
    (∀ (B : Build) (start : Device) (events : List DeviceEvent) (op : OpId)
        (profile : SuggestedProfile) (after : Device), Device.Started B start →
      let samples := (sampledRun B start events).2 op
      Device.exec B (sampledRun B start events).1 (.calibrateEnd op true) =
        (.profile .ok (some profile), after) →
      (∀ sample ∈ samples, sample.durationUs ∈ durations) →
      5 ≤ samples.length → samples.length < 2147483648 → profile.DurationsInRange samples) ↔
    ∀ duration ∈ durations, duration < 65536 := by
  constructor
  · intro inRange duration occurs
    by_contra long
    have constant : ∀ sample ∈ List.replicate 5 (Sample.mk 0 duration),
        sample.durationUs = duration := by
      intro sample listed
      rw [List.eq_of_mem_replicate listed]
    rcases reported_of_samples (List.replicate 5 ⟨0, duration⟩) with
      ⟨events, after, history, reported⟩
    have reported_inRange := inRange Build.full .sample events 0 _ after Device.started_sample
      reported
    rw [history] at reported_inRange
    refine CalibState.not_inRange_of_long _ (UInt32.not_lt.mp long) (by simp) constant
      (reported_inRange (fun sample listed => ?_) (by simp) (by simp))
    rw [constant sample listed]
    exact occurs
  · intro short B start events op profile after started samples reported within many few
    rcases calibrateEnd_session started reported with ⟨targetSamples, rfl⟩
    exact CalibState.session_inRange op targetSamples
      (fun sample listed => short _ (within sample listed)) many few

/-- Five samples of 70 milliseconds are reported as 4464 microseconds. -/
theorem duration_out_of_range :
    ∃ events profile after, Device.exec Build.full (sampledRun Build.full .sample events).1
        (.calibrateEnd 0 true) = (.profile .ok (some profile), after) ∧
      (sampledRun Build.full .sample events).2 0 = List.replicate 5 ⟨0, 70000⟩ ∧
      profile.durationP95Us = 4464 ∧
      ¬profile.DurationsInRange ((sampledRun Build.full .sample events).2 0) := by
  rcases reported_of_samples (List.replicate 5 ⟨0, 70000⟩) with
    ⟨events, after, history, reported⟩
  refine ⟨events, _, after, reported, history, by decide +kernel, ?_⟩
  rw [history]
  exact CalibState.not_inRange_of_long _ (by decide : (65536 : UInt32) ≤ 70000) (by simp)
    (by simp)

end Loxbudget
