import Loxbudget.Calibration.Durations
import Loxbudget.Calibration.Seeding

/-!
# The outliers of a steady stream

A stream whose largest RAM sample is at most 1.2 times its smallest has no outliers: once four
samples are in, the percentile is at least the smallest sample, and so is the baseline. Before
that the percentile is 0, and each of the first three samples is above one and a half times 0.
-/

namespace Loxbudget

namespace CalibState

/-! ## What is counted -/

/-- The sample just taken is counted as an outlier. -/
def Flagged (s : CalibState) (ramUsed : UInt16) : Prop :=
  s.ramP99.getQQ16.toNat + s.ramP99.getQQ16.toNat / 2 < ramUsed.toNat * 65536 ∨
    500 < s.sampleCount.toNat ∧ s.ramMaxAt500 ≠ 0 ∧
      s.ramMaxAt500.toNat * 12 / 10 < ramUsed.toNat

instance (s : CalibState) (ramUsed : UInt16) : Decidable (s.Flagged ramUsed) :=
  inferInstanceAs (Decidable (_ ∨ _))

theorem above_percentile_iff (p99 : UInt32) (ramUsed : UInt16) :
    ramUsed.toUInt64 <<< 16 > p99.toUInt64 + (p99 >>> 1).toUInt64 ↔
      p99.toNat + p99.toNat / 2 < ramUsed.toNat * 65536 := by
  have height := p99.toNat_lt
  have value := ramUsed.toNat_lt
  rw [gt_iff_lt, UInt64.lt_iff_toNat_lt, UInt64.toNat_add, UInt64.toNat_shiftLeft,
    UInt16.toNat_toUInt64, UInt32.toNat_toUInt64, UInt32.toNat_toUInt64, UInt32.toNat_shiftRight]
  simp only [UInt64.reduceToNat, UInt32.reduceToNat, Nat.reduceMod, Nat.shiftLeft_eq,
    Nat.shiftRight_eq_div_pow, Nat.reducePow]
  omega

theorem above_baseline_iff (ramMaxAt500 ramUsed : UInt16) :
    ramUsed.toUInt32 > ramMaxAt500.toUInt32 * 12 / 10 ↔
      ramMaxAt500.toNat * 12 / 10 < ramUsed.toNat := by
  have baseline := ramMaxAt500.toNat_lt
  have fits : ramMaxAt500.toNat * 12 % 2 ^ 32 = ramMaxAt500.toNat * 12 :=
    Nat.mod_eq_of_lt (by omega)
  rw [gt_iff_lt, UInt32.lt_iff_toNat_lt, UInt32.toNat_div, UInt32.toNat_mul,
    UInt16.toNat_toUInt32, UInt16.toNat_toUInt32]
  simp only [UInt32.reduceToNat, fits]

theorem countOutlier_outlierCount (s : CalibState) (ramUsed : UInt16) :
    (s.countOutlier ramUsed).outlierCount =
      if s.Flagged ramUsed then s.outlierCount + 1 else s.outlierCount := by
  have many : s.sampleCount > 500 ↔ 500 < s.sampleCount.toNat := by
    rw [gt_iff_lt, UInt32.lt_iff_toNat_lt]
    rfl
  simp only [countOutlier, above_percentile_iff, above_baseline_iff, many, Flagged]
  grind

def raiseRam (s : CalibState) (ramUsed : UInt16) : CalibState :=
  if ramUsed > s.ramMax then { s with ramMax := ramUsed } else s

def raiseDuration (s : CalibState) (durationUs : UInt32) : CalibState :=
  if durationUs > s.durMaxUs then { s with durMaxUs := durationUs } else s

def takeBaseline (s : CalibState) : CalibState :=
  if s.sampleCount = 500 then { s with ramMaxAt500 := s.ramMax } else s

/-- The slot once a sample is counted and has raised the maxima. -/
def raised (s : CalibState) (sample : Sample) : CalibState :=
  let s := { s with sampleCount := s.sampleCount + 1 }
  ((s.raiseRam sample.ramUsed).raiseDuration sample.durationUs).takeBaseline

theorem raiseRam_eq (s : CalibState) (ramUsed : UInt16) :
    s.raiseRam ramUsed = { s with ramMax := (s.raiseRam ramUsed).ramMax } := by
  simp only [raiseRam]
  split
  all_goals rfl

theorem raiseDuration_eq (s : CalibState) (durationUs : UInt32) :
    s.raiseDuration durationUs =
      { s with durMaxUs := (s.raiseDuration durationUs).durMaxUs } := by
  simp only [raiseDuration]
  split
  all_goals rfl

theorem takeBaseline_eq (s : CalibState) :
    s.takeBaseline =
      { s with ramMaxAt500 := if s.sampleCount = 500 then s.ramMax else s.ramMaxAt500 } := by
  simp only [takeBaseline]
  split
  all_goals rfl

theorem raised_eq (s : CalibState) (sample : Sample) :
    ∃ ramMax durMaxUs, s.raised sample = { s with
      sampleCount := s.sampleCount + 1
      ramMax := ramMax
      durMaxUs := durMaxUs
      ramMaxAt500 := if s.sampleCount + 1 = 500 then ramMax else s.ramMaxAt500 } := by
  rw [raised, takeBaseline_eq, raiseDuration_eq, raiseRam_eq]
  exact ⟨_, _, rfl⟩

/-- The slot as the outlier detection finds it. -/
def entered (s : CalibState) (sample : Sample) : CalibState :=
  let s := s.raised sample
  { s with
    ramP50 := s.ramP50.addSample 0x8000 sample.ramUsed.toUInt32
    ramP95 := s.ramP95.addSample 0xF333 sample.ramUsed.toUInt32
    ramP99 := s.ramP99.addSample 0xFD70 sample.ramUsed.toUInt32 }

theorem addSample_entered (s : CalibState) (sample : Sample) :
    s.addSample sample =
      let s := (s.entered sample).countOutlier sample.ramUsed
      { s with
        durP95 := s.durP95.addSample 0xF333 sample.durationUs
        durP99 := s.durP99.addSample 0xFD70 sample.durationUs } :=
  rfl

/-- What the outlier detection reads, once the sample has entered. -/
theorem entered_eq (s : CalibState) (sample : Sample) :
    (s.entered sample).ramP99 = (s.addSample sample).ramP99 ∧
      (s.entered sample).sampleCount = (s.addSample sample).sampleCount ∧
      (s.entered sample).ramMaxAt500 = (s.addSample sample).ramMaxAt500 ∧
      (s.entered sample).outlierCount = s.outlierCount := by
  rw [addSample_entered, countOutlier_eq]
  refine ⟨rfl, rfl, rfl, ?_⟩
  rcases raised_eq s sample with ⟨_, _, raised⟩
  rw [entered, raised]

/-- A sample is held against the percentile and the baseline that it has already entered. -/
theorem addSample_outlierCount (s : CalibState) (sample : Sample) :
    (s.addSample sample).outlierCount =
      if (s.addSample sample).Flagged sample.ramUsed then s.outlierCount + 1
      else s.outlierCount := by
  rcases entered_eq s sample with ⟨percentile, count, baseline, outliers⟩
  have flagged : (s.entered sample).Flagged sample.ramUsed ↔
      (s.addSample sample).Flagged sample.ramUsed := by
    simp only [Flagged, percentile, count, baseline]
  have counted : (s.addSample sample).outlierCount =
      ((s.entered sample).countOutlier sample.ramUsed).outlierCount := by
    rw [addSample_entered]
  rw [counted, countOutlier_outlierCount, outliers]
  exact if_congr flagged rfl rfl

theorem addSample_ramMaxAt500 (s : CalibState) (sample : Sample) :
    (s.addSample sample).ramMaxAt500 =
      if s.sampleCount + 1 = 500 then (s.addSample sample).ramMax else s.ramMaxAt500 := by
  rcases raised_eq s sample with ⟨_, _, raised⟩
  rw [addSample_entered, countOutlier_eq, entered, raised]

/-! ## Sessions -/

section Session

variable {op : OpId} {targetSamples : UInt32} {samples : List Sample} {sample : Sample}

/-- The baseline is the RAM usage of one of the samples. -/
theorem session_baseline (op : OpId) (targetSamples : UInt32) (samples : List Sample) :
    (session op targetSamples samples).ramMaxAt500 = 0 ∨
      ∃ sample ∈ samples, sample.ramUsed = (session op targetSamples samples).ramMaxAt500 := by
  induction samples using List.reverseRecOn with
  | nil => exact Or.inl rfl
  | append_singleton samples sample ih =>
      have reflects := session_reflects op targetSamples (samples ++ [sample])
      rw [session_append] at reflects ⊢
      rw [addSample_ramMaxAt500, reflects.ramMax]
      split
      · right
        have highest : peak 0 ((samples ++ [sample]).map Sample.ramUsed) ∈
            (samples ++ [sample]).map Sample.ramUsed :=
          peak_mem (fun _ => UInt16.zero_le) (by simp)
        exact List.mem_map.mp highest
      · rcases ih with none | ⟨highest, listed, same⟩
        · exact Or.inl none
        · exact Or.inr ⟨highest, List.mem_append_left _ listed, same⟩

/-- From the fourth sample on, the percentile is not below all of them. -/
theorem session_percentile (op : OpId) (targetSamples : UInt32) (many : 4 ≤ samples.length)
    (few : samples.length < 2147483648) :
    ∃ low ∈ samples, low.ramUsed.toNat * 65536 ≤
      (session op targetSamples samples).ramP99.getQQ16.toNat := by
  rw [(session_reflects op targetSamples samples).ramP99]
  have listed : ∃ low ∈ samples.map Sample.ramUsed, low.toNat * 65536 ≤
      (P2Estimator.fed 0xFD70 (samples.map Sample.ramUsed)).getQQ16.toNat := by
    rcases Nat.lt_or_ge 4 samples.length with five | four
    · have between : ∃ low ∈ samples.map Sample.ramUsed, ∃ high ∈ samples.map Sample.ramUsed,
          low ≤ (P2Estimator.fed 0xFD70 (samples.map Sample.ramUsed)).reported ∧
            (P2Estimator.fed 0xFD70 (samples.map Sample.ramUsed)).reported ≤ high :=
        P2Estimator.reported_between_samples (by rwa [List.length_map])
          (by rwa [List.length_map])
      rcases between with ⟨low, listed, -, -, below, -⟩
      refine ⟨low, listed, ?_⟩
      rw [UInt16.le_iff_toNat_le, P2Estimator.reported_toNat] at below
      omega
    · have four' : (samples.map Sample.ramUsed).length = 4 := by
        rw [List.length_map]
        omega
      have second : 1 < (samples.map Sample.ramUsed).mergeSort.length := by
        rw [List.length_mergeSort, four']
        decide
      rw [P2Estimator.getQQ16_four 0xFD70 four', P2Estimator.shifted_toNat,
        List.getD_eq_getElem _ _ second]
      exact ⟨_, (List.mergeSort_perm _ _).mem_iff.mp (List.getElem_mem second), le_rfl⟩
  rcases listed with ⟨_, listed, below⟩
  rcases List.mem_map.mp listed with ⟨low, listed', rfl⟩
  exact ⟨low, listed', below⟩

end Session

end CalibState

/-- The largest RAM sample is at most 1.2 times the smallest. -/
def SteadyRam (samples : List Sample) : Prop :=
  ∀ low ∈ samples, ∀ high ∈ samples, 10 * high.ramUsed.toNat ≤ 12 * low.ramUsed.toNat

instance (samples : List Sample) : Decidable (SteadyRam samples) :=
  inferInstanceAs (Decidable (∀ low ∈ samples, _))

namespace SteadyRam

variable {op : OpId} {targetSamples : UInt32} {samples : List Sample} {sample : Sample}

theorem subset {part : List Sample} (steady : SteadyRam samples) (within : part ⊆ samples) :
    SteadyRam part :=
  fun low low_listed high high_listed =>
    steady low (within low_listed) high (within high_listed)

theorem positive (steady : SteadyRam samples) (listed : sample ∈ samples)
    (nonzero : sample.ramUsed ≠ 0) : ∀ sample ∈ samples, sample.ramUsed ≠ 0 := by
  intro low low_listed zero
  have bound := steady low low_listed sample listed
  rw [zero] at bound
  rw [← UInt16.toNat_inj.ne] at nonzero
  simp only [UInt16.reduceToNat] at bound nonzero
  omega

theorem not_flagged (steady : SteadyRam samples) (many : 4 ≤ samples.length)
    (few : samples.length < 2147483648) (listed : sample ∈ samples)
    (nonzero : sample.ramUsed ≠ 0) :
    ¬(CalibState.session op targetSamples samples).Flagged sample.ramUsed := by
  have positive := steady.positive listed nonzero
  rcases CalibState.session_percentile op targetSamples many few with
    ⟨low, low_listed, percentile⟩
  have low_nonzero := positive low low_listed
  rw [← UInt16.toNat_inj.ne] at low_nonzero
  have above_low := steady low low_listed sample listed
  rintro (flagged | ⟨-, taken, flagged⟩)
  · simp only [UInt16.reduceToNat] at low_nonzero
    omega
  · rcases CalibState.session_baseline op targetSamples samples with none | ⟨peak, listed', same⟩
    · exact taken none
    · have above_peak := steady peak listed' sample listed
      rw [← same] at flagged
      omega

/-- The first three samples are counted, unless they are 0. -/
theorem flagged (few : samples.length < 4) (nonzero : sample.ramUsed ≠ 0) :
    (CalibState.session op targetSamples samples).Flagged sample.ramUsed := by
  left
  have few' : (samples.map Sample.ramUsed).length < 4 := by rwa [List.length_map]
  rw [(CalibState.session_reflects op targetSamples samples).ramP99,
    P2Estimator.getQQ16_three 0xFD70 few']
  rw [← UInt16.toNat_inj.ne] at nonzero
  simp only [UInt16.reduceToNat] at nonzero
  simp only [UInt32.reduceToNat]
  omega

/-- Of a steady stream that is not 0, the first three samples are counted. -/
theorem session_outlierCount (steady : SteadyRam samples) (few : samples.length < 2147483648)
    (nonzero : ∀ sample ∈ samples, sample.ramUsed ≠ 0) :
    (CalibState.session op targetSamples samples).outlierCount =
      UInt16.ofNat (min 3 samples.length) := by
  induction samples using List.reverseRecOn with
  | nil => rfl
  | append_singleton samples sample ih =>
      have last : sample ∈ samples ++ [sample] :=
        List.mem_append_right _ (List.mem_singleton_self sample)
      have before := ih (steady.subset (List.subset_append_left _ _))
        (by rw [List.length_append] at few; omega)
        (fun sample listed => nonzero sample (List.mem_append_left _ listed))
      have length : (samples ++ [sample]).length = samples.length + 1 := by simp
      rw [CalibState.session_append, CalibState.addSample_outlierCount,
        ← CalibState.session_append, before]
      rcases Nat.lt_or_ge samples.length 3 with start | many
      · have counted : min 3 (samples.length + 1) = min 3 samples.length + 1 := by omega
        rw [if_pos (flagged (by omega) (nonzero sample last)), length, counted, UInt16.ofNat_add]
        rfl
      · have counted : min 3 (samples.length + 1) = min 3 samples.length := by omega
        rw [if_neg (steady.not_flagged (by omega) few last (nonzero sample last)), length, counted]

theorem session_zero (zero : ∀ sample ∈ samples, sample.ramUsed = 0) :
    (CalibState.session op targetSamples samples).outlierCount = 0 := by
  induction samples using List.reverseRecOn with
  | nil => rfl
  | append_singleton samples sample ih =>
      have last := zero sample (List.mem_append_right _ (List.mem_singleton_self sample))
      have before := ih fun sample listed => zero sample (List.mem_append_left _ listed)
      rw [CalibState.session_append, CalibState.addSample_outlierCount, before, last, if_neg]
      rintro (flagged | ⟨-, -, flagged⟩)
      · simp at flagged
      · simp at flagged

end SteadyRam

/-! ## Runs -/

/-- Wherever these are the samples of an op in a run, `outlier_count` is `count`. -/
def OutliersCounted (samples : List Sample) (count : UInt16) : Prop :=
  ∀ (B : Build) (start : Device) (events : List DeviceEvent) (op : OpId),
    Device.Started B start → start.calibOff ≠ 0 → (sampledRun B start events).2 op = samples →
    ((sampledRun B start events).1.slots op).outlierCount = count

theorem outliersCounted_of_session {samples : List Sample} {count : UInt16}
    (session : ∀ op targetSamples,
      (CalibState.session op targetSamples samples).outlierCount = count) :
    OutliersCounted samples count := by
  intro B start events op started placed history
  have sessions := Sessions.run (B := B) (started.slots placed) events
  have origin : ((sampledRun B start events).1.slots op).From op
      ((sampledRun B start events).2 op) := sessions op
  rw [history] at origin
  cases origin with
  | untouched slot none =>
      subst none
      rw [slot]
      exact session op 0
  | running targetSamples _ slot =>
      rw [slot]
      exact session op targetSamples
  | ended targetSamples _ slot =>
      rw [slot]
      exact session op targetSamples

/-- Some run feeds a session exactly these samples. -/
theorem OutliersCounted.session {samples : List Sample} {count : UInt16}
    (counted : OutliersCounted samples count) :
    (CalibState.session 0 1 samples).outlierCount = count := by
  have enabled : Build.full.enableCalibration = true := rfl
  have placed : Device.sample.calibOff ≠ 0 := by decide +kernel
  have fed := feeding_beginSession.feedAll enabled samples
  rw [List.nil_append, ← Machine.run_append] at fed
  rw [← fed.slot]
  exact counted Build.full .sample _ 0 Device.started_sample placed fed.history

/-- In a stream whose largest sample is at most 1.2 times its smallest, no sample is ever counted
as an outlier exactly if all of them are 0. Otherwise the first three are counted and no later
one. -/
theorem steady_outliers {samples : List Sample} (steady : SteadyRam samples) :
    ((∀ part, part <+: samples → OutliersCounted part 0) ↔
        ∀ sample ∈ samples, sample.ramUsed = 0) ∧
      ((∃ sample ∈ samples, sample.ramUsed ≠ 0) → samples.length < 2147483648 →
        OutliersCounted samples (UInt16.ofNat (min 3 samples.length))) := by
  refine ⟨⟨?_, ?_⟩, ?_⟩
  · intro none_counted sample listed
    by_contra nonzero
    have positive := steady.positive listed nonzero
    rcases samples with _ | ⟨first, rest⟩
    · exact List.not_mem_nil listed
    · have within : [first] <+: first :: rest := ⟨rest, rfl⟩
      have one : (CalibState.session 0 1 [first]).outlierCount = 1 :=
        (steady.subset within.subset).session_outlierCount (by simp)
          fun other listed => positive other (within.subset listed)
      rw [(none_counted [first] within).session] at one
      exact absurd one (by decide)
  · intro zero part within
    exact outliersCounted_of_session fun _ _ =>
      SteadyRam.session_zero fun sample listed => zero sample (within.subset listed)
  · rintro ⟨sample, listed, nonzero⟩ few
    exact outliersCounted_of_session fun _ _ =>
      steady.session_outlierCount few (steady.positive listed nonzero)

/-- Samples of 100 and 110 bytes. -/
def steadySamples : List Sample :=
  [⟨100, 10⟩, ⟨110, 10⟩]

theorem steady_outliers_two : OutliersCounted steadySamples 2 := by
  have steady : SteadyRam steadySamples := by decide
  exact (steady_outliers steady).2 (by decide) (by decide)

/-- The first of any number of equal samples is an outlier. -/
theorem constant_stream_outlier :
    SteadyRam [⟨100, 10⟩] ∧ ¬OutliersCounted [⟨100, 10⟩] 0 ∧
      (CalibState.session 0 1 [⟨100, 10⟩]).outlierCount = 1 := by
  have counted : (CalibState.session 0 1 [⟨100, 10⟩]).outlierCount = 1 := by decide +kernel
  refine ⟨by decide, fun none_counted => ?_, counted⟩
  exact absurd (counted.symm.trans none_counted.session) (by decide)

end Loxbudget
