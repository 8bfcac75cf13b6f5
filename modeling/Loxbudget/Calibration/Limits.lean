import Loxbudget.Calibration.Sessions

/-!
# The limits that a session suggests

A suggested limit is the greater one of two: a percentile plus a constant, and the
maximum plus a percentage. Each is computed in 32 bits, and those for RAM are narrowed to
16; the margin itself can so throw a limit back to near zero. This file says exactly
when the limits cover what was observed.
-/

namespace Loxbudget

/-- The suggested limits cover the observed maxima and the reported percentiles. -/
structure SuggestedProfile.Covers (profile : SuggestedProfile) (ramMax : UInt16)
    (durationMaxUs : UInt32) : Prop where
  ramMax : ramMax ≤ profile.suggestedRamLimit
  ramP99 : profile.ramP99 ≤ profile.suggestedRamLimit
  durationMax : durationMaxUs ≤ profile.suggestedTimeLimitUs
  durationP99 : profile.durationP99Us ≤ profile.suggestedTimeLimitUs

/-- Ten percent on top of the longest duration stay within 32 bits, and of the two limits for RAM
one stays within 16 bits and is at least the greatest usage and the percentile. -/
def MarginsFit (ramP99 ramMax : UInt16) (durationMaxUs : UInt32) : Prop :=
  durationMaxUs.toNat ≤ 39045157 ∧
    (ramP99.toNat ≤ 65503 ∧ ramMax.toNat ≤ ramP99.toNat + 32 ∨
      ramMax.toNat ≤ 62415 ∧ ramP99.toNat ≤ ramMax.toNat * 105 / 100)

instance (ramP99 ramMax : UInt16) (durationMaxUs : UInt32) :
    Decidable (MarginsFit ramP99 ramMax durationMaxUs) :=
  inferInstanceAs (Decidable (_ ∧ _))

namespace CalibState

variable (s : CalibState)

/-- The two limits for RAM, and the suggestion, in full. -/
theorem suggestedRamLimit_toNat :
    s.computeSuggested.suggestedRamLimit.toNat =
      max ((s.ramP99.reported.toNat + 32) % 65536) (s.ramMax.toNat * 105 / 100 % 65536) := by
  have p99Plus : (s.ramP99.reported.toUInt32 + 32).toUInt16.toNat =
      (s.ramP99.reported.toNat + 32) % 65536 := by
    have small := s.ramP99.reported.toNat_lt
    simp only [UInt32.toNat_toUInt16, UInt32.toNat_add, UInt16.toNat_toUInt32, UInt32.reduceToNat]
    omega
  have maxPlus : (s.ramMax.toUInt32 * 105 / 100).toUInt16.toNat =
      s.ramMax.toNat * 105 / 100 % 65536 := by
    have small := s.ramMax.toNat_lt
    have fits : s.ramMax.toNat * 105 % 4294967296 = s.ramMax.toNat * 105 :=
      Nat.mod_eq_of_lt (by omega)
    simp only [UInt32.toNat_toUInt16, UInt32.toNat_div, UInt32.toNat_mul, UInt16.toNat_toUInt32,
      UInt32.reduceToNat, Nat.reducePow, fits]
  have limit : s.computeSuggested.suggestedRamLimit =
        (s.ramP99.reported.toUInt32 + 32).toUInt16 ∧
          (s.ramMax.toUInt32 * 105 / 100).toUInt16 <
            (s.ramP99.reported.toUInt32 + 32).toUInt16 ∨
      s.computeSuggested.suggestedRamLimit = (s.ramMax.toUInt32 * 105 / 100).toUInt16 ∧
        (s.ramP99.reported.toUInt32 + 32).toUInt16 ≤
          (s.ramMax.toUInt32 * 105 / 100).toUInt16 := by
    simp only [computeSuggested, P2Estimator.reported]
    split
    · rename_i greater
      exact Or.inl ⟨rfl, greater⟩
    · rename_i le
      exact Or.inr ⟨rfl, UInt16.not_lt.mp le⟩
  rw [UInt16.lt_iff_toNat_lt, UInt16.le_iff_toNat_le] at limit
  rw [← p99Plus, ← maxPlus]
  rcases limit with ⟨limit, greater⟩ | ⟨limit, le⟩
  · rw [limit]
    omega
  · rw [limit]
    omega

theorem suggestedTimeLimitUs_toNat :
    s.computeSuggested.suggestedTimeLimitUs.toNat =
      max (s.computeSuggested.durationP99Us.toNat + 500)
        (s.durMaxUs.toNat * 110 % 4294967296 / 100) := by
  have reported : s.computeSuggested.durationP99Us.toNat = s.durP99.getQQ16.toNat / 65536 :=
    P2Estimator.shiftRight_toNat _
  have p99Plus : (s.computeSuggested.durationP99Us + 500).toNat =
      s.computeSuggested.durationP99Us.toNat + 500 := by
    have small := s.durP99.getQQ16.toNat_lt
    simp only [UInt32.toNat_add, UInt32.reduceToNat]
    omega
  have maxPlus : (s.durMaxUs * 110 / 100).toNat = s.durMaxUs.toNat * 110 % 4294967296 / 100 := by
    simp only [UInt32.toNat_div, UInt32.toNat_mul, UInt32.reduceToNat]
  have limit : s.computeSuggested.suggestedTimeLimitUs =
        s.computeSuggested.durationP99Us + 500 ∧
          s.durMaxUs * 110 / 100 < s.computeSuggested.durationP99Us + 500 ∨
      s.computeSuggested.suggestedTimeLimitUs = s.durMaxUs * 110 / 100 ∧
        s.computeSuggested.durationP99Us + 500 ≤ s.durMaxUs * 110 / 100 := by
    simp only [computeSuggested]
    split
    · rename_i greater
      exact Or.inl ⟨rfl, greater⟩
    · rename_i le
      exact Or.inr ⟨rfl, UInt32.not_lt.mp le⟩
  rw [UInt32.lt_iff_toNat_lt, UInt32.le_iff_toNat_le] at limit
  rw [← p99Plus, ← maxPlus]
  rcases limit with ⟨limit, greater⟩ | ⟨limit, le⟩
  · rw [limit]
    omega
  · rw [limit]
    omega

/-- The limits for RAM cover what was observed if and only if one of the margins does. -/
theorem ram_covered_iff :
    s.ramMax ≤ s.computeSuggested.suggestedRamLimit ∧
        s.computeSuggested.ramP99 ≤ s.computeSuggested.suggestedRamLimit ↔
      s.ramP99.reported.toNat ≤ 65503 ∧ s.ramMax.toNat ≤ s.ramP99.reported.toNat + 32 ∨
        s.ramMax.toNat ≤ 62415 ∧ s.ramP99.reported.toNat ≤ s.ramMax.toNat * 105 / 100 := by
  have p99 := s.ramP99.reported.toNat_lt
  have ramMax := s.ramMax.toNat_lt
  have same : s.computeSuggested.ramP99 = s.ramP99.reported := rfl
  rw [same, UInt16.le_iff_toNat_le, UInt16.le_iff_toNat_le, suggestedRamLimit_toNat]
  -- Past either bound the margin leaves almost nothing of the limit.
  have p99Plus : (s.ramP99.reported.toNat + 32) % 65536 = s.ramP99.reported.toNat + 32 ∧
        s.ramP99.reported.toNat ≤ 65503 ∨
      (s.ramP99.reported.toNat + 32) % 65536 < 32 ∧ 65503 < s.ramP99.reported.toNat := by
    omega
  have maxPlus : s.ramMax.toNat * 105 / 100 % 65536 = s.ramMax.toNat * 105 / 100 ∧
        s.ramMax.toNat ≤ 62415 ∨
      s.ramMax.toNat * 105 / 100 % 65536 < 3276 ∧ 62415 < s.ramMax.toNat := by
    rcases le_or_gt s.ramMax.toNat 62415 with fits | wraps
    · exact Or.inl ⟨Nat.mod_eq_of_lt (by omega), fits⟩
    · have low : 65536 ≤ s.ramMax.toNat * 105 / 100 := by omega
      have high : s.ramMax.toNat * 105 / 100 ≤ 68811 := by omega
      rw [Nat.mod_eq_sub_mod low, Nat.mod_eq_of_lt (by omega)]
      exact Or.inr ⟨by omega, wraps⟩
  omega

/-- The time limit covers what was observed if and only if ten percent more fit into 32 bits. -/
theorem duration_covered_iff :
    s.durMaxUs ≤ s.computeSuggested.suggestedTimeLimitUs ∧
        s.computeSuggested.durationP99Us ≤ s.computeSuggested.suggestedTimeLimitUs ↔
      s.durMaxUs.toNat ≤ 39045157 := by
  have small := s.durP99.getQQ16.toNat_lt
  have durMaxUs := s.durMaxUs.toNat_lt
  have reported : s.computeSuggested.durationP99Us.toNat = s.durP99.getQQ16.toNat / 65536 :=
    P2Estimator.shiftRight_toNat _
  rw [UInt32.le_iff_toNat_le, UInt32.le_iff_toNat_le, suggestedTimeLimitUs_toNat]
  -- A product that wraps around leaves less than the factor itself.
  have maxPlus : s.durMaxUs.toNat * 110 % 4294967296 = s.durMaxUs.toNat * 110 ∧
        s.durMaxUs.toNat ≤ 39045157 ∨
      s.durMaxUs.toNat * 110 % 4294967296 / 100 < s.durMaxUs.toNat ∧
        39045157 < s.durMaxUs.toNat := by
    rcases le_or_gt s.durMaxUs.toNat 39045157 with fits | wraps
    · exact Or.inl ⟨Nat.mod_eq_of_lt (by omega), fits⟩
    · have once : 1 ≤ s.durMaxUs.toNat * 110 / 4294967296 := by omega
      have less : s.durMaxUs.toNat * 110 % 4294967296 < 100 * s.durMaxUs.toNat := by omega
      exact Or.inr ⟨Nat.div_lt_of_lt_mul less, wraps⟩
  omega

theorem computeSuggested_covers_iff :
    s.computeSuggested.Covers s.ramMax s.durMaxUs ↔
      MarginsFit s.ramP99.reported s.ramMax s.durMaxUs := by
  rw [MarginsFit, ← s.ram_covered_iff, ← s.duration_covered_iff]
  constructor
  · rintro ⟨ramMax, ramP99, durationMax, durationP99⟩
    exact ⟨⟨durationMax, durationP99⟩, ramMax, ramP99⟩
  · rintro ⟨⟨durationMax, durationP99⟩, ramMax, ramP99⟩
    exact ⟨ramMax, ramP99, durationMax, durationP99⟩

end CalibState

/-! ## The percentile of a session -/

namespace P2Estimator

variable {values : List UInt16} {pQ16 : UInt32} {top : UInt16}

/-- Before the seed, the reported value is one of those in the buffer, or 0. -/
theorem reported_few (few : values.length < 5) (below : ∀ value ∈ values, value ≤ top) :
    (fed pQ16 values).reported ≤ top := by
  have counted : (UInt32.ofNat values.length).toNat = values.length := by
    rw [UInt32.toNat_ofNat']
    omega
  rw [fed_few pQ16 few, reported, getQQ16]
  simp only [p2Init, zero, if_true, counted]
  split
  · exact UInt16.zero_le
  have middle : (UInt32.ofNat values.length / 2).toNat < 5 := by
    simp only [UInt32.toNat_div, counted, UInt32.reduceToNat]
    omega
  rcases (mem_sort5 _ _).mp ⟨_, middle, rfl⟩ with ⟨k, -, same⟩
  rw [← same]
  split
  · rename_i inside
    have listed : values.getD k 0 ∈ values := by
      rw [List.getD_eq_getElem _ _ inside]
      exact List.getElem_mem inside
    have bound := UInt16.le_iff_toNat_le.mp (below _ listed)
    apply UInt16.le_iff_toNat_le.mpr
    rw [UInt32.toNat_toUInt16, shiftRight_toNat, buffered, shifted_toNat]
    omega
  · exact UInt16.zero_le

/-- From the fifth sample on, the reported value lies between two samples. -/
theorem reported_between_samples (many : 5 ≤ values.length) (few : values.length < 2147483648) :
    ∃ low ∈ values, ∃ high ∈ values,
      low ≤ (fed pQ16 values).reported ∧ (fed pQ16 values).reported ≤ high := by
  have estimates := fed_estimates pQ16 few
  generalize fed pQ16 values = e at estimates ⊢
  cases estimates with
  | collecting _ few' => omega
  | estimating initialized _ count least greatest ordered isLeast isGreatest =>
      rcases isLeast.1 with ⟨low, low_listed, rfl⟩
      rcases isGreatest.1 with ⟨high, high_listed, rfl⟩
      exact ⟨low, low_listed, high, high_listed,
        reported_between initialized (invariant_of_ordered count ordered)⟩

theorem reported_le (few : values.length < 2147483648) (below : ∀ value ∈ values, value ≤ top) :
    (fed pQ16 values).reported ≤ top := by
  rcases lt_or_ge values.length 5 with open' | many
  · exact reported_few open' below
  · rcases reported_between_samples many few with ⟨_, -, high, listed, -, upper⟩
    exact UInt16.le_trans upper (below high listed)

end P2Estimator

/-! ## Runs -/

namespace Device

/-- No call moves the slots, and only the calls of the core change the instance. -/
theorem exec_frame (B : Build) (device : Device) (event : DeviceEvent) :
    (Device.exec B device event).2.calibOff = device.calibOff ∧
      ((Device.exec B device event).2.budget = device.budget ∨
        ∃ core, (Device.exec B device event).2.budget = (machine B).next device.budget core) := by
  cases event with
  | core event => exact ⟨rfl, Or.inr ⟨event, rfl⟩⟩
  | calibrateBegin op targetSamples =>
      simp only [Device.exec]
      split
      · rcases device.calibrateBegin_cases op targetSamples with ⟨_, -, same⟩ | ⟨-, -, begun⟩
        · rw [same]
          exact ⟨rfl, Or.inl rfl⟩
        · rw [begun]
          exact ⟨rfl, Or.inl rfl⟩
      · exact ⟨rfl, Or.inl rfl⟩
  | calibrateSample op sample =>
      simp only [Device.exec]
      split
      · rcases device.calibrateSample_cases op sample with ⟨_, -, same⟩ | ⟨_, -, -, added⟩
        · rw [same]
          exact ⟨rfl, Or.inl rfl⟩
        · rw [added]
          exact ⟨rfl, Or.inl rfl⟩
      · exact ⟨rfl, Or.inl rfl⟩
  | calibrateEnd op out =>
      simp only [Device.exec]
      split
      · rcases device.calibrateEnd_cases op out with ⟨_, -, same⟩ | ⟨-, -, ended⟩
        · rw [same]
          exact ⟨rfl, Or.inl rfl⟩
        · rw [ended]
          exact ⟨rfl, Or.inl rfl⟩
      · exact ⟨rfl, Or.inl rfl⟩
  | calibrationExportSize outSize =>
      simp only [Device.exec]
      split
      · exact ⟨rfl, Or.inl rfl⟩
      · exact ⟨rfl, Or.inl rfl⟩
  | calibrationExport out outWritten =>
      simp only [Device.exec]
      split
      · exact ⟨rfl, Or.inl rfl⟩
      · exact ⟨rfl, Or.inl rfl⟩

theorem run_calibOff (B : Build) (device : Device) (events : List DeviceEvent) :
    ((deviceMachine B).run device events).calibOff = device.calibOff := by
  induction events generalizing device with
  | nil => rfl
  | cons event events ih => exact (ih _).trans (exec_frame B device event).1

/-- The instance of a device runs through states that the core reaches. -/
theorem run_budget {B : Build} {device : Device} (reachable : Loxbudget.Reachable B device.budget)
    (events : List DeviceEvent) :
    Loxbudget.Reachable B ((deviceMachine B).run device events).budget := by
  induction events generalizing device with
  | nil => exact reachable
  | cons event events ih =>
      apply ih
      rcases (exec_frame B device event).2 with same | ⟨core, next⟩
      · exact same ▸ reachable
      · exact next ▸ reachable.run [core]

/-- What a successful `init` has made. -/
theorem Started.cases {B : Build} {device : Device} (started : Device.Started B device) :
    ∃ hal previous args cfg, Loxbudget.init B hal previous args = (.ok, device.budget) ∧
      device.calibOff = B.calibOff cfg ∧
      (device.calibOff ≠ 0 → device.slots = fun _ => .zero) := by
  rcases started with ⟨hal, previous, args, initialised⟩
  rcases begun : Loxbudget.init B hal previous.budget args with ⟨status, budget⟩
  have accepted : status = .ok := by
    simp only [Device.init, begun] at initialised
    repeat' split at initialised
    all_goals exact congrArg Prod.fst initialised
  subst accepted
  rcases init_ok begun with ⟨valid, cfg, given, -⟩
  simp only [Device.init, begun, valid, given, ne_eq, not_true, if_false] at initialised
  have reached := congrArg Prod.snd initialised
  subst reached
  exact ⟨hal, previous.budget, args, cfg, begun, rfl, fun placed => if_pos placed⟩

theorem Started.slots {B : Build} {device : Device} (started : Device.Started B device)
    (placed : device.calibOff ≠ 0) : device.slots = fun _ => .zero := by
  rcases started.cases with ⟨_, _, _, _, -, -, cleared⟩
  exact cleared placed

end Device

/-- The devices that a run comes to when its samples are written down. -/
abbrev sampledRun (B : Build) (start : Device) (events : List DeviceEvent) :
    Device × (OpId → List Sample) :=
  (sampledMachine B).run (start, fun _ => []) events

section

variable {B : Build} {start : Device} {events : List DeviceEvent} {op : OpId}
  {profile : SuggestedProfile} {after : Device} {ramMax : UInt16} {durationMaxUs : UInt32}

/-- What an accepted `loxbudget_calibrate_end` reports. -/
theorem calibrateEnd_session (started : Device.Started B start)
    (ended : Device.exec B (sampledRun B start events).1 (.calibrateEnd op true) =
      (.profile .ok (some profile), after)) :
    ∃ targetSamples, profile = (CalibState.session op targetSamples
      ((sampledRun B start events).2 op)).computeSuggested := by
  have kept : (sampledRun B start events).1.calibOff = start.calibOff := by
    rw [sampledRun, sampledMachine, Machine.observe_run_fst]
    exact Device.run_calibOff B start events
  cases enabled : B.enableCalibration with
  | false =>
      simp only [Device.exec, enabled] at ended
      cases ended
  | true =>
      rcases (sampledRun B start events).1.calibrateEnd_cases op true with
        ⟨status, refused, same⟩ | ⟨placed, active, accepted⟩
      · simp only [Device.exec, enabled, if_true, same] at ended
        exact absurd (DeviceReply.profile.inj (Prod.mk.inj ended).1).1 refused
      · simp only [Device.exec, enabled, if_true, accepted] at ended
        have reported := Option.some.inj (DeviceReply.profile.inj (Prod.mk.inj ended).1).2
        have sessions := Sessions.run (B := B) (started.slots (kept ▸ placed)) events
        rcases (sessions op).of_active active with ⟨targetSamples, -, slot⟩
        exact ⟨targetSamples, reported.symm.trans (congrArg CalibState.computeSuggested slot)⟩

/-- For every session of at least one sample, in whatever run of calls: the reported maxima are the
true ones, and the suggested limits cover what was observed if and only if the margins fit. -/
theorem suggested_limits_cover_iff (started : Device.Started B start)
    (ended : Device.exec B (sampledRun B start events).1 (.calibrateEnd op true) =
      (.profile .ok (some profile), after))
    (ram : IsGreatest {ram | ∃ sample ∈ (sampledRun B start events).2 op, sample.ramUsed = ram}
      ramMax)
    (duration : IsGreatest {duration | ∃ sample ∈ (sampledRun B start events).2 op,
      sample.durationUs = duration} durationMaxUs) :
    profile.ramMax = ramMax ∧ profile.durationMaxUs = durationMaxUs ∧
      (profile.Covers ramMax durationMaxUs ↔
        MarginsFit (P2Estimator.fed 0xFD70
          (((sampledRun B start events).2 op).map Sample.ramUsed)).reported
          ramMax durationMaxUs) := by
  rcases calibrateEnd_session started ended with ⟨targetSamples, rfl⟩
  generalize (sampledRun B start events).2 op = samples at ram duration ⊢
  have reflects := CalibState.session_reflects op targetSamples samples
  have covers := (CalibState.session op targetSamples samples).computeSuggested_covers_iff
  have ramMax_eq : (CalibState.session op targetSamples samples).ramMax = ramMax := by
    rw [reflects.ramMax]
    apply peak_eq fun _ => UInt16.zero_le
    simpa only [List.mem_map] using ram
  have durMaxUs_eq : (CalibState.session op targetSamples samples).durMaxUs = durationMaxUs := by
    rw [reflects.durMaxUs]
    apply peak_eq fun _ => UInt32.zero_le
    simpa only [List.mem_map] using duration
  rw [ramMax_eq, durMaxUs_eq, reflects.ramP99] at covers
  exact ⟨ramMax_eq, durMaxUs_eq, covers⟩

/-- In fewer than 2^31 samples the percentile is not above the maximum, and one bound on the
maximum does, unless the percentile alone covers it. -/
theorem marginsFit_iff {samples : List UInt16} (few : samples.length < 2147483648)
    (ram : IsGreatest {ram | ram ∈ samples} ramMax) :
    MarginsFit (P2Estimator.fed 0xFD70 samples).reported ramMax durationMaxUs ↔
      durationMaxUs.toNat ≤ 39045157 ∧ (ramMax.toNat ≤ 62415 ∨
        (P2Estimator.fed 0xFD70 samples).reported.toNat ≤ 65503 ∧
          ramMax.toNat ≤ (P2Estimator.fed 0xFD70 samples).reported.toNat + 32) := by
  have below : (P2Estimator.fed 0xFD70 samples).reported ≤ ramMax :=
    P2Estimator.reported_le few fun value listed => ram.2 listed
  have below' := UInt16.le_iff_toNat_le.mp below
  rw [MarginsFit]
  omega

end

/-! ## A session that overflows -/

/-- A device after `init` with the sample configuration. -/
def Device.sample : Device :=
  (Device.init Build.full (Hal.permissive 0) .zero .sample).2

theorem Device.started_sample : Device.Started Build.full .sample :=
  ⟨Hal.permissive 0, .zero, .sample, Prod.ext (by decide +kernel) rfl⟩

/-- A session with one sample. -/
def oneSample (sample : Sample) : List DeviceEvent :=
  [.core (.permissive (.registerOp (some (.permissive 0)))), .calibrateBegin 0 1,
    .calibrateSample 0 (some sample)]

/-- Five percent on top of 65535 are 3275. -/
theorem suggested_limit_overflows :
    ∃ profile after, Device.exec Build.full (sampledRun Build.full .sample
        (oneSample ⟨65535, 0⟩)).1 (.calibrateEnd 0 true) = (.profile .ok (some profile), after) ∧
      profile.ramMax = 65535 ∧ profile.suggestedRamLimit = 3275 ∧ ¬profile.Covers 65535 0 := by
  refine ⟨⟨0, 0, 0, 65535, 0, 0, 0, 3275, 500, 1, 1⟩, _, Prod.ext (by decide +kernel) rfl, rfl,
    rfl, ?_⟩
  intro covers
  exact absurd covers.ramMax (by decide)

theorem suggested_limits_cover_iff_oneSample :
    ∃ profile after, Device.exec Build.full (sampledRun Build.full .sample
        (oneSample ⟨512, 2000⟩)).1 (.calibrateEnd 0 true) = (.profile .ok (some profile), after) ∧
      profile.Covers 512 2000 := by
  have history : (sampledRun Build.full .sample (oneSample ⟨512, 2000⟩)).2 0 = [⟨512, 2000⟩] := by
    decide +kernel
  have ended : (Device.exec Build.full (sampledRun Build.full .sample
      (oneSample ⟨512, 2000⟩)).1 (.calibrateEnd 0 true)).1 =
      .profile .ok (some ⟨0, 0, 0, 512, 0, 0, 2000, 537, 2200, 1, 1⟩) := by decide +kernel
  refine ⟨_, _, Prod.ext ended rfl, ?_⟩
  refine (suggested_limits_cover_iff Device.started_sample (Prod.ext ended rfl) ?_ ?_).2.2.mpr ?_
  · rw [history]
    exact ⟨⟨_, List.mem_singleton_self _, rfl⟩, by simp [upperBounds]⟩
  · rw [history]
    exact ⟨⟨_, List.mem_singleton_self _, rfl⟩, by simp [upperBounds]⟩
  · rw [history]
    decide +kernel

end Loxbudget
