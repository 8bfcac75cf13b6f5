import Loxbudget.Calibration.Exact
import Loxbudget.Model.Calibration

/-!
# Calibration sessions and the limits they suggest

Between an accepted `calibrate_begin` and the next one, the slot of an op is what its
samples make of a fresh slot, whatever other calls come in between; its end only clears
the active flag. The suggested limits are computed from it with a margin, in 16 or 32
bits: they cover the observed maxima exactly as long as the margin does not overflow, or
the other margin makes up for it.
-/

namespace Loxbudget

/-! ## Running maxima -/

section Peak

variable {α : Type} [LT α] [DecidableLT α]

/-- The greatest value so far. -/
def peak (bottom : α) (values : List α) : α :=
  values.foldl (fun highest value => if value > highest then value else highest) bottom

theorem peak_append (bottom : α) (values : List α) (value : α) :
    peak bottom (values ++ [value]) =
      if value > peak bottom values then value else peak bottom values := by
  rw [peak, List.foldl_append]
  rfl

variable [LE α] [Std.IsLinearOrder α] [Std.LawfulOrderLT α] {bottom : α} {values : List α}

theorem le_peak : ∀ value ∈ values, value ≤ peak bottom values := by
  induction values using List.reverseRecOn with
  | nil => exact fun _ listed => absurd listed List.not_mem_nil
  | append_singleton values last ih =>
      intro value listed
      rw [peak_append]
      rcases List.mem_append.mp listed with before | here
      · have below := ih value before
        split
        · rename_i higher
          exact Std.le_trans below (Std.le_of_lt higher)
        · exact below
      · rw [List.mem_singleton.mp here]
        split
        · exact Std.le_refl last
        · rename_i lower
          exact Std.not_lt.mp lower

theorem peak_mem (least : ∀ value, bottom ≤ value) (nonempty : values ≠ []) :
    peak bottom values ∈ values := by
  induction values using List.reverseRecOn with
  | nil => exact absurd rfl nonempty
  | append_singleton values last ih =>
      rw [peak_append]
      split
      · exact List.mem_append_right _ (List.mem_singleton_self last)
      · rename_i lower
        rcases List.eq_nil_or_concat' values with rfl | ⟨before, value, rfl⟩
        · have same : last = bottom :=
            Std.le_antisymm (Std.not_lt.mp lower) (least last)
          rw [same]
          exact List.mem_append_right _ (List.mem_singleton_self bottom)
        · exact List.mem_append_left _ (ih (by simp))

/-- The running maximum is the true maximum. -/
theorem peak_eq (least : ∀ value, bottom ≤ value) {top : α}
    (greatest : IsGreatest {value | value ∈ values} top) : peak bottom values = top := by
  have nonempty : values ≠ [] := List.ne_nil_of_mem greatest.1
  exact Std.le_antisymm (greatest.2 (peak_mem least nonempty)) (le_peak top greatest.1)

end Peak

/-! ## What one sample does to a slot -/

namespace CalibState

theorem countOutlier_eq (s : CalibState) (ramUsed : UInt16) :
    s.countOutlier ramUsed =
      { s with outlierCount := (s.countOutlier ramUsed).outlierCount } := by
  simp only [countOutlier]
  split
  · rfl
  split
  · split
    · rfl
    · rfl
  · rfl

/-- The spec lemma of a sample: only the baseline and the outliers depend on more than the field
itself. -/
theorem addSample_eq (s : CalibState) (sample : Sample) :
    ∃ ramMaxAt500 outlierCount, s.addSample sample =
      { s with
        sampleCount := s.sampleCount + 1
        ramP50 := s.ramP50.addSample 0x8000 sample.ramUsed.toUInt32
        ramP95 := s.ramP95.addSample 0xF333 sample.ramUsed.toUInt32
        ramP99 := s.ramP99.addSample 0xFD70 sample.ramUsed.toUInt32
        durP95 := s.durP95.addSample 0xF333 sample.durationUs
        durP99 := s.durP99.addSample 0xFD70 sample.durationUs
        ramMax := if sample.ramUsed > s.ramMax then sample.ramUsed else s.ramMax
        ramMaxAt500 := ramMaxAt500
        outlierCount := outlierCount
        durMaxUs := if sample.durationUs > s.durMaxUs then sample.durationUs else s.durMaxUs } := by
  rw [addSample]
  rw [countOutlier_eq]
  split
  all_goals split
  all_goals split
  all_goals exact ⟨_, _, rfl⟩

/-- The slot after the samples of a session. -/
def session (op : OpId) (targetSamples : UInt32) (samples : List Sample) : CalibState :=
  samples.foldl addSample (started op targetSamples)

theorem session_append (op : OpId) (targetSamples : UInt32) (samples : List Sample)
    (sample : Sample) :
    session op targetSamples (samples ++ [sample]) =
      (session op targetSamples samples).addSample sample := by
  rw [session, List.foldl_append]
  rfl

/-- A slot that reflects the samples of its session. -/
structure Reflects (s : CalibState) (op : OpId) (targetSamples : UInt32) (samples : List Sample) :
    Prop where
  active : s.active = true
  opId : s.opId = op
  target : s.targetSamples = targetSamples
  sampleCount : s.sampleCount = UInt32.ofNat samples.length
  ramP50 : s.ramP50 = .fed 0x8000 (samples.map Sample.ramUsed)
  ramP95 : s.ramP95 = .fed 0xF333 (samples.map Sample.ramUsed)
  ramP99 : s.ramP99 = .fed 0xFD70 (samples.map Sample.ramUsed)
  ramMax : s.ramMax = peak 0 (samples.map Sample.ramUsed)
  durMaxUs : s.durMaxUs = peak 0 (samples.map Sample.durationUs)

theorem session_reflects (op : OpId) (targetSamples : UInt32) (samples : List Sample) :
    (session op targetSamples samples).Reflects op targetSamples samples := by
  induction samples using List.reverseRecOn with
  | nil => exact ⟨rfl, rfl, rfl, rfl, rfl, rfl, rfl, rfl, rfl⟩
  | append_singleton samples sample ih =>
      rw [session_append]
      rcases addSample_eq (session op targetSamples samples) sample with ⟨_, _, added⟩
      rw [added]
      refine ⟨ih.active, ih.opId, ih.target, ?_, ?_, ?_, ?_, ?_, ?_⟩
      · rw [ih.sampleCount, List.length_append, UInt32.ofNat_add]
        rfl
      · rw [ih.ramP50, List.map_append]
        exact (P2Estimator.fed_append _ _ _).symm
      · rw [ih.ramP95, List.map_append]
        exact (P2Estimator.fed_append _ _ _).symm
      · rw [ih.ramP99, List.map_append]
        exact (P2Estimator.fed_append _ _ _).symm
      · rw [ih.ramMax, List.map_append]
        exact (peak_append _ _ _).symm
      · rw [ih.durMaxUs, List.map_append]
        exact (peak_append _ _ _).symm

end CalibState

/-! ## Sessions in a run -/

/-- The samples that were accepted for each op since its last accepted `calibrate_begin`. -/
def sampled (history : OpId → List Sample) (_ : Device) (event : DeviceEvent)
    (reply : DeviceReply) (_ : Device) : OpId → List Sample :=
  match event, reply with
  | .calibrateBegin op _, .status .ok => Function.update history op []
  | .calibrateSample op (some sample), .status .ok =>
      Function.update history op (history op ++ [sample])
  | _, _ => history

/-- The device with its history of samples. -/
def sampledMachine (B : Build) : Machine (Device × (OpId → List Sample)) DeviceEvent DeviceReply :=
  (deviceMachine B).observe sampled

/-- How a slot has come about: no session yet, one under way, or one that has ended. -/
inductive CalibState.From (s : CalibState) (op : OpId) (samples : List Sample) : Prop where
  | untouched (slot : s = .zero) (none : samples = [])
  | running (targetSamples : UInt32) (nonzero : targetSamples ≠ 0)
      (slot : s = .session op targetSamples samples)
  | ended (targetSamples : UInt32) (nonzero : targetSamples ≠ 0)
      (slot : s = { CalibState.session op targetSamples samples with active := false })

/-- The invariant of a device with its history. -/
def Sessions (observed : Device × (OpId → List Sample)) : Prop :=
  ∀ op, (observed.1.slots op).From op (observed.2 op)

namespace Device

variable {device : Device} {op : OpId}

theorem calibrateBegin_cases (device : Device) (op : OpId) (targetSamples : UInt32) :
    (∃ status, status ≠ .ok ∧ device.calibrateBegin op targetSamples = (status, device)) ∨
      targetSamples ≠ 0 ∧ (device.slots op).active = false ∧
        device.calibrateBegin op targetSamples =
          (.ok, { device with
            slots := Function.update device.slots op (.started op targetSamples) }) := by
  simp only [calibrateBegin]
  split
  · rename_i invalid
    exact Or.inl ⟨_, invalid, rfl⟩
  split
  · exact Or.inl ⟨_, by decide, rfl⟩
  rename_i nonzero
  split
  · exact Or.inl ⟨_, by decide, rfl⟩
  split
  · exact Or.inl ⟨_, by decide, rfl⟩
  split
  · exact Or.inl ⟨_, by decide, rfl⟩
  split
  · exact Or.inl ⟨_, by decide, rfl⟩
  · rename_i inactive
    exact Or.inr ⟨nonzero, by simpa using inactive, rfl⟩

/-- A session that is accepted is that of the op. -/
theorem sessionStatus_ok {given : Bool} (accepted : device.sessionStatus op given = .ok) :
    given = true ∧ device.budget.calibValidate = .ok ∧ device.calibOff ≠ 0 ∧
      op < device.budget.maxOps ∧ (device.slots op).active = true := by
  simp only [sessionStatus] at accepted
  split at accepted
  · cases accepted
  rename_i given
  split at accepted
  · rename_i invalid
    exact absurd accepted invalid
  rename_i valid
  split at accepted
  · cases accepted
  rename_i placed
  split at accepted
  · cases accepted
  rename_i inside
  split at accepted
  · cases accepted
  split at accepted
  · cases accepted
  rename_i mine
  exact ⟨by simpa using given, not_not.mp valid, placed, UInt8.not_le.mp inside,
    by simpa using (not_or.mp mine).1⟩

theorem calibrateSample_cases (device : Device) (op : OpId) (sample : Option Sample) :
    (∃ status, status ≠ .ok ∧ device.calibrateSample op sample = (status, device)) ∨
      ∃ given, sample = some given ∧ (device.slots op).active = true ∧
        device.calibrateSample op sample =
          (.ok, { device with
            slots := Function.update device.slots op ((device.slots op).addSample given) }) := by
  simp only [calibrateSample]
  split
  · rename_i refused
    exact Or.inl ⟨_, refused, rfl⟩
  · rename_i accepted
    have session := sessionStatus_ok (not_not.mp accepted)
    cases sample with
    | none => cases session.1
    | some given => exact Or.inr ⟨given, rfl, session.2.2.2.2, rfl⟩

theorem calibrateEnd_cases (device : Device) (op : OpId) (out : Bool) :
    (∃ status, status ≠ .ok ∧ device.calibrateEnd op out = (status, none, device)) ∨
      device.calibOff ≠ 0 ∧ (device.slots op).active = true ∧
        device.calibrateEnd op out =
          (.ok, some (device.slots op).computeSuggested, { device with
            slots := Function.update device.slots op
              { device.slots op with active := false } }) := by
  simp only [calibrateEnd]
  split
  · rename_i refused
    exact Or.inl ⟨_, refused, rfl⟩
  · rename_i accepted
    have session := sessionStatus_ok (not_not.mp accepted)
    exact Or.inr ⟨session.2.2.1, session.2.2.2.2, rfl⟩

end Device

namespace CalibState.From

variable {s : CalibState} {op : OpId} {samples : List Sample}

/-- An active slot is in the middle of a session. -/
theorem of_active (origin : s.From op samples) (active : s.active = true) :
    ∃ targetSamples, targetSamples ≠ 0 ∧ s = .session op targetSamples samples := by
  cases origin with
  | untouched slot _ =>
      rw [slot] at active
      cases active
  | running targetSamples nonzero slot => exact ⟨targetSamples, nonzero, slot⟩
  | ended targetSamples _ slot =>
      rw [slot] at active
      cases active

end CalibState.From

namespace Sessions

variable {observed : Device × (OpId → List Sample)} {B : Build}

/-- A call that changes the slot and the history of one op. -/
theorem update (sessions : Sessions observed) {slots : OpId → CalibState}
    {history : OpId → List Sample} {op : OpId} {s : CalibState} {samples : List Sample}
    (slots_eq : slots = Function.update observed.1.slots op s)
    (history_eq : history = Function.update observed.2 op samples)
    (origin : s.From op samples) (other : OpId) : (slots other).From other (history other) := by
  rw [slots_eq, history_eq]
  by_cases here : other = op
  · subst here
    rwa [Function.update_self, Function.update_self]
  · rw [Function.update_of_ne here, Function.update_of_ne here]
    exact sessions other

theorem of_exec {device after : Device} {history : OpId → List Sample} {event : DeviceEvent}
    {reply : DeviceReply} (executed : Device.exec B device event = (reply, after))
    (kept : ∀ op, (after.slots op).From op (sampled history device event reply after op)) :
    Sessions ((sampledMachine B).next (device, history) event) := by
  intro op
  have here := kept op
  change ((Device.exec B device event).2.slots op).From op
    (sampled history device event (Device.exec B device event).1 (Device.exec B device event).2 op)
  rwa [executed]

theorem sampled_refused (history : OpId → List Sample) (device after : Device)
    (event : DeviceEvent) {status : Status} (refused : status ≠ .ok) :
    sampled history device event (.status status) after = history := by
  unfold sampled
  split
  · rename_i accepted
    exact absurd (DeviceReply.status.inj accepted) refused
  · rename_i accepted
    exact absurd (DeviceReply.status.inj accepted) refused
  · rfl

/-- The step lemma. -/
theorem next (sessions : Sessions observed) (event : DeviceEvent) :
    Sessions ((sampledMachine B).next observed event) := by
  rcases observed with ⟨device, history⟩
  cases enabled : B.enableCalibration with
  | false =>
      have ignored : ∃ reply device', Device.exec B device event = (reply, device') ∧
          device'.slots = device.slots ∧
          sampled history device event reply device' = history := by
        cases event with
        | core event => exact ⟨_, _, rfl, rfl, rfl⟩
        | calibrateSample op sample =>
            exact ⟨_, _, by simp only [Device.exec, enabled]; rfl, rfl,
              sampled_refused history device device _ (by decide)⟩
        | _ => exact ⟨_, _, by simp only [Device.exec, enabled]; rfl, rfl, rfl⟩
      rcases ignored with ⟨reply, device', executed, slots, kept⟩
      refine of_exec executed fun op => ?_
      rw [slots, kept]
      exact sessions op
  | true =>
      cases event with
      | core event => exact sessions
      | calibrateBegin op targetSamples =>
          rcases device.calibrateBegin_cases op targetSamples with
            ⟨status, refused, same⟩ | ⟨nonzero, -, begun⟩
          · refine of_exec (by simp only [Device.exec, enabled, if_true, same]; rfl) ?_
            rw [sampled_refused _ _ _ _ refused]
            exact sessions
          · exact of_exec (by simp only [Device.exec, enabled, if_true, begun]; rfl)
              (sessions.update rfl rfl (.running targetSamples nonzero rfl))
      | calibrateSample op sample =>
          rcases device.calibrateSample_cases op sample with
            ⟨status, refused, same⟩ | ⟨given, rfl, active, added⟩
          · refine of_exec (by simp only [Device.exec, enabled, if_true, same]; rfl) ?_
            rw [sampled_refused _ _ _ _ refused]
            exact sessions
          · rcases (sessions op).of_active active with ⟨targetSamples, nonzero, slot⟩
            refine of_exec (by simp only [Device.exec, enabled, if_true, added]; rfl)
              (sessions.update rfl rfl (.running targetSamples nonzero ?_))
            rw [CalibState.session_append]
            exact congrArg (CalibState.addSample · given) slot
      | calibrateEnd op out =>
          rcases device.calibrateEnd_cases op out with ⟨status, -, same⟩ | ⟨-, active, ended⟩
          · exact of_exec (by simp only [Device.exec, enabled, if_true, same]; rfl) sessions
          · rcases (sessions op).of_active active with ⟨targetSamples, nonzero, slot⟩
            refine of_exec (by simp only [Device.exec, enabled, if_true, ended]; rfl)
              (sessions.update rfl (Function.update_eq_self op history).symm
                (.ended targetSamples nonzero ?_))
            exact congrArg (fun s : CalibState => { s with active := false }) slot
      | calibrationExportSize outSize =>
          exact of_exec (by simp only [Device.exec, enabled, if_true]; rfl) sessions
      | calibrationExport out outWritten =>
          exact of_exec (by simp only [Device.exec, enabled, if_true]; rfl) sessions

theorem run {device : Device} (fresh : device.slots = fun _ => .zero) (events : List DeviceEvent) :
    Sessions ((sampledMachine B).run (device, fun _ => []) events) := by
  apply Machine.run_invariant' fun observed event sessions => sessions.next event
  intro op
  exact .untouched (by rw [fresh]) rfl

end Sessions

end Loxbudget
