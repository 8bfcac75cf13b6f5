import Loxbudget.Calibration.Sessions
import Loxbudget.Invariant.Needs
import Loxbudget.Rate.Timeline

/-!
# Refused calls

The calls that configure an instance make all their tests before they write anything, and
so do `leave` and the calls of a calibration session. A call that answers with an error
has not happened: it may be taken out of any run.
-/

namespace Loxbudget

variable {B : Build} {budget : Budget}

/-! ## The calls of the core -/

/-- The calls of the core that configure an instance or give a lease back. -/
def Call.testsFirst : Call → Bool
  | .setResource _ _ _ | .registerOp _ | .opSetNeed _ _ _ | .setRateLimit _ _ _
  | .setLifetimeLimit _ _ | .setPressure _ | .leave _ => true
  | _ => false

theorem next_of_refused {event : Event} (testsFirst : event.call.testsFirst = true)
    (refused : ((machine B).reply budget event).status ≠ .ok) :
    (machine B).next budget event = budget := by
  rcases event with ⟨hal, call⟩
  cases call with
  | setResource id limit kind =>
      change (setResource budget id limit kind).1 ≠ .ok at refused
      change (setResource budget id limit kind).2 = budget
      rcases setResource_cases budget id limit kind with ⟨_, -, -, -, accepted⟩ | ⟨-, -, same⟩
      · rw [accepted] at refused
        exact absurd rfl refused
      · exact same
  | registerOp profile =>
      change (registerOp B budget profile).1 ≠ .ok at refused
      change (registerOp B budget profile).2 = budget
      rcases registerOp_cases B budget profile with ⟨_, _, -, -, -, accepted⟩ | ⟨-, same⟩
      · rw [accepted] at refused
        exact absurd rfl refused
      · exact same
  | opSetNeed op resource amount =>
      change (opSetNeed budget op resource amount).1 ≠ .ok at refused
      change (opSetNeed budget op resource amount).2 = budget
      rcases opSetNeed_cases budget op resource amount with
        ⟨-, _, -, accepted⟩ | ⟨-, -, -, full⟩ | fails
      · rw [accepted] at refused
        exact absurd rfl refused
      · rw [full]
      · exact (opSetNeed_of_not_mayNeed fails).2.2
  | setRateLimit res window limit =>
      by_cases enabled : B.enableRateWindows = true
      · simp only [Machine.reply, Machine.next, machine, exec, if_pos enabled, Reply.ofStatus]
          at refused ⊢
        rcases setRateLimit_cases B hal budget res window limit with ⟨-, same⟩ | ⟨-, -, accepted⟩
        · exact same
        · rw [accepted] at refused
          exact absurd rfl refused
      · simp only [Machine.next, machine, exec, if_neg enabled]
  | setLifetimeLimit res lifetimeMax =>
      by_cases enabled : B.enableRateWindows = true
      · simp only [Machine.reply, Machine.next, machine, exec, if_pos enabled, Reply.ofStatus]
          at refused ⊢
        rcases setLifetimeLimit_cases budget res lifetimeMax with ⟨-, same⟩ | accepted
        · exact same
        · rw [accepted] at refused
          exact absurd rfl refused
      · simp only [Machine.next, machine, exec, if_neg enabled]
  | setPressure raw =>
      change (setPressure budget raw).1 ≠ .ok at refused
      change (setPressure budget raw).2 = budget
      rcases setPressure_cases budget raw with ⟨_, -, -, accepted⟩ | ⟨-, -, same⟩
      · rw [accepted] at refused
        exact absurd rfl refused
      · exact same
  | leave lease =>
      exact (leave_of_not_accepts fun accepts => refused (leave_eq_ok.mpr accepts)).2
  | _ => exact absurd testsFirst Bool.false_ne_true

/-! ## The calls on a device -/

/-- The status that a call returns. -/
def DeviceReply.returned : DeviceReply → Status
  | .core reply => reply.status
  | .status code => code
  | .profile code _ => code
  | .size code _ => code
  | .bytes code _ _ => code

/-- The calls that configure, give a lease back, or carry a calibration session on. -/
def DeviceEvent.testsFirst : DeviceEvent → Bool
  | .core event => event.call.testsFirst
  | .calibrateBegin _ _ | .calibrateSample _ _ | .calibrateEnd _ _ => true
  | .calibrationExportSize _ | .calibrationExport _ _ => false

/-- A refused call leaves the instance and all its storage exactly as they were. -/
theorem refused_changes_nothing (B : Build) (device : Device) (event : DeviceEvent)
    (testsFirst : event.testsFirst = true)
    (refused : ((deviceMachine B).reply device event).returned ≠ .ok) :
    (deviceMachine B).next device event = device := by
  cases event with
  | core event =>
      have same : (machine B).next device.budget event = device.budget :=
        next_of_refused testsFirst refused
      change { device with budget := (machine B).next device.budget event } = device
      rw [same]
  | calibrateBegin op targetSamples =>
      by_cases enabled : B.enableCalibration = true
      · simp only [Machine.reply, Machine.next, deviceMachine, Device.exec, if_pos enabled,
          DeviceReply.returned] at refused ⊢
        rcases device.calibrateBegin_cases op targetSamples with ⟨_, -, same⟩ | ⟨-, -, accepted⟩
        · rw [same]
        · rw [accepted] at refused
          exact absurd rfl refused
      · simp only [Machine.next, deviceMachine, Device.exec, if_neg enabled]
  | calibrateSample op sample =>
      by_cases enabled : B.enableCalibration = true
      · simp only [Machine.reply, Machine.next, deviceMachine, Device.exec, if_pos enabled,
          DeviceReply.returned] at refused ⊢
        rcases device.calibrateSample_cases op sample with ⟨_, -, same⟩ | ⟨_, -, -, accepted⟩
        · rw [same]
        · rw [accepted] at refused
          exact absurd rfl refused
      · simp only [Machine.next, deviceMachine, Device.exec, if_neg enabled]
  | calibrateEnd op out =>
      by_cases enabled : B.enableCalibration = true
      · simp only [Machine.reply, Machine.next, deviceMachine, Device.exec, if_pos enabled,
          DeviceReply.returned] at refused ⊢
        rcases device.calibrateEnd_cases op out with ⟨_, -, same⟩ | ⟨-, -, accepted⟩
        · rw [same]
        · rw [accepted] at refused
          exact absurd rfl refused
      · simp only [Machine.next, deviceMachine, Device.exec, if_neg enabled]
  | calibrationExportSize outSize => exact absurd testsFirst Bool.false_ne_true
  | calibrationExport out outWritten => exact absurd testsFirst Bool.false_ne_true

/-- A pressure that is no enumerator, and an op that was never registered. -/
theorem refused_changes_nothing_sample :
    let device : Device := ⟨.sample, 0, fun _ => .zero⟩
    (deviceMachine Build.full).next device (.core (.permissive (.setPressure 7))) = device ∧
      (deviceMachine Build.full).next device (.calibrateEnd 3 true) = device :=
  ⟨refused_changes_nothing _ _ _ rfl (by decide +kernel),
    refused_changes_nothing _ _ _ rfl (by decide +kernel)⟩

/-! ## Runs -/

/-- The call is not one of those, or it is accepted. -/
def DeviceEvent.takesEffect (event : DeviceEvent) (reply : DeviceReply) : Bool :=
  !event.testsFirst || reply.returned == .ok

/-- A run without its refused calls comes to the same state, and the calls that are left are
answered as in the whole run. -/
theorem run_without_refused (B : Build) (device : Device) (events : List DeviceEvent) :
    let effective := (deviceMachine B).kept DeviceEvent.takesEffect device events
    (deviceMachine B).run device effective = (deviceMachine B).run device events ∧
      (deviceMachine B).transcript device effective =
        ((deviceMachine B).transcript device events).filter fun step =>
          step.1.takesEffect step.2 := by
  refine Machine.run_kept ?_ device events
  intro device event idle
  simp only [DeviceEvent.takesEffect, Bool.or_eq_false_iff, Bool.not_eq_false',
    beq_eq_false_iff_ne] at idle
  exact refused_changes_nothing B device event idle.1 idle.2

end Loxbudget
