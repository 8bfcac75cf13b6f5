import Loxbudget.Lib.Machine
import Loxbudget.Model.Core

/-!
# Runs of public calls

The public calls on one initialised instance, as the events of a machine. Each
event carries the answers that the HAL gives during the call. A call that a build
compiles out answers `FEATURE_DISABLED`, as the stubs of the public header do.
-/

namespace Loxbudget

/-- A public call with its arguments, the instance pointer left out. -/
inductive Call where
  | setResource (id : ResourceId) (limit : UInt16) (kind : UInt32)
  | registerOp (profile : Option RawProfile)
  | opSetNeed (op : OpId) (resource : ResourceId) (amount : UInt16)
  | opMayTrigger (parent child : OpId) (kind : UInt32)
  | setRateLimit (res : ResourceId) (window limit : UInt32)
  | setLifetimeLimit (res : ResourceId) (lifetimeMax : UInt32)
  | setPressure (pressure : UInt32)
  | setDecisionHook (hook : Bool)
  | check (op : OpId) (out : Bool)
  | enter (op : OpId) (out : Bool)
  | leave (lease : Lease)
  | yieldCheck (lease : Lease) (out : Bool)
  | snapshot (out : Bool)
  | auditClear
  deriving DecidableEq, Repr

/-- The status of a call and what it wrote through its output pointer. -/
structure Reply where
  status : Status
  decision : Option Decision
  lease : Option Lease
  hint : Option PressureHint
  snapshot : Option Snapshot
  deriving DecidableEq, Repr

/-- The reply of a call that has no output. -/
def Reply.ofStatus (status : Status) : Reply :=
  ⟨status, none, none, none, none⟩

/-- A call together with the answers of the HAL. -/
structure Event where
  hal : Hal
  call : Call

/-- The effect of one public call. -/
def exec (B : Build) (budget : Budget) (event : Event) : Reply × Budget :=
  match event.call with
  | .setResource id limit kind =>
      let (status, budget) := setResource budget id limit kind
      (.ofStatus status, budget)
  | .registerOp profile =>
      let (status, budget) := registerOp B budget profile
      (.ofStatus status, budget)
  | .opSetNeed op resource amount =>
      let (status, budget) := opSetNeed budget op resource amount
      (.ofStatus status, budget)
  | .opMayTrigger parent child kind =>
      if B.enableCausality then
        let (status, budget) := opMayTrigger B budget parent child kind
        (.ofStatus status, budget)
      else (.ofStatus .featureDisabled, budget)
  | .setRateLimit res window limit =>
      if B.enableRateWindows then
        let (status, budget) := setRateLimit B event.hal budget res window limit
        (.ofStatus status, budget)
      else (.ofStatus .featureDisabled, budget)
  | .setLifetimeLimit res lifetimeMax =>
      if B.enableRateWindows then
        let (status, budget) := setLifetimeLimit budget res lifetimeMax
        (.ofStatus status, budget)
      else (.ofStatus .featureDisabled, budget)
  | .setPressure pressure =>
      let (status, budget) := setPressure budget pressure
      (.ofStatus status, budget)
  | .setDecisionHook hook =>
      let (status, budget) := setDecisionHook budget hook
      (.ofStatus status, budget)
  | .check op out =>
      let (status, decision, budget) := check B event.hal budget op out
      (⟨status, decision, none, none, none⟩, budget)
  | .enter op out =>
      let ((status, lease), budget) := enter B event.hal budget op out
      (⟨status, none, lease, none, none⟩, budget)
  | .leave lease =>
      let (status, budget) := leave budget lease
      (.ofStatus status, budget)
  | .yieldCheck lease out =>
      let (status, hint) := yieldCheck budget lease out
      (⟨status, none, none, hint, none⟩, budget)
  | .snapshot out =>
      let (status, snapshot) := snapshot event.hal budget out
      (⟨status, none, none, none, snapshot⟩, budget)
  | .auditClear =>
      if B.enableAuditTrail then
        let (status, budget) := auditClear budget
        (.ofStatus status, budget)
      else (.ofStatus .featureDisabled, budget)

/-- The instance as a machine over public calls. -/
def machine (B : Build) : Machine Budget Event Reply where
  exec := exec B

/-- The state right after a successful `init`. -/
def Started (B : Build) (budget : Budget) : Prop :=
  ∃ hal previous args, init B hal previous args = (.ok, budget)

/-- The tests that a successful `init` has passed. -/
theorem init_ok {B : Build} {hal : Hal} {previous budget : Budget} {args : InitArgs}
    (success : init B hal previous args = (.ok, budget)) :
    validateInitArgs B args = .ok ∧ ∃ cfg, args.cfg = some cfg ∧
      ¬B.layoutSize cfg > args.storageSize.toUInt32 := by
  simp only [init] at success
  split at success
  · rename_i invalid
    exact absurd (congrArg Prod.fst success) invalid
  rename_i valid
  refine ⟨not_not.mp valid, ?_⟩
  split at success
  · cases success
  rename_i cfg given
  split at success
  · cases success
  · rename_i fits
    exact ⟨cfg, given, fits⟩

/-- The states that public calls reach from a successful `init`. -/
def Reachable (B : Build) (budget : Budget) : Prop :=
  ∃ start, Started B start ∧ ∃ events, budget = (machine B).run start events

theorem Reachable.of_started {B : Build} {budget : Budget} (started : Started B budget) :
    Reachable B budget :=
  ⟨budget, started, [], rfl⟩

theorem Reachable.run {B : Build} {budget : Budget} (reachable : Reachable B budget)
    (events : List Event) : Reachable B ((machine B).run budget events) := by
  rcases reachable with ⟨start, started, before, rfl⟩
  exact ⟨start, started, before ++ events, ((machine B).run_append start before events).symm⟩

theorem Reachable.induction {B : Build} {invariant : Budget → Prop} {budget : Budget}
    (initially : ∀ start, Started B start → invariant start)
    (preserved : ∀ budget event, invariant budget → invariant ((machine B).next budget event))
    (reachable : Reachable B budget) : invariant budget := by
  rcases reachable with ⟨start, started, events, rfl⟩
  exact Machine.run_invariant' preserved (initially start started)

/-! ## A sample instance -/

/-- Arguments for an instance with eight resources, sixteen ops and four leases. -/
def InitArgs.sample : InitArgs :=
  ⟨0x1000, some 0x2000, 100000, some ⟨8, 16, 4, 0, 0, none⟩⟩

/-- The instance that these arguments start in the default build. -/
def Budget.sample : Budget :=
  (init Build.full (Hal.permissive 0) .zero .sample).2

theorem started_sample : Started Build.full .sample :=
  ⟨Hal.permissive 0, .zero, .sample, Prod.ext (by decide +kernel) rfl⟩

/-- An op that is allowed at every pressure. -/
def RawProfile.permissive (op : OpId) : RawProfile :=
  ⟨op, 1, 0, 0, 0, 0, 0, 0⟩

/-- A call under a HAL whose clock stands at 0 and whose preconditions all hold. -/
def Event.permissive (call : Call) : Event :=
  ⟨Hal.permissive 0, call⟩

/-- Registration of the first ops of the sample instance. -/
def registerOps (count : Nat) : List Event :=
  (List.range count).map fun op => .permissive (.registerOp (some (.permissive (.ofNat op))))

/-- Registration of a trigger that is always counted. -/
def Event.trigger (parent child : OpId) : Event :=
  .permissive (.opMayTrigger parent child 255)

/-- One resource and one op that needs half of it. -/
def oneOp : List Event :=
  [.permissive (.setResource 0 10 0), .permissive (.registerOp (some (.permissive 0))),
    .permissive (.opSetNeed 0 0 5)]

/-- The op is entered, looked at and left. -/
def enterAndLeave : List Event :=
  [.permissive (.enter 0 true), .permissive (.snapshot true),
    .permissive (.leave ⟨0, 0x1000, 0, 0⟩)]

end Loxbudget
