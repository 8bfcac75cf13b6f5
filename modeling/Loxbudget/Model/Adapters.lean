import Loxbudget.Model.Calls
import Loxbudget.Model.Names

/-!
# The adapters

Five of the adapters connect an instance with another library: four are decision hooks that pass
decisions on, and `microhealth` sets the pressure. The object of the other library is a `Port`,
and what is called with it is a `Write`. The context of each adapter is one static variable, so
that a second attachment of the adapter overwrites the context of the first.
-/

namespace Loxbudget

/-- `loxbudget_loxguard_record_t` and `loxbudget_nvlog_record_t`, which have the same fields. -/
structure AdapterRecord where
  uptimeMs : UInt32
  opId : UInt8
  action : UInt8
  pressure : UInt8
  reason : UInt8
  deriving DecidableEq, Repr

/-- A call of a function of one of the other libraries. -/
inductive Write (Port : Type) where
  | loxguardPush (guard : Port) (record : AdapterRecord)
  | loxguardFlush (guard : Port)
  | nvlogWrite (log : Port) (severity : UInt8) (record : AdapterRecord)
  | microbusPublishEvent (bus : Port) (eventId a b c : UInt32)
  | micrologWrite (log : Port) (msg : List Char)
  deriving DecidableEq, Repr

/-! ## Text of `microlog` -/

/-- The loop of `lb__utoa_` that fills `tmp`, which has room for so many digits more. -/
def utoaDigits : Nat → UInt32 → List Char
  | 0, _ => []
  | room + 1, v => if v = 0 then [] else Nat.digitChar (v % 10).toNat :: utoaDigits room (v / 10)

/-- `lb__utoa_`, by the string that it leaves in a buffer of the given size; a buffer of no size
is left as it is. -/
def utoa (outCap : Nat) (v : UInt32) : Option (List Char) :=
  if outCap = 0 then none
  else if v = 0 then some (if 1 < outCap then ['0'] else [])
  else some ((utoaDigits 10 v).reverse.take (outCap - 1))

/-- `lb__append_` -/
def append (cap : Nat) (buf s : List Char) : List Char :=
  if buf.length + 1 ≥ cap then buf else buf ++ s.take (cap - buf.length - 1)

/-- The message that `lb__on_decision_` of `microlog` composes; `num` has 16 characters and `msg`
has 128. -/
def micrologMessage (d : Decision) (op : OpId) : List Char :=
  let number (msg : List Char) (v : UInt32) : List Char :=
    append 128 msg ((utoa 16 v).getD [])
  let msg := append 128 [] "loxbudget op=".toList
  let msg := number msg op.toUInt32
  let msg := append 128 msg " action=".toList
  let msg := number msg d.action.raw
  let msg := append 128 msg " pressure=".toList
  let msg := number msg d.pressure.raw
  let msg := append 128 msg " reason=".toList
  number msg d.reason.raw

/-! ## Decision hooks -/

/-- `lb__lg_ctx_t`; a null pointer is `none`. -/
structure LoxguardContext (Instance Port : Type) where
  budget : Option Instance
  guard : Option Port

/-- `lb__nv_ctx_t` -/
structure NvlogContext (Instance Port : Type) where
  budget : Option Instance
  log : Option Port
  minSeverity : UInt8

/-- `lb__mb_ctx_t` -/
structure MicrobusContext (Port : Type) where
  bus : Option Port

/-- `loxbudget_microlog_ctx_t` -/
structure MicrologContext (Port : Type) where
  log : Option Port
  minAction : UInt32

/-- The function that an instance has as its decision hook: that of an adapter, or another one of
the application. -/
inductive Hook where
  | loxguard
  | nvlog
  | microbus
  | microlog
  | application
  deriving DecidableEq, Repr

/-- The record of a decision. -/
def AdapterRecord.ofDecision (uptimeMs : UInt32) (d : Decision) (op : OpId) : AdapterRecord :=
  ⟨uptimeMs, op, d.action.raw.toUInt8, d.pressure.raw.toUInt8, d.reason.raw.toUInt8⟩

section Hooks

variable {Instance Port : Type}

/-- `lb__lg_on_decision_`; `takeSnapshot` is `loxbudget_snapshot` on an instance, by the uptime
that a successful call reports. -/
def lgOnDecision (takeSnapshot : Instance → Option UInt32) (ctx : LoxguardContext Instance Port)
    (d : Decision) (op : OpId) : List (Write Port) :=
  match ctx.budget, ctx.guard with
  | some budget, some guard =>
      if d.action ≠ .reject ∧ d.action ≠ .lockdown then []
      else
        match takeSnapshot budget with
        | none => []
        | some uptimeMs =>
            .loxguardPush guard (.ofDecision uptimeMs d op) ::
              if d.action = .lockdown then [.loxguardFlush guard] else []
  | _, _ => []

/-- `lb__nv_severity_` -/
def nvSeverity : Action → UInt8
  | .allowFull => 0
  | .allowDegraded => 1
  | .wait => 2
  | .reject => 3
  | .lockdown => 4

/-- `lb__nv_on_decision_` -/
def nvOnDecision (takeSnapshot : Instance → Option UInt32) (ctx : NvlogContext Instance Port)
    (d : Decision) (op : OpId) : List (Write Port) :=
  match ctx.budget, ctx.log with
  | some budget, some log =>
      if nvSeverity d.action < ctx.minSeverity then []
      else
        match takeSnapshot budget with
        | none => []
        | some uptimeMs =>
            [.nvlogWrite log (nvSeverity d.action) (.ofDecision uptimeMs d op)]
  | _, _ => []

/-- `lb__mb_on_decision_` -/
def mbOnDecision (ctx : MicrobusContext Port) (d : Decision) (op : OpId) : List (Write Port) :=
  match ctx.bus with
  | none => []
  | some bus =>
      if d.action = .reject then
        [.microbusPublishEvent bus 2 op.toUInt32 d.reason.raw d.pressure.raw]
      else if d.action = .lockdown then
        [.microbusPublishEvent bus 3 op.toUInt32 d.reason.raw d.pressure.raw]
      else []

/-- `lb__on_decision_` of `microlog`. -/
def mlOnDecision (ctx : MicrologContext Port) (d : Decision) (op : OpId) : List (Write Port) :=
  match ctx.log with
  | none => []
  | some log =>
      if d.action.raw < ctx.minAction then []
      else [.micrologWrite log (micrologMessage d op)]

end Hooks

/-! ## Instances with adapters -/

/-- Several instances, the decision hook of each, and the static contexts. -/
structure Station (Instance Port : Type) where
  budgets : Instance → Budget
  hooks : Instance → Option Hook
  loxguard : LoxguardContext Instance Port
  nvlog : NvlogContext Instance Port
  microbus : MicrobusContext Port
  microlog : MicrologContext Port

/-- What the application does: a public call on an instance, an attachment, or the wrapper of
`microbus` around `loxbudget_set_pressure`. With a call comes what the HAL answers while the
decision hook runs. -/
inductive StationEvent (Instance Port : Type) where
  | call (budget : Instance) (event : Event) (reading : Hal)
  | attachLoxguard (budget : Option Instance) (guard : Option Port)
  | attachNvlog (budget : Option Instance) (log : Option Port) (minSeverity : UInt8)
  | attachMicrobus (budget : Option Instance) (bus : Option Port)
  | attachMicrolog (budget : Option Instance) (log : Option Port) (minAction : UInt32)
  | microbusSetPressure (budget : Option Instance) (bus : Option Port) (pressure : UInt32)

/-- The reply to a call, if the event is one, and the calls of other libraries, in their order. -/
structure StationReply (Port : Type) where
  reply : Option Reply
  writes : List (Write Port)

/-- The calls of the decision hook that an event makes, in their order. -/
def hookCallsMade (before after : Budget) : List (Decision × OpId) :=
  (after.journal.hookCalls.take
    (after.journal.hookCalls.length - before.journal.hookCalls.length)).reverse

namespace Station

variable {Instance Port : Type} [DecidableEq Instance] (B : Build) (station : Station Instance Port)

/-- `loxbudget_snapshot` within a hook, by the uptime that it reports. -/
def takeSnapshot (reading : Hal) (budget : Instance) : Option UInt32 :=
  (snapshot reading (station.budgets budget) true).2.map Snapshot.uptimeMs

/-- A call of a decision hook. -/
def onDecision (reading : Hal) (hook : Hook) (d : Decision) (op : OpId) : List (Write Port) :=
  match hook with
  | .loxguard => lgOnDecision (station.takeSnapshot reading) station.loxguard d op
  | .nvlog => nvOnDecision (station.takeSnapshot reading) station.nvlog d op
  | .microbus => mbOnDecision station.microbus d op
  | .microlog => mlOnDecision station.microlog d op
  | .application => []

/-- `loxbudget_set_decision_hook` with the function of an adapter, whose status is dropped. -/
def setHook (budget : Option Instance) (hook : Hook) : Station Instance Port :=
  match budget with
  | none => station
  | some budget =>
      let (status, state) := setDecisionHook (station.budgets budget) true
      if status = .ok then
        { station with
          budgets := Function.update station.budgets budget state
          hooks := Function.update station.hooks budget (some hook) }
      else station

/-- A public call on one of the instances. -/
def publicCall (budget : Instance) (event : Event) (reading : Hal) :
    StationReply Port × Station Instance Port :=
  let (reply, state) := Loxbudget.exec B (station.budgets budget) event
  let writes := match station.hooks budget with
    | none => []
    | some hook => (hookCallsMade (station.budgets budget) state).flatMap fun (d, op) =>
        station.onDecision reading hook d op
  let hooks := match event.call with
    | .setDecisionHook hook =>
        if reply.status = .ok then
          Function.update station.hooks budget (if hook then some .application else none)
        else station.hooks
    | _ => station.hooks
  (⟨some reply, writes⟩,
    { station with budgets := Function.update station.budgets budget state, hooks := hooks })

/-- `loxbudget_microbus_set_pressure` -/
def microbusSetPressure (budget : Option Instance) (bus : Option Port) (pressure : UInt32) :
    StationReply Port × Station Instance Port :=
  match budget, bus with
  | some budget, some bus =>
      let (status, state) := setPressure (station.budgets budget) pressure
      (⟨some (.ofStatus status),
          if status = .ok then [.microbusPublishEvent bus 1 pressure 0 0] else []⟩,
        { station with budgets := Function.update station.budgets budget state })
  | _, _ => (⟨some (.ofStatus .invalidArg), []⟩, station)

/-- The effect of an event; the four attachments write their context before they set the hook. -/
def exec : StationEvent Instance Port → StationReply Port × Station Instance Port
  | .call budget event reading => station.publicCall B budget event reading
  | .attachLoxguard budget guard =>
      (⟨none, []⟩, { station with loxguard := ⟨budget, guard⟩ }.setHook budget .loxguard)
  | .attachNvlog budget log minSeverity =>
      (⟨none, []⟩, { station with nvlog := ⟨budget, log, minSeverity⟩ }.setHook budget .nvlog)
  | .attachMicrobus budget bus =>
      (⟨none, []⟩, { station with microbus := ⟨bus⟩ }.setHook budget .microbus)
  | .attachMicrolog budget log minAction =>
      (⟨none, []⟩, { station with microlog := ⟨log, minAction⟩ }.setHook budget .microlog)
  | .microbusSetPressure budget bus pressure => station.microbusSetPressure budget bus pressure

end Station

/-- Instances with their adapters as a machine. -/
def stationMachine (B : Build) (Instance Port : Type) [DecidableEq Instance] :
    Machine (Station Instance Port) (StationEvent Instance Port) (StationReply Port) where
  exec station event := station.exec B event

/-! ## `microhealth` -/

/-- `loxbudget_pressure_thresholds_t` -/
structure PressureThresholds where
  elevatedPct : UInt16
  criticalPct : UInt16
  survivalPct : UInt16
  deriving DecidableEq, Repr

/-- `lb__mh_map_` -/
def mhMap (t : PressureThresholds) (pct : UInt16) : Pressure :=
  if pct ≥ t.survivalPct then .survival
  else if pct ≥ t.criticalPct then .critical
  else if pct ≥ t.elevatedPct then .elevated
  else .normal

/-- `lb__mh_ctx_t` -/
structure MicrohealthContext (Instance Port : Type) where
  budget : Option Instance
  health : Option Port
  t : PressureThresholds
  deriving DecidableEq, Repr

/-- Several instances, and the static context of `microhealth`. -/
structure HealthStation (Instance Port : Type) where
  budgets : Instance → Budget
  microhealth : MicrohealthContext Instance Port

/-- What the application does, or a call of the callback. A port is a health monitor; the last two
come with what `microhealth_pressure_pct` returns for each. -/
inductive HealthEvent (Instance Port : Type) where
  | call (budget : Instance) (event : Event)
  | attach (budget : Option Instance) (health : Option Port) (t : Option PressureThresholds)
      (pressurePct : Port → UInt16)
  | change (pressurePct : Port → UInt16)

namespace HealthStation

variable {Instance Port : Type} [DecidableEq Instance] (station : HealthStation Instance Port)

/-- `lb__mh_on_change_`. Every monitor has been given the one context, so it does not matter which
of them calls. -/
def mhOnChange (pressurePct : Port → UInt16) : HealthStation Instance Port :=
  match station.microhealth.budget, station.microhealth.health with
  | some budget, some health =>
      let pressure := mhMap station.microhealth.t (pressurePct health)
      { station with
        budgets := Function.update station.budgets budget
          (setPressure (station.budgets budget) pressure.raw).2 }
  | _, _ => station

/-- `loxbudget_microhealth_attach` -/
def microhealthAttach (budget : Option Instance) (health : Option Port)
    (t : Option PressureThresholds) (pressurePct : Port → UInt16) : HealthStation Instance Port :=
  match budget, health, t with
  | some budget, some health, some t =>
      { station with microhealth := ⟨some budget, some health, t⟩ }.mhOnChange pressurePct
  | _, _, _ => station

end HealthStation

/-- Instances with `microhealth` as a machine. -/
def healthMachine (B : Build) (Instance Port : Type) [DecidableEq Instance] :
    Machine (HealthStation Instance Port) (HealthEvent Instance Port) (Option Reply) where
  exec station event :=
    match event with
    | .call budget event =>
        let (reply, state) := exec B (station.budgets budget) event
        (some reply,
          { station with budgets := Function.update station.budgets budget state })
    | .attach budget health t pressurePct =>
        (none, station.microhealthAttach budget health t pressurePct)
    | .change pressurePct => (none, station.mhOnChange pressurePct)

end Loxbudget
