import Loxbudget.Model.Rate
import Loxbudget.Model.Causality

/-!
# The decision engine and the lease table

The public functions of `loxbudget_core.c`. A function that the C code lets
return early is a chain of conditions in the same order. Pointers the caller
may leave null are options, or a flag that tells whether an output was given;
the instance pointer itself is never null here.

`enter` is split at the point where the C code enters the HAL critical section:
`enterBegin` decides and validates, `enterCommit` picks a slot and reserves.
-/

namespace Loxbudget

/-! ## Initialisation -/

/-- `loxbudget_config_t` -/
structure Config where
  maxResources : UInt8
  maxOps : UInt8
  maxConcurrentLeases : UInt8
  auditSize : UInt8
  halStrict : UInt8
  halCallbacks : Option HalCallbacks
  deriving DecidableEq, Repr

/-- The arguments of `loxbudget_init`: the address of the instance, the storage and its size in
bytes, and the configuration. -/
structure InitArgs where
  budgetAddr : UInt64
  storage : Option UInt64
  storageSize : UInt64
  cfg : Option Config
  deriving DecidableEq, Repr

/-- `loxbudget_is_pow2_or_zero_u8_` -/
def isPow2OrZeroU8 (v : UInt8) : Bool :=
  if v = 0 then true else v &&& (v - 1) == 0

/-- `loxbudget_validate_init_args_` -/
def validateInitArgs (B : Build) (args : InitArgs) : Status :=
  match args.storage, args.cfg with
  | some storage, some cfg =>
      if args.storageSize = 0 then .invalidArg
      else if storage &&& 3 ≠ 0 then .alignment
      else if cfg.maxResources = 0 ∨ cfg.maxOps = 0 ∨ cfg.maxConcurrentLeases = 0 then .invalidArg
      else if cfg.maxResources.toNat > B.maxResources ∨ cfg.maxOps.toNat > B.maxOps ∨
          cfg.maxConcurrentLeases.toNat > B.maxLeases then .invalidArg
      else if isPow2OrZeroU8 cfg.auditSize = false then .invalidArg
      else .ok
  | _, _ => .invalidArg

/-- The bytes that `loxbudget_init` lays out for a configuration, the final slack included. -/
def Build.layoutSize (B : Build) (cfg : Config) : UInt32 :=
  let off : UInt32 := 0
  let off := alignUp (off + 32)
  let off := alignUp (off + cfg.maxResources.toUInt32 * 12)
  let off := alignUp (off + cfg.maxOps.toUInt32 * 8)
  let off := alignUp (off + cfg.maxOps.toUInt32 * UInt32.ofNat B.maxNeedsPerOp * 4)
  let off := alignUp (off + cfg.maxConcurrentLeases.toUInt32 * 4)
  let off := alignUp (off + cfg.auditSize.toUInt32 * 16)
  let off := if B.enableRateWindows then alignUp (off + cfg.maxResources.toUInt32 * 72) else off
  let off := if B.enableCalibration then
      alignUp (off + cfg.maxOps.toUInt32 * UInt32.ofNat B.calibStateSize) else off
  let off := if B.enableCausality then
      alignUp (off + 4 + UInt32.ofNat B.causalityMaxEdges * 4 + (cfg.maxOps.toUInt32 + 7) / 8)
    else off
  off + 16

/-- The instance as `memset` leaves it. -/
def Budget.zero : Budget where
  magic := 0
  maxResources := 0
  maxOps := 0
  maxLeases := 0
  pressure := .normal
  leaseMagicBase := 0
  storageSize := 0
  auditSize := 0
  decisionHook := false
  halCb := none
  halStrict := false
  journal := ⟨0, 0, 0, 0, 0, 0, [], []⟩
  resCfg := fun _ => false
  opCfg := fun _ => false
  resources := fun _ => .zero
  ops := fun _ => .zero
  needs := fun _ => []
  leaseSlots := []
  rateState := fun _ => .zero
  edges := []

/-- The lease magic base that `loxbudget_init` derives from the address of the instance and the
clock. -/
def initialMagicBase (budgetAddr : UInt64) (nowMs : UInt32) : UInt16 :=
  let base := (budgetAddr ^^^ nowMs.toUInt64).toUInt16
  if base = 0 then 0xA5C3 else base

/-- `loxbudget_init` -/
def init (B : Build) (hal : Hal) (budget : Budget) (args : InitArgs) : Status × Budget :=
  if validateInitArgs B args ≠ .ok then (validateInitArgs B args, budget)
  else
    match args.cfg with
    | none => (.invalidArg, budget)
    | some cfg =>
        if B.layoutSize cfg > args.storageSize.toUInt32 then (.noSpace, .zero)
        else
          (.ok,
            { Budget.zero with
              magic := magicInit
              maxResources := cfg.maxResources
              maxOps := cfg.maxOps
              maxLeases := cfg.maxConcurrentLeases
              leaseMagicBase := initialMagicBase args.budgetAddr hal.nowMs
              storageSize := args.storageSize.toUInt32
              auditSize := cfg.auditSize
              halCb := cfg.halCallbacks
              halStrict := cfg.halStrict != 0
              journal := ⟨0, 0, 0, 0, 0, 0, List.replicate cfg.auditSize.toNat .zero, []⟩
              needs := fun _ => List.replicate B.maxNeedsPerOp ⟨0, 0⟩
              leaseSlots := List.replicate cfg.maxConcurrentLeases.toNat .zero })

/-! ## Configuration -/

/-- `loxbudget_set_pressure`; the enumerator is narrowed to a byte before it is tested. -/
def setPressure (budget : Budget) (pressure : UInt32) : Status × Budget :=
  if budget.validate ≠ .ok then (budget.validate, budget)
  else
    match Pressure.ofByte? pressure.toUInt8 with
    | none => (.invalidArg, budget)
    | some pressure => (.ok, { budget with pressure := pressure })

/-- `loxbudget_set_decision_hook` -/
def setDecisionHook (budget : Budget) (hook : Bool) : Status × Budget :=
  if budget.validate ≠ .ok then (budget.validate, budget)
  else (.ok, { budget with decisionHook := hook })

/-- `loxbudget_set_resource`; the enumerator is narrowed to a byte before it is tested. -/
def setResource (budget : Budget) (id : ResourceId) (limit : UInt16) (kind : UInt32) :
    Status × Budget :=
  if budget.validate ≠ .ok then (budget.validate, budget)
  else if id ≥ budget.maxResources then (.invalidArg, budget)
  else
    match ResourceKind.ofByte? kind.toUInt8 with
    | none => (.invalidArg, budget)
    | some kind =>
        (.ok,
          { budget with
            resources := Function.update budget.resources id ⟨limit, 0, 0, 0, kind⟩
            resCfg := Function.update budget.resCfg id true })

/-- The range checks of `loxbudget_register_op` on the five actions. -/
def RawProfile.parse (raw : RawProfile) : Option OpProfile := do
  let actionNormal ← Action.ofByte? raw.actionNormal
  let actionElevated ← Action.ofByte? raw.actionElevated
  let actionCritical ← Action.ofByte? raw.actionCritical
  let actionSurvival ← Action.ofByte? raw.actionSurvival
  let actionLockdown ← Action.ofByte? raw.actionLockdown
  return {
    opId := raw.opId
    priority := raw.priority
    actionNormal, actionElevated, actionCritical, actionSurvival, actionLockdown
    flags := raw.flags }

/-- One query that the flags of a profile require has a callback, or strict mode is off. -/
def Budget.halConfigured (budget : Budget) (callback : HalCallbacks → Bool) : Bool :=
  match budget.halCb with
  | none => false
  | some callbacks => callback callbacks

/-- The strict-mode test of `loxbudget_register_op`. -/
def Budget.strictHalMissing (budget : Budget) (profile : OpProfile) : Bool :=
  budget.halStrict &&
    ((profile.has opfRequiresBootProven && !budget.halConfigured (·.bootProven)) ||
      (profile.has opfRequiresVoltageOk && !budget.halConfigured (·.voltageOk)) ||
      (profile.has opfRequiresNetworkUp && !budget.halConfigured (·.networkUp)))

/-- `loxbudget_register_op` -/
def registerOp (B : Build) (budget : Budget) (profile : Option RawProfile) : Status × Budget :=
  match profile with
  | none => (.invalidArg, budget)
  | some raw =>
      if budget.validate ≠ .ok then (budget.validate, budget)
      else if raw.opId ≥ budget.maxOps then (.invalidArg, budget)
      else if raw.priority > 3 then (.invalidArg, budget)
      else
        match raw.parse with
        | none => (.invalidArg, budget)
        | some profile =>
            if budget.opCfg raw.opId then (.duplicate, budget)
            else if budget.strictHalMissing profile then (.halNotConfigured, budget)
            else
              (.ok,
                { budget with
                  ops := Function.update budget.ops raw.opId profile
                  opCfg := Function.update budget.opCfg raw.opId true
                  needs := Function.update budget.needs raw.opId
                    (List.replicate B.maxNeedsPerOp ⟨0, 0⟩) })

/-- The first loop of `loxbudget_op_set_need`: overwrite the amount already listed for the
resource. -/
def updateNeed (resource : ResourceId) (amount : UInt16) : List Need → Option (List Need)
  | [] => none
  | need :: rest =>
      if need.amount ≠ 0 ∧ need.resource = resource then
        some ({ need with amount := amount } :: rest)
      else (updateNeed resource amount rest).map (need :: ·)

/-- The second loop of `loxbudget_op_set_need`: take the first free entry. -/
def insertNeed (resource : ResourceId) (amount : UInt16) : List Need → Option (List Need)
  | [] => none
  | need :: rest =>
      if need.amount = 0 then some (⟨resource, amount⟩ :: rest)
      else (insertNeed resource amount rest).map (need :: ·)

/-- `loxbudget_op_set_need` -/
def opSetNeed (budget : Budget) (op : OpId) (resource : ResourceId) (amount : UInt16) :
    Status × Budget :=
  if budget.validate ≠ .ok then (budget.validate, budget)
  else if op ≥ budget.maxOps ∨ resource ≥ budget.maxResources then (.invalidArg, budget)
  else if amount = 0 then (.invalidArg, budget)
  else if budget.opCfg op = false then (.notFound, budget)
  else if budget.resCfg resource = false then (.notFound, budget)
  else
    match updateNeed resource amount (budget.needs op) with
    | some needs => (.ok, { budget with needs := Function.update budget.needs op needs })
    | none =>
        match insertNeed resource amount (budget.needs op) with
        | some needs => (.ok, { budget with needs := Function.update budget.needs op needs })
        | none => (.noSpace, budget)

/-- `loxbudget_set_rate_limit` -/
def setRateLimit (B : Build) (hal : Hal) (budget : Budget) (res : ResourceId) (window : UInt32)
    (limit : UInt32) : Status × Budget :=
  if budget.validate ≠ .ok then (budget.validate, budget)
  else if res ≥ budget.maxResources then (.invalidArg, budget)
  else if window > 3 then (.invalidArg, budget)
  else if budget.resCfg res = false then (.notFound, budget)
  else if (budget.resources res).kind ≠ .consumable then (.invalidArg, budget)
  else if windowDurationMs window = 0 then (.invalidArg, budget)
  else
    let rate := budget.rateState res
    let consumed := match B.rateImpl with
      | .tokenBucket => (limit.toUInt64 <<< 16).toUInt32
      | .fixedWindow => 0
    let windows := rate.windows.set window.toUInt8.toNat
      ⟨hal.nowMs, windowDurationMs window, consumed, limit⟩
    (.ok,
      { budget with
        rateState := Function.update budget.rateState res { rate with windows := windows } })

/-- `loxbudget_set_lifetime_limit` -/
def setLifetimeLimit (budget : Budget) (res : ResourceId) (lifetimeMax : UInt32) :
    Status × Budget :=
  if budget.validate ≠ .ok then (budget.validate, budget)
  else if res ≥ budget.maxResources then (.invalidArg, budget)
  else if budget.resCfg res = false then (.notFound, budget)
  else if (budget.resources res).kind ≠ .consumable then (.invalidArg, budget)
  else
    let rate := { budget.rateState res with limitLifetime := lifetimeMax }
    (.ok, { budget with rateState := Function.update budget.rateState res rate })

/-! ## Booking a decision -/

/-- `loxbudget_audit_record_` -/
def Budget.auditRecord (B : Build) (hal : Hal) (op : OpId) (d : Decision) (budget : Budget) :
    Budget :=
  if B.enableAuditTrail = false ∨ budget.auditSize = 0 then budget
  else
    let journal := budget.journal
    let idx := journal.auditHead
    { budget with
      journal :=
        { journal with
          auditRing := journal.auditRing.set idx.toNat
            ⟨hal.auditNowMs, op, d.deniedResource, d.requested, d.available, d.action,
              d.pressure, d.reason⟩
          auditHead := (idx + 1) &&& (budget.auditSize - 1)
          auditCount := if journal.auditCount < budget.auditSize then journal.auditCount + 1
            else journal.auditCount } }

/-- The call of the decision hook, if one is set. -/
def Budget.callDecisionHook (op : OpId) (d : Decision) (budget : Budget) : Budget :=
  if budget.decisionHook then
    { budget with
      journal := { budget.journal with hookCalls := (d, op) :: budget.journal.hookCalls } }
  else budget

/-- The end of every exit of `loxbudget_check` that denies. -/
def Budget.deny (B : Build) (hal : Hal) (op : OpId) (d : Decision) (budget : Budget) :
    Decision × Budget :=
  let budget := { budget with
    journal := { budget.journal with
      totalDecisions := budget.journal.totalDecisions + 1
      totalDenials := budget.journal.totalDenials + 1 } }
  (d, (budget.auditRecord B hal op d).callDecisionHook op d)

/-- The end of `loxbudget_check` when the op is allowed. -/
def Budget.grant (B : Build) (hal : Hal) (op : OpId) (d : Decision) (budget : Budget) :
    Decision × Budget :=
  let journal := { budget.journal with totalDecisions := budget.journal.totalDecisions + 1 }
  let journal :=
    if d.action = .allowDegraded then
      { journal with
        totalDegradations := journal.totalDegradations + 1
        totalGrants := journal.totalGrants + 1 }
    else { journal with totalGrants := journal.totalGrants + 1 }
  let budget := { budget with journal := journal }
  (d, (budget.auditRecord B hal op d).callDecisionHook op d)

/-! ## The decision -/

/-- `loxbudget_hal_bool_`; 2 is the sentinel for a query that is not configured. -/
def Budget.halBool (budget : Budget) (callback : HalCallbacks → Bool) (answer : HalAnswer) :
    UInt8 :=
  if budget.halConfigured callback then answer.callback
  else if budget.halStrict then 2
  else answer.weak

/-- What `loxbudget_check` makes of one precondition query. -/
def halGate (v : UInt8) : Option Reason :=
  if v = 2 then some .halNotConfigured
  else if v = 0 then some .preconditionFail
  else none

/-- The three precondition blocks of `loxbudget_check`, in their order. -/
def Budget.halPreconditions (hal : Hal) (budget : Budget) (profile : OpProfile) :
    Option Reason :=
  let bootProven := if profile.has opfRequiresBootProven then
      halGate (budget.halBool (·.bootProven) hal.bootProven) else none
  let voltageOk := if profile.has opfRequiresVoltageOk then
      halGate (budget.halBool (·.voltageOk) hal.voltageOk) else none
  let networkUp := if profile.has opfRequiresNetworkUp then
      halGate (budget.halBool (·.networkUp) hal.networkUp) else none
  bootProven <|> voltageOk <|> networkUp

/-- What the loop over the needs has changed so far: the rolled windows, and the accumulator that
it leaves to the cascade walk. -/
structure NeedsPass where
  rateState : ResourceId → RateState
  needPerRes : NeedPerRes

/-- One iteration of the loop over the needs in `loxbudget_check`; a decision ends the loop. -/
def checkNeed (B : Build) (hal : Hal) (budget : Budget) (profile : OpProfile) (out : Decision)
    (need : Need) (pass : NeedsPass) : NeedsPass × Option Decision :=
  let denied (reason : Reason) (action : Action) (available : UInt16) : Option Decision :=
    some { out with
      action := action
      reason := reason
      deniedResource := need.resource
      requested := need.amount
      available := available }
  if need.amount = 0 then (pass, none)
  else if need.resource ≥ budget.maxResources ∨ budget.resCfg need.resource = false then
    (pass, denied .insufficientRes .reject 0)
  else
    let resource := budget.resources need.resource
    if resource.kind = .state then
      if resource.limit = 0 then (pass, denied .preconditionFail .reject 0)
      else (pass, none)
    else
      let pass := { pass with
        needPerRes := pass.needPerRes.addSat need.resource need.amount.toUInt32 }
      if resource.available < need.amount then
        (pass, denied .insufficientRes
          (if resource.kind = .reusable then .wait else .reject) resource.available)
      else if B.enableRateWindows ∧ profile.has opfBypassRateLimit = false ∧
          resource.kind = .consumable then
        let rate := pass.rateState need.resource
        if rate.lifetimeExhausted need.amount.toUInt32 then
          (pass, denied .lifetimeExhausted .reject 0)
        else
          let (windows, admitted) :=
            RateState.rollWindows B.rateImpl hal.nowMs need.amount.toUInt32 rate.windows
          let pass := { pass with
            rateState :=
              Function.update pass.rateState need.resource { rate with windows := windows } }
          if admitted then (pass, none) else (pass, denied .rateLimit .reject 0)
      else (pass, none)

/-- The loop over the needs in `loxbudget_check`. -/
def checkNeeds (B : Build) (hal : Hal) (budget : Budget) (profile : OpProfile) (out : Decision) :
    List Need → NeedsPass → NeedsPass × Option Decision
  | [], pass => (pass, none)
  | need :: rest, pass =>
      match checkNeed B hal budget profile out need pass with
      | (pass, some d) => (pass, some d)
      | (pass, none) => checkNeeds B hal budget profile out rest pass

/-- One iteration of the loop over the cascade totals in `loxbudget_check`. -/
def checkTotal (budget : Budget) (out : Decision) (totals : NeedPerRes) (rid : ResourceId) :
    Option Decision :=
  let resource := budget.resources rid
  if totals rid = 0 then none
  else if budget.resCfg rid = false then none
  else if resource.kind = .state then
    if resource.limit = 0 then
      some { out with
        action := .reject
        reason := .causalCascade
        deniedResource := rid
        requested := totals rid
        available := 0 }
    else none
  else if resource.available < totals rid then
    some { out with
      action := if resource.kind = .reusable then .wait else .reject
      reason := .causalCascade
      deniedResource := rid
      requested := totals rid
      available := resource.available }
  else none

/-- The cascade block of `loxbudget_check`. -/
def checkCascade (B : Build) (budget : Budget) (op : OpId) (out : Decision)
    (needPerRes : NeedPerRes) : Option Decision :=
  if B.enableCausality = false then none
  else
    match causalityAddScaledNeeds B budget op needPerRes budget.pressure with
    | none => none
    | some totals =>
        (List.range budget.maxResources.toNat).findSome? fun rid =>
          checkTotal budget out totals (UInt8.ofNat rid)

/-- `loxbudget_check` once its arguments have been validated. -/
def decide (B : Build) (hal : Hal) (budget : Budget) (op : OpId) : Decision × Budget :=
  let out : Decision := ⟨.allowFull, budget.pressure, 0xFF, 0, 0, .ok⟩
  match budget.profile op with
  | none => budget.deny B hal op { out with action := .reject, reason := .unknownOp }
  | some profile =>
      let out := { out with action := profile.mappedAction budget.pressure }
      if budget.pressure = .lockdown ∧ profile.has opfLockdownPass = false then
        budget.deny B hal op { out with action := .lockdown, reason := .lockdownActive }
      else if out.action = .wait ∨ out.action = .reject ∨ out.action = .lockdown then
        budget.deny B hal op
          { out with
            reason := if out.action = .lockdown then .lockdownActive else .pressureBlock }
      else
        match budget.halPreconditions hal profile with
        | some reason => budget.deny B hal op { out with action := .reject, reason := reason }
        | none =>
            match checkNeeds B hal budget profile out (budget.needs op)
              ⟨budget.rateState, fun _ => 0⟩ with
            | (pass, some d) => { budget with rateState := pass.rateState }.deny B hal op d
            | (pass, none) =>
                let budget := { budget with rateState := pass.rateState }
                match checkCascade B budget op out pass.needPerRes with
                | some d => budget.deny B hal op d
                | none => budget.grant B hal op { out with reason := .ok }

/-- `loxbudget_check`; `out` tells whether the output pointer is non-null. -/
def check (B : Build) (hal : Hal) (budget : Budget) (op : OpId) (out : Bool) :
    Status × Option Decision × Budget :=
  if out = false then (.invalidArg, none, budget)
  else if budget.validate ≠ .ok then (budget.validate, none, budget)
  else
    let (d, budget) := decide B hal budget op
    (.ok, some d, budget)

/-! ## Leases -/

/-- The re-validation of one need in Phase A of `loxbudget_enter`. -/
def Budget.needFits (budget : Budget) (need : Need) : Bool :=
  let resource := budget.resources need.resource
  if need.amount = 0 then true
  else if resource.kind = .state then resource.limit != 0
  else need.amount ≤ resource.available

/-- `loxbudget_enter` up to the critical section. A reply means that the call ended here; the
lease is what was written to the output. -/
def enterBegin (B : Build) (hal : Hal) (budget : Budget) (op : OpId) (out : Bool) :
    Option (Status × Option Lease) × Budget :=
  match check B hal budget op true with
  | (_, some d, budget) =>
      if out = false then (some (.invalidArg, none), budget)
      else if (budget.profile op).isNone then (some (.badState, none), budget)
      else if d.action.allows = false then (some (.badState, some ⟨0, 0, 0, 0⟩), budget)
      else if (budget.needs op).all budget.needFits = false then (some (.badState, none), budget)
      else (none, budget)
  | (status, none, budget) => (some (status, none), budget)

/-- What one need of a committed op changes in its resource. -/
def Resource.commit (resource : Resource) (amount : UInt16) : Resource :=
  match resource.kind with
  | .reusable =>
      let reserved := resource.reserved + amount
      { resource with
        reserved := reserved
        highWatermark := if reserved > resource.highWatermark then reserved
          else resource.highWatermark }
  | .consumable =>
      let used := resource.used + amount
      { resource with
        used := used
        highWatermark := if used > resource.highWatermark then used
          else resource.highWatermark }
  | .state => resource

/-- One iteration of the commit loop of `loxbudget_enter`; `i` is the index of the need. -/
def commitNeed (B : Build) (hal : Hal) (profile : OpProfile) (i : Nat) (budget : Budget)
    (need : Need) : Budget :=
  if need.amount = 0 then budget
  else
    let resource := budget.resources need.resource
    { budget with
      resources := Function.update budget.resources need.resource (resource.commit need.amount)
      rateState :=
        if B.enableRateWindows ∧ resource.kind = .consumable ∧
            profile.has opfBypassRateLimit = false then
          Function.update budget.rateState need.resource
            ((budget.rateState need.resource).commit B.rateImpl (hal.commitNowMs i)
              need.amount.toUInt32)
        else budget.rateState }

/-- The commit loop of `loxbudget_enter`, from the need of index `i` on. -/
def commitNeeds (B : Build) (hal : Hal) (profile : OpProfile) :
    Nat → List Need → Budget → Budget
  | _, [], budget => budget
  | i, need :: rest, budget =>
      commitNeeds B hal profile (i + 1) rest (commitNeed B hal profile i budget need)

/-- The lowest inactive lease slot. -/
def Budget.freeSlot (budget : Budget) : Option UInt8 :=
  (budget.leaseSlots.findIdx? (fun slot => !slot.active)).map UInt8.ofNat

/-- The critical section of `loxbudget_enter`. -/
def enterCommit (B : Build) (hal : Hal) (budget : Budget) (op : OpId) :
    (Status × Option Lease) × Budget :=
  match budget.freeSlot with
  | none => ((.noSpace, none), budget)
  | some slotId =>
      let budget := commitNeeds B hal (budget.ops op) 0 (budget.needs op) budget
      let magic := budget.leaseMagicForId slotId
      ((.ok, some ⟨hal.leaseNowMs, magic, slotId, op⟩),
        { budget with
          leaseSlots := budget.leaseSlots.set slotId.toNat ⟨magic, true, budget.pressure⟩ })

/-- `loxbudget_enter`; `out` tells whether the output pointer is non-null. -/
def enter (B : Build) (hal : Hal) (budget : Budget) (op : OpId) (out : Bool) :
    (Status × Option Lease) × Budget :=
  match enterBegin B hal budget op out with
  | (some reply, budget) => (reply, budget)
  | (none, budget) => enterCommit B hal budget op

/-- The lease slot of an id that has been checked against `maxLeases`. -/
def Budget.leaseSlot (budget : Budget) (id : UInt8) : LeaseSlot :=
  budget.leaseSlots.getD id.toNat .zero

/-- What one need of a released op changes in its resource. -/
def Resource.release (resource : Resource) (amount : UInt16) : Resource :=
  if resource.kind = .reusable then
    { resource with
      reserved := if resource.reserved ≥ amount then resource.reserved - amount else 0 }
  else resource

/-- One iteration of the release loop of `loxbudget_leave`. -/
def releaseNeed (budget : Budget) (need : Need) : Budget :=
  if need.amount = 0 then budget
  else
    { budget with
      resources := Function.update budget.resources need.resource
        ((budget.resources need.resource).release need.amount) }

/-- The release loop of `loxbudget_leave`. -/
def releaseNeeds : List Need → Budget → Budget
  | [], budget => budget
  | need :: rest, budget => releaseNeeds rest (releaseNeed budget need)

/-- `loxbudget_leave` -/
def leave (budget : Budget) (lease : Lease) : Status × Budget :=
  if budget.validate ≠ .ok then (budget.validate, budget)
  else if lease.id ≥ budget.maxLeases then (.invalidArg, budget)
  else if lease.magic ≠ budget.leaseMagicForId lease.id then (.badState, budget)
  else if (budget.profile lease.op).isNone then (.badState, budget)
  else if (budget.leaseSlot lease.id).active = false ∨
      (budget.leaseSlot lease.id).magic ≠ lease.magic then (.badState, budget)
  else
    let budget := releaseNeeds (budget.needs lease.op) budget
    (.ok,
      { budget with
        leaseSlots := budget.leaseSlots.set lease.id.toNat
          { budget.leaseSlot lease.id with active := false, magic := 0 } })

/-- `loxbudget_yield_check`; `out` tells whether the output pointer is non-null. -/
def yieldCheck (budget : Budget) (lease : Lease) (out : Bool) : Status × Option PressureHint :=
  if out = false then (.invalidArg, none)
  else if budget.validate ≠ .ok then (budget.validate, none)
  else if lease.id ≥ budget.maxLeases then (.invalidArg, none)
  else if lease.magic ≠ budget.leaseMagicForId lease.id then (.badState, none)
  else
    match budget.profile lease.op with
    | none => (.badState, none)
    | some profile =>
        let slot := budget.leaseSlot lease.id
        if slot.active = false ∨ slot.magic ≠ lease.magic then (.badState, none)
        else
          let prev := slot.acquiredPressure
          let cur := budget.pressure
          let hint :=
            if cur = prev then PressureHint.holding
            else if cur.level > prev.level then .rising
            else .falling
          let a := profile.mappedAction cur
          if cur = .lockdown ∧ profile.has opfLockdownPass = false then (.ok, some .shouldAbort)
          else if a = .wait ∨ a = .reject ∨ a = .lockdown then (.ok, some .shouldAbort)
          else (.ok, some hint)

/-! ## Diagnostics -/

/-- `loxbudget_snapshot_t` -/
structure Snapshot where
  pressure : Pressure
  activeLeaseCount : UInt8
  resourceCount : UInt8
  opCount : UInt8
  totalDecisions : UInt32
  totalGrants : UInt32
  totalDenials : UInt32
  totalDegradations : UInt32
  uptimeMs : UInt32
  deriving DecidableEq, Repr

/-- `loxbudget_snapshot`; `out` tells whether the output pointer is non-null. -/
def snapshot (hal : Hal) (budget : Budget) (out : Bool) : Status × Option Snapshot :=
  if out = false then (.invalidArg, none)
  else if budget.validate ≠ .ok then (budget.validate, none)
  else
    (.ok, some
      { pressure := budget.pressure
        activeLeaseCount := UInt8.ofNat (budget.leaseSlots.countP (·.active))
        resourceCount := budget.maxResources
        opCount := budget.maxOps
        totalDecisions := budget.journal.totalDecisions
        totalGrants := budget.journal.totalGrants
        totalDenials := budget.journal.totalDenials
        totalDegradations := budget.journal.totalDegradations
        uptimeMs := hal.nowMs })

/-- `loxbudget_audit_clear` -/
def auditClear (budget : Budget) : Status × Budget :=
  if budget.validate ≠ .ok then (budget.validate, budget)
  else if budget.auditSize = 0 then (.ok, budget)
  else
    (.ok,
      { budget with
        journal := { budget.journal with
          auditHead := 0
          auditCount := 0
          auditRing := List.replicate budget.auditSize.toNat .zero } })

end Loxbudget
