import Loxbudget.Lib.Script
import Loxbudget.Model.Scenario

/-!
# The scenario language

What the lines of a scenario mean, apart from how they are read: a scenario is a list of commands,
and a command is a step of a machine whose state is the instance. The step makes the library call
that the command names, and the command says which answers it expects. Reading a line gives a
command, nothing, or a complaint; every line of the runner is then a reading followed by a step.
-/

namespace Loxbudget

namespace Scenario

open Scan

/-- A command of the language with its arguments. -/
inductive Command where
  | init (maxResources maxOps : UInt8)
  | resource (id : ResourceId) (limit : UInt16) (kind : ResourceKind)
  | op (id : OpId)
  | need (op : OpId) (res : ResourceId) (amount : UInt16)
  | edge (parent child : OpId) (kind : TriggerKind)
  | expectEdge (parent child : OpId) (kind : TriggerKind) (status : Status)
  | expectEdgeCount (n : UInt16)
  | pressure (pressure : Pressure)
  | expectCheck (op : OpId) (action : Action) (reason : Option Reason)
  deriving DecidableEq, Repr

/-- What a command observes: the status of its call, the decision of a check, the count of edges. -/
structure Observation where
  status : Status
  decision : Option Decision
  count : UInt16
  deriving DecidableEq, Repr

/-! ## What commands do -/

/-- The library call that a command makes, if it is one of the calls on an initialised instance. -/
def Command.call? : Command → Option Call
  | init _ _ | expectEdgeCount _ => none
  | resource id limit kind => some (.setResource id limit kind.raw)
  | op id => some (.registerOp (some (opProfileDefault id)))
  | need id res amount => some (.opSetNeed id res amount)
  | edge parent child kind | expectEdge parent child kind _ =>
      some (.opMayTrigger parent child kind.raw)
  | pressure level => some (.setPressure level.raw)
  | expectCheck id _ _ => some (.check id true)

variable (B : Build) (host : Host)

/-- The effect of a command on the instance. -/
def perform (budget : Budget) (command : Command) : Observation × Budget :=
  match command.call? with
  | some call =>
      let (reply, budget) := exec B budget ⟨.simple, call⟩
      (⟨reply.status, reply.decision, 0⟩, budget)
  | none =>
      match command with
      | .init r o =>
          let (status, budget) :=
            initSimple B budget host.budgetAddr host.storage host.storageSize r o
          (⟨status, none, 0⟩, budget)
      | _ => (⟨.ok, none, B.causalityEdgeCount budget⟩, budget)

/-- The instance under the commands of a scenario. -/
def scenarioMachine : Machine Budget Command Observation where
  exec := perform B host

/-! ## What commands expect -/

/-- How the runner stops after a command whose observation is not the expected one. -/
def Command.stop? (lineno : UInt32) : Command → Observation → Option Stop
  | init _ _, seen =>
      if seen.status = .ok then none else some (.fail lineno "loxbudget_init_simple failed")
  | resource _ _ _, seen =>
      if seen.status = .ok then none else some (.fail lineno "loxbudget_set_resource failed")
  | op _, seen =>
      if seen.status = .ok then none else some (.fail lineno "loxbudget_register_op failed")
  | need _ _ _, seen =>
      if seen.status = .ok then none else some (.fail lineno "loxbudget_op_set_need failed")
  | edge _ _ _, seen =>
      if seen.status = .ok then none else some (.fail lineno "loxbudget_op_may_trigger failed")
  | expectEdge _ _ _ status, seen =>
      if seen.status = status then none else some (.mismatch (.status status seen.status))
  | expectEdgeCount n, seen =>
      if seen.count = n then none else some (.mismatch (.edgeCount n seen.count))
  | pressure _, seen =>
      if seen.status = .ok then none else some (.fail lineno "loxbudget_set_pressure failed")
  | expectCheck _ action reason, seen =>
      match seen.status, seen.decision with
      | .ok, some d =>
          if d.action ≠ action then some (.mismatch (.action action d.action))
          else
            match reason with
            | none => none
            | some reason =>
                if d.reason ≠ reason then some (.mismatch (.reason reason d.reason)) else none
      | _, _ => some (.fail lineno "loxbudget_check failed")

/-- The observation is the one that the command expects. -/
def meets (command : Command) (seen : Observation) : Bool :=
  (command.stop? 0 seen).isNone

/-- The commands that look at the instance and leave its tables alone. -/
def Command.looks : Command → Bool
  | expectEdgeCount _ | expectCheck _ _ _ => true
  | _ => false

/-- The command is an `init`. -/
def Command.isInit : Command → Bool
  | init _ _ => true
  | _ => false

/-- A scenario that does not begin with `init` is run as if it began with `init 2 4`. -/
def withInit : List Command → List Command
  | [] => []
  | command :: commands =>
      if command.isInit then command :: commands else .init 2 4 :: command :: commands

/-! ## How lines are read -/

def readInit (s : List Char) : Except String Command :=
  match scan initFormat s with
  | [.uint r, .uint o] =>
      if r = 0 ∨ o = 0 ∨ r.toNat > B.maxResources ∨ o.toNat > B.maxOps then
        .error "init out of range"
      else .ok (.init r.toUInt8 o.toUInt8)
  | _ => .error "usage: init <max_res> <max_ops>"

def readResource (s : List Char) : Except String Command :=
  match scan resourceFormat s with
  | [.byte id, .short limit, .word kindS] =>
      match parseKind kindS with
      | none => .error "invalid resource kind"
      | some kind => .ok (.resource id limit kind)
  | _ => .error "usage: resource <id> <limit> <REUSABLE|CONSUMABLE|STATE>"

def readOp (s : List Char) : Except String Command :=
  match scan opFormat s with
  | [.byte id] => .ok (.op id)
  | _ => .error "usage: op <id>"

def readNeed (s : List Char) : Except String Command :=
  match scan needFormat s with
  | [.byte op, .byte res, .short amt] => .ok (.need op res amt)
  | _ => .error "usage: need <op> <res> <amount>"

def readEdge (s : List Char) : Except String Command :=
  match scan edgeFormat s with
  | [.byte parent, .byte child, .word kindS] =>
      match parseTrigger kindS with
      | none => .error "invalid trigger kind"
      | some kind => .ok (.edge parent child kind)
  | _ => .error "usage: edge <parent> <child> <NEVER|RARE|MAYBE|ALWAYS>"

def readExpectEdge (s : List Char) : Except String Command :=
  match scan expectEdgeFormat s with
  | [.byte parent, .byte child, .word kindS, .word stS] =>
      match parseTrigger kindS with
      | none => .error "invalid trigger kind"
      | some kind =>
          match parseStatus stS with
          | none => .error "invalid expected status"
          | some status => .ok (.expectEdge parent child kind status)
  | _ => .error "usage: expect_edge <parent> <child> <KIND> status=<STATUS>"

def readExpectEdgeCount (s : List Char) : Except String Command :=
  match scan expectEdgeCountFormat s with
  | [.short n] => .ok (.expectEdgeCount n)
  | _ => .error "usage: expect_edge_count <n>"

def readPressure (s : List Char) : Except String Command :=
  match scan pressureFormat s with
  | [.word pS] =>
      match parsePressure pS with
      | none => .error "invalid pressure"
      | some pressure => .ok (.pressure pressure)
  | _ => .error "usage: pressure <NORMAL|ELEVATED|CRITICAL|SURVIVAL|LOCKDOWN>"

def readExpected (op : OpId) (actionS : List Char) (reasonS : Option (List Char)) :
    Except String Command :=
  match parseAction actionS with
  | none => .error "invalid expected action"
  | some action =>
      match reasonS with
      | none => .ok (.expectCheck op action none)
      | some reasonS =>
          match parseReason reasonS with
          | none => .error "invalid expected reason"
          | some reason => .ok (.expectCheck op action (some reason))

def readExpectCheck (s : List Char) : Except String Command :=
  match scan expectCheckFormat s with
  | [.byte op, .word actionS, .word reasonS] => readExpected op actionS (some reasonS)
  | _ =>
      match scan expectActionFormat s with
      | [.byte op, .word actionS] => readExpected op actionS none
      | _ => .error "usage: expect_check <op> <ACTION> [reason=<REASON>]"

/-- The command that a text with a given command word stands for. -/
def readCommand (cmd s : List Char) : Except String Command :=
  if cmd = "init".toList then readInit B s
  else if cmd = "resource".toList then readResource s
  else if cmd = "op".toList then readOp s
  else if cmd = "need".toList then readNeed s
  else if cmd = "edge".toList then readEdge s
  else if cmd = "expect_edge".toList then readExpectEdge s
  else if cmd = "expect_edge_count".toList then readExpectEdgeCount s
  else if cmd = "pressure".toList then readPressure s
  else if cmd = "expect_check".toList then readExpectCheck s
  else .error "unknown command"

/-- What a line stands for: a command, or nothing if it is blank or a comment. -/
def readLine (buffer : List Char) : Except String (Option Command) :=
  let s := skipWs (rstrip (cString buffer))
  if s = [] ∨ s.head? = some '#' then .ok none
  else
    match scan [.word 63] s with
    | [.word cmd] => (readCommand B cmd s).map some
    | _ => .ok none

/-- The commands that a list of lines stands for, if each of them can be read. -/
def readLines : List (List Char) → Option (List Command)
  | [] => some []
  | buffer :: rest =>
      match readLine B buffer with
      | .error _ => none
      | .ok none => readLines rest
      | .ok (some command) => (readLines rest).map (command :: ·)

end Scenario

end Loxbudget
