import Loxbudget.Lib.Lines
import Loxbudget.Lib.Scan
import Loxbudget.Model.Helpers
import Loxbudget.Model.Names
import Mathlib.Data.List.DropRight

/-!
# The scenario runner

`tests/scenario_runner.c` reads a scenario from its standard input, line by line, and makes the
library calls that the lines name. It is linked with the build that it is compiled for, and the
callbacks of its instance are the permissive ones. A `return` of `main` before the end of the
input is a `Stop`; each command has a function of its own, in the order of the source. A `Char` of
the input stands for a byte, and all bytes outside ASCII are treated alike.
-/

namespace Loxbudget

namespace Scenario

open Scan

/-! ## Helpers of the source -/

/-- The characters that both trimming functions remove. -/
def isBlank (c : Char) : Bool :=
  c == ' ' || c == '\t' || c == '\r' || c == '\n'

/-- `skip_ws_` -/
def skipWs (s : List Char) : List Char :=
  s.dropWhile isBlank

/-- `rstrip_` -/
def rstrip (s : List Char) : List Char :=
  s.rdropWhile isBlank

/-- The string in a buffer: what stands before the first null character. -/
def cString (buffer : List Char) : List Char :=
  buffer.takeWhile fun c => c != '\x00'

/-! ## Ends of the run -/

/-- An expectation that was not met, with the two values that are printed. -/
inductive Mismatch where
  | status (expected got : Status)
  | edgeCount (expected got : UInt16)
  | action (expected got : Action)
  | reason (expected got : Reason)
  deriving DecidableEq, Repr

/-- A `return` before the end of the input: `fail_` with its line and its message, which gives 2, or
an expectation that was not met, which gives 1. -/
inductive Stop where
  | fail (line : UInt32) (message : String)
  | mismatch (mismatch : Mismatch)
  deriving DecidableEq, Repr

/-- How `main` returns. -/
inductive Outcome where
  | passed
  | stopped (stop : Stop)
  deriving DecidableEq, Repr

/-- The value that `main` returns. -/
def Outcome.exitCode : Outcome → UInt32
  | passed => 0
  | stopped (.mismatch _) => 1
  | stopped (.fail _ _) => 2

/-! ## The variables of the run -/

/-- Where the instance and its storage lie, and what the instance holds before it is
initialised. -/
structure Host where
  budgetAddr : UInt64
  storage : UInt64
  storageSize : UInt64
  memory : Budget

/-- The local variables of `main` that a line reads or changes. -/
structure Runner where
  budget : Budget
  maxResources : UInt8
  maxOps : UInt8
  didInit : Bool

/-- The variables as the loop finds them. -/
def Runner.start (host : Host) : Runner where
  budget := host.memory
  maxResources := 2
  maxOps := 4
  didInit := false

variable (B : Build) (host : Host)

/-- A call of the library under the callbacks that `loxbudget_init_simple` installs. -/
def call (runner : Runner) (call : Call) : Reply × Runner :=
  let (reply, budget) := exec B runner.budget ⟨.simple, call⟩
  (reply, { runner with budget := budget })

/-! ## The commands -/

/-- `"init %u %u"` -/
def initFormat : List Directive :=
  [.literal "init".toList, .space, .uint, .space, .uint]

/-- `"resource %hhu %hu %31s"` -/
def resourceFormat : List Directive :=
  [.literal "resource".toList, .space, .byte, .space, .short, .space, .word 31]

/-- `"op %hhu"` -/
def opFormat : List Directive :=
  [.literal "op".toList, .space, .byte]

/-- `"need %hhu %hhu %hu"` -/
def needFormat : List Directive :=
  [.literal "need".toList, .space, .byte, .space, .byte, .space, .short]

/-- `"edge %hhu %hhu %31s"` -/
def edgeFormat : List Directive :=
  [.literal "edge".toList, .space, .byte, .space, .byte, .space, .word 31]

/-- `"expect_edge %hhu %hhu %31s status=%63s"` -/
def expectEdgeFormat : List Directive :=
  [.literal "expect_edge".toList, .space, .byte, .space, .byte, .space, .word 31, .space,
    .literal "status=".toList, .word 63]

/-- `"expect_edge_count %hu"` -/
def expectEdgeCountFormat : List Directive :=
  [.literal "expect_edge_count".toList, .space, .short]

/-- `"pressure %31s"` -/
def pressureFormat : List Directive :=
  [.literal "pressure".toList, .space, .word 31]

/-- `"expect_check %hhu %31s"` -/
def expectActionFormat : List Directive :=
  [.literal "expect_check".toList, .space, .byte, .space, .word 31]

/-- `"expect_check %hhu %31s reason=%63s"` -/
def expectCheckFormat : List Directive :=
  expectActionFormat ++ [.space, .literal "reason=".toList, .word 63]

/-- The block of `init`. -/
def runInit (lineno : UInt32) (s : List Char) (runner : Runner) : Except Stop Runner :=
  match scan initFormat s with
  | [.uint r, .uint o] =>
      if r = 0 ∨ o = 0 ∨ r.toNat > B.maxResources ∨ o.toNat > B.maxOps then
        .error (.fail lineno "init out of range")
      else
        let (status, budget) := initSimple B runner.budget host.budgetAddr host.storage
          host.storageSize r.toUInt8 o.toUInt8
        if status ≠ .ok then .error (.fail lineno "loxbudget_init_simple failed")
        else .ok ⟨budget, r.toUInt8, o.toUInt8, true⟩
  | _ => .error (.fail lineno "usage: init <max_res> <max_ops>")

/-- The block that initialises the instance before the first command other than `init`. -/
def implicitInit (lineno : UInt32) (runner : Runner) : Except Stop Runner :=
  if runner.didInit then .ok runner
  else
    let (status, budget) := initSimple B runner.budget host.budgetAddr host.storage
      host.storageSize runner.maxResources runner.maxOps
    if status ≠ .ok then .error (.fail lineno "implicit init failed")
    else .ok { runner with budget := budget, didInit := true }

/-- The block of `resource`. -/
def runResource (lineno : UInt32) (s : List Char) (runner : Runner) : Except Stop Runner :=
  match scan resourceFormat s with
  | [.byte id, .short limit, .word kindS] =>
      match parseKind kindS with
      | none => .error (.fail lineno "invalid resource kind")
      | some kind =>
          let (reply, runner) := call B runner (.setResource id limit kind.raw)
          if reply.status ≠ .ok then .error (.fail lineno "loxbudget_set_resource failed")
          else .ok runner
  | _ => .error (.fail lineno "usage: resource <id> <limit> <REUSABLE|CONSUMABLE|STATE>")

/-- The block of `op`. -/
def runOp (lineno : UInt32) (s : List Char) (runner : Runner) : Except Stop Runner :=
  match scan opFormat s with
  | [.byte id] =>
      let (reply, runner) := call B runner (.registerOp (some (opProfileDefault id)))
      if reply.status ≠ .ok then .error (.fail lineno "loxbudget_register_op failed")
      else .ok runner
  | _ => .error (.fail lineno "usage: op <id>")

/-- The block of `need`. -/
def runNeed (lineno : UInt32) (s : List Char) (runner : Runner) : Except Stop Runner :=
  match scan needFormat s with
  | [.byte op, .byte res, .short amt] =>
      let (reply, runner) := call B runner (.opSetNeed op res amt)
      if reply.status ≠ .ok then .error (.fail lineno "loxbudget_op_set_need failed")
      else .ok runner
  | _ => .error (.fail lineno "usage: need <op> <res> <amount>")

/-- The block of `edge`. -/
def runEdge (lineno : UInt32) (s : List Char) (runner : Runner) : Except Stop Runner :=
  match scan edgeFormat s with
  | [.byte parent, .byte child, .word kindS] =>
      match parseTrigger kindS with
      | none => .error (.fail lineno "invalid trigger kind")
      | some kind =>
          let (reply, runner) := call B runner (.opMayTrigger parent child kind.raw)
          if reply.status ≠ .ok then .error (.fail lineno "loxbudget_op_may_trigger failed")
          else .ok runner
  | _ => .error (.fail lineno "usage: edge <parent> <child> <NEVER|RARE|MAYBE|ALWAYS>")

/-- The block of `expect_edge`. -/
def runExpectEdge (lineno : UInt32) (s : List Char) (runner : Runner) : Except Stop Runner :=
  match scan expectEdgeFormat s with
  | [.byte parent, .byte child, .word kindS, .word stS] =>
      match parseTrigger kindS with
      | none => .error (.fail lineno "invalid trigger kind")
      | some kind =>
          match parseStatus stS with
          | none => .error (.fail lineno "invalid expected status")
          | some exp =>
              let (got, runner) := call B runner (.opMayTrigger parent child kind.raw)
              if got.status ≠ exp then .error (.mismatch (.status exp got.status))
              else .ok runner
  | _ => .error (.fail lineno "usage: expect_edge <parent> <child> <KIND> status=<STATUS>")

/-- The block of `expect_edge_count`. -/
def runExpectEdgeCount (lineno : UInt32) (s : List Char) (runner : Runner) :
    Except Stop Runner :=
  match scan expectEdgeCountFormat s with
  | [.short n] =>
      let got := B.causalityEdgeCount runner.budget
      if got ≠ n then .error (.mismatch (.edgeCount n got)) else .ok runner
  | _ => .error (.fail lineno "usage: expect_edge_count <n>")

/-- The block of `pressure`. -/
def runPressure (lineno : UInt32) (s : List Char) (runner : Runner) : Except Stop Runner :=
  match scan pressureFormat s with
  | [.word pS] =>
      match parsePressure pS with
      | none => .error (.fail lineno "invalid pressure")
      | some pressure =>
          let (reply, runner) := call B runner (.setPressure pressure.raw)
          if reply.status ≠ .ok then .error (.fail lineno "loxbudget_set_pressure failed")
          else .ok runner
  | _ => .error (.fail lineno
      "usage: pressure <NORMAL|ELEVATED|CRITICAL|SURVIVAL|LOCKDOWN>")

/-- The end of the block of `expect_check`, from the call on. -/
def runChecked (lineno : UInt32) (op : OpId) (expAction : Action) (expReason : Option Reason)
    (runner : Runner) : Except Stop Runner :=
  let (reply, runner) := call B runner (.check op true)
  match reply.status, reply.decision with
  | .ok, some d =>
      if d.action ≠ expAction then .error (.mismatch (.action expAction d.action))
      else
        match expReason with
        | none => .ok runner
        | some reason =>
            if d.reason ≠ reason then .error (.mismatch (.reason reason d.reason))
            else .ok runner
  | _, _ => .error (.fail lineno "loxbudget_check failed")

/-- The block of `expect_check` from the parsing of the action on. -/
def runExpected (lineno : UInt32) (op : OpId) (actionS : List Char)
    (reasonS : Option (List Char)) (runner : Runner) : Except Stop Runner :=
  match parseAction actionS with
  | none => .error (.fail lineno "invalid expected action")
  | some expAction =>
      match reasonS with
      | none => runChecked B lineno op expAction none runner
      | some reasonS =>
          match parseReason reasonS with
          | none => .error (.fail lineno "invalid expected reason")
          | some reason => runChecked B lineno op expAction (some reason) runner

/-- The block of `expect_check`: the format with a reason is tried before the one without. -/
def runExpectCheck (lineno : UInt32) (s : List Char) (runner : Runner) : Except Stop Runner :=
  match scan expectCheckFormat s with
  | [.byte op, .word actionS, .word reasonS] =>
      runExpected B lineno op actionS (some reasonS) runner
  | _ =>
      match scan expectActionFormat s with
      | [.byte op, .word actionS] => runExpected B lineno op actionS none runner
      | _ => .error (.fail lineno "usage: expect_check <op> <ACTION> [reason=<REASON>]")

/-- The chain of comparisons with the command word, from `resource` on. -/
def runCommand (lineno : UInt32) (cmd s : List Char) (runner : Runner) : Except Stop Runner :=
  if cmd = "resource".toList then runResource B lineno s runner
  else if cmd = "op".toList then runOp B lineno s runner
  else if cmd = "need".toList then runNeed B lineno s runner
  else if cmd = "edge".toList then runEdge B lineno s runner
  else if cmd = "expect_edge".toList then runExpectEdge B lineno s runner
  else if cmd = "expect_edge_count".toList then runExpectEdgeCount B lineno s runner
  else if cmd = "pressure".toList then runPressure B lineno s runner
  else if cmd = "expect_check".toList then runExpectCheck B lineno s runner
  else .error (.fail lineno "unknown command")

/-! ## The loop -/

/-- The body of the loop of `main`, given what `fgets` has put into the buffer. -/
def runLine (lineno : UInt32) (buffer : List Char) (runner : Runner) : Except Stop Runner :=
  let s := skipWs (rstrip (cString buffer))
  if s = [] ∨ s.head? = some '#' then .ok runner
  else
    match scan [.word 63] s with
    | [.word cmd] =>
        if cmd = "init".toList then runInit B host lineno s runner
        else do
          let runner ← implicitInit B host lineno runner
          runCommand B lineno cmd s runner
    | _ => .ok runner

/-- The loop of `main` over what `fgets` reads, with the number of the lines before. -/
def runLines : UInt32 → List (List Char) → Runner → Outcome
  | _, [], _ => .passed
  | lineno, buffer :: rest, runner =>
      match runLine B host (lineno + 1) buffer runner with
      | .ok runner => runLines (lineno + 1) rest runner
      | .error stop => .stopped stop

/-- `main`, on the text of its standard input. -/
def main (stdin : List Char) : Outcome :=
  runLines B host 0 (Lines.lines 512 stdin) (.start host)

end Scenario

end Loxbudget
