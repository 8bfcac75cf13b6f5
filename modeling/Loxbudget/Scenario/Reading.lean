import Loxbudget.Scenario.Language

/-!
# Lines as commands

Each block of the runner reads a command and then takes a step with it. So does the body of its
loop, and the runner passes a list of lines exactly if each of them can be read and the scenario
that they make passes.
-/

namespace Loxbudget

namespace Scenario

open Scan

variable {B : Build} {host : Host} {lineno : UInt32} {s buffer : List Char} {runner : Runner}

/-- The variables after a command that has done as expected. -/
def Runner.after (runner : Runner) (budget : Budget) : Command → Runner
  | .init r o => ⟨budget, r, o, true⟩
  | _ => { runner with budget := budget }

/-- A step of the runner with a command that it has read. -/
def Runner.take (B : Build) (host : Host) (lineno : UInt32) (runner : Runner)
    (command : Command) : Except Stop Runner :=
  match command.stop? lineno ((scenarioMachine B host).reply runner.budget command) with
  | some stop => .error stop
  | none => .ok (runner.after ((scenarioMachine B host).next runner.budget command) command)

/-- A step of the runner with what a line was read as. -/
def Runner.proceed (B : Build) (host : Host) (lineno : UInt32) (runner : Runner) :
    Except String Command → Except Stop Runner
  | .error message => .error (.fail lineno message)
  | .ok command => runner.take B host lineno command

/-! ## The steps of the machine -/

theorem exec_init (budget : Budget) (r o : UInt8) :
    (scenarioMachine B host).exec budget (.init r o) =
      (⟨(initSimple B budget host.budgetAddr host.storage host.storageSize r o).1, none, 0⟩,
        (initSimple B budget host.budgetAddr host.storage host.storageSize r o).2) := rfl

theorem exec_edgeCount (budget : Budget) (n : UInt16) :
    (scenarioMachine B host).exec budget (.expectEdgeCount n) =
      (⟨.ok, none, B.causalityEdgeCount budget⟩, budget) := rfl

theorem exec_of_call (budget : Budget) {command : Command} {call : Call}
    (calls : command.call? = some call) :
    (scenarioMachine B host).exec budget command =
      (⟨(exec B budget ⟨.simple, call⟩).1.status, (exec B budget ⟨.simple, call⟩).1.decision, 0⟩,
        (exec B budget ⟨.simple, call⟩).2) := by
  simp only [scenarioMachine, perform]
  rw [calls]

/-! ## The blocks -/

theorem take_of_call {command : Command} {call : Call} (calls : command.call? = some call) :
    runner.take B host lineno command =
      match command.stop? lineno ⟨(Scenario.call B runner call).1.status,
        (Scenario.call B runner call).1.decision, 0⟩ with
      | some stop => .error stop
      | none => .ok (Scenario.call B runner call).2 := by
  have kept (budget : Budget) : runner.after budget command = { runner with budget := budget } := by
    cases command
    case init => cases calls
    all_goals rfl
  rw [Runner.take, Machine.reply, Machine.next, exec_of_call _ calls]
  simp only [kept]
  rfl

/-- A command that is stopped by every status but `OK` is taken as the source writes it out. -/
theorem take_of_plain {command : Command} {call : Call} {message : String}
    (calls : command.call? = some call)
    (expects : ∀ seen, command.stop? lineno seen =
      if seen.status = .ok then none else some (.fail lineno message)) :
    (if (Scenario.call B runner call).1.status ≠ .ok then
        Except.error (Stop.fail lineno message)
      else .ok (Scenario.call B runner call).2) = runner.take B host lineno command := by
  rw [take_of_call calls, expects]
  by_cases accepted : (Scenario.call B runner call).1.status = .ok
  · rw [if_neg (not_not.mpr accepted), if_pos accepted]
  · rw [if_pos accepted, if_neg accepted]

theorem runInit_eq :
    runInit B host lineno s runner = runner.proceed B host lineno (readInit B s) := by
  unfold runInit
  split
  · rename_i r o scanned
    simp only [readInit, scanned]
    split
    · rfl
    · rw [Runner.proceed, Runner.take, Machine.reply, Machine.next, exec_init]
      simp only [Command.stop?]
      split
      · rfl
      · rename_i succeeded
        rw [if_pos (not_not.mp succeeded)]
        rfl
  · rename_i other
    rw [readInit]
    split
    · rename_i r o scanned
      exact absurd scanned (other r o)
    · rfl

theorem runResource_eq :
    runResource B lineno s runner = runner.proceed B host lineno (readResource s) := by
  unfold runResource
  split
  · rename_i id limit kindS scanned
    simp only [readResource, scanned]
    cases parseKind kindS with
    | none => rfl
    | some kind => exact take_of_plain rfl fun _ => rfl
  · rename_i other
    rw [readResource]
    split
    · rename_i id limit kindS scanned
      exact absurd scanned (other id limit kindS)
    · rfl

theorem runOp_eq : runOp B lineno s runner = runner.proceed B host lineno (readOp s) := by
  unfold runOp
  split
  · rename_i id scanned
    simp only [readOp, scanned]
    exact take_of_plain rfl fun _ => rfl
  · rename_i other
    rw [readOp]
    split
    · rename_i id scanned
      exact absurd scanned (other id)
    · rfl

theorem runNeed_eq : runNeed B lineno s runner = runner.proceed B host lineno (readNeed s) := by
  unfold runNeed
  split
  · rename_i id res amount scanned
    simp only [readNeed, scanned]
    exact take_of_plain rfl fun _ => rfl
  · rename_i other
    rw [readNeed]
    split
    · rename_i id res amount scanned
      exact absurd scanned (other id res amount)
    · rfl

theorem runEdge_eq : runEdge B lineno s runner = runner.proceed B host lineno (readEdge s) := by
  unfold runEdge
  split
  · rename_i parent child kindS scanned
    simp only [readEdge, scanned]
    cases parseTrigger kindS with
    | none => rfl
    | some kind => exact take_of_plain rfl fun _ => rfl
  · rename_i other
    rw [readEdge]
    split
    · rename_i parent child kindS scanned
      exact absurd scanned (other parent child kindS)
    · rfl

theorem runExpectEdge_eq :
    runExpectEdge B lineno s runner = runner.proceed B host lineno (readExpectEdge s) := by
  unfold runExpectEdge
  split
  · rename_i parent child kindS stS scanned
    simp only [readExpectEdge, scanned]
    cases parseTrigger kindS with
    | none => rfl
    | some kind =>
        cases parseStatus stS with
        | none => rfl
        | some status =>
            simp only [Runner.proceed]
            rw [take_of_call rfl]
            simp only [Command.stop?]
            split
            · rfl
            · rename_i same
              rw [if_pos (not_not.mp same)]
  · rename_i other
    rw [readExpectEdge]
    split
    · rename_i parent child kindS stS scanned
      exact absurd scanned (other parent child kindS stS)
    · rfl

theorem runExpectEdgeCount_eq :
    runExpectEdgeCount B lineno s runner =
      runner.proceed B host lineno (readExpectEdgeCount s) := by
  unfold runExpectEdgeCount
  split
  · rename_i n scanned
    simp only [readExpectEdgeCount, scanned]
    rw [Runner.proceed, Runner.take, Machine.reply, Machine.next, exec_edgeCount]
    simp only [Command.stop?]
    split
    · rfl
    · rename_i same
      rw [if_pos (not_not.mp same)]
      rfl
  · rename_i other
    rw [readExpectEdgeCount]
    split
    · rename_i n scanned
      exact absurd scanned (other n)
    · rfl

theorem runPressure_eq :
    runPressure B lineno s runner = runner.proceed B host lineno (readPressure s) := by
  unfold runPressure
  split
  · rename_i pS scanned
    simp only [readPressure, scanned]
    cases parsePressure pS with
    | none => rfl
    | some level => exact take_of_plain rfl fun _ => rfl
  · rename_i other
    rw [readPressure]
    split
    · rename_i pS scanned
      exact absurd scanned (other pS)
    · rfl

theorem runChecked_eq (op : OpId) (action : Action) (reason : Option Reason) :
    runChecked B lineno op action reason runner =
      runner.take B host lineno (.expectCheck op action reason) := by
  rw [take_of_call rfl, runChecked]
  simp only [Command.stop?]
  generalize (Scenario.call B runner (.check op true)).1.status = status
  generalize (Scenario.call B runner (.check op true)).1.decision = decision
  cases status
  case ok =>
    cases decision with
    | none => rfl
    | some d =>
        by_cases same : d.action = action
        · simp only [same, ne_eq, not_true_eq_false, if_false]
          cases reason with
          | none => rfl
          | some reason =>
              by_cases same' : d.reason = reason
              · simp [same']
              · simp [same']
        · simp [same]
  all_goals rfl

theorem runExpected_eq (op : OpId) (actionS : List Char) (reasonS : Option (List Char)) :
    runExpected B lineno op actionS reasonS runner =
      runner.proceed B host lineno (readExpected op actionS reasonS) := by
  rw [readExpected, runExpected]
  cases parseAction actionS with
  | none => rfl
  | some action =>
      cases reasonS with
      | none => exact runChecked_eq op action none
      | some reasonS =>
          simp only
          cases parseReason reasonS with
          | none => rfl
          | some reason => exact runChecked_eq op action (some reason)

theorem runExpectCheck_eq :
    runExpectCheck B lineno s runner = runner.proceed B host lineno (readExpectCheck s) := by
  unfold runExpectCheck
  split
  · rename_i id actionS reasonS scanned
    simp only [readExpectCheck, scanned]
    exact runExpected_eq id actionS (some reasonS)
  · rename_i other
    split
    · rename_i id actionS scanned
      rw [readExpectCheck]
      split
      · rename_i id actionS reasonS scanned'
        exact absurd scanned' (other id actionS reasonS)
      · simp only [scanned]
        exact runExpected_eq id actionS none
    · rename_i other'
      rw [readExpectCheck]
      split
      · rename_i id actionS reasonS scanned'
        exact absurd scanned' (other id actionS reasonS)
      · split
        · rename_i id actionS scanned
          exact absurd scanned (other' id actionS)
        · rfl

/-! ## The body of the loop -/

theorem runCommand_eq (host : Host) {cmd : List Char} (other : cmd ≠ "init".toList) :
    runCommand B lineno cmd s runner = runner.proceed B host lineno (readCommand B cmd s) := by
  unfold runCommand readCommand
  rw [if_neg other]
  split
  · exact runResource_eq
  split
  · exact runOp_eq
  split
  · exact runNeed_eq
  split
  · exact runEdge_eq
  split
  · exact runExpectEdge_eq
  split
  · exact runExpectEdgeCount_eq
  split
  · exact runPressure_eq
  split
  · exact runExpectCheck_eq
  · rfl

theorem readExpected_isInit {op : OpId} {actionS : List Char} {reasonS : Option (List Char)}
    {command : Command} (read : readExpected op actionS reasonS = .ok command) :
    command.isInit = false := by
  unfold readExpected at read
  split at read
  · cases read
  split at read
  · cases read
    rfl
  split at read
  · cases read
  · cases read
    rfl

/-- Only the command word `init` gives an `init`. -/
theorem readCommand_isInit {cmd : List Char} {command : Command}
    (read : readCommand B cmd s = .ok command) :
    command.isInit = true ↔ cmd = "init".toList := by
  by_cases isInit : cmd = "init".toList
  · apply iff_of_true _ isInit
    rw [readCommand, if_pos isInit] at read
    unfold readInit at read
    split at read
    · split at read
      · cases read
      · cases read
        rfl
    · cases read
  · apply iff_of_false _ isInit
    rw [Bool.not_eq_true]
    rw [readCommand, if_neg isInit] at read
    split at read
    · unfold readResource at read
      split at read
      · split at read <;> cases read
        rfl
      · cases read
    split at read
    · unfold readOp at read
      split at read <;> cases read
      rfl
    split at read
    · unfold readNeed at read
      split at read <;> cases read
      rfl
    split at read
    · unfold readEdge at read
      split at read
      · split at read <;> cases read
        rfl
      · cases read
    split at read
    · unfold readExpectEdge at read
      split at read
      · split at read
        · cases read
        split at read <;> cases read
        rfl
      · cases read
    split at read
    · unfold readExpectEdgeCount at read
      split at read <;> cases read
      rfl
    split at read
    · unfold readPressure at read
      split at read
      · split at read <;> cases read
        rfl
      · cases read
    split at read
    · unfold readExpectCheck at read
      split at read
      · exact readExpected_isInit read
      split at read
      · exact readExpected_isInit read
      · cases read
    · cases read

/-- The runner as a command finds it: before any command but `init` the instance has been
initialised. -/
def Runner.prepare (B : Build) (host : Host) (lineno : UInt32) (runner : Runner)
    (isInit : Bool) : Except Stop Runner :=
  if isInit then .ok runner else implicitInit B host lineno runner

/-- A line is blank or a comment, or it has a command word, and then the body of the loop goes on
with what the line is read as. -/
theorem line_cases (B : Build) (host : Host) (buffer : List Char) :
    (readLine B buffer = .ok none ∧
        ∀ lineno runner, runLine B host lineno buffer runner = .ok runner) ∨
      ∃ cmd s, readLine B buffer = (readCommand B cmd s).map some ∧
        ∀ lineno runner, runLine B host lineno buffer runner =
          (Runner.prepare B host lineno runner (cmd == "init".toList)).bind
            fun runner => runner.proceed B host lineno (readCommand B cmd s) := by
  simp only [readLine]
  by_cases blank : skipWs (rstrip (cString buffer)) = [] ∨
      (skipWs (rstrip (cString buffer))).head? = some '#'
  · exact Or.inl ⟨by rw [if_pos blank], fun _ _ => if_pos blank⟩
  · simp only [if_neg blank]
    split
    · rename_i cmd scanned
      refine Or.inr ⟨cmd, _, rfl, fun lineno runner => ?_⟩
      simp only [runLine, if_neg blank, scanned]
      by_cases word : cmd = "init".toList
      · rw [if_pos word, runInit_eq, readCommand, if_pos word, beq_iff_eq.mpr word]
        rfl
      · rw [if_neg word, beq_eq_false_iff_ne.mpr word]
        simp only [runCommand_eq host word]
        rfl
    · rename_i other
      refine Or.inl ⟨rfl, fun lineno runner => ?_⟩
      simp only [runLine, if_neg blank]

theorem runLine_of_blank (read : readLine B buffer = .ok none) :
    runLine B host lineno buffer runner = .ok runner := by
  rcases line_cases B host buffer with ⟨-, passed⟩ | ⟨cmd, s, reads, -⟩
  · exact passed lineno runner
  · rw [read] at reads
    cases reading : readCommand B cmd s with
    | error => rw [reading] at reads; cases reads
    | ok => rw [reading] at reads; cases reads

theorem runLine_of_command {command : Command} (read : readLine B buffer = .ok (some command)) :
    runLine B host lineno buffer runner =
      (runner.prepare B host lineno command.isInit).bind
        fun runner => runner.take B host lineno command := by
  rcases line_cases B host buffer with ⟨nothing, -⟩ | ⟨cmd, s, reads, runs⟩
  · rw [read] at nothing
    cases nothing
  · rw [read] at reads
    cases reading : readCommand B cmd s with
    | error => rw [reading] at reads; cases reads
    | ok command' =>
        rw [reading] at reads
        obtain rfl : command = command' := by
          cases reads
          rfl
        have isInit : (cmd == "init".toList) = command.isInit := by
          rw [Bool.eq_iff_iff, beq_iff_eq, readCommand_isInit reading]
        rw [runs, isInit, reading]
        rfl

/-- A line that cannot be read stops the runner, with its message unless the instance cannot be
initialised before. -/
theorem runLine_of_error (host : Host) (runner : Runner) (lineno : UInt32) {message : String}
    (read : readLine B buffer = .error message) :
    ∃ isInit, runLine B host lineno buffer runner =
      (runner.prepare B host lineno isInit).bind fun _ => .error (.fail lineno message) := by
  rcases line_cases B host buffer with ⟨nothing, -⟩ | ⟨cmd, s, reads, runs⟩
  · rw [read] at nothing
    cases nothing
  · rw [read] at reads
    cases reading : readCommand B cmd s with
    | ok => rw [reading] at reads; cases reads
    | error message' =>
        rw [reading] at reads
        obtain rfl : message = message' := by
          cases reads
          rfl
        refine ⟨cmd == "init".toList, ?_⟩
        rw [runs, reading]
        rfl

end Scenario

end Loxbudget
