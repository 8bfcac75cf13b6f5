import Loxbudget.Scenario.Reading
import Loxbudget.Storage.Layout

/-!
# When a scenario passes, and where it stops

The runner is a loop over lines with an instance that it initialises on demand. What it decides
is told without either: the text passes exactly if each of its lines can be read and the scenario
that they make, begun with an `init`, meets every expectation in turn. Otherwise the first line
that cannot be read, or whose expectation is not met, is the one that the runner reports.
-/

namespace Loxbudget

namespace Scenario

variable {B : Build} {host : Host} {lineno : UInt32} {runner : Runner} {command : Command}

/-! ## One command -/

/-- Whether the runner goes on does not depend on the line number. -/
theorem stop?_eq_none (lineno : UInt32) (seen : Observation) :
    command.stop? lineno seen = none ↔ meets command seen = true := by
  simp only [meets, Option.isNone_iff_eq_none]
  cases command
  case expectCheck op action reason =>
    simp only [Command.stop?]
    split
    · rfl
    · simp
  all_goals simp only [Command.stop?]
  all_goals
    split
    · simp
    · simp

/-- Before it is initialised, the runner has the sizes of the implicit `init`. -/
def Runner.Proper (runner : Runner) : Prop :=
  runner.didInit = false → runner.maxResources = 2 ∧ runner.maxOps = 4

/-- What the commands do to the instance of a runner: the first of them may have to initialise
it. -/
def Runner.script (runner : Runner) (commands : List Command) : List Command :=
  if runner.didInit then commands else withInit commands

theorem Runner.script_cons (runner : Runner) (command : Command) (commands : List Command) :
    runner.script (command :: commands) = runner.script [command] ++ commands := by
  simp only [Runner.script, withInit]
  split
  · rfl
  · split
    · rfl
    · rfl

/-- What makes an instance ready for a command: nothing, or the implicit `init`. -/
def Runner.prelude (runner : Runner) (command : Command) : List Command :=
  if runner.didInit || command.isInit then [] else [.init 2 4]

theorem Runner.script_singleton (runner : Runner) (command : Command) :
    runner.script [command] = runner.prelude command ++ [command] := by
  simp only [Runner.script, Runner.prelude, withInit]
  cases runner.didInit
  · cases command.isInit <;> rfl
  · rfl

/-- The implicit `init` is a step of the scenario like any other. -/
theorem prepare_eq (host : Host) (lineno : UInt32) (command : Command)
    (proper : runner.Proper) :
    (∃ prepared, runner.prepare B host lineno command.isInit = .ok prepared ∧
        (command.isInit = false → prepared.didInit = true) ∧
        prepared.budget = (scenarioMachine B host).run runner.budget (runner.prelude command) ∧
        (scenarioMachine B host).Passes meets runner.budget (runner.prelude command)) ∨
      (∃ stop, runner.prepare B host lineno command.isInit = .error stop) ∧
        ¬(scenarioMachine B host).Passes meets runner.budget (runner.prelude command) := by
  simp only [Runner.prepare, Runner.prelude, implicitInit]
  cases isInit : command.isInit with
  | true => exact Or.inl ⟨runner, rfl, by simp, by simp, by simp⟩
  | false =>
      cases ready : runner.didInit with
      | true => exact Or.inl ⟨runner, by simp, fun _ => ready, by simp, by simp⟩
      | false =>
          rcases proper ready with ⟨resources, ops⟩
          have met : meets (.init 2 4)
              ((scenarioMachine B host).reply runner.budget (.init 2 4)) = true ↔
              (initSimple B runner.budget host.budgetAddr host.storage host.storageSize 2 4).1 =
                .ok := by
            rw [← stop?_eq_none 0, Machine.reply, exec_init]
            simp only [Command.stop?]
            split
            · rename_i succeeded
              simp [succeeded]
            · rename_i failed
              simp [failed]
          simp only [Bool.or_self, Bool.false_eq_true, if_false, resources, ops,
            Machine.passes_cons, Machine.passes_nil, and_true, met, Machine.run_cons,
            Machine.run_nil]
          split
          · rename_i failed
            exact Or.inr ⟨⟨_, rfl⟩, failed⟩
          · rename_i succeeded
            exact Or.inl ⟨_, rfl, fun _ => rfl, rfl, not_not.mp succeeded⟩

/-- A command that has been read is taken exactly if its part of the scenario passes. -/
theorem take_prepared (host : Host) (proper : runner.Proper) (lineno : UInt32) (command : Command) :
    (∃ taken, ((runner.prepare B host lineno command.isInit).bind
          fun runner => runner.take B host lineno command) = .ok taken ∧
        taken.didInit = true ∧
        taken.budget = (scenarioMachine B host).run runner.budget (runner.script [command]) ∧
        (scenarioMachine B host).Passes meets runner.budget (runner.script [command])) ∨
      (∃ stop, ((runner.prepare B host lineno command.isInit).bind
          fun runner => runner.take B host lineno command) = .error stop) ∧
        ¬(scenarioMachine B host).Passes meets runner.budget (runner.script [command]) := by
  rw [runner.script_singleton, Machine.run_append]
  simp only [Machine.passes_append]
  rcases prepare_eq (B := B) host lineno command proper with
    ⟨prepared, ready, initialised, same, prelude⟩ | ⟨⟨stop, failed⟩, unprepared⟩
  · rw [ready, ← same]
    simp only [Except.bind, Runner.take]
    cases stopped : command.stop? lineno
        ((scenarioMachine B host).reply prepared.budget command) with
    | none =>
        refine Or.inl ⟨_, rfl, ?_, ?_, prelude, (stop?_eq_none _ _).mp stopped, trivial⟩
        · cases command
          case init => rfl
          all_goals exact initialised rfl
        · cases command
          all_goals rfl
    | some stop =>
        refine Or.inr ⟨⟨stop, rfl⟩, fun passes => ?_⟩
        have met := (stop?_eq_none lineno _).mpr passes.2.1
        rw [stopped] at met
        cases met
  · rw [failed]
    exact Or.inr ⟨⟨stop, rfl⟩, fun passes => unprepared passes.1⟩

/-! ## All lines -/

/-- Lines that read as a passing scenario leave the runner at the lines behind them. -/
theorem runLines_append (lineno : UInt32) {buffers : List (List Char)} {commands : List Command}
    (proper : runner.Proper) (read : readLines B buffers = some commands)
    (passes : (scenarioMachine B host).Passes meets runner.budget (runner.script commands)) :
    ∃ reached : Runner, reached.Proper ∧
      reached.budget =
        (scenarioMachine B host).run runner.budget (runner.script commands) ∧
      (∀ later, runner.script (commands ++ later) =
        runner.script commands ++ reached.script later) ∧
      ∀ rest, runLines B host lineno (buffers ++ rest) runner =
        runLines B host (lineno + UInt32.ofNat buffers.length) rest reached := by
  induction buffers generalizing runner lineno commands with
  | nil =>
      obtain rfl : [] = commands := by simpa [readLines] using read
      refine ⟨runner, proper, ?_, fun later => ?_, fun rest => ?_⟩
      · simp only [Runner.script, withInit]
        split <;> rfl
      · simp only [Runner.script, withInit]
        split <;> rfl
      · simp
  | cons buffer buffers ih =>
      have count : lineno + 1 + UInt32.ofNat buffers.length =
          lineno + UInt32.ofNat (buffer :: buffers).length := by
        rw [List.length_cons, Nat.add_comm, UInt32.ofNat_add, UInt32.add_assoc]
        rfl
      rw [readLines] at read
      rcases line : readLine B buffer with message | _ | command
      · rw [line] at read
        cases read
      · rw [line] at read
        rcases ih (lineno + 1) proper read passes with
          ⟨reached, proper', same, scripts, runs⟩
        refine ⟨reached, proper', same, scripts, fun rest => ?_⟩
        rw [List.cons_append, runLines, runLine_of_blank line]
        simp only
        rw [runs, count]
      · rw [line] at read
        simp only [Option.map_eq_some_iff] at read
        rcases read with ⟨commands, read, rfl⟩
        rw [runner.script_cons, Machine.passes_append] at passes
        rcases take_prepared (B := B) host proper (lineno + 1) command with
          ⟨taken, took, initialised, same, -⟩ | ⟨-, fails⟩
        swap
        · exact absurd passes.1 fails
        have plain : ∀ commands, taken.script commands = commands := by
          intro commands
          simp [Runner.script, initialised]
        have proper' : taken.Proper := by
          intro uninitialised
          rw [initialised] at uninitialised
          cases uninitialised
        have passes' : (scenarioMachine B host).Passes meets taken.budget
            (taken.script commands) := by
          rw [plain, same]
          exact passes.2
        rcases ih (lineno + 1) proper' read passes' with
          ⟨reached, proper'', same', scripts, runs⟩
        refine ⟨reached, proper'', ?_, fun later => ?_, fun rest => ?_⟩
        · rw [same', plain, same, runner.script_cons command commands, Machine.run_append]
        · have after := scripts later
          rw [plain, plain] at after
          rw [List.cons_append, runner.script_cons command (commands ++ later),
            runner.script_cons command commands, after, List.append_assoc]
        · rw [List.cons_append, runLines, runLine_of_command line, took]
          simp only
          rw [runs, count]

theorem runLines_of_passes {buffers : List (List Char)} {commands : List Command}
    (proper : runner.Proper) (read : readLines B buffers = some commands)
    (passes : (scenarioMachine B host).Passes meets runner.budget (runner.script commands)) :
    runLines B host lineno buffers runner = .passed := by
  rcases runLines_append lineno proper read passes with ⟨reached, -, -, -, runs⟩
  have whole := runs []
  rw [List.append_nil] at whole
  rw [whole]
  rfl

theorem readLines_append {front back : List (List Char)} :
    readLines B (front ++ back) =
      (readLines B front).bind fun commands => (readLines B back).map (commands ++ ·) := by
  induction front with
  | nil =>
      simp only [List.nil_append, readLines, Option.bind_some]
      cases readLines B back <;> rfl
  | cons buffer front ih =>
      simp only [List.cons_append, readLines, ih]
      split
      · rfl
      · rfl
      · cases readLines B front <;> cases readLines B back <;> rfl

theorem runLines_stopped_append {buffers : List (List Char)} {stop : Stop}
    (stopped : runLines B host lineno buffers runner = .stopped stop)
    (rest : List (List Char)) :
    runLines B host lineno (buffers ++ rest) runner = .stopped stop := by
  induction buffers generalizing runner lineno with
  | nil => cases stopped
  | cons buffer buffers ih =>
      rw [runLines] at stopped
      rw [List.cons_append, runLines]
      split at stopped
      · exact ih stopped
      · exact stopped

/-- A line at which the runner stops, after lines that read as a passing scenario. -/
structure StopsAt (B : Build) (host : Host) (lineno : UInt32) (runner : Runner)
    (before : List (List Char)) (buffer : List Char) (commands : List Command)
    (reached : Runner) (stop : Stop) : Prop where
  read : readLines B before = some commands
  passes : (scenarioMachine B host).Passes meets runner.budget (runner.script commands)
  proper : reached.Proper
  budget : reached.budget =
    (scenarioMachine B host).run runner.budget (runner.script commands)
  scripts : ∀ later, runner.script (commands ++ later) =
    runner.script commands ++ reached.script later
  stops : runLine B host (lineno + UInt32.ofNat before.length + 1) buffer reached = .error stop

/-- The lines pass, or there is a first one at which the runner stops. -/
theorem runLines_cases (host : Host) (proper : runner.Proper) (lineno : UInt32)
    (buffers : List (List Char)) :
    (∃ commands, readLines B buffers = some commands ∧
        (scenarioMachine B host).Passes meets runner.budget (runner.script commands)) ∨
      ∃ before buffer after commands reached stop, buffers = before ++ buffer :: after ∧
        StopsAt B host lineno runner before buffer commands reached stop ∧
        runLines B host lineno buffers runner = .stopped stop := by
  induction buffers using List.reverseRecOn with
  | nil =>
      refine Or.inl ⟨[], rfl, ?_⟩
      simp only [Runner.script, withInit]
      split <;> exact Machine.passes_nil
  | append_singleton front buffer ih =>
      rcases ih with ⟨commands, read, passes⟩ |
        ⟨before, stop, after, commands, reached, stopped, rfl, stopsAt, stops⟩
      swap
      · exact Or.inr ⟨before, stop, after ++ [buffer], commands, reached, stopped, by simp,
          stopsAt, runLines_stopped_append stops [buffer]⟩
      rcases runLines_append lineno proper read passes with
        ⟨reached, proper', same, scripts, runs⟩
      have stopping : ∀ stop,
          runLine B host (lineno + UInt32.ofNat front.length + 1) buffer reached = .error stop →
          ∃ before buffer' after commands reached stop,
            front ++ [buffer] = before ++ buffer' :: after ∧
            StopsAt B host lineno runner before buffer' commands reached stop ∧
            runLines B host lineno (front ++ [buffer]) runner = .stopped stop := by
        intro stop stops
        refine ⟨front, buffer, [], commands, reached, stop, rfl,
          ⟨read, passes, proper', same, scripts, stops⟩, ?_⟩
        rw [runs, runLines, stops]
      rcases line : readLine B buffer with message | _ | command
      · right
        rcases runLine_of_error host reached
          (lineno + UInt32.ofNat front.length + 1) line with ⟨isInit, ran⟩
        cases prepared : Runner.prepare B host (lineno + UInt32.ofNat front.length + 1) reached
            isInit with
        | error stop => exact stopping stop (by rw [ran, prepared]; rfl)
        | ok next => exact stopping _ (by rw [ran, prepared]; rfl)
      · left
        refine ⟨commands, ?_, passes⟩
        rw [readLines_append, read]
        simp [readLines, line]
      · rcases take_prepared (B := B) host proper'
            (lineno + UInt32.ofNat front.length + 1) command with
          ⟨taken, took, -, -, passes'⟩ | ⟨⟨stop, took⟩, -⟩
        · left
          refine ⟨commands ++ [command], ?_, ?_⟩
          · rw [readLines_append, read]
            simp [readLines, line]
          · rw [scripts, Machine.passes_append, ← same]
            exact ⟨passes, passes'⟩
        · exact Or.inr (stopping stop (by rw [runLine_of_command line, took]))

theorem Runner.start_proper (host : Host) : (Runner.start host).Proper :=
  fun _ => ⟨rfl, rfl⟩

theorem main_passes_iff (B : Build) (host : Host) (stdin : List Char) :
    main B host stdin = .passed ↔
      ∃ commands, readLines B (Lines.lines 512 stdin) = some commands ∧
        (scenarioMachine B host).Passes meets host.memory (withInit commands) := by
  constructor
  · intro passed
    rcases runLines_cases (B := B) host (Runner.start_proper host) 0
        (Lines.lines 512 stdin) with
      ⟨commands, read, passes⟩ | ⟨before, buffer, after, commands, reached, stop, -, -, stops⟩
    · exact ⟨commands, read, passes⟩
    · rw [main, stops] at passed
      cases passed
  · rintro ⟨commands, read, passes⟩
    exact runLines_of_passes (Runner.start_proper host) read passes

/-! ## The report -/

/-- The storage of the runner as the source declares it, in a build that it can be compiled for. The
limits of the build allow the implicit `init`, its lease count fits into the configuration, and
the size of the storage is computed without a wrap. -/
structure Host.Declared (B : Build) (host : Host) : Prop where
  aligned : host.storage &&& 3 = 0
  holds : B.requiredBytes (configSimple B (UInt8.ofNat B.maxResources) (UInt8.ofNat B.maxOps)) ≤
    host.storageSize.toNat
  small : host.storageSize.toNat < 4294967296
  resources : 2 ≤ B.maxResources
  ops : 4 ≤ B.maxOps
  leases : 0 < B.maxLeases ∧ B.maxLeases < 256
  slots : B.enableCalibration = true → 4 ∣ B.calibStateSize

/-- The events up to a command: what is read before it, and the implicit `init` if it is the first
command. -/
def leadingTo (commands : List Command) (command : Command) : List Command :=
  (withInit (commands ++ [command])).dropLast

/-- What the runner reports of a line with a given number, after the commands before it. -/
def Reports (B : Build) (host : Host) (commands : List Command) (lineno : UInt32)
    (stop : Stop) : Except String (Option Command) → Prop
  | .error message => stop = .fail lineno message
  | .ok none => False
  | .ok (some command) =>
      command.stop? lineno ((scenarioMachine B host).reply
        ((scenarioMachine B host).run host.memory (leadingTo commands command)) command) =
          some stop

theorem requiredBytes_mono {cfg cfg' : Config}
    (resources : cfg.maxResources.toNat ≤ cfg'.maxResources.toNat)
    (ops : cfg.maxOps.toNat ≤ cfg'.maxOps.toNat) (audit : cfg.auditSize = cfg'.auditSize) :
    B.requiredBytes cfg ≤ B.requiredBytes cfg' := by
  have needs : cfg.maxOps.toNat * B.maxNeedsPerOp ≤ cfg'.maxOps.toNat * B.maxNeedsPerOp :=
    Nat.mul_le_mul_right _ ops
  have rates : (B.rateSizes cfg).sum ≤ (B.rateSizes cfg').sum := by
    simp only [Build.rateSizes]
    split
    · simpa using Nat.mul_le_mul_right 72 resources
    · exact Nat.le_refl _
  have calib : (B.calibSizes cfg).sum ≤ (B.calibSizes cfg').sum := by
    simp only [Build.calibSizes]
    split
    · simpa using Nat.mul_le_mul_right B.calibStateSize ops
    · exact Nat.le_refl _
  have causality : (B.causalitySizes cfg).sum ≤ (B.causalitySizes cfg').sum := by
    simp only [Build.causalitySizes]
    split
    · simp only [List.sum_cons, List.sum_nil]
      omega
    · exact Nat.le_refl _
  simp only [Build.requiredBytes, audit]
  omega

/-- With the storage that the source declares, every `init` in range succeeds. -/
theorem Host.Declared.initSimple_ok (declared : host.Declared B) (budget : Budget) {r o : UInt8}
    (resources : r ≠ 0 ∧ r.toNat ≤ B.maxResources) (ops : o ≠ 0 ∧ o.toNat ≤ B.maxOps) :
    (initSimple B budget host.budgetAddr host.storage host.storageSize r o).1 = .ok := by
  have sizes := B.storageHdr_size
  have size : host.storageSize.toUInt32.toNat = host.storageSize.toNat := by
    rw [UInt64.toNat_toUInt32, Nat.mod_eq_of_lt declared.small]
  have leases : (UInt8.ofNat B.maxLeases).toNat = B.maxLeases := by
    rw [UInt8.toNat_ofNat', Nat.mod_eq_of_lt declared.leases.2]
  have bytes : B.requiredBytes (configSimple B r o) ≤ host.storageSize.toNat := by
    have mono : B.requiredBytes (configSimple B r o) ≤ B.requiredBytes
        (configSimple B (UInt8.ofNat B.maxResources) (UInt8.ofNat B.maxOps)) := by
      apply requiredBytes_mono
      · simp only [configSimple, UInt8.toNat_ofNat']
        omega
      · simp only [configSimple, UInt8.toNat_ofNat']
        omega
      · rfl
    exact mono.trans declared.holds
  have layout : B.layoutBytes (configSimple B r o) ≤ B.requiredBytes (configSimple B r o) :=
    layoutBytes_le_requiredBytes declared.slots (Nat.le_of_eq leases) declared.leases.1
  have small := declared.small
  refine init_of_fits ?_ (rfl : _ = some (configSimple B r o)) ?_
  swap
  · rw [UInt32.le_iff_toNat_le, layoutSize_toNat (by omega), size]
    omega
  · have some_bytes : host.storageSize ≠ 0 := by
      intro none
      have positive : 0 < B.requiredBytes (configSimple B r o) := by
        rw [Build.requiredBytes]
        omega
      rw [none] at bytes
      exact absurd bytes (Nat.not_le.mpr positive)
    have some_lease : UInt8.ofNat B.maxLeases ≠ 0 := by
      intro none
      rw [none] at leases
      exact absurd leases (Nat.ne_of_lt declared.leases.1)
    have few : ¬(B.maxResources < r.toNat ∨ B.maxOps < o.toNat ∨
        B.maxLeases < (UInt8.ofNat B.maxLeases).toNat) := by
      omega
    simp only [validateInitArgs, configSimple, declared.aligned, some_bytes, resources.1, ops.1,
      some_lease, gt_iff_lt, few]
    rfl

theorem Host.Declared.prepare_ok (declared : host.Declared B) (proper : runner.Proper)
    (lineno : UInt32) (isInit : Bool) :
    ∃ prepared, runner.prepare B host lineno isInit = .ok prepared := by
  simp only [Runner.prepare, implicitInit]
  cases isInit with
  | true => exact ⟨runner, rfl⟩
  | false =>
      cases ready : runner.didInit with
      | true => exact ⟨runner, by simp⟩
      | false =>
          rcases proper ready with ⟨resources, ops⟩
          have succeeds := declared.initSimple_ok runner.budget (r := 2) (o := 4)
            ⟨by decide, declared.resources⟩ ⟨by decide, declared.ops⟩
          simp only [resources, ops, succeeds]
          exact ⟨_, rfl⟩

/-- A line stops the runner exactly with what it reports. -/
theorem runLine_stops_iff (declared : host.Declared B) {commands : List Command}
    {reached : Runner} (proper : reached.Proper)
    (same : reached.budget = (scenarioMachine B host).run host.memory (withInit commands))
    (scripts : ∀ later, withInit (commands ++ later) =
      withInit commands ++ reached.script later)
    (buffer : List Char) (stop : Stop) :
    runLine B host lineno buffer reached = .error stop ↔
      Reports B host commands lineno stop (readLine B buffer) := by
  rcases line : readLine B buffer with message | _ | command
  · rcases runLine_of_error host reached lineno line with
      ⟨isInit, ran⟩
    rcases declared.prepare_ok proper lineno isInit with ⟨prepared, ready⟩
    rw [ran, ready, Reports]
    simp only [Except.bind, Except.error.injEq]
    exact eq_comm
  · rw [runLine_of_blank line]
    simp [Reports]
  · have leading : leadingTo commands command =
        withInit commands ++ reached.prelude command := by
      have whole := scripts [command]
      rw [Runner.script_singleton, ← List.append_assoc] at whole
      rw [leadingTo, whole, List.dropLast_concat]
    rw [runLine_of_command line, Reports, leading, Machine.run_append]
    rcases prepare_eq (B := B) host lineno command proper with
      ⟨prepared, ready, -, readied, -⟩ | ⟨⟨failure, failed⟩, -⟩
    · rw [same] at readied
      rw [ready]
      simp only [Except.bind, Runner.take, readied]
      change _ ↔ command.stop? lineno ((scenarioMachine B host).reply ((scenarioMachine B host).run
        ((scenarioMachine B host).run host.memory (withInit commands))
          (reached.prelude command)) command) = some stop
      split
      · rename_i failure observed
        rw [observed, Except.error.injEq, Option.some.injEq]
      · rename_i observed
        rw [observed]
        simp
    · rcases declared.prepare_ok proper lineno command.isInit with ⟨prepared, ready⟩
      rw [failed] at ready
      cases ready

theorem main_stops_iff (declared : host.Declared B)
    (stdin : List Char) (stop : Stop) :
    main B host stdin = .stopped stop ↔
      ∃ before buffer after commands, Lines.lines 512 stdin = before ++ buffer :: after ∧
        readLines B before = some commands ∧
        (scenarioMachine B host).Passes meets host.memory (withInit commands) ∧
        Reports B host commands (UInt32.ofNat (before.length + 1)) stop
          (readLine B buffer) := by
  have number (before : List (List Char)) :
      (0 : UInt32) + UInt32.ofNat before.length + 1 = UInt32.ofNat (before.length + 1) := by
    rw [UInt32.zero_add, UInt32.ofNat_add]
    rfl
  have proper := Runner.start_proper host
  constructor
  · intro stopped
    rcases runLines_cases (B := B) host proper 0 (Lines.lines 512 stdin) with
      ⟨commands, read, passes⟩ |
        ⟨before, buffer, after, commands, reached, stop', split, stopsAt, stops⟩
    · rw [main, runLines_of_passes proper read passes] at stopped
      cases stopped
    · rw [main, stops, Outcome.stopped.injEq] at stopped
      subst stopped
      have reports := (runLine_stops_iff declared stopsAt.proper stopsAt.budget
        stopsAt.scripts buffer stop').mp stopsAt.stops
      rw [number] at reports
      exact ⟨before, buffer, after, commands, split, stopsAt.read, stopsAt.passes, reports⟩
  · rintro ⟨before, buffer, after, commands, split, read, passes, reports⟩
    rcases runLines_append 0 proper read passes with
      ⟨reached, proper', same, scripts, runs⟩
    rw [← number] at reports
    have stops := (runLine_stops_iff declared proper' same scripts buffer stop).mpr
      reports
    rw [main, split, runs, runLines, stops]

theorem exitCode_eq_zero {outcome : Outcome} : outcome.exitCode = 0 ↔ outcome = .passed := by
  rcases outcome with _ | (_ | _)
  all_goals simp [Outcome.exitCode]

/-- The verdict of the runner. It returns 0 exactly if every line can be read and the scenario that
the lines make meets all its expectations. It stops before the end exactly at the first line that
cannot be read or whose expectation is not met, and it reports this line: the number and the
message, or the two values that differ. -/
theorem main_verdict {B : Build} {host : Host} (declared : host.Declared B)
    (stdin : List Char) :
    ((main B host stdin).exitCode = 0 ↔
      ∃ commands, readLines B (Lines.lines 512 stdin) = some commands ∧
        (scenarioMachine B host).Passes meets host.memory (withInit commands)) ∧
    ∀ stop, main B host stdin = .stopped stop ↔
      ∃ before buffer after commands, Lines.lines 512 stdin = before ++ buffer :: after ∧
        readLines B before = some commands ∧
        (scenarioMachine B host).Passes meets host.memory (withInit commands) ∧
        Reports B host commands (UInt32.ofNat (before.length + 1)) stop
          (readLine B buffer) :=
  ⟨exitCode_eq_zero.trans (main_passes_iff B host stdin), main_stops_iff declared stdin⟩

def sampleHost : Host :=
  ⟨0x1000, 0x2000, 100000, .zero⟩

theorem sampleHost_declared : sampleHost.Declared Build.full where
  aligned := by decide
  holds := by decide +kernel
  small := by decide
  resources := by decide
  ops := by decide
  leases := by decide
  slots := by decide

theorem main_verdict_sample :
    ∃ before buffer after commands,
      Lines.lines 512 "# one op\nop 3\nop 3\n".toList = before ++ buffer :: after ∧
        readLines Build.full before = some commands ∧
        (scenarioMachine Build.full sampleHost).Passes meets sampleHost.memory
          (withInit commands) ∧
        Reports Build.full sampleHost commands (UInt32.ofNat (before.length + 1))
          (.fail 3 "loxbudget_register_op failed") (readLine Build.full buffer) :=
  ((main_verdict sampleHost_declared _).2 _).mp (by decide +kernel)

end Scenario

end Loxbudget
