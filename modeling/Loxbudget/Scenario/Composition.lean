import Loxbudget.Decision.Independence
import Loxbudget.Scenario.Verdict

/-!
# Scenarios in parts

An `init` starts over, so that a scenario may be appended to another without knowing of it. An
expectation on a check or on the number of edges leaves no mark: lines with such expectations may
be put anywhere and taken away again, and what follows them passes as it did.
-/

namespace Loxbudget

namespace Scenario

variable {B : Build} {host : Host} {state shadow : Budget} {command : Command}
  {commands looks : List Command}

/-! ## A new beginning -/

/-- An `init` reads nothing of the instance, and what it leaves is the same whatever was there. -/
theorem initSimple_anew (host : Host) (state shadow : Budget) (r o : UInt8) :
    (initSimple B state host.budgetAddr host.storage host.storageSize r o).1 =
        (initSimple B shadow host.budgetAddr host.storage host.storageSize r o).1 ∧
      ((initSimple B state host.budgetAddr host.storage host.storageSize r o).1 = .ok →
        (initSimple B state host.budgetAddr host.storage host.storageSize r o).2 =
          (initSimple B shadow host.budgetAddr host.storage host.storageSize r o).2) := by
  simp only [initSimple, init]
  split
  · rename_i refused
    exact ⟨rfl, fun accepted => absurd accepted refused⟩
  · split
    · exact ⟨rfl, fun _ => rfl⟩
    · exact ⟨rfl, fun _ => rfl⟩

theorem passes_init_anew (state shadow : Budget) (r o : UInt8) (commands : List Command) :
    (scenarioMachine B host).Passes meets state (.init r o :: commands) ↔
      (scenarioMachine B host).Passes meets shadow (.init r o :: commands) := by
  rcases initSimple_anew (B := B) host state shadow r o with ⟨status, left⟩
  have reply : (scenarioMachine B host).reply state (.init r o) =
      (scenarioMachine B host).reply shadow (.init r o) := by
    rw [Machine.reply, Machine.reply, exec_init, exec_init, status]
  rw [Machine.passes_cons, Machine.passes_cons, reply]
  apply and_congr_right
  intro met
  rw [← stop?_eq_none 0, ← reply, Machine.reply, exec_init] at met
  have accepted : (initSimple B state host.budgetAddr host.storage host.storageSize r o).1 =
      .ok := by
    simp only [Command.stop?] at met
    split at met
    · assumption
    · cases met
  rw [Machine.next, Machine.next, exec_init, exec_init, left accepted]

theorem Command.isInit_iff : command.isInit = true ↔ ∃ r o, command = .init r o := by
  cases command <;> simp [isInit]

/-! ## What leaves no mark -/

/-- The instance with other windows and another journal. -/
def Budget.reread (rateState : ResourceId → RateState) (journal : Journal) (budget : Budget) :
    Budget :=
  { budget with rateState := rateState, journal := journal }

section Reread

variable (rateState : ResourceId → RateState) (journal : Journal) (budget : Budget)

/-- The same for the result of a call. -/
def rereadResult (result : Status × Budget) : Status × Budget :=
  (result.1, Budget.reread rateState journal result.2)

theorem setResource_reread (id : ResourceId) (limit : UInt16) (kind : UInt32) :
    setResource (Budget.reread rateState journal budget) id limit kind =
      rereadResult rateState journal (setResource budget id limit kind) := by
  simp only [setResource, apply_ite (rereadResult rateState journal)]
  cases ResourceKind.ofByte? kind.toUInt8 with
  | none => rfl
  | some kind => rfl

theorem registerOp_reread (profile : Option RawProfile) :
    registerOp B (Budget.reread rateState journal budget) profile =
      rereadResult rateState journal (registerOp B budget profile) := by
  cases profile with
  | none => rfl
  | some raw =>
      simp only [registerOp, apply_ite (rereadResult rateState journal)]
      cases raw.parse with
      | none => rfl
      | some profile =>
          simp only [apply_ite (rereadResult rateState journal)]
          rfl

theorem opSetNeed_reread (op : OpId) (resource : ResourceId) (amount : UInt16) :
    opSetNeed (Budget.reread rateState journal budget) op resource amount =
      rereadResult rateState journal (opSetNeed budget op resource amount) := by
  have needs : (Budget.reread rateState journal budget).needs = budget.needs := rfl
  simp only [opSetNeed, needs, apply_ite (rereadResult rateState journal)]
  cases updateNeed resource amount (budget.needs op) with
  | some needs => rfl
  | none =>
      cases insertNeed resource amount (budget.needs op) with
      | none => rfl
      | some needs => rfl

theorem opMayTrigger_reread (parent child : OpId) (kind : UInt32) :
    opMayTrigger B (Budget.reread rateState journal budget) parent child kind =
      rereadResult rateState journal (opMayTrigger B budget parent child kind) := by
  have edges : (Budget.reread rateState journal budget).edges = budget.edges := rfl
  simp only [opMayTrigger, edges, apply_ite (rereadResult rateState journal)]
  cases updateEdge parent child kind.toUInt8 budget.edges with
  | some edges => rfl
  | none =>
      simp only [apply_ite (rereadResult rateState journal)]
      rfl

theorem setPressure_reread (pressure : UInt32) :
    setPressure (Budget.reread rateState journal budget) pressure =
      rereadResult rateState journal (setPressure budget pressure) := by
  simp only [setPressure, apply_ite (rereadResult rateState journal)]
  cases Pressure.ofByte? pressure.toUInt8 with
  | none => rfl
  | some pressure => rfl

/-- What a command configures depends on neither the windows nor the journal. -/
theorem exec_reread {call : Call} (calls : command.call? = some call)
    (writes : command.looks = false) :
    exec B (Budget.reread rateState journal budget) ⟨.simple, call⟩ =
      ((exec B budget ⟨.simple, call⟩).1,
        Budget.reread rateState journal (exec B budget ⟨.simple, call⟩).2) := by
  have triggers (parent child : OpId) (kind : UInt32) :
      exec B (Budget.reread rateState journal budget) ⟨.simple, .opMayTrigger parent child kind⟩ =
        ((exec B budget ⟨.simple, .opMayTrigger parent child kind⟩).1,
          Budget.reread rateState journal
            (exec B budget ⟨.simple, .opMayTrigger parent child kind⟩).2) := by
    simp only [exec]
    split
    · rw [opMayTrigger_reread]
      rfl
    · rfl
  cases command with
  | init | expectEdgeCount => cases calls
  | expectCheck => cases writes
  | resource id limit kind =>
      cases calls
      simp only [exec, setResource_reread]
      rfl
  | op id =>
      cases calls
      simp only [exec, registerOp_reread]
      rfl
  | need id res amount =>
      cases calls
      simp only [exec, opSetNeed_reread]
      rfl
  | edge parent child kind =>
      cases calls
      exact triggers parent child kind.raw
  | expectEdge parent child kind status =>
      cases calls
      exact triggers parent child kind.raw
  | pressure level =>
      cases calls
      simp only [exec, setPressure_reread]
      rfl

end Reread

/-- The two instances differ in their journals and in how far windows have been rolled. -/
def Alike (B : Build) (state shadow : Budget) : Prop :=
  ∃ rateState journal, state = Budget.reread rateState journal shadow ∧
    ∀ resource, (rateState resource).rolled B.rateImpl Hal.simple.nowMs =
      (shadow.rateState resource).rolled B.rateImpl Hal.simple.nowMs

theorem Alike.refl (B : Build) (state : Budget) : Alike B state state :=
  ⟨state.rateState, state.journal, rfl, fun _ => rfl⟩

theorem Alike.trans {before : Budget} (alike : Alike B state shadow)
    (alike' : Alike B shadow before) : Alike B state before := by
  rcases alike with ⟨rateState, journal, rfl, rates⟩
  rcases alike' with ⟨rateState', journal', rfl, rates'⟩
  exact ⟨rateState, journal, rfl, fun resource => (rates resource).trans (rates' resource)⟩

theorem Alike.symm (alike : Alike B state shadow) : Alike B shadow state := by
  rcases alike with ⟨rateState, journal, rfl, rates⟩
  exact ⟨shadow.rateState, shadow.journal, rfl, fun resource => (rates resource).symm⟩

theorem Booked.alike (booked : Booked B Hal.simple.nowMs state shadow) : Alike B shadow state :=
  ⟨shadow.rateState, shadow.journal, booked.frame, fun resource =>
    (booked.rolled resource).rolled_eq⟩

/-- Expectations on checks and on the number of edges leave the instance as the others see it. -/
theorem next_alike (state : Budget) (looks : command.looks = true) :
    Alike B ((scenarioMachine B host).next state command) state := by
  cases command with
  | expectEdgeCount n => exact Alike.refl B state
  | expectCheck op action reason =>
      rw [Machine.next, exec_of_call state rfl]
      exact Booked.alike (check_booked B .simple state op true)
  | _ => cases looks

theorem initSimple_alike (alike : Alike B state shadow) (r o : UInt8) :
    Alike B (initSimple B state host.budgetAddr host.storage host.storageSize r o).2
      (initSimple B shadow host.budgetAddr host.storage host.storageSize r o).2 := by
  simp only [initSimple, init]
  split
  · exact alike
  · split
    · exact Alike.refl B _
    · exact Alike.refl B _

/-- Every command finds the two alike, and leaves them alike. -/
theorem Alike.step (host : Host) (alike : Alike B state shadow) (command : Command) :
    (scenarioMachine B host).reply state command =
        (scenarioMachine B host).reply shadow command ∧
      Alike B ((scenarioMachine B host).next state command)
        ((scenarioMachine B host).next shadow command) := by
  cases looks : command.looks with
  | true =>
      refine ⟨?_, ((next_alike state looks).trans alike).trans (next_alike shadow looks).symm⟩
      rcases alike with ⟨rateState, journal, rfl, rates⟩
      cases command with
      | expectEdgeCount n => rfl
      | expectCheck op action reason =>
          have decided := decide_agree rateState journal rates op
          rw [Machine.reply, Machine.reply, exec_of_call _ rfl, exec_of_call _ rfl]
          simp only [exec, check, Bool.true_eq_false, if_false]
          rw [show (Budget.reread rateState journal shadow).validate = shadow.validate from rfl]
          split
          · rfl
          · simp only [Budget.reread, decided]
      | _ => cases looks
  | false =>
      rcases calls : command.call? with _ | call
      · cases command with
        | init r o =>
            rw [Machine.reply, Machine.reply, Machine.next, Machine.next, exec_init, exec_init,
              (initSimple_anew host state shadow r o).1]
            exact ⟨rfl, initSimple_alike alike r o⟩
        | expectEdgeCount => cases looks
        | _ => cases calls
      · rcases alike with ⟨rateState, journal, rfl, rates⟩
        have kept := exec_reread (B := B) shadow.rateState shadow.journal shadow calls looks
        have kept' : (exec B shadow ⟨.simple, call⟩).2.rateState = shadow.rateState :=
          congrArg (fun result => result.2.rateState) kept
        rw [Machine.reply, Machine.reply, Machine.next, Machine.next, exec_of_call _ calls,
          exec_of_call _ calls, exec_reread rateState journal shadow calls looks]
        refine ⟨rfl, rateState, journal, rfl, fun resource => ?_⟩
        simp only [kept']
        exact rates resource

/-! ## Composition -/

theorem run_looks_alike (state : Budget) (all : ∀ command ∈ looks, command.looks = true) :
    Alike B ((scenarioMachine B host).run state looks) state := by
  induction looks generalizing state with
  | nil => exact Alike.refl B state
  | cons command looks ih =>
      rw [List.forall_mem_cons] at all
      exact (ih _ all.2).trans (next_alike state all.1)

/-- What follows expectations passes as it does without them. -/
theorem passes_looks_append (all : ∀ command ∈ looks, command.looks = true)
    (state : Budget) (after : List Command) :
    (scenarioMachine B host).Passes meets state (looks ++ after) ↔
      (scenarioMachine B host).Passes meets state looks ∧
        (scenarioMachine B host).Passes meets state after := by
  rw [Machine.passes_append]
  apply and_congr_right
  intro _
  apply Machine.passes_iff_of_related (Alike B)
  · intro state shadow command alike _
    rcases Alike.step host alike command with ⟨same, alike'⟩
    exact ⟨by rw [same], alike'⟩
  · exact run_looks_alike state all
  · exact fun _ _ => trivial

theorem withInit_append {before : List Command} (nonempty : before ≠ [])
    (after : List Command) : withInit (before ++ after) = withInit before ++ after := by
  cases before with
  | nil => exact absurd rfl nonempty
  | cons command before =>
      simp only [List.cons_append, withInit]
      split <;> rfl

/-- The same where the scenario may be begun with an implicit `init`. -/
theorem passes_looks (all : ∀ command ∈ looks, command.looks = true) (memory : Budget)
    (before after : List Command) :
    (scenarioMachine B host).Passes meets memory (withInit (before ++ looks ++ after)) ↔
      (scenarioMachine B host).Passes meets memory (withInit (before ++ looks)) ∧
        (scenarioMachine B host).Passes meets memory (withInit (before ++ after)) := by
  by_cases empty : before = []
  · subst empty
    rw [List.nil_append, List.nil_append]
    cases looks with
    | nil => simp [withInit]
    | cons look looks =>
        have begins : look.isInit = false := by
          have looks' := all look List.mem_cons_self
          cases look
          case init => cases looks'
          all_goals rfl
        have started (after : List Command) :
            withInit (look :: looks ++ after) = .init 2 4 :: (look :: looks ++ after) := by
          rw [List.cons_append, withInit, if_neg (by simp [begins])]
        have alone := started []
        rw [List.append_nil] at alone
        have split (after : List Command) :
            (scenarioMachine B host).Passes meets memory (.init 2 4 :: (look :: looks ++ after)) ↔
              (scenarioMachine B host).Passes meets memory (.init 2 4 :: look :: looks) ∧
                (scenarioMachine B host).Passes meets
                  ((scenarioMachine B host).next memory (.init 2 4)) after := by
          rw [Machine.passes_cons, passes_looks_append all]
          exact and_assoc.symm
        rw [started, alone, split]
        apply and_congr_right
        intro passes
        cases after with
        | nil => simp [withInit]
        | cons command after =>
            rw [withInit]
            split
            · rename_i isInit
              rcases Command.isInit_iff.mp isInit with ⟨r, o, rfl⟩
              exact passes_init_anew _ memory r o after
            · exact (and_iff_right passes.1).symm
  · rw [List.append_assoc, withInit_append empty, withInit_append empty, withInit_append empty,
      Machine.passes_append, passes_looks_append all, Machine.passes_append,
      Machine.passes_append]
    tauto

/-! ## Texts -/

/-- A scenario in a file of its own, which begins with `init`, can be appended to any other: both
pass together exactly if both pass alone, whatever memory the second one is given. -/
theorem scenarios_isolated {B : Build} {front back : List Char} {r o : UInt8}
    {commands : List Command} (complete : Lines.Complete front)
    (begins : readLines B (Lines.lines 512 back) = some (.init r o :: commands)) (host : Host)
    (memory : Budget) :
    main B host (front ++ back) = .passed ↔
      main B host front = .passed ∧ main B { host with memory := memory } back = .passed := by
  rw [main_passes_iff, main_passes_iff, main_passes_iff, Lines.lines_append (by decide) complete,
    readLines_append, begins]
  have split (front : List Command) :
      (scenarioMachine B host).Passes meets host.memory
          (withInit (front ++ .init r o :: commands)) ↔
        (scenarioMachine B host).Passes meets host.memory (withInit front) ∧
          (scenarioMachine B host).Passes meets memory (.init r o :: commands) := by
    cases front with
    | nil =>
        have begun : withInit (.init r o :: commands) = .init r o :: commands := rfl
        rw [List.nil_append, begun, passes_init_anew _ memory]
        exact (and_iff_right Machine.passes_nil).symm
    | cons command front =>
        rw [withInit_append (by simp), Machine.passes_append]
        exact and_congr_right fun _ => passes_init_anew _ _ _ _ _
  cases readLines B (Lines.lines 512 front) with
  | none => simp
  | some front =>
      simp only [Option.bind_some, Option.map_some, Option.some.injEq, exists_eq_left']
      exact split front

theorem scenarios_isolated_sample :
    main Build.full sampleHost ("op 3\n".toList ++ "init 2 4\nop 3\n".toList) = .passed ↔
      main Build.full sampleHost "op 3\n".toList = .passed ∧
        main Build.full { sampleHost with memory := .sample } "init 2 4\nop 3\n".toList =
          .passed := by
  have begins : readLines Build.full (Lines.lines 512 "init 2 4\nop 3\n".toList) =
      some [.init 2 4, .op 3] := by decide +kernel
  exact scenarios_isolated (by simp [Lines.Complete]) begins sampleHost .sample

/-- Lines that are blank or comments, or that expect something of a check or of the number of
edges, may be put between any two parts of a scenario: it passes exactly if it passes without
them and they pass where they stand. -/
theorem expectations_transparent {B : Build} {front middle : List Char} {looks : List Command}
    (complete : Lines.Complete front) (complete' : Lines.Complete middle)
    (read : readLines B (Lines.lines 512 middle) = some looks)
    (all : ∀ command ∈ looks, command.looks = true) (host : Host) (back : List Char) :
    main B host (front ++ (middle ++ back)) = .passed ↔
      main B host (front ++ middle) = .passed ∧ main B host (front ++ back) = .passed := by
  simp only [main_passes_iff, Lines.lines_append (by decide : 2 ≤ 512) complete,
    Lines.lines_append (by decide : 2 ≤ 512) complete', readLines_append, read]
  cases readLines B (Lines.lines 512 front) with
  | none => simp
  | some front =>
      cases readLines B (Lines.lines 512 back) with
      | none => simp
      | some back =>
          simp only [Option.bind_some, Option.map_some, Option.some.injEq, exists_eq_left',
            ← List.append_assoc]
          exact passes_looks all host.memory front back

theorem expectations_transparent_sample :
    main Build.full sampleHost ("op 3\n".toList ++
        ("\nexpect_check 3 ALLOW_FULL\n".toList ++ "op 2\n".toList)) = .passed ↔
      main Build.full sampleHost ("op 3\n".toList ++ "\nexpect_check 3 ALLOW_FULL\n".toList) =
          .passed ∧
        main Build.full sampleHost ("op 3\n".toList ++ "op 2\n".toList) = .passed := by
  have read : readLines Build.full (Lines.lines 512 "\nexpect_check 3 ALLOW_FULL\n".toList) =
      some [.expectCheck 3 .allowFull none] := by decide +kernel
  exact expectations_transparent (by simp [Lines.Complete]) (by simp [Lines.Complete]) read
    (by simp [Command.looks]) sampleHost _

end Scenario

end Loxbudget
