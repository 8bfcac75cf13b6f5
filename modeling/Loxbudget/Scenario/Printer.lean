import Loxbudget.Lib.Printing
import Loxbudget.Scenario.Syntax

/-!
# Printed scenarios

The printer writes one spelling of each command on a line of its own. The runner reads a printed
scenario back as it was exactly if each of its commands can be written, and these are the only
ones that it ever reads. So every scenario has a normal form, and its outcome is the same but for
the number of the line that a report names.
-/

namespace Loxbudget

namespace Scenario

open Scan

variable {B : Build} {command : Command} {commands : List Command} {text : List Char}

/-- The line that the printer writes for a command, without its newline. -/
def Command.render (command : Command) : List Char :=
  print command.format command.values

/-- A scenario as a text. -/
def printed (commands : List Command) : List Char :=
  (commands.map Command.render).flatMap fun line => line ++ ['\n']

/-! ## Words of the language -/

/-- A word that fits into every buffer of the runner and has no control characters. -/
structure Word (text : List Char) : Prop where
  nonempty : text ≠ []
  short : text.length ≤ 31
  unspaced : ∀ c ∈ text, isSpace c = false
  plain : ∀ c ∈ text, 32 ≤ c.toNat

theorem Word.of_all (nonempty : text ≠ []) (short : text.length ≤ 31)
    (all : (text.all fun c => !isSpace c && 32 ≤ c.toNat) = true) : Word text := by
  simp only [List.all_eq_true, Bool.and_eq_true, Bool.not_eq_true', decide_eq_true_eq] at all
  exact ⟨nonempty, short, fun c listed => (all c listed).1, fun c listed => (all c listed).2⟩

theorem ResourceKind.word (kind : ResourceKind) : Word kind.name.toList := by
  cases kind <;> exact .of_all (by decide) (by decide) (by decide)

theorem TriggerKind.word (kind : TriggerKind) : Word kind.name.toList := by
  cases kind <;> exact .of_all (by decide) (by decide) (by decide)

theorem Pressure.word (pressure : Pressure) : Word pressure.name.toList := by
  cases pressure <;> exact .of_all (by decide) (by decide) (by decide)

theorem Action.word (action : Action) : Word action.name.toList := by
  cases action <;> exact .of_all (by decide) (by decide) (by decide)

theorem Reason.word (reason : Reason) : Word reason.name.toList := by
  cases reason <;> exact .of_all (by decide) (by decide) (by decide)

theorem Status.word (status : Status) : Word status.name.toList := by
  cases status <;> exact .of_all (by decide) (by decide) (by decide)

theorem Command.keyword_word (command : Command) : Word command.keyword.toList := by
  cases command
  all_goals simp only [Command.keyword]
  all_goals exact .of_all (by decide) (by decide) (by decide)

theorem Word.visible (word : Word text) : Visible text := by
  rcases List.exists_cons_of_ne_nil word.nonempty with ⟨c, rest, rfl⟩
  exact ⟨c, rfl, word.unspaced c List.mem_cons_self⟩

theorem Word.fits (word : Word text) {width : Nat} (wide : 31 ≤ width) :
    Fits (.word width) (.word text) :=
  .word word.nonempty word.unspaced (word.short.trans wide)

theorem Command.values_word (command : Command) :
    ∀ text, .word text ∈ command.values → Word text := by
  intro text listed
  cases command
  case expectCheck op action reason =>
    cases reason with
    | none =>
        obtain rfl : text = action.name.toList := by simpa [values] using listed
        exact Action.word action
    | some reason =>
        rcases (by simpa [values] using listed : text = action.name.toList ∨
          text = reason.name.toList) with rfl | rfl
        · exact Action.word action
        · exact Reason.word reason
  case expectEdge parent child kind status =>
    rcases (by simpa [values] using listed : text = kind.name.toList ∨
      text = status.name.toList) with rfl | rfl
    · exact TriggerKind.word kind
    · exact Status.word status
  case resource id limit kind =>
    obtain rfl : text = kind.name.toList := by simpa [values] using listed
    exact ResourceKind.word kind
  case edge parent child kind =>
    obtain rfl : text = kind.name.toList := by simpa [values] using listed
    exact TriggerKind.word kind
  case pressure level =>
    obtain rfl : text = level.name.toList := by simpa [values] using listed
    exact Pressure.word level
  all_goals simp [values] at listed

/-! ## One line -/

theorem Command.printable (command : Command) : Printable command.format command.values := by
  have keyword := command.keyword_word.visible
  cases command with
  | init r o =>
      exact .literal keyword
        (.spaced (.uint _) (Or.inr rfl) (.spaced (.uint _) (Or.inl rfl) .done))
  | resource id limit kind =>
      have word := (ResourceKind.word kind).fits (show 31 ≤ 31 by decide)
      exact .literal keyword (.spaced (.byte _) (Or.inr rfl) (.spaced (.short _) (Or.inr rfl)
        (.spaced word (Or.inl rfl) .done)))
  | op id => exact .literal keyword (.spaced (.byte _) (Or.inl rfl) .done)
  | need id res amount =>
      exact .literal keyword (.spaced (.byte _) (Or.inr rfl) (.spaced (.byte _) (Or.inr rfl)
        (.spaced (.short _) (Or.inl rfl) .done)))
  | edge parent child kind =>
      have word := (TriggerKind.word kind).fits (show 31 ≤ 31 by decide)
      exact .literal keyword (.spaced (.byte _) (Or.inr rfl) (.spaced (.byte _) (Or.inr rfl)
        (.spaced word (Or.inl rfl) .done)))
  | expectEdge parent child kind status =>
      have told : Visible "status=".toList := ⟨'s', rfl, rfl⟩
      exact .literal keyword (.spaced (.byte _) (Or.inr rfl) (.spaced (.byte _) (Or.inr rfl)
        (.spaced ((TriggerKind.word kind).fits (by decide)) (Or.inr rfl)
          (.space (told.append _) (.literal told
            (.conversion ((Status.word status).fits (by decide)) (Or.inl rfl) .done))))))
  | expectEdgeCount n => exact .literal keyword (.spaced (.short _) (Or.inl rfl) .done)
  | pressure level =>
      have word := (Pressure.word level).fits (show 31 ≤ 31 by decide)
      exact .literal keyword (.spaced word (Or.inl rfl) .done)
  | expectCheck op action reason =>
      have acts := (Action.word action).fits (show 31 ≤ 31 by decide)
      cases reason with
      | none => exact .literal keyword (.spaced (.byte _) (Or.inr rfl)
          (.spaced acts (Or.inl rfl) .done))
      | some reason =>
          have told : Visible "reason=".toList := ⟨'r', rfl, rfl⟩
          exact .literal keyword (.spaced (.byte _) (Or.inr rfl) (.spaced acts (Or.inr rfl)
            (.space (told.append _) (.literal told
              (.conversion ((Reason.word reason).fits (by decide)) (Or.inl rfl) .done)))))

theorem Command.format_literals (command : Command) :
    ∀ text, .literal text ∈ command.format →
      text = command.keyword.toList ∨ text = "status=".toList ∨ text = "reason=".toList := by
  intro text listed
  cases command
  case expectCheck op action reason =>
    cases reason
    all_goals
      simp only [format, expectCheckFormat, expectActionFormat, List.mem_cons, List.mem_append,
        Directive.literal.injEq, reduceCtorEq, List.not_mem_nil, false_or, or_false] at listed
      tauto
  all_goals
    simp only [format, initFormat, resourceFormat, opFormat, needFormat, edgeFormat,
      expectEdgeFormat, expectEdgeCountFormat, pressureFormat, List.mem_cons,
      Directive.literal.injEq, reduceCtorEq, List.not_mem_nil, false_or, or_false] at listed
    tauto

/-- No control characters are printed. -/
theorem Command.render_plain (command : Command) : ∀ c ∈ command.render, 32 ≤ c.toNat := by
  refine print_forall (p := fun c => 32 ≤ c.toNat) (by decide) ?_ command.printable ?_ ?_
  · intro c digit
    simp only [Char.isDigit, Bool.and_eq_true, decide_eq_true_eq] at digit
    have above : (48 : UInt32) ≤ c.val := digit.1
    rw [UInt32.le_iff_toNat_le] at above
    exact Nat.le_trans (by decide) above
  · intro text listed
    rcases command.format_literals text listed with rfl | rfl | rfl
    · exact command.keyword_word.plain
    · exact (Word.of_all (by decide) (by decide) (by decide)).plain
    · exact (Word.of_all (by decide) (by decide) (by decide)).plain
  · intro text listed
    exact (command.values_word text listed).plain

theorem Command.render_length (command : Command) : command.render.length ≤ 200 := by
  apply command.printable.length_le.trans
  cases command
  case expectCheck op action reason =>
    cases reason
    all_goals
      simp only [format]
      decide
  all_goals
    simp only [format]
    decide

theorem isBlank_of_isSpace {c : Char} (unspaced : isSpace c = false) : isBlank c = false := by
  simp only [isSpace, Bool.or_eq_false_iff] at unspaced
  simp only [isBlank, Bool.or_eq_false_iff]
  tauto

/-- Trimming gives a printed line back without its newline. -/
theorem Command.render_trimmed (command : Command) :
    skipWs (rstrip (cString (command.render ++ ['\n']))) = command.render := by
  have whole : cString (command.render ++ ['\n']) = command.render ++ ['\n'] := by
    rw [cString, List.takeWhile_eq_self_iff]
    intro c listed
    rcases List.mem_append.mp listed with listed | listed
    · have plain := command.render_plain c listed
      rw [bne_iff_ne]
      rintro rfl
      exact absurd plain (by decide)
    · rw [List.mem_singleton.mp listed]
      decide
  have right : rstrip (command.render ++ ['\n']) = command.render := by
    rw [rstrip, List.rdropWhile_concat_pos _ _ _ (by decide), List.rdropWhile_eq_self_iff]
    intro nonempty
    have last := command.printable.getLast command.format_closed _
      (List.getLast?_eq_some_getLast nonempty)
    rw [isBlank_of_isSpace last]
    decide
  have left : skipWs command.render = command.render := by
    rcases command.format_eq with ⟨format, same⟩
    have ends : Ends isBlank ([] ++ command.render) := by
      intro c first
      rw [List.nil_append, Command.render, same, print] at first
      exact isBlank_of_isSpace ((command.keyword_word.visible.append _).ends c first)
    have none : ∀ c ∈ ([] : List Char), isBlank c = true := by simp
    exact dropWhile_append_of_ends none ends
  rw [whole, right, left]

/-- The printed line spells its command. -/
theorem Command.render_spelled (writable : command.Writable B) :
    Spelled B command command.render where
  keyword := by
    rcases command.format_eq with ⟨format, same⟩
    have word := command.keyword_word
    have ends : Ends (fun c => !isSpace c) (' ' :: print format command.values) := by
      intro c first
      obtain rfl := Option.some.inj first
      rfl
    rw [Command.render, same, print, print]
    have blank : Blank [] := by simp [Blank]
    exact .word blank word.nonempty word.unspaced
      (word.short.trans (by decide)) (Or.inr ends) (.done _)
  arguments :=
    (scan_eq_iff_spells command.format_closed command.values_length).mp
      (scan_print command.printable)
  writable := writable
  apart := by
    cases command
    case expectCheck op action reason =>
      cases reason with
      | some reason => trivial
      | none =>
          apply reasonless_iff.mpr
          intro op' action' reason' scanned
          have front := scan_print_append (expectCheck op action none).printable
            (by simp [Stops] : Stops []) [.space, .literal "reason=".toList, .word 63]
          rw [List.append_nil] at front
          rw [expectCheckFormat] at scanned
          have same := front.symm.trans scanned
          simp [values, scan, Directive.read, readLiteral] at same
    all_goals trivial

theorem readLine_render (writable : command.Writable B) :
    readLine B (command.render ++ ['\n']) = .ok (some command) := by
  rw [readLine_eq_some, command.render_trimmed]
  exact Command.render_spelled writable

/-! ## All lines -/

/-- Only commands that can be written are read. -/
theorem readLines_writable {buffers : List (List Char)}
    (read : readLines B buffers = some commands) : ∀ command ∈ commands, command.Writable B := by
  induction buffers generalizing commands with
  | nil =>
      obtain rfl : [] = commands := Option.some.inj read
      simp
  | cons buffer buffers ih =>
      rw [readLines] at read
      split at read
      · cases read
      · exact ih read
      · rename_i command line
        rw [Option.map_eq_some_iff] at read
        rcases read with ⟨commands, rest, rfl⟩
        rw [List.forall_mem_cons]
        exact ⟨(readLine_eq_some.mp line).writable, ih rest⟩

theorem lines_printed (commands : List Command) :
    Lines.lines 512 (printed commands) =
      commands.map fun command => command.render ++ ['\n'] := by
  rw [printed, Lines.lines_unlines (by decide)]
  · rw [List.map_map]
    rfl
  · intro line listed
    rcases List.mem_map.mp listed with ⟨command, -, rfl⟩
    have short := command.render_length
    refine ⟨fun newline => ?_, by omega⟩
    exact absurd (command.render_plain _ newline) (by decide)

theorem readLines_printed (writable : ∀ command ∈ commands, command.Writable B) :
    readLines B (Lines.lines 512 (printed commands)) = some commands := by
  rw [lines_printed]
  induction commands with
  | nil => rfl
  | cons command commands ih =>
      rw [List.forall_mem_cons] at writable
      rw [List.map_cons, readLines, readLine_render writable.1]
      simp only [ih writable.2, Option.map_some]

/-- A printed scenario is read back as it was exactly if each of its commands can be written. -/
theorem printed_reads_back_iff (B : Build) (commands : List Command) :
    readLines B (Lines.lines 512 (printed commands)) = some commands ↔
      ∀ command ∈ commands, command.Writable B :=
  ⟨readLines_writable, readLines_printed⟩

/-! ## What does not depend on the lines -/

/-- A report without the number of its line. -/
def Stop.unnumbered : Stop → Stop
  | fail _ message => fail 0 message
  | mismatch values => mismatch values

def Outcome.unnumbered : Outcome → Outcome
  | passed => passed
  | stopped stop => stopped stop.unnumbered

theorem Outcome.exitCode_unnumbered (outcome : Outcome) :
    outcome.unnumbered.exitCode = outcome.exitCode := by
  rcases outcome with _ | ⟨line, message⟩ | values
  all_goals rfl

theorem stop?_unnumbered (lineno : UInt32) (command : Command) (seen : Observation) :
    (command.stop? lineno seen).map Stop.unnumbered = command.stop? 0 seen := by
  cases command
  case expectCheck op action reason =>
    simp only [Command.stop?]
    split
    · split
      · rfl
      · cases reason with
        | none => rfl
        | some reason =>
            simp only
            split
            · rfl
            · rfl
    · rfl
  all_goals simp only [Command.stop?]
  all_goals
    split
    · rfl
    · rfl

theorem prepare_unnumbered (host : Host) (lineno : UInt32) (runner : Runner) (isInit : Bool) :
    (runner.prepare B host lineno isInit).mapError Stop.unnumbered =
      runner.prepare B host 0 isInit := by
  simp only [Runner.prepare, implicitInit]
  split
  · rfl
  · split
    · rfl
    · split
      · rfl
      · rfl

theorem take_unnumbered (host : Host) (lineno : UInt32) (runner : Runner) (command : Command) :
    (runner.take B host lineno command).mapError Stop.unnumbered =
      runner.take B host 0 command := by
  rw [Runner.take, Runner.take, ← stop?_unnumbered lineno]
  cases command.stop? lineno ((scenarioMachine B host).reply runner.budget command) with
  | none => rfl
  | some stop => rfl

/-- What the runner makes of commands, told without the lines that they stand on. -/
def follow (B : Build) (host : Host) : Runner → List Command → Outcome
  | _, [] => .passed
  | runner, command :: commands =>
      match (runner.prepare B host 0 command.isInit).bind
        fun runner => runner.take B host 0 command with
      | .ok runner => follow B host runner commands
      | .error stop => .stopped stop

/-- Lines that can all be read are run as the commands that they stand for, but for the number in
the report. -/
theorem runLines_unnumbered (host : Host) {buffers : List (List Char)}
    (read : readLines B buffers = some commands) (lineno : UInt32) (runner : Runner) :
    (runLines B host lineno buffers runner).unnumbered = follow B host runner commands := by
  induction buffers generalizing lineno runner commands with
  | nil =>
      obtain rfl : [] = commands := Option.some.inj read
      rfl
  | cons buffer buffers ih =>
      rw [readLines] at read
      rw [runLines]
      rcases line : readLine B buffer with message | _ | command
      · rw [line] at read
        cases read
      · rw [line] at read
        rw [runLine_of_blank line]
        exact ih read (lineno + 1) runner
      · rw [line] at read
        simp only [Option.map_eq_some_iff] at read
        rcases read with ⟨commands, read, rfl⟩
        rw [runLine_of_command line, follow, ← prepare_unnumbered host (lineno + 1)]
        cases runner.prepare B host (lineno + 1) command.isInit with
        | error stop => rfl
        | ok prepared =>
            simp only [Except.mapError, Except.bind]
            rw [← take_unnumbered host (lineno + 1)]
            cases prepared.take B host (lineno + 1) command with
            | error stop => rfl
            | ok taken => exact ih read (lineno + 1) taken

/-- Printing what a text was read as gives a text that is read the same, and that ends as the text
does: it passes exactly if the text passes, it gives the same exit code, and it makes the same
report but for the number of the line. -/
theorem normal_form {B : Build} {stdin : List Char} {commands : List Command}
    (read : readLines B (Lines.lines 512 stdin) = some commands) (host : Host) :
    readLines B (Lines.lines 512 (printed commands)) = some commands ∧
      (main B host (printed commands) = .passed ↔ main B host stdin = .passed) ∧
      (main B host (printed commands)).exitCode = (main B host stdin).exitCode ∧
      (main B host (printed commands)).unnumbered = (main B host stdin).unnumbered := by
  have back := readLines_printed (readLines_writable read)
  have same : (main B host (printed commands)).unnumbered = (main B host stdin).unnumbered := by
    rw [main, main, runLines_unnumbered host back, runLines_unnumbered host read]
  refine ⟨back, ?_, ?_, same⟩
  · rw [main_passes_iff, main_passes_iff, back, read]
  · rw [← Outcome.exitCode_unnumbered, same, Outcome.exitCode_unnumbered]

theorem normal_form_sample :
    let stdin := "  op 03\n# raised\npressure\tCRITICAL".toList
    let printed := printed [.op 3, .pressure .critical]
    readLines Build.full (Lines.lines 512 printed) = some [.op 3, .pressure .critical] ∧
      (main Build.full sampleHost printed = .passed ↔
        main Build.full sampleHost stdin = .passed) ∧
      (main Build.full sampleHost printed).exitCode =
        (main Build.full sampleHost stdin).exitCode ∧
      (main Build.full sampleHost printed).unnumbered =
        (main Build.full sampleHost stdin).unnumbered :=
  normal_form (by decide +kernel) sampleHost

end Scenario

end Loxbudget
