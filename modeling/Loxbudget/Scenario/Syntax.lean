import Loxbudget.Interface.Names
import Loxbudget.Scenario.Verdict

/-!
# The concrete syntax of scenarios

Which lines stand for which command. A line spells a command if its first word is the keyword and
the text spells the arguments under the format of the command; an `expect_check` without a reason
must not spell one. What the runner reads is exactly what is spelled.
-/

namespace Loxbudget

namespace Scenario

open Scan

variable {B : Build} {s : List Char} {command : Command}

/-! ## Spelling -/

def Command.keyword : Command → String
  | init _ _ => "init"
  | resource _ _ _ => "resource"
  | op _ => "op"
  | need _ _ _ => "need"
  | edge _ _ _ => "edge"
  | expectEdge _ _ _ _ => "expect_edge"
  | expectEdgeCount _ => "expect_edge_count"
  | pressure _ => "pressure"
  | expectCheck _ _ _ => "expect_check"

/-- The format that a spelling of the command follows. -/
def Command.format : Command → List Directive
  | init _ _ => initFormat
  | resource _ _ _ => resourceFormat
  | op _ => opFormat
  | need _ _ _ => needFormat
  | edge _ _ _ => edgeFormat
  | expectEdge _ _ _ _ => expectEdgeFormat
  | expectEdgeCount _ => expectEdgeCountFormat
  | pressure _ => pressureFormat
  | expectCheck _ _ none => expectActionFormat
  | expectCheck _ _ (some _) => expectCheckFormat

/-- The arguments, as the conversions of the format assign them. -/
def Command.values : Command → List Value
  | init r o => [.uint r.toUInt32, .uint o.toUInt32]
  | resource id limit kind => [.byte id, .short limit, .word kind.name.toList]
  | op id => [.byte id]
  | need id res amount => [.byte id, .byte res, .short amount]
  | edge parent child kind => [.byte parent, .byte child, .word kind.name.toList]
  | expectEdge parent child kind status =>
      [.byte parent, .byte child, .word kind.name.toList, .word status.name.toList]
  | expectEdgeCount n => [.short n]
  | pressure level => [.word level.name.toList]
  | expectCheck id action none => [.byte id, .word action.name.toList]
  | expectCheck id action (some reason) =>
      [.byte id, .word action.name.toList, .word reason.name.toList]

/-- The arguments are such that the command can be written: the sizes of an `init` are those of
the build, and an expected status has a name. -/
def Command.Writable (B : Build) : Command → Prop
  | init r o => (r ≠ 0 ∧ r.toNat ≤ B.maxResources) ∧ o ≠ 0 ∧ o.toNat ≤ B.maxOps
  | expectEdge _ _ _ status => status.readable = true
  | _ => True

/-- The text does not spell a check with a reason. -/
def Reasonless (s : List Char) : Prop :=
  ∀ op action reason, ¬Spells expectCheckFormat [.byte op, .word action, .word reason] s

/-- A check without a reason is not spelled by a text that spells one with a reason. -/
def Command.Apart (s : List Char) : Command → Prop
  | expectCheck _ _ none => Reasonless s
  | _ => True

/-- The text spells the command. -/
structure Spelled (B : Build) (command : Command) (s : List Char) : Prop where
  keyword : Spells [.word 63] [.word command.keyword.toList] s
  arguments : Spells command.format command.values s
  writable : command.Writable B
  apart : command.Apart s

/-! ## Reading -/

/-- The arguments are assigned as the command has them. -/
def Command.Scanned (s : List Char) (command : Command) : Prop :=
  scan command.format s = command.values

theorem Command.format_closed (command : Command) : Closed command.format := by
  cases command
  case expectCheck op action reason => cases reason <;> simp [format, Closed, Directive.assigns,
    expectActionFormat, expectCheckFormat]
  all_goals simp [format, Closed, Directive.assigns, initFormat, resourceFormat, opFormat,
    needFormat, edgeFormat, expectEdgeFormat, expectEdgeCountFormat, pressureFormat]

theorem Command.values_length (command : Command) :
    command.values.length = command.format.countP Directive.assigns := by
  cases command
  case expectCheck op action reason => cases reason <;> rfl
  all_goals rfl

theorem Command.scanned_iff : command.Scanned s ↔ Spells command.format command.values s :=
  scan_eq_iff_spells command.format_closed command.values_length

/-- The scanned text gives the arguments, and the command can be written. -/
structure Command.Told (B : Build) (s : List Char) (command : Command) : Prop where
  scanned : command.Scanned s
  writable : command.Writable B
  apart : command.Apart s

theorem toUInt32_toUInt8 {r : UInt32} (small : r.toNat < 256) : r.toUInt8.toUInt32 = r := by
  apply UInt32.toNat_inj.mp
  rw [UInt8.toNat_toUInt32, UInt32.toNat_toUInt8, Nat.mod_eq_of_lt small]

theorem readInit_eq_ok :
    readInit B s = .ok command ↔ (∃ r o, command = .init r o) ∧ command.Told B s := by
  have sizes := B.storageHdr_size
  unfold readInit
  constructor
  · intro read
    split at read
    · rename_i r o scanned
      split at read
      · cases read
      · rename_i inRange
        cases read
        simp only [not_or, gt_iff_lt, Nat.not_lt] at inRange
        rcases inRange with ⟨r_ne, o_ne, resources, ops⟩
        have r_eq := toUInt32_toUInt8 (r := r) (by omega)
        have o_eq := toUInt32_toUInt8 (r := o) (by omega)
        refine ⟨⟨_, _, rfl⟩, ?_, ⟨⟨?_, ?_⟩, ?_, ?_⟩, trivial⟩
        · simp only [Command.Scanned, Command.format, Command.values, scanned, r_eq, o_eq]
        · rintro zero
          rw [zero] at r_eq
          exact r_ne r_eq.symm
        · rw [← r_eq, UInt8.toNat_toUInt32] at resources
          exact resources
        · rintro zero
          rw [zero] at o_eq
          exact o_ne o_eq.symm
        · rw [← o_eq, UInt8.toNat_toUInt32] at ops
          exact ops
    · cases read
  · rintro ⟨⟨r, o, rfl⟩, told⟩
    have scanned := told.scanned
    rcases told.writable with ⟨⟨r_ne, resources⟩, o_ne, ops⟩
    simp only [Command.Scanned, Command.format, Command.values] at scanned
    have nonzero {v : UInt8} (v_ne : v ≠ 0) : v.toUInt32 ≠ 0 := by
      intro zero
      apply v_ne
      apply UInt8.toNat_inj.mp
      simpa using congrArg UInt32.toNat zero
    simp only [scanned]
    rw [if_neg]
    · simp
    · simp only [not_or, gt_iff_lt, Nat.not_lt, UInt8.toNat_toUInt32]
      exact ⟨nonzero r_ne, nonzero o_ne, resources, ops⟩

theorem readResource_eq_ok :
    readResource s = .ok command ↔
      (∃ id limit kind, command = .resource id limit kind) ∧ command.Told B s := by
  unfold readResource
  constructor
  · intro read
    split at read
    · rename_i id limit kindS scanned
      split at read
      · cases read
      · rename_i kind parsed
        cases read
        obtain rfl := parseKind_eq_some.mp parsed
        exact ⟨⟨id, limit, kind, rfl⟩, scanned, trivial, trivial⟩
    · cases read
  · rintro ⟨⟨id, limit, kind, rfl⟩, told⟩
    have scanned : scan resourceFormat s = _ := told.scanned
    simp only [scanned, Command.values, parseKind_eq_some.mpr rfl]

theorem readOp_eq_ok :
    readOp s = .ok command ↔ (∃ id, command = .op id) ∧ command.Told B s := by
  unfold readOp
  constructor
  · intro read
    split at read
    · rename_i id scanned
      cases read
      exact ⟨⟨id, rfl⟩, scanned, trivial, trivial⟩
    · cases read
  · rintro ⟨⟨id, rfl⟩, told⟩
    have scanned : scan opFormat s = _ := told.scanned
    simp only [scanned, Command.values]

theorem readNeed_eq_ok :
    readNeed s = .ok command ↔
      (∃ id res amount, command = .need id res amount) ∧ command.Told B s := by
  unfold readNeed
  constructor
  · intro read
    split at read
    · rename_i id res amount scanned
      cases read
      exact ⟨⟨id, res, amount, rfl⟩, scanned, trivial, trivial⟩
    · cases read
  · rintro ⟨⟨id, res, amount, rfl⟩, told⟩
    have scanned : scan needFormat s = _ := told.scanned
    simp only [scanned, Command.values]

theorem readEdge_eq_ok :
    readEdge s = .ok command ↔
      (∃ parent child kind, command = .edge parent child kind) ∧ command.Told B s := by
  unfold readEdge
  constructor
  · intro read
    split at read
    · rename_i parent child kindS scanned
      split at read
      · cases read
      · rename_i kind parsed
        cases read
        obtain rfl := parseTrigger_eq_some.mp parsed
        exact ⟨⟨parent, child, kind, rfl⟩, scanned, trivial, trivial⟩
    · cases read
  · rintro ⟨⟨parent, child, kind, rfl⟩, told⟩
    have scanned : scan edgeFormat s = _ := told.scanned
    simp only [scanned, Command.values, parseTrigger_eq_some.mpr rfl]

theorem readExpectEdge_eq_ok :
    readExpectEdge s = .ok command ↔
      (∃ parent child kind status, command = .expectEdge parent child kind status) ∧
        command.Told B s := by
  unfold readExpectEdge
  constructor
  · intro read
    split at read
    · rename_i parent child kindS stS scanned
      split at read
      · cases read
      rename_i kind parsed
      split at read
      · cases read
      · rename_i status parsed'
        cases read
        obtain rfl := parseTrigger_eq_some.mp parsed
        obtain ⟨rfl, readable⟩ := parseStatus_eq_some.mp parsed'
        exact ⟨⟨parent, child, kind, status, rfl⟩, scanned, readable, trivial⟩
    · cases read
  · rintro ⟨⟨parent, child, kind, status, rfl⟩, told⟩
    have scanned : scan expectEdgeFormat s = _ := told.scanned
    simp only [scanned, Command.values, parseTrigger_eq_some.mpr rfl,
      parseStatus_eq_some.mpr ⟨rfl, told.writable⟩]

theorem readExpectEdgeCount_eq_ok :
    readExpectEdgeCount s = .ok command ↔
      (∃ n, command = .expectEdgeCount n) ∧ command.Told B s := by
  unfold readExpectEdgeCount
  constructor
  · intro read
    split at read
    · rename_i n scanned
      cases read
      exact ⟨⟨n, rfl⟩, scanned, trivial, trivial⟩
    · cases read
  · rintro ⟨⟨n, rfl⟩, told⟩
    have scanned : scan expectEdgeCountFormat s = _ := told.scanned
    simp only [scanned, Command.values]

theorem readPressure_eq_ok :
    readPressure s = .ok command ↔ (∃ level, command = .pressure level) ∧ command.Told B s := by
  unfold readPressure
  constructor
  · intro read
    split at read
    · rename_i pS scanned
      split at read
      · cases read
      · rename_i level parsed
        cases read
        obtain rfl := parsePressure_eq_some.mp parsed
        exact ⟨⟨level, rfl⟩, scanned, trivial, trivial⟩
    · cases read
  · rintro ⟨⟨level, rfl⟩, told⟩
    have scanned : scan pressureFormat s = _ := told.scanned
    simp only [scanned, Command.values, parsePressure_eq_some.mpr rfl]

/-- No three values are assigned exactly if no check with a reason is spelled. -/
theorem reasonless_iff : Reasonless s ↔ ∀ op action reason,
    scan expectCheckFormat s ≠ [.byte op, .word action, .word reason] := by
  have closed : Closed expectCheckFormat :=
    (Command.expectCheck 0 .wait (some .ok)).format_closed
  simp only [Reasonless, ne_eq]
  refine forall_congr' fun op => forall_congr' fun action => forall_congr' fun reason => ?_
  rw [scan_eq_iff_spells closed rfl]

theorem readExpectCheck_eq_ok :
    readExpectCheck s = .ok command ↔
      (∃ op action reason, command = .expectCheck op action reason) ∧ command.Told B s := by
  unfold readExpectCheck
  constructor
  · intro read
    split at read
    · rename_i id actionS reasonS scanned
      unfold readExpected at read
      split at read
      · cases read
      rename_i action parsed
      simp only at read
      split at read
      · cases read
      · rename_i reason parsed'
        cases read
        obtain rfl := parseAction_eq_some.mp parsed
        obtain rfl := parseReason_eq_some.mp parsed'
        exact ⟨⟨id, action, some reason, rfl⟩, scanned, trivial, trivial⟩
    rename_i other
    split at read
    · rename_i id actionS scanned
      unfold readExpected at read
      split at read
      · cases read
      rename_i action parsed
      cases read
      obtain rfl := parseAction_eq_some.mp parsed
      exact ⟨⟨id, action, none, rfl⟩, scanned, trivial, reasonless_iff.mpr other⟩
    · cases read
  · rintro ⟨⟨op, action, reason, rfl⟩, told⟩
    cases reason with
    | some reason =>
        have scanned : scan expectCheckFormat s = _ := told.scanned
        simp only [scanned, Command.values, readExpected, parseAction_eq_some.mpr rfl,
          parseReason_eq_some.mpr rfl]
    | none =>
        have scanned : scan expectActionFormat s = _ := told.scanned
        have other := reasonless_iff.mp told.apart
        split
        · rename_i op' action' reason' scanned'
          exact absurd scanned' (other op' action' reason')
        · simp only [scanned, Command.values, readExpected, parseAction_eq_some.mpr rfl]

/-- The function that reads the arguments of the command. -/
def Command.reader (B : Build) : Command → List Char → Except String Command
  | init _ _ => readInit B
  | resource _ _ _ => readResource
  | op _ => readOp
  | need _ _ _ => readNeed
  | edge _ _ _ => readEdge
  | expectEdge _ _ _ _ => readExpectEdge
  | expectEdgeCount _ => readExpectEdgeCount
  | pressure _ => readPressure
  | expectCheck _ _ _ => readExpectCheck

theorem readCommand_keyword :
    readCommand B command.keyword.toList s = command.reader B s := by
  cases command
  all_goals simp [readCommand, Command.keyword, Command.reader]

/-- A text with a command word is read as a command exactly if the word is its keyword and the text
gives its arguments. -/
theorem readCommand_eq_ok {cmd : List Char} :
    readCommand B cmd s = .ok command ↔ cmd = command.keyword.toList ∧ command.Told B s := by
  constructor
  · intro read
    unfold readCommand at read
    split at read
    · rcases readInit_eq_ok.mp read with ⟨⟨r, o, rfl⟩, told⟩
      exact ⟨‹_›, told⟩
    split at read
    · rcases (readResource_eq_ok (B := B)).mp read with ⟨⟨id, limit, kind, rfl⟩, told⟩
      exact ⟨‹_›, told⟩
    split at read
    · rcases (readOp_eq_ok (B := B)).mp read with ⟨⟨id, rfl⟩, told⟩
      exact ⟨‹_›, told⟩
    split at read
    · rcases (readNeed_eq_ok (B := B)).mp read with ⟨⟨id, res, amount, rfl⟩, told⟩
      exact ⟨‹_›, told⟩
    split at read
    · rcases (readEdge_eq_ok (B := B)).mp read with ⟨⟨parent, child, kind, rfl⟩, told⟩
      exact ⟨‹_›, told⟩
    split at read
    · rcases (readExpectEdge_eq_ok (B := B)).mp read with ⟨⟨parent, child, kind, status, rfl⟩, told⟩
      exact ⟨‹_›, told⟩
    split at read
    · rcases (readExpectEdgeCount_eq_ok (B := B)).mp read with ⟨⟨n, rfl⟩, told⟩
      exact ⟨‹_›, told⟩
    split at read
    · rcases (readPressure_eq_ok (B := B)).mp read with ⟨⟨level, rfl⟩, told⟩
      exact ⟨‹_›, told⟩
    split at read
    · rcases (readExpectCheck_eq_ok (B := B)).mp read with ⟨⟨op, action, reason, rfl⟩, told⟩
      exact ⟨‹_›, told⟩
    · cases read
  · rintro ⟨rfl, told⟩
    rw [readCommand_keyword]
    cases command with
    | init r o => exact readInit_eq_ok.mpr ⟨⟨r, o, rfl⟩, told⟩
    | resource id limit kind => exact readResource_eq_ok.mpr ⟨⟨id, limit, kind, rfl⟩, told⟩
    | op id => exact readOp_eq_ok.mpr ⟨⟨id, rfl⟩, told⟩
    | need id res amount => exact readNeed_eq_ok.mpr ⟨⟨id, res, amount, rfl⟩, told⟩
    | edge parent child kind => exact readEdge_eq_ok.mpr ⟨⟨parent, child, kind, rfl⟩, told⟩
    | expectEdge parent child kind status =>
        exact readExpectEdge_eq_ok.mpr ⟨⟨parent, child, kind, status, rfl⟩, told⟩
    | expectEdgeCount n => exact readExpectEdgeCount_eq_ok.mpr ⟨⟨n, rfl⟩, told⟩
    | pressure level => exact readPressure_eq_ok.mpr ⟨⟨level, rfl⟩, told⟩
    | expectCheck op action reason =>
        exact readExpectCheck_eq_ok.mpr ⟨⟨op, action, reason, rfl⟩, told⟩

theorem Command.format_eq (command : Command) :
    ∃ format, command.format = .literal command.keyword.toList :: .space :: format := by
  cases command
  case expectCheck op action reason => cases reason <;> exact ⟨_, rfl⟩
  all_goals exact ⟨_, rfl⟩

/-- What spells a command begins with its keyword. -/
theorem Spelled.starts (spelled : Spelled B command s) :
    ∃ rest, s = command.keyword.toList ++ rest := by
  rcases command.format_eq with ⟨format, same⟩
  have arguments := spelled.arguments
  rw [same] at arguments
  rcases arguments.after_literal with ⟨rest, begins, -⟩
  exact ⟨rest, begins⟩

/-- What spells a command is neither empty nor a comment. -/
theorem Spelled.not_blank (spelled : Spelled B command s) : ¬(s = [] ∨ s.head? = some '#') := by
  rcases spelled.starts with ⟨rest, rfl⟩
  cases command
  all_goals simp [Command.keyword]

/-- A line is read as a command exactly if what is left of it after trimming spells the command. -/
theorem readLine_eq_some {buffer : List Char} :
    readLine B buffer = .ok (some command) ↔
      Spelled B command (skipWs (rstrip (cString buffer))) := by
  have closed : Closed [.word 63] := by simp [Closed, Directive.assigns]
  rw [readLine]
  generalize skipWs (rstrip (cString buffer)) = s
  constructor
  · intro read
    split at read
    · cases read
    split at read
    · rename_i cmd scanned
      cases reading : readCommand B cmd s with
      | error => rw [reading] at read; cases read
      | ok command' =>
          rw [reading] at read
          obtain rfl : command' = command := by
            cases read
            rfl
          rcases readCommand_eq_ok.mp reading with ⟨rfl, told⟩
          exact ⟨(scan_eq_iff_spells closed rfl).mp scanned,
            Command.scanned_iff.mp told.scanned, told.writable, told.apart⟩
    · cases read
  · intro spelled
    have scanned := (scan_eq_iff_spells closed rfl).mpr spelled.keyword
    have told : command.Told B s :=
      ⟨Command.scanned_iff.mpr spelled.arguments, spelled.writable, spelled.apart⟩
    simp only [if_neg spelled.not_blank, scanned, readCommand_eq_ok.mpr ⟨rfl, told⟩]
    rfl

/-! ## Texts -/

/-- The line is blank or a comment. Only blanks of `skip_ws_` may stand before a `#`, but any white
space makes a line blank. -/
def Ignored (buffer : List Char) : Prop :=
  Blank (skipWs (rstrip (cString buffer))) ∨
    (skipWs (rstrip (cString buffer))).head? = some '#'

theorem scan_word_eq_nil_iff {width : Nat} (wide : 0 < width) :
    scan [.word width] s = [] ↔ Blank s := by
  have starts : readWord width s = none ↔ Blank s := by
    simp only [readWord, ite_eq_left_iff, reduceCtorEq, imp_false, not_not, List.take_eq_nil_iff,
      Nat.ne_of_gt wide, false_or]
    constructor
    · intro none
      refine List.dropWhile_eq_nil_iff.mp ?_
      have ends := ends_dropWhile isSpace s
      cases rest : s.dropWhile isSpace with
      | nil => rfl
      | cons c rest' =>
          rw [rest] at none ends
          simp [ends c (by simp)] at none
    · intro blank
      rw [List.dropWhile_eq_nil_iff.mpr blank]
      rfl
  rw [← starts, scan, Directive.read]
  cases readWord width s with
  | none => simp
  | some item => simp [scan]

theorem readLine_eq_none {buffer : List Char} :
    readLine B buffer = .ok none ↔ Ignored buffer := by
  rw [readLine, Ignored]
  generalize skipWs (rstrip (cString buffer)) = s
  have scanned := scan_word_eq_nil_iff (s := s) (by decide : 0 < 63)
  constructor
  · intro ignored
    split at ignored
    · rename_i blank
      exact blank.imp_left fun empty => by simp [empty, Blank]
    · split at ignored
      · rename_i cmd _
        cases reading : readCommand B cmd s with
        | error => rw [reading] at ignored; cases ignored
        | ok => rw [reading] at ignored; cases ignored
      · rename_i other
        refine Or.inl (scanned.mp ?_)
        simp only [scan, Directive.read] at other ⊢
        cases item : readWord 63 s with
        | none => rfl
        | some item' => exact absurd (by simp [item]) (other item'.1)
  · intro ignored
    split
    · rfl
    · rename_i nonblank
      rw [scanned.mpr (ignored.resolve_right fun comment => nonblank (Or.inr comment))]

/-- The lines contain the commands, one each and in their order, but for those that are ignored. -/
inductive Contains (B : Build) : List (List Char) → List Command → Prop
  | nil : Contains B [] []
  | ignored {buffer : List Char} {buffers : List (List Char)} {commands : List Command}
      (ignored : Ignored buffer) (rest : Contains B buffers commands) :
      Contains B (buffer :: buffers) commands
  | command {buffer : List Char} {buffers : List (List Char)} {command : Command}
      {commands : List Command}
      (spelled : Spelled B command (skipWs (rstrip (cString buffer))))
      (rest : Contains B buffers commands) : Contains B (buffer :: buffers) (command :: commands)

/-- The runner reads a text as a list of commands exactly if its lines contain these. -/
theorem text_reads_iff (B : Build) (buffers : List (List Char)) (commands : List Command) :
    readLines B buffers = some commands ↔ Contains B buffers commands := by
  constructor
  · intro read
    induction buffers generalizing commands with
    | nil =>
        obtain rfl : [] = commands := Option.some.inj read
        exact .nil
    | cons buffer buffers ih =>
        rw [readLines] at read
        split at read
        · cases read
        · rename_i line
          exact .ignored (readLine_eq_none.mp line) (ih _ read)
        · rename_i command line
          rcases Option.map_eq_some_iff.mp read with ⟨commands, rest, rfl⟩
          exact .command (readLine_eq_some.mp line) (ih _ rest)
  · intro contained
    induction contained with
    | nil => rfl
    | ignored ignored _ ih =>
        rw [readLines, readLine_eq_none.mpr ignored]
        exact ih
    | command spelled _ ih =>
        rw [readLines, readLine_eq_some.mpr spelled, ih]
        rfl

end Scenario

end Loxbudget
