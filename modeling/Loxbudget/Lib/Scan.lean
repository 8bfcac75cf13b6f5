import Mathlib.Algebra.Ring.Nat
import Mathlib.Data.List.TakeWhile

/-!
# Formatted input

`scan` reads a text under a list of directives as `sscanf` does in the C locale: a directive
for white space skips any amount of it, a literal has to be met character by character, a
conversion skips white space, reads as far as it can and assigns a value. The values assigned
before the first directive that fails are what the caller sees.

`Spells` gives the same by what the text looks like instead of by how it is read. The two agree:
`scan` assigns every value exactly if the text spells them. What follows a number or a word
decides where it ends, so each constructor carries a condition on the rest of the text.
-/

namespace Scan

/-- `isspace` in the C locale. -/
def isSpace (c : Char) : Bool :=
  c == ' ' || c == '\t' || c == '\n' || c == '\x0b' || c == '\x0c' || c == '\r'

/-- A directive of a format. The three unsigned conversions differ in the type of the object
they assign; `word` is `%s` with its maximum field width. -/
inductive Directive where
  | space
  | literal (text : List Char)
  | byte
  | short
  | uint
  | word (width : Nat)
  deriving DecidableEq, Repr

/-- A value as a conversion assigns it. -/
inductive Value where
  | byte (v : UInt8)
  | short (v : UInt16)
  | uint (v : UInt32)
  | word (text : List Char)
  deriving DecidableEq, Repr

/-! ## Reading -/

/-- The number a sign and a nonempty sequence of digits stand for, as `strtoul` gives it on a
host with a 64-bit `unsigned long`. -/
def strtoul (sign digits : List Char) : Nat :=
  let v := Nat.ofDigitChars 10 digits 0
  if v ≥ 2 ^ 64 then 2 ^ 64 - 1
  else if sign = ['-'] then (2 ^ 64 - v) % 2 ^ 64
  else v

/-- The sign of a numeral, if it has one, and the text after it. -/
def splitSign : List Char → List Char × List Char
  | '-' :: rest => (['-'], rest)
  | '+' :: rest => (['+'], rest)
  | rest => ([], rest)

/-- The input item of an unsigned conversion, converted, and the text after it. -/
def readNumber (text : List Char) : Option (Nat × List Char) :=
  let (sign, rest) := splitSign (text.dropWhile isSpace)
  let digits := rest.takeWhile Char.isDigit
  if digits = [] then none
  else some (strtoul sign digits, rest.dropWhile Char.isDigit)

/-- The input item of `%s` with a field width, and the text after it. -/
def readWord (width : Nat) (text : List Char) : Option (List Char × List Char) :=
  let rest := text.dropWhile isSpace
  let word := (rest.takeWhile fun c => !isSpace c).take width
  if word = [] then none else some (word, rest.drop word.length)

/-- The text after a literal, if the text starts with it. -/
def readLiteral : List Char → List Char → Option (List Char)
  | [], text => some text
  | _ :: _, [] => none
  | c :: literal, d :: text => if c = d then readLiteral literal text else none

/-- What the directive assigns, if anything, and the text after it. -/
def Directive.read : Directive → List Char → Option (Option Value × List Char)
  | .space, text => some (none, text.dropWhile isSpace)
  | .literal expected, text => (readLiteral expected text).map fun rest => (none, rest)
  | .byte, text => (readNumber text).map fun (v, rest) => (some (.byte (.ofNat v)), rest)
  | .short, text => (readNumber text).map fun (v, rest) => (some (.short (.ofNat v)), rest)
  | .uint, text => (readNumber text).map fun (v, rest) => (some (.uint (.ofNat v)), rest)
  | .word width, text => (readWord width text).map fun (item, rest) => (some (.word item), rest)

/-- The values that `sscanf` assigns, in their order. -/
def scan : List Directive → List Char → List Value
  | [], _ => []
  | directive :: format, text =>
      match directive.read text with
      | none => []
      | some (none, rest) => scan format rest
      | some (some value, rest) => value :: scan format rest

/-! ## Spelling -/

/-- The text does not go on with a character of the class. -/
def Ends (kind : Char → Bool) (text : List Char) : Prop :=
  ∀ c ∈ text.head?, kind c = false

/-- White space. -/
def Blank (text : List Char) : Prop :=
  ∀ c ∈ text, isSpace c = true

/-- A numeral with its sign, as an unsigned conversion takes it. -/
structure Numeral (sign digits : List Char) : Prop where
  sign : sign = [] ∨ sign = ['+'] ∨ sign = ['-']
  nonempty : digits ≠ []
  digits : ∀ c ∈ digits, c.isDigit = true

/-- The value that an unsigned conversion makes of a number. -/
def Directive.store : Directive → Nat → Option Value
  | .byte, v => some (.byte (.ofNat v))
  | .short, v => some (.short (.ofNat v))
  | .uint, v => some (.uint (.ofNat v))
  | .space, _ | .literal _, _ | .word _, _ => none

/-- The text begins with a spelling of the values under the format. -/
inductive Spells : List Directive → List Value → List Char → Prop
  | done (rest : List Char) : Spells [] [] rest
  | space {format : List Directive} {values : List Value} {gap rest : List Char}
      (blank : Blank gap) (ends : Ends isSpace rest) (spelled : Spells format values rest) :
      Spells (.space :: format) values (gap ++ rest)
  | literal {format : List Directive} {values : List Value} (text : List Char)
      {rest : List Char} (spelled : Spells format values rest) :
      Spells (.literal text :: format) values (text ++ rest)
  | number {format : List Directive} {values : List Value} {directive : Directive}
      {value : Value} {gap sign digits rest : List Char} (blank : Blank gap)
      (numeral : Numeral sign digits) (ends : Ends Char.isDigit rest)
      (stored : directive.store (strtoul sign digits) = some value)
      (spelled : Spells format values rest) :
      Spells (directive :: format) (value :: values) (gap ++ (sign ++ (digits ++ rest)))
  | word {format : List Directive} {values : List Value} {width : Nat}
      {gap text rest : List Char} (blank : Blank gap) (nonempty : text ≠ [])
      (unspaced : ∀ c ∈ text, isSpace c = false) (fits : text.length ≤ width)
      (ends : text.length = width ∨ Ends (fun c => !isSpace c) rest)
      (spelled : Spells format values rest) :
      Spells (.word width :: format) (.word text :: values) (gap ++ (text ++ rest))

/-! ## The pieces of a text -/

section Pieces

variable {p : Char → Bool}

theorem takeWhile_append_of_ends {front rest : List Char} (all : ∀ c ∈ front, p c = true)
    (ends : Ends p rest) : (front ++ rest).takeWhile p = front := by
  rw [List.takeWhile_append_of_pos all]
  cases rest with
  | nil => simp
  | cons c rest =>
      have stop := ends c (by simp)
      simp [stop]

theorem dropWhile_append_of_ends {front rest : List Char} (all : ∀ c ∈ front, p c = true)
    (ends : Ends p rest) : (front ++ rest).dropWhile p = rest := by
  rw [List.dropWhile_append_of_pos all]
  cases rest with
  | nil => rfl
  | cons c rest =>
      have stop := ends c (by simp)
      simp [stop]

theorem ends_dropWhile (p : Char → Bool) (text : List Char) : Ends p (text.dropWhile p) := by
  intro c first
  induction text with
  | nil => simp at first
  | cons d text ih =>
      rw [List.dropWhile_cons] at first
      split at first
      · exact ih first
      · rename_i stop
        simp only [List.head?_cons, Option.mem_def, Option.some.injEq] at first
        rw [← first]
        exact Bool.eq_false_iff.mpr stop

theorem drop_length_takeWhile (p : Char → Bool) (text : List Char) :
    text.drop (text.takeWhile p).length = text.dropWhile p := by
  induction text with
  | nil => rfl
  | cons c text ih =>
      rw [List.takeWhile_cons, List.dropWhile_cons]
      split
      · exact ih
      · rfl

theorem Ends.append {front rest : List Char} (nonempty : front ≠ []) (ends : Ends p front) :
    Ends p (front ++ rest) := by
  intro c first
  cases front with
  | nil => exact absurd rfl nonempty
  | cons d front => exact ends c (by simpa using first)

theorem ends_of_forall {text : List Char} (none : ∀ c ∈ text, p c = false) : Ends p text := by
  intro c first
  exact none c (List.mem_of_mem_head? first)

end Pieces

/-- A digit is neither white space nor a sign. -/
theorem digit_cases {c : Char} (digit : c.isDigit = true) :
    isSpace c = false ∧ c ≠ '-' ∧ c ≠ '+' := by
  refine ⟨?_, ?_, ?_⟩
  · rw [← Bool.not_eq_true]
    intro space
    simp only [isSpace, Bool.or_eq_true, beq_iff_eq] at space
    rcases space with ((((rfl | rfl) | rfl) | rfl) | rfl) | rfl
    all_goals exact absurd digit (by decide)
  · rintro rfl
    exact absurd digit (by decide)
  · rintro rfl
    exact absurd digit (by decide)

/-! ## One conversion -/

theorem splitSign_append {sign digits : List Char} (numeral : Numeral sign digits)
    (rest : List Char) : splitSign (sign ++ (digits ++ rest)) = (sign, digits ++ rest) := by
  rcases numeral.sign with rfl | rfl | rfl
  · cases digits with
    | nil => exact absurd rfl numeral.nonempty
    | cons d digits =>
        rcases digit_cases (numeral.digits d List.mem_cons_self) with ⟨-, notMinus, notPlus⟩
        simp only [List.nil_append, List.cons_append]
        rw [splitSign]
        · intro rest same
          exact notMinus (List.cons.inj same).1
        · intro rest same
          exact notPlus (List.cons.inj same).1
  · rfl
  · rfl

theorem splitSign_eq (text : List Char) :
    ((splitSign text).1 = [] ∨ (splitSign text).1 = ['+'] ∨ (splitSign text).1 = ['-']) ∧
      (splitSign text).1 ++ (splitSign text).2 = text := by
  unfold splitSign
  split
  · exact ⟨Or.inr (Or.inr rfl), rfl⟩
  · exact ⟨Or.inr (Or.inl rfl), rfl⟩
  · exact ⟨Or.inl rfl, rfl⟩

theorem Numeral.ends_space {sign digits : List Char} (numeral : Numeral sign digits)
    (rest : List Char) : Ends isSpace (sign ++ (digits ++ rest)) := by
  intro c first
  rcases numeral.sign with rfl | rfl | rfl
  · cases digits with
    | nil => exact absurd rfl numeral.nonempty
    | cons d digits =>
        simp only [List.nil_append, List.cons_append, List.head?_cons, Option.mem_def,
          Option.some.injEq] at first
        rw [← first]
        exact (digit_cases (numeral.digits d List.mem_cons_self)).1
  · simp only [List.cons_append, List.head?_cons, Option.mem_def, Option.some.injEq] at first
    rw [← first]
    rfl
  · simp only [List.cons_append, List.head?_cons, Option.mem_def, Option.some.injEq] at first
    rw [← first]
    rfl

theorem readNumber_append {gap sign digits rest : List Char} (blank : Blank gap)
    (numeral : Numeral sign digits) (ends : Ends Char.isDigit rest) :
    readNumber (gap ++ (sign ++ (digits ++ rest))) = some (strtoul sign digits, rest) := by
  simp only [readNumber]
  rw [dropWhile_append_of_ends blank (numeral.ends_space rest), splitSign_append numeral]
  rw [takeWhile_append_of_ends numeral.digits ends, dropWhile_append_of_ends numeral.digits ends,
    if_neg numeral.nonempty]

/-- What an unsigned conversion reads is white space and a numeral, up to where the digits end. -/
theorem readNumber_eq_some {text rest : List Char} {v : Nat}
    (read : readNumber text = some (v, rest)) :
    ∃ gap sign digits, text = gap ++ (sign ++ (digits ++ rest)) ∧ Blank gap ∧
      Numeral sign digits ∧ Ends Char.isDigit rest ∧ v = strtoul sign digits := by
  simp only [readNumber] at read
  rcases splitSign_eq (text.dropWhile isSpace) with ⟨signs, split⟩
  split at read
  · cases read
  rename_i nonempty
  simp only [Option.some.injEq, Prod.mk.injEq] at read
  rcases read with ⟨rfl, rfl⟩
  refine ⟨text.takeWhile isSpace, _, _, ?_,
    fun _ => List.mem_takeWhile_imp, ⟨signs, nonempty, fun _ => List.mem_takeWhile_imp⟩,
    ends_dropWhile _ _, rfl⟩
  rw [List.takeWhile_append_dropWhile, split, List.takeWhile_append_dropWhile]

theorem readWord_append {width : Nat} {gap text rest : List Char} (blank : Blank gap)
    (nonempty : text ≠ []) (unspaced : ∀ c ∈ text, isSpace c = false)
    (fits : text.length ≤ width)
    (ends : text.length = width ∨ Ends (fun c => !isSpace c) rest) :
    readWord width (gap ++ (text ++ rest)) = some (text, rest) := by
  have all : ∀ c ∈ text, (!isSpace c) = true := by
    intro c listed
    simp [unspaced c listed]
  simp only [readWord]
  rw [dropWhile_append_of_ends blank ((ends_of_forall unspaced).append nonempty)]
  have taken : ((text ++ rest).takeWhile fun c => !isSpace c).take width = text := by
    rcases ends with full | ends
    · rw [List.takeWhile_append_of_pos all, List.take_append_of_le_length (Nat.le_of_eq full.symm),
        List.take_of_length_le fits]
    · rw [takeWhile_append_of_ends all ends, List.take_of_length_le fits]
  rw [taken, if_neg nonempty, List.drop_left]

/-- What `%s` reads is white space and a word, up to its width or to where the word ends. -/
theorem readWord_eq_some {width : Nat} {text word rest : List Char}
    (read : readWord width text = some (word, rest)) :
    ∃ gap, text = gap ++ (word ++ rest) ∧ Blank gap ∧ word ≠ [] ∧
      (∀ c ∈ word, isSpace c = false) ∧ word.length ≤ width ∧
      (word.length = width ∨ Ends (fun c => !isSpace c) rest) := by
  simp only [readWord] at read
  split at read
  · cases read
  rename_i nonempty
  simp only [Option.some.injEq, Prod.mk.injEq] at read
  rcases read with ⟨rfl, rfl⟩
  have pre : ((text.dropWhile isSpace).takeWhile fun c => !isSpace c).take width <+:
      text.dropWhile isSpace :=
    (List.take_prefix _ _).trans (List.takeWhile_prefix _)
  refine ⟨text.takeWhile isSpace, ?_, fun _ => List.mem_takeWhile_imp, nonempty, ?_,
    List.length_take_le _ _, ?_⟩
  · rw [List.prefix_iff_eq_append.mp pre, List.takeWhile_append_dropWhile]
  · intro c listed
    simpa using List.mem_takeWhile_imp (List.mem_of_mem_take listed)
  · by_cases short : ((text.dropWhile isSpace).takeWhile fun c => !isSpace c).length ≤ width
    · right
      rw [List.take_of_length_le short, drop_length_takeWhile]
      exact ends_dropWhile _ _
    · left
      rw [List.length_take]
      omega

theorem readLiteral_append (literal rest : List Char) :
    readLiteral literal (literal ++ rest) = some rest := by
  induction literal with
  | nil => rfl
  | cons c literal ih => simpa [readLiteral] using ih

theorem readLiteral_eq_some {literal text rest : List Char}
    (read : readLiteral literal text = some rest) : text = literal ++ rest := by
  induction literal generalizing text with
  | nil =>
      simp only [readLiteral, Option.some.injEq] at read
      rw [read, List.nil_append]
  | cons c literal ih =>
      cases text with
      | nil => simp [readLiteral] at read
      | cons d text =>
          rw [readLiteral] at read
          split at read
          · rename_i same
            rw [same, ih read, List.cons_append]
          · cases read

/-! ## The two views agree -/

/-- The directive assigns a value. -/
def Directive.assigns : Directive → Bool
  | .space | .literal _ => false
  | .byte | .short | .uint | .word _ => true

/-- A format that does not go on after its last conversion; the count of assigned values then
tells whether all of it was met. -/
def Closed (format : List Directive) : Prop :=
  ∀ directive ∈ format.getLast?, directive.assigns = true

theorem read_of_store {directive : Directive} {value : Value} {v : Nat}
    (stored : directive.store v = some value) {text rest : List Char}
    (read : readNumber text = some (v, rest)) :
    directive.read text = some (some value, rest) := by
  cases directive
  all_goals
    simp [Directive.store] at stored
  all_goals simp [Directive.read, read, stored]

/-- A text that spells the values is read as these values. -/
theorem Spells.scan_eq {format : List Directive} {values : List Value} {text : List Char}
    (spelled : Spells format values text) : scan format text = values := by
  induction spelled with
  | done rest => rfl
  | space blank ends spelled ih =>
      rw [scan, Directive.read, dropWhile_append_of_ends blank ends]
      exact ih
  | literal text spelled ih =>
      rw [scan, Directive.read, readLiteral_append]
      exact ih
  | number blank numeral ends stored spelled ih =>
      rw [scan, read_of_store stored (readNumber_append blank numeral ends)]
      exact congrArg _ ih
  | word blank nonempty unspaced fits ends spelled ih =>
      rw [scan, Directive.read, readWord_append blank nonempty unspaced fits ends]
      exact congrArg _ ih

/-- What is spelled under a format that begins with a literal begins with it. -/
theorem Spells.after_literal {literal : List Char} {format : List Directive}
    {values : List Value} {text : List Char}
    (spelled : Spells (.literal literal :: format) values text) :
    ∃ rest, text = literal ++ rest ∧ Spells format values rest := by
  cases spelled with
  | literal _ spelled => exact ⟨_, rfl, spelled⟩
  | number _ _ _ stored _ => cases stored

theorem Spells.length_eq {format : List Directive} {values : List Value} {text : List Char}
    (spelled : Spells format values text) :
    values.length = format.countP Directive.assigns := by
  induction spelled with
  | done rest => rfl
  | space blank ends spelled ih => simpa [Directive.assigns] using ih
  | literal text spelled ih => simpa [Directive.assigns] using ih
  | @number _ _ directive _ _ _ _ _ blank numeral ends stored spelled ih =>
      have assigns : directive.assigns = true := by
        cases directive
        all_goals simp [Directive.store] at stored
        all_goals rfl
      rw [List.countP_cons_of_pos assigns, List.length_cons, ih]
  | word blank nonempty unspaced fits ends spelled ih =>
      rw [List.countP_cons_of_pos rfl, List.length_cons, ih]

theorem Closed.tail {directive : Directive} {format : List Directive}
    (closed : Closed (directive :: format)) : Closed format := by
  cases format with
  | nil => simp [Closed]
  | cons next format => exact closed

theorem Closed.assigns_some {directive : Directive} {format : List Directive}
    (closed : Closed (directive :: format)) :
    0 < (directive :: format).countP Directive.assigns := by
  rw [List.countP_pos_iff]
  have nonempty : directive :: format ≠ [] := List.cons_ne_nil _ _
  exact ⟨_, List.getLast_mem nonempty, closed _ (List.getLast?_eq_some_getLast nonempty)⟩

theorem read_assigns {directive : Directive} {assigned : Option Value} {text rest : List Char}
    (read : directive.read text = some (assigned, rest)) :
    directive.assigns = assigned.isSome := by
  cases directive with
  | space =>
      simp only [Directive.read, Option.some.injEq, Prod.mk.injEq] at read
      rw [← read.1]
      rfl
  | literal | byte | short | uint | word =>
      simp only [Directive.read, Option.map_eq_some_iff, Prod.mk.injEq] at read
      rcases read with ⟨_, -, rfl, -⟩
      rfl

/-- Where a directive has been met, the text is spelled as the directive wants it. -/
theorem Spells.of_read {directive : Directive} {format : List Directive} {values : List Value}
    {assigned : Option Value} {text rest : List Char}
    (read : directive.read text = some (assigned, rest))
    (spelled : Spells format values rest) :
    Spells (directive :: format) (assigned.toList ++ values) text := by
  have numeric : ∀ {v : Nat} {value : Value}, readNumber text = some (v, rest) →
      directive.store v = some value → Spells (directive :: format) (value :: values) text := by
    intro v value taken stored
    rcases readNumber_eq_some taken with ⟨gap, sign, digits, rfl, blank, numeral, ends, rfl⟩
    exact .number blank numeral ends stored spelled
  cases directive with
  | space =>
      simp only [Directive.read, Option.some.injEq, Prod.mk.injEq] at read
      rcases read with ⟨rfl, rfl⟩
      rw [← List.takeWhile_append_dropWhile (p := isSpace) (l := text)]
      exact .space (fun _ => List.mem_takeWhile_imp) (ends_dropWhile _ _) spelled
  | literal expected =>
      simp only [Directive.read, Option.map_eq_some_iff, Prod.mk.injEq] at read
      rcases read with ⟨_, taken, rfl, rfl⟩
      rw [readLiteral_eq_some taken]
      exact .literal expected spelled
  | byte =>
      simp only [Directive.read, Option.map_eq_some_iff, Prod.mk.injEq] at read
      rcases read with ⟨⟨v, _⟩, taken, rfl, rfl⟩
      exact numeric taken rfl
  | short =>
      simp only [Directive.read, Option.map_eq_some_iff, Prod.mk.injEq] at read
      rcases read with ⟨⟨v, _⟩, taken, rfl, rfl⟩
      exact numeric taken rfl
  | uint =>
      simp only [Directive.read, Option.map_eq_some_iff, Prod.mk.injEq] at read
      rcases read with ⟨⟨v, _⟩, taken, rfl, rfl⟩
      exact numeric taken rfl
  | word width =>
      simp only [Directive.read, Option.map_eq_some_iff, Prod.mk.injEq] at read
      rcases read with ⟨⟨item, _⟩, taken, rfl, rfl⟩
      rcases readWord_eq_some taken with ⟨gap, rfl, blank, nonempty, unspaced, fits, ends⟩
      exact .word blank nonempty unspaced fits ends spelled

/-- A text of which every value has been assigned spells the values that it was read as. -/
theorem Spells.of_scan {format : List Directive} {values : List Value} {text : List Char}
    (closed : Closed format) (scanned : scan format text = values)
    (all : values.length = format.countP Directive.assigns) : Spells format values text := by
  induction format generalizing values text with
  | nil =>
      obtain rfl : values = [] := List.eq_nil_of_length_eq_zero all
      exact .done text
  | cons directive format ih =>
      rw [scan] at scanned
      rcases read : directive.read text with _ | ⟨assigned, rest⟩
      · rw [read] at scanned
        obtain rfl : values = [] := scanned.symm
        exact absurd all (Nat.ne_of_lt closed.assigns_some)
      · have assigns := read_assigns read
        rw [read] at scanned
        cases assigned with
        | none =>
            rw [List.countP_cons_of_neg (by simp [assigns])] at all
            exact .of_read read (ih closed.tail scanned all)
        | some value =>
            obtain rfl : value :: scan format rest = values := scanned
            rw [List.countP_cons_of_pos assigns, List.length_cons] at all
            exact .of_read read (ih closed.tail rfl (Nat.succ.inj all))

/-- Under a closed format, all values are assigned exactly if the text spells them. -/
theorem scan_eq_iff_spells {format : List Directive} {values : List Value} {text : List Char}
    (closed : Closed format) (all : values.length = format.countP Directive.assigns) :
    scan format text = values ↔ Spells format values text :=
  ⟨fun scanned => .of_scan closed scanned all, Spells.scan_eq⟩

end Scan
