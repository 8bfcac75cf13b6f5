import Loxbudget.Lib.Scan
import Mathlib.Data.List.Basic

/-!
# Formatted output

`print` writes values under a format of `scan`: one space for white space, literals as they are,
numbers in decimal without a sign. Where the format separates its conversions and the words fit
into theirs, the text is scanned as the values that were written, whatever is scanned after them.
-/

namespace Scan

/-- The text that a conversion is given to read the value. -/
def Value.text : Value → List Char
  | .byte v => Nat.toDigits 10 v.toNat
  | .short v => Nat.toDigits 10 v.toNat
  | .uint v => Nat.toDigits 10 v.toNat
  | .word text => text

/-- Writes the values under the format. -/
def print : List Directive → List Value → List Char
  | [], _ => []
  | .space :: format, values => ' ' :: print format values
  | .literal text :: format, values => text ++ print format values
  | _ :: format, value :: values => value.text ++ print format values
  | _ :: _, [] => []

/-- A text that a conversion stops at, whatever it reads. -/
def Stops (text : List Char) : Prop :=
  ∀ c ∈ text.head?, c = ' '

/-- The conversion reads the value back from its text. -/
inductive Fits : Directive → Value → Prop
  | byte (v : UInt8) : Fits .byte (.byte v)
  | short (v : UInt16) : Fits .short (.short v)
  | uint (v : UInt32) : Fits .uint (.uint v)
  | word {width : Nat} {text : List Char} (nonempty : text ≠ [])
      (unspaced : ∀ c ∈ text, isSpace c = false) (fits : text.length ≤ width) :
      Fits (.word width) (.word text)

/-- A text that neither is empty nor begins with white space. -/
def Visible (text : List Char) : Prop :=
  ∃ c ∈ text.head?, isSpace c = false

/-- The values can be written under the format: each fits its conversion, what is skipped as white
space ends before something visible, and a conversion is last or has a space after it. -/
inductive Printable : List Directive → List Value → Prop
  | done : Printable [] []
  | space {format : List Directive} {values : List Value}
      (visible : Visible (print format values)) (printable : Printable format values) :
      Printable (.space :: format) values
  | literal {text : List Char} {format : List Directive} {values : List Value}
      (visible : Visible text) (printable : Printable format values) :
      Printable (.literal text :: format) values
  | conversion {directive : Directive} {value : Value} {format : List Directive}
      {values : List Value} (fits : Fits directive value)
      (separated : format = [] ∨ format.head? = some .space)
      (printable : Printable format values) :
      Printable (directive :: format) (value :: values)

variable {directive : Directive} {value : Value} {format : List Directive} {values : List Value}
  {text rest : List Char}

/-! ## One value -/

theorem numeral_toDigits (n : Nat) : Numeral [] (Nat.toDigits 10 n) where
  sign := Or.inl rfl
  nonempty := Nat.toDigits_ne_nil
  digits _ digit := Nat.isDigit_of_mem_toDigits (by decide) (by decide) digit

theorem strtoul_toDigits {n : Nat} (small : n < 2 ^ 64) :
    strtoul [] (Nat.toDigits 10 n) = n := by
  simp only [strtoul, Nat.ofDigitChars_ten_toDigits]
  rw [if_neg (Nat.not_le.mpr small), if_neg (by decide)]

theorem Stops.ends (stops : Stops text) {kind : Char → Bool} (space : kind ' ' = false) :
    Ends kind text := by
  intro c first
  rw [stops c first]
  exact space

theorem readNumber_toDigits {n : Nat} (small : n < 2 ^ 64) (stops : Stops rest) :
    readNumber (Nat.toDigits 10 n ++ rest) = some (n, rest) := by
  have blank : Blank [] := by
    intro c listed
    cases listed
  have read := readNumber_append blank (numeral_toDigits n) (stops.ends (by decide))
  rw [strtoul_toDigits small] at read
  exact read

theorem Fits.read (fits : Fits directive value) (stops : Stops rest) :
    directive.read (value.text ++ rest) = some (some value, rest) := by
  cases fits with
  | byte v =>
      have small := v.toNat_lt
      simp only [Directive.read, Value.text, readNumber_toDigits (Nat.lt_trans small (by decide))
        stops, Option.map_some, UInt8.ofNat_toNat]
  | short v =>
      have small := v.toNat_lt
      simp only [Directive.read, Value.text, readNumber_toDigits (Nat.lt_trans small (by decide))
        stops, Option.map_some, UInt16.ofNat_toNat]
  | uint v =>
      have small := v.toNat_lt
      simp only [Directive.read, Value.text, readNumber_toDigits (Nat.lt_trans small (by decide))
        stops, Option.map_some, UInt32.ofNat_toNat]
  | word nonempty unspaced fits =>
      have blank : Blank [] := by
        intro c listed
        cases listed
      have read := readWord_append blank nonempty unspaced fits (Or.inr (stops.ends (by decide)))
      rw [List.nil_append] at read
      simp only [Directive.read, Value.text, read, Option.map_some]

/-- No white space is written for a value. -/
theorem Fits.unspaced (fits : Fits directive value) :
    value.text ≠ [] ∧ ∀ c ∈ value.text, isSpace c = false := by
  have numeric (n : Nat) : Nat.toDigits 10 n ≠ [] ∧
      ∀ c ∈ Nat.toDigits 10 n, isSpace c = false := by
    refine ⟨Nat.toDigits_ne_nil, fun c listed => ?_⟩
    exact (digit_cases ((numeral_toDigits n).digits c listed)).1
  cases fits with
  | byte v => exact numeric _
  | short v => exact numeric _
  | uint v => exact numeric _
  | word nonempty unspaced _ => exact ⟨nonempty, unspaced⟩

@[simp]
theorem Fits.print_cons (fits : Fits directive value) :
    print (directive :: format) (value :: values) = value.text ++ print format values := by
  cases fits <;> rfl

/-! ## All values -/

theorem Visible.append (visible : Visible text) (rest : List Char) : Visible (text ++ rest) := by
  rcases visible with ⟨c, first, unspaced⟩
  refine ⟨c, ?_, unspaced⟩
  cases text with
  | nil => cases first
  | cons d text => exact first

theorem Visible.ends (visible : Visible text) : Ends isSpace text := by
  rcases visible with ⟨c, first, unspaced⟩
  intro d first'
  rw [first] at first'
  obtain rfl := Option.some.inj first'
  exact unspaced

theorem Fits.visible (fits : Fits directive value) : Visible value.text := by
  rcases List.exists_cons_of_ne_nil fits.unspaced.1 with ⟨c, text, same⟩
  refine ⟨c, ?_, ?_⟩
  · rw [same]
    rfl
  · apply fits.unspaced.2
    rw [same]
    exact List.mem_cons_self

/-- The rule for a conversion with a space before it. -/
theorem Printable.spaced (fits : Fits directive value)
    (separated : format = [] ∨ format.head? = some .space)
    (printable : Printable format values) :
    Printable (.space :: directive :: format) (value :: values) := by
  apply Printable.space
  · rw [fits.print_cons]
    exact fits.visible.append _
  · exact .conversion fits separated printable

/-- What is written is scanned as it was, and the scan goes on with the text behind it. -/
theorem scan_print_append (printable : Printable format values) (stops : Stops rest)
    (more : List Directive) :
    scan (format ++ more) (print format values ++ rest) = values ++ scan more rest := by
  induction printable with
  | done => rfl
  | @space format values visible printable ih =>
      have blank : ∀ c ∈ [' '], isSpace c = true := List.forall_mem_singleton.mpr rfl
      rw [List.cons_append, scan, Directive.read, print, List.cons_append]
      rw [← List.singleton_append, dropWhile_append_of_ends blank (visible.append rest).ends]
      exact ih
  | literal visible printable ih =>
      rw [List.cons_append, scan, Directive.read, print, List.append_assoc, readLiteral_append]
      exact ih
  | @conversion _ value format values fits separated printable ih =>
      have stops' : Stops (print format values ++ rest) := by
        rcases separated with rfl | spaced
        · exact stops
        · cases format with
          | nil => cases spaced
          | cons directive format =>
              obtain rfl := Option.some.inj spaced
              intro c first
              exact (Option.some.inj first).symm
      rw [List.cons_append, scan, fits.print_cons, List.append_assoc, fits.read stops']
      exact congrArg _ ih

theorem scan_print (printable : Printable format values) :
    scan format (print format values) = values := by
  have scanned := scan_print_append printable (by simp [Stops] : Stops []) []
  rw [List.append_nil, List.append_nil, scan, List.append_nil] at scanned
  exact scanned

/-! ## The written text -/

/-- A property of the space, the literals and the words, and of digits, is one of all characters
that are written. -/
theorem print_forall {p : Char → Prop} (space : p ' ')
    (digit : ∀ c : Char, c.isDigit = true → p c) (printable : Printable format values)
    (literals : ∀ text, .literal text ∈ format → ∀ c ∈ text, p c)
    (words : ∀ text, .word text ∈ values → ∀ c ∈ text, p c) :
    ∀ c ∈ print format values, p c := by
  induction printable with
  | done => simp [print]
  | space visible printable ih =>
      rw [print, List.forall_mem_cons]
      exact ⟨space, ih (fun text listed => literals text (List.mem_cons_of_mem _ listed)) words⟩
  | literal visible printable ih =>
      rw [print, List.forall_mem_append]
      exact ⟨literals _ List.mem_cons_self,
        ih (fun text listed => literals text (List.mem_cons_of_mem _ listed)) words⟩
  | conversion fits separated printable ih =>
      have numeric (n : Nat) : ∀ c ∈ Nat.toDigits 10 n, p c := by
        intro c listed
        exact digit c ((numeral_toDigits n).digits c listed)
      rw [fits.print_cons, List.forall_mem_append]
      refine ⟨?_, ih (fun text listed => literals text (List.mem_cons_of_mem _ listed))
        fun text listed => words text (List.mem_cons_of_mem _ listed)⟩
      cases fits with
      | byte v => exact numeric _
      | short v => exact numeric _
      | uint v => exact numeric _
      | word _ _ _ => exact words _ List.mem_cons_self

theorem Printable.print_ne_nil (printable : Printable format values) (nonempty : format ≠ []) :
    print format values ≠ [] := by
  cases printable with
  | done => exact absurd rfl nonempty
  | space visible _ => simp [print]
  | literal visible _ =>
      rcases visible with ⟨c, first, -⟩
      rw [print]
      apply List.append_ne_nil_of_left_ne_nil
      rintro rfl
      cases first
  | conversion fits _ _ =>
      rw [fits.print_cons]
      exact List.append_ne_nil_of_left_ne_nil fits.unspaced.1 _

/-- After a last conversion there is no white space. -/
theorem Printable.getLast (printable : Printable format values) (closed : Closed format) :
    ∀ c ∈ (print format values).getLast?, isSpace c = false := by
  have later {front back : List Char} (nonempty : back ≠ [])
      (last : ∀ c ∈ back.getLast?, isSpace c = false) :
      ∀ c ∈ (front ++ back).getLast?, isSpace c = false := by
    rw [List.getLast?_append_of_ne_nil _ nonempty]
    exact last
  induction printable with
  | done => simp [print]
  | @space format values visible printable ih =>
      have nonempty : format ≠ [] := by
        rintro rfl
        exact absurd (closed .space rfl) (by decide)
      rw [print, ← List.singleton_append]
      exact later (printable.print_ne_nil nonempty) (ih closed.tail)
  | @literal text format values visible printable ih =>
      have nonempty : format ≠ [] := by
        rintro rfl
        exact absurd (closed (.literal text) rfl) (by simp [Directive.assigns])
      rw [print]
      exact later (printable.print_ne_nil nonempty) (ih closed.tail)
  | @conversion _ value format values fits separated printable ih =>
      rw [fits.print_cons]
      by_cases nonempty : format = []
      · subst nonempty
        rw [print, List.append_nil]
        intro c last
        exact fits.unspaced.2 c (List.mem_of_mem_getLast? last)
      · exact later (printable.print_ne_nil nonempty) (ih closed.tail)

/-- The most characters that are written for a directive. -/
def Directive.room : Directive → Nat
  | .space => 1
  | .literal text => text.length
  | .byte => 3
  | .short => 5
  | .uint => 10
  | .word width => width

theorem Fits.text_length (fits : Fits directive value) :
    value.text.length ≤ directive.room := by
  have short {n k : Nat} (positive : 0 < k) (small : n < 10 ^ k) :
      (Nat.toDigits 10 n).length ≤ k :=
    (Nat.length_toDigits_le_iff (by decide) positive).mpr small
  cases fits with
  | byte v => exact short (by decide) (Nat.lt_trans v.toNat_lt (by decide))
  | short v => exact short (by decide) (Nat.lt_trans v.toNat_lt (by decide))
  | uint v => exact short (by decide) (Nat.lt_trans v.toNat_lt (by decide))
  | word _ _ fits => exact fits

theorem Printable.length_le (printable : Printable format values) :
    (print format values).length ≤ (format.map Directive.room).sum := by
  induction printable with
  | done => exact Nat.le_refl _
  | space visible printable ih =>
      rw [print, List.length_cons, List.map_cons, List.sum_cons, Directive.room]
      omega
  | literal visible printable ih =>
      rw [print, List.length_append, List.map_cons, List.sum_cons, Directive.room]
      omega
  | conversion fits separated printable ih =>
      have short := fits.text_length
      rw [fits.print_cons, List.length_append, List.map_cons, List.sum_cons]
      omega

end Scan
