import Loxbudget.Lib.Printing
import Loxbudget.Model.Adapters

/-!
# Lines of the log

`microlog` gets one line for a decision, composed in a buffer of 128 characters by appending
pieces that are cut off where the buffer ends. None ever is: the line is the one that a format
prints, and scanning it under the format gives the op and the three enumerators back.
-/

namespace Loxbudget

open Scan

variable {v : UInt32} {buf s : List Char}

/-! ## Numbers -/

theorem utoaDigits_reverse {room : Nat} (v_ne : v ≠ 0) (small : v.toNat < 10 ^ room) :
    (utoaDigits room v).reverse = Nat.toDigits 10 v.toNat := by
  induction room generalizing v with
  | zero =>
      have zero : v.toNat = 0 := by simpa using small
      exact absurd (UInt32.toNat_inj.mp zero) v_ne
  | succ room ih =>
      have quotient : (v / 10).toNat = v.toNat / 10 := by simp
      have remainder : (v % 10).toNat = v.toNat % 10 := by simp
      rw [utoaDigits, if_neg v_ne, List.reverse_cons, remainder]
      by_cases last : v.toNat < 10
      · have done : v / 10 = 0 := by
          apply UInt32.toNat_inj.mp
          rw [quotient, Nat.div_eq_of_lt last]
          rfl
        have stop : utoaDigits room (v / 10) = [] := by
          rw [done]
          cases room <;> rfl
        rw [stop, Nat.toDigits_of_lt_base last, Nat.mod_eq_of_lt last]
        rfl
      · have more : v / 10 ≠ 0 := by
          intro none
          have zero := congrArg UInt32.toNat none
          rw [quotient] at zero
          have := Nat.div_eq_zero_iff.mp zero
          omega
        have fewer : (v / 10).toNat < 10 ^ room := by
          rw [quotient]
          exact Nat.div_lt_of_lt_mul (by rw [Nat.pow_succ] at small; omega)
        rw [ih more fewer, quotient, ← Nat.toDigits_of_base_le (by decide) (Nat.not_lt.mp last)]

/-- `lb__utoa_` writes the decimal digits, as many of them as there is room for. -/
theorem utoa_eq {cap : Nat} (positive : 0 < cap) :
    utoa cap v = some ((Nat.toDigits 10 v.toNat).take (cap - 1)) := by
  rw [utoa, if_neg (Nat.ne_of_gt positive)]
  split
  · rename_i zero
    subst zero
    split
    · rename_i roomy
      rw [List.take_of_length_le]
      · rfl
      · exact Nat.le_sub_of_add_le roomy
    · rename_i tight
      have one : cap - 1 = 0 := by omega
      rw [one, List.take_zero]
  · rename_i v_ne
    rw [utoaDigits_reverse v_ne (Nat.lt_trans v.toNat_lt (by decide))]

theorem toDigits_length (v : UInt32) : (Nat.toDigits 10 v.toNat).length ≤ 10 :=
  (Nat.length_toDigits_le_iff (by decide) (by decide)).mpr (Nat.lt_trans v.toNat_lt (by decide))

/-- The buffer for a number has room for every number. -/
theorem utoa_num (v : UInt32) : (utoa 16 v).getD [] = Nat.toDigits 10 v.toNat := by
  rw [utoa_eq (by decide), Option.getD_some, List.take_of_length_le]
  exact (toDigits_length v).trans (by decide)

/-! ## Messages -/

theorem append_eq {cap : Nat} (fits : buf.length + s.length < cap) :
    append cap buf s = buf ++ s := by
  rw [append]
  split
  · have none : s = [] := by
      apply List.eq_nil_of_length_eq_zero
      omega
    rw [none, List.append_nil]
  · rw [List.take_of_length_le (by omega)]

/-- Pieces that fit into the buffer together are appended whole. -/
theorem foldl_append_eq {cap : Nat} {pieces : List (List Char)}
    (fits : (buf ++ pieces.flatten).length < cap) :
    pieces.foldl (append cap) buf = buf ++ pieces.flatten := by
  induction pieces generalizing buf with
  | nil => simp
  | cons piece pieces ih =>
      rw [List.flatten_cons, ← List.append_assoc] at fits ⊢
      have first : buf.length + piece.length < cap := by
        rw [List.length_append, List.length_append] at fits
        omega
      rw [List.foldl_cons, append_eq first]
      exact ih fits

/-- The pieces of a message. -/
def messagePieces (d : Decision) (op : OpId) : List (List Char) :=
  ["loxbudget op=".toList, Nat.toDigits 10 op.toNat, " action=".toList,
    Nat.toDigits 10 d.action.raw.toNat, " pressure=".toList, Nat.toDigits 10 d.pressure.raw.toNat,
    " reason=".toList, Nat.toDigits 10 d.reason.raw.toNat]

/-- `"loxbudget op=%hhu action=%u pressure=%u reason=%u"` -/
def messageFormat : List Directive :=
  [.literal "loxbudget".toList, .space, .literal "op=".toList, .byte,
    .space, .literal "action=".toList, .uint, .space, .literal "pressure=".toList, .uint,
    .space, .literal "reason=".toList, .uint]

/-- What a message says of a decision. -/
def messageValues (d : Decision) (op : OpId) : List Value :=
  [.byte op, .uint d.action.raw, .uint d.pressure.raw, .uint d.reason.raw]

theorem message_printable (d : Decision) (op : OpId) :
    Printable messageFormat (messageValues d op) := by
  have named {text : List Char} (visible : Visible text) {directive : Directive} {value : Value}
      {format : List Directive} {values : List Value} (fits : Fits directive value)
      (separated : format = [] ∨ format.head? = some .space)
      (printable : Printable format values) :
      Printable (.space :: .literal text :: directive :: format) (value :: values) :=
    .space (visible.append _) (.literal visible (.conversion fits separated printable))
  exact .literal ⟨'l', rfl, rfl⟩ (named ⟨'o', rfl, rfl⟩ (.byte _) (Or.inr rfl)
    (named ⟨'a', rfl, rfl⟩ (.uint _) (Or.inr rfl)
      (named ⟨'p', rfl, rfl⟩ (.uint _) (Or.inr rfl)
        (named ⟨'r', rfl, rfl⟩ (.uint _) (Or.inl rfl) .done))))

theorem message_length (d : Decision) (op : OpId) :
    (print messageFormat (messageValues d op)).length < 128 :=
  Nat.lt_of_le_of_lt (message_printable d op).length_le (by decide)

/-- Nothing is cut off. -/
theorem micrologMessage_eq (d : Decision) (op : OpId) :
    micrologMessage d op = print messageFormat (messageValues d op) := by
  have pieces : print messageFormat (messageValues d op) = (messagePieces d op).flatten := by
    simp [messageFormat, messageValues, messagePieces, print, Value.text]
  have composed : micrologMessage d op = (messagePieces d op).foldl (append 128) [] := by
    simp only [micrologMessage, utoa_num, messagePieces, UInt8.toNat_toUInt32, List.foldl_cons,
      List.foldl_nil]
  have short := message_length d op
  rw [pieces] at short ⊢
  have whole : ([] ++ (messagePieces d op).flatten).length < 128 := short
  rw [composed, foldl_append_eq whole, List.nil_append]

theorem scan_micrologMessage (d : Decision) (op : OpId) :
    scan messageFormat (micrologMessage d op) = messageValues d op := by
  rw [micrologMessage_eq]
  exact scan_print (message_printable d op)

/-- Every line of the log fits into its buffer, and scanning it gives the op and the values of the
action, the pressure and the reason back. -/
theorem micrologMessage_reads_back (d : Decision) (op : OpId) :
    scan messageFormat (micrologMessage d op) =
        [.byte op, .uint d.action.raw, .uint d.pressure.raw, .uint d.reason.raw] ∧
      (micrologMessage d op).length < 128 := by
  refine ⟨scan_micrologMessage d op, ?_⟩
  rw [micrologMessage_eq]
  exact message_length d op

end Loxbudget
