import Mathlib.Algebra.Ring.Nat
import Mathlib.Data.List.Basic

/-!
# Little-endian fields and buffers

A record format is a list of widths. `unpack` reads the fields of a record from a list
of bytes, and `pack` is its inverse on values that fit their fields.

A writer that fills a buffer in place is described by `overwrite`. Two writes that meet
are one write of both parts (`overwrite_overwrite`): an encoder that goes through its
buffer from field to field so writes the concatenation of the fields.
-/

namespace Bytes

/-! ## Numbers -/

/-- The bytes of a number, the least significant one first. -/
def littleEndian : Nat → Nat → List UInt8
  | 0, _ => []
  | width + 1, value => UInt8.ofNat value :: littleEndian width (value / 256)

/-- The number with the given bytes. -/
def ofLittleEndian : List UInt8 → Nat
  | [] => 0
  | byte :: bytes => byte.toNat + 256 * ofLittleEndian bytes

@[simp]
theorem length_littleEndian (width value : Nat) : (littleEndian width value).length = width := by
  induction width generalizing value with
  | zero => rfl
  | succ width ih => rw [littleEndian, List.length_cons, ih]

theorem ofLittleEndian_littleEndian {width value : Nat} (fits : value < 256 ^ width) :
    ofLittleEndian (littleEndian width value) = value := by
  induction width generalizing value with
  | zero =>
      rw [Nat.pow_zero] at fits
      exact (Nat.lt_one_iff.mp fits).symm
  | succ width ih =>
      have fits' : value / 256 < 256 ^ width := by
        rw [Nat.pow_succ, Nat.mul_comm] at fits
        exact Nat.div_lt_of_lt_mul fits
      rw [littleEndian, ofLittleEndian, ih fits', UInt8.toNat_ofNat']
      exact Nat.mod_add_div value 256

/-! ## Records -/

/-- The fields of a record: their widths and values. -/
abbrev Fields := List (Nat × Nat)

/-- Every value fits into its field. -/
def Fits (fields : Fields) : Prop :=
  ∀ field ∈ fields, field.2 < 256 ^ field.1

theorem fits_nil : Fits [] := fun _ listed => absurd listed List.not_mem_nil

theorem fits_cons (field : Nat × Nat) (fields : Fields) :
    Fits (field :: fields) ↔ field.2 < 256 ^ field.1 ∧ Fits fields := List.forall_mem_cons

/-- The bytes of a record. -/
def pack (fields : Fields) : List UInt8 :=
  fields.flatMap fun field => littleEndian field.1 field.2

/-- The values of a record at the beginning of a list of bytes. -/
def unpack : List Nat → List UInt8 → Option (List Nat)
  | [], _ => some []
  | width :: widths, bytes =>
      if bytes.length < width then none
      else (unpack widths (bytes.drop width)).map (ofLittleEndian (bytes.take width) :: ·)

@[simp]
theorem pack_nil : pack [] = [] := rfl

@[simp]
theorem pack_cons (field : Nat × Nat) (fields : Fields) :
    pack (field :: fields) = littleEndian field.1 field.2 ++ pack fields := List.flatMap_cons

theorem pack_append (first second : Fields) : pack (first ++ second) = pack first ++ pack second :=
  List.flatMap_append

theorem length_pack (fields : Fields) : (pack fields).length = (fields.map Prod.fst).sum := by
  induction fields with
  | nil => rfl
  | cons field fields ih =>
      rw [pack_cons, List.length_append, length_littleEndian, ih, List.map_cons, List.sum_cons]

/-- The round trip of a record, whatever follows it. -/
theorem unpack_pack {fields : Fields} (fits : Fits fields) (rest : List UInt8) :
    unpack (fields.map Prod.fst) (pack fields ++ rest) = some (fields.map Prod.snd) := by
  induction fields with
  | nil => rfl
  | cons field fields ih =>
      have fits' : Fits fields := fun other listed => fits other (List.mem_cons_of_mem _ listed)
      have long : ¬(littleEndian field.1 field.2 ++ (pack fields ++ rest)).length < field.1 := by
        rw [List.length_append, length_littleEndian]
        omega
      have width := length_littleEndian field.1 field.2
      rw [pack_cons, List.append_assoc, List.map_cons, unpack, if_neg long,
        List.drop_left' width, List.take_left' width, ih fits',
        ofLittleEndian_littleEndian (fits field List.mem_cons_self)]
      rfl

/-- The numbers that lie one after the other, as far as there are bytes. -/
def fields : List Nat → List UInt8 → List Nat
  | [], _ => []
  | width :: widths, bytes =>
      ofLittleEndian (bytes.take width) :: fields widths (bytes.drop width)

/-- A record is read exactly if there are bytes for all its fields. -/
theorem unpack_eq (widths : List Nat) (bytes : List UInt8) :
    unpack widths bytes = if widths.sum ≤ bytes.length then some (fields widths bytes) else none := by
  induction widths generalizing bytes with
  | nil => simp [unpack, fields]
  | cons width widths ih =>
      rw [unpack, ih, List.length_drop, List.sum_cons, fields]
      by_cases short : bytes.length < width
      · rw [if_pos short, if_neg (by omega)]
      · rw [if_neg short]
        by_cases long : width + widths.sum ≤ bytes.length
        · rw [if_pos long, if_pos (by omega)]
          rfl
        · rw [if_neg long, if_neg (by omega)]
          rfl

/-! ## Buffers -/

section Buffer

variable {α : Type} {buffer : List α} {off : Nat}

/-- Values are written into a buffer at an offset. -/
def overwrite (buffer : List α) (off : Nat) (values : List α) : List α :=
  buffer.take off ++ values ++ buffer.drop (off + values.length)

@[simp]
theorem overwrite_nil (buffer : List α) (off : Nat) : overwrite buffer off [] = buffer := by
  simp [overwrite]

theorem length_overwrite {values : List α} (fits : off + values.length ≤ buffer.length) :
    (overwrite buffer off values).length = buffer.length := by
  simp only [overwrite, List.length_append, List.length_take, List.length_drop]
  omega

/-- Two writes that meet are one. -/
theorem overwrite_overwrite {first second : List α} {next : Nat} (meet : off + first.length = next)
    (fits : next ≤ buffer.length) :
    overwrite (overwrite buffer off first) next second = overwrite buffer off (first ++ second) := by
  subst meet
  have start : (buffer.take off ++ first).length = off + first.length := by
    rw [List.length_append, List.length_take, Nat.min_eq_left (by omega)]
  have head : (overwrite buffer off first).take (off + first.length) =
      buffer.take off ++ first := List.take_left' start
  have tail : (overwrite buffer off first).drop (off + first.length + second.length) =
      buffer.drop (off + (first ++ second).length) := by
    rw [overwrite, ← start, List.drop_length_add_append, start, List.drop_drop,
      List.length_append, Nat.add_assoc]
  rw [overwrite, head, tail, overwrite, List.append_assoc (buffer.take off)]

theorem set_eq_overwrite {value : α} (inside : off < buffer.length) :
    buffer.set off value = overwrite buffer off [value] := by
  rw [List.set_eq_take_append_cons_drop, if_pos inside, overwrite, List.append_assoc]
  rfl

/-- A single value that continues a write. -/
theorem set_overwrite {values : List α} {value : α} {next : Nat} (meet : off + values.length = next)
    (inside : next < buffer.length) :
    (overwrite buffer off values).set next value = overwrite buffer off (values ++ [value]) := by
  have inside' : next < (overwrite buffer off values).length := by
    rw [length_overwrite (by omega)]
    exact inside
  rw [set_eq_overwrite inside', overwrite_overwrite meet (Nat.le_of_lt inside)]

/-- What is written at the beginning of a buffer stands there, and the rest is as it was. -/
theorem overwrite_zero (buffer values : List α) :
    overwrite buffer 0 values = values ++ buffer.drop values.length := by
  rw [overwrite, List.take_zero, List.nil_append, Nat.zero_add]

end Buffer

end Bytes
