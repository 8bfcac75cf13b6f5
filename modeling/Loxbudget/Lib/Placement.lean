import Mathlib.Algebra.Order.Group.Nat
import Mathlib.Algebra.BigOperators.Group.List.Basic
import Mathlib.Algebra.Ring.Nat

/-!
# Placing tables one after the other

Tables of given sizes are placed in a block of memory in order, each at the first
aligned offset behind the one before it. They come out aligned and disjoint and end
where the placement ends, and a table whose size is a multiple of the alignment is
followed by no padding.
-/

namespace Placement

/-- The first multiple of the alignment that is not below a number. -/
def roundUp (align n : Nat) : Nat :=
  (n + (align - 1)) / align * align

/-- An offset and a number of bytes. -/
structure Region where
  offset : Nat
  size : Nat
  deriving DecidableEq, Repr

/-- The offset behind the last byte. -/
def Region.finish (region : Region) : Nat :=
  region.offset + region.size

/-- The tables of the given sizes, the first of them at `off`. -/
def place (align off : Nat) : List Nat → List Region
  | [] => []
  | size :: rest => ⟨off, size⟩ :: place align (roundUp align (off + size)) rest

/-- The offset at which the placement ends. -/
def finish (align off : Nat) : List Nat → Nat
  | [] => off
  | size :: rest => finish align (roundUp align (off + size)) rest

variable {align off n : Nat} {sizes : List Nat}

/-! ## Rounding up -/

theorem dvd_roundUp (align n : Nat) : align ∣ roundUp align n :=
  Nat.dvd_mul_left _ _

theorem le_roundUp (positive : 0 < align) (n : Nat) : n ≤ roundUp align n := by
  have split := Nat.div_add_mod (n + (align - 1)) align
  have below := Nat.mod_lt (n + (align - 1)) positive
  rw [Nat.mul_comm] at split
  simp only [roundUp]
  omega

theorem roundUp_le (align n : Nat) : roundUp align n ≤ n + (align - 1) :=
  Nat.div_mul_le_self _ _

theorem roundUp_of_dvd (positive : 0 < align) (aligned : align ∣ n) : roundUp align n = n := by
  rcases aligned with ⟨count, rfl⟩
  rw [roundUp, Nat.mul_add_div positive, Nat.div_eq_of_lt (Nat.sub_lt positive Nat.one_pos),
    Nat.add_zero, Nat.mul_comm]

/-! ## Placing -/

theorem place_append (align off : Nat) (sizes sizes' : List Nat) :
    place align off (sizes ++ sizes') =
      place align off sizes ++ place align (finish align off sizes) sizes' := by
  induction sizes generalizing off with
  | nil => rfl
  | cons size sizes ih => simp only [List.cons_append, place, finish, ih]

theorem finish_append (align off : Nat) (sizes sizes' : List Nat) :
    finish align off (sizes ++ sizes') = finish align (finish align off sizes) sizes' := by
  induction sizes generalizing off with
  | nil => rfl
  | cons size sizes ih => simp only [List.cons_append, finish, ih]

theorem le_finish (positive : 0 < align) (off : Nat) (sizes : List Nat) :
    off ≤ finish align off sizes := by
  induction sizes generalizing off with
  | nil => exact Nat.le_refl _
  | cons size sizes ih =>
      calc
        off ≤ off + size := Nat.le_add_right _ _
        _ ≤ roundUp align (off + size) := le_roundUp positive _
        _ ≤ finish align (roundUp align (off + size)) sizes := ih _

theorem finish_front_le (positive : 0 < align) {front : List Nat} (begins : front <+: sizes) :
    finish align off front ≤ finish align off sizes := by
  rcases begins with ⟨rest, rfl⟩
  rw [finish_append]
  exact le_finish positive _ _

/-- Every table lies between the first offset and the end. -/
theorem place_within (positive : 0 < align) {region : Region}
    (placed : region ∈ place align off sizes) :
    off ≤ region.offset ∧ region.finish ≤ finish align off sizes := by
  induction sizes generalizing off with
  | nil => exact absurd placed List.not_mem_nil
  | cons size sizes ih =>
      have next := le_roundUp positive (off + size)
      rcases List.mem_cons.mp placed with rfl | later
      · exact ⟨Nat.le_refl _, next.trans (le_finish positive _ _)⟩
      · rcases ih later with ⟨lower, upper⟩
        exact ⟨(Nat.le_add_right _ _).trans (next.trans lower), upper⟩

theorem place_aligned (aligned : align ∣ off) {region : Region}
    (placed : region ∈ place align off sizes) : align ∣ region.offset := by
  induction sizes generalizing off with
  | nil => exact absurd placed List.not_mem_nil
  | cons size sizes ih =>
      rcases List.mem_cons.mp placed with rfl | later
      · exact aligned
      · exact ih (dvd_roundUp _ _) later

/-- Every table ends before the ones behind it begin. -/
theorem place_disjoint (positive : 0 < align) (off : Nat) (sizes : List Nat) :
    (place align off sizes).Pairwise fun region later => region.finish ≤ later.offset := by
  induction sizes generalizing off with
  | nil => exact .nil
  | cons size sizes ih =>
      refine .cons (fun later placed => ?_) (ih _)
      exact (le_roundUp positive (off + size)).trans (place_within positive placed).1

/-- Tables whose sizes are multiples of the alignment leave no gaps. -/
theorem finish_of_dvd (positive : 0 < align) (aligned : align ∣ off)
    (whole : ∀ size ∈ sizes, align ∣ size) : finish align off sizes = off + sizes.sum := by
  induction sizes generalizing off with
  | nil => rfl
  | cons size sizes ih =>
      have next : align ∣ off + size := Nat.dvd_add aligned (whole size List.mem_cons_self)
      rw [finish, roundUp_of_dvd positive next,
        ih next fun other listed => whole other (List.mem_cons_of_mem _ listed), List.sum_cons,
        Nat.add_assoc]

/-- The last of such tables ends where the placement ends. -/
theorem place_getLast (positive : 0 < align) (aligned : align ∣ off)
    (whole : ∀ size ∈ sizes, align ∣ size) {region : Region}
    (last : (place align off sizes).getLast? = some region) :
    region.finish = finish align off sizes := by
  induction sizes generalizing off with
  | nil => simp [place] at last
  | cons size sizes ih =>
      have next : align ∣ off + size := Nat.dvd_add aligned (whole size List.mem_cons_self)
      have wholeRest : ∀ other ∈ sizes, align ∣ other :=
        fun other listed => whole other (List.mem_cons_of_mem _ listed)
      rw [finish]
      rw [roundUp_of_dvd positive next]
      rw [place, roundUp_of_dvd positive next] at last
      cases sizes with
      | nil =>
          obtain rfl := Option.some.inj last
          rfl
      | cons size' sizes => exact ih next wholeRest last

end Placement
