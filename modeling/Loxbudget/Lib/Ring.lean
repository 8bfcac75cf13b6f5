import Mathlib.Data.Nat.Bitwise
import Mathlib.Data.List.Basic

/-!
# A ring that keeps the newest entries

A ring of cells is written at its head, which then moves on by one; the count of
filled cells grows until it reaches the size. `Holds` relates such a ring to the
list of everything ever written to it, newest first, and `push` shows that a write
conses onto that list. Reading back from the head therefore gives a prefix of the
list, as long as the ring.

A ring whose size is a power of two computes its indices with a mask, in machine
words; the last section shows that this is the index modulo the size.
-/

namespace Ring

variable {Entry : Type*}

/-- The index of the cell that was written `age` writes before the newest one. -/
def index (size head age : Nat) : Nat :=
  (head + size - 1 - age) % size

/-- The ring holds the newest entries of a history. -/
structure Holds (cells : List Entry) (head count : Nat) (history : List Entry) : Prop where
  head_lt : head < cells.length
  count_eq : count = min history.length cells.length
  newest : ∀ age < count, cells[index cells.length head age]? = history[age]?

variable {cells history : List Entry} {head count : Nat}

theorem index_lt {size : Nat} (positive : 0 < size) (head age : Nat) : index size head age < size :=
  Nat.mod_lt _ positive

theorem index_next_zero {size head : Nat} (head_lt : head < size) :
    index size ((head + 1) % size) 0 = head := by
  by_cases last : head + 1 = size
  · have wrapped : (head + 1) % size = 0 := by
      rw [last]
      exact Nat.mod_self size
    rw [index, wrapped, Nat.mod_eq_of_lt (by omega)]
    omega
  · have moved : (head + 1) % size = head + 1 := Nat.mod_eq_of_lt (by omega)
    have back : head + 1 + size - 1 - 0 = head + size := by omega
    rw [index, moved, back, Nat.add_mod_right, Nat.mod_eq_of_lt head_lt]

/-- After a write every older cell is one write older. -/
theorem index_next_succ {size head age : Nat} (head_lt : head < size) (age_lt : age + 1 < size) :
    index size ((head + 1) % size) (age + 1) = index size head age := by
  by_cases last : head + 1 = size
  · have wrapped : (head + 1) % size = 0 := by
      rw [last]
      exact Nat.mod_self size
    have before : head + size - 1 - age = (0 + size - 1 - (age + 1)) + size := by omega
    rw [index, index, wrapped, before, Nat.add_mod_right]
  · have moved : (head + 1) % size = head + 1 := Nat.mod_eq_of_lt (by omega)
    have same : head + 1 + size - 1 - (age + 1) = head + size - 1 - age := by omega
    rw [index, index, moved, same]

/-- An older cell that is still held is not the one at the head. -/
theorem index_ne_head {size head age : Nat} (head_lt : head < size) (age_lt : age + 1 < size) :
    index size head age ≠ head := by
  by_cases early : age < head
  · have inside : head + size - 1 - age = (head - 1 - age) + size := by omega
    rw [index, inside, Nat.add_mod_right, Nat.mod_eq_of_lt (by omega)]
    omega
  · rw [index, Nat.mod_eq_of_lt (by omega)]
    omega

theorem Holds.empty {head : Nat} (head_lt : head < cells.length) : Holds cells head 0 [] where
  head_lt := head_lt
  count_eq := by simp
  newest := fun age early => absurd early (Nat.not_lt_zero age)

theorem Holds.push (held : Holds cells head count history) (entry : Entry) :
    Holds (cells.set head entry) ((head + 1) % cells.length)
      (if count < cells.length then count + 1 else count) (entry :: history) := by
  have head_lt := held.head_lt
  have count_eq := held.count_eq
  refine ⟨?_, ?_, ?_⟩
  · rw [List.length_set]
    exact Nat.mod_lt _ (by omega)
  · rw [List.length_set, List.length_cons]
    split <;> omega
  · intro age early
    rw [List.length_set]
    cases age with
    | zero =>
        rw [index_next_zero head_lt, List.getElem?_set_self head_lt, List.getElem?_cons_zero]
    | succ age =>
        have earlier : age < count := by split at early <;> omega
        have within : age + 1 < cells.length := by split at early <;> omega
        rw [index_next_succ head_lt within,
          List.getElem?_set_ne (Ne.symm (index_ne_head head_lt within)), held.newest age earlier,
          List.getElem?_cons_succ]

/-- Reading back from the head gives the newest entries of the history. -/
theorem Holds.read (held : Holds cells head count history) {amount : Nat} (few : amount ≤ count)
    (fallback : Entry) :
    (List.range amount).map (fun age => cells.getD (index cells.length head age) fallback) =
      history.take amount := by
  have count_eq := held.count_eq
  apply List.ext_getElem?
  intro age
  by_cases early : age < amount
  · have newest := held.newest age (by omega)
    have inHistory : age < history.length := by omega
    rw [List.getElem?_map, List.getElem?_range early, Option.map_some, List.getElem?_take_of_lt early,
      List.getD_eq_getElem?_getD, newest, List.getElem?_eq_getElem inHistory, Option.getD_some]
  · rw [List.getElem?_eq_none (by simpa using early), List.getElem?_eq_none (by simp; omega)]

/-! ## Masks -/

theorem and_sub_one {size : Nat} (power : ∃ exponent, size = 2 ^ exponent) (n : Nat) :
    n &&& (size - 1) = n % size := by
  rcases power with ⟨exponent, rfl⟩
  exact Nat.and_two_pow_sub_one_eq_mod n exponent

end Ring
