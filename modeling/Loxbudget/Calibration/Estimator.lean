import Loxbudget.Lib.Markers
import Loxbudget.Model.Quantile
import Mathlib.Data.Int.Order.Basic
import Mathlib.Data.List.Induction
import Mathlib.Logic.Equiv.Basic
import Mathlib.Order.Bounds.Basic

/-!
# The quantile estimator keeps its markers in order

The estimator is an instance of the five markers: its positions and heights are machine
words, its desired positions may take any values, and its candidate height is the
parabola narrowed to 32 bits. As long as fewer than 2^31 samples have come, no position
changes its sign when it is cast, and the general invariant applies.
-/

namespace Loxbudget

/-! ## The seed -/

/-- A comparison of the sorting network orders two entries and leaves the others alone. -/
structure Compares (i j : Nat) (a b : Nat → UInt32) : Prop where
  ordered : (b i).toNat ≤ (b j).toNat
  either : (b i).toNat = (a i).toNat ∧ (b j).toNat = (a j).toNat ∨
    (b i).toNat = (a j).toNat ∧ (b j).toNat = (a i).toNat
  rest : ∀ k, k ≠ i → k ≠ j → (b k).toNat = (a k).toNat

theorem swapIfGreater_compares {i j : Nat} (apart : i ≠ j) (a : Nat → UInt32) :
    Compares i j a (swapIfGreater i j a) := by
  rw [swapIfGreater]
  split
  · rename_i greater
    have greater' := UInt32.lt_iff_toNat_lt.mp greater
    have first : Function.update (Function.update a i (a j)) j (a i) i = a j := by
      rw [Function.update_of_ne apart, Function.update_self]
    refine ⟨?_, Or.inr ⟨?_, ?_⟩, ?_⟩
    · rw [first, Function.update_self]
      exact greater'.le
    · rw [first]
    · rw [Function.update_self]
    · intro k other other'
      rw [Function.update_of_ne other', Function.update_of_ne other]
  · rename_i le
    exact ⟨UInt32.le_iff_toNat_le.mp (UInt32.not_lt.mp le), Or.inl ⟨rfl, rfl⟩,
      fun k _ _ => rfl⟩

/-- The five entries of an array are rearranged. -/
def Rearranges (a b : Nat → UInt32) : Prop :=
  ∃ σ : Equiv.Perm Nat, b = a ∘ σ ∧ ∀ k, σ k < 5 ↔ k < 5

theorem Rearranges.trans {a b c : Nat → UInt32} (left : Rearranges a b)
    (right : Rearranges b c) : Rearranges a c := by
  rcases left with ⟨σ, rfl, inside⟩
  rcases right with ⟨τ, rfl, inside'⟩
  exact ⟨τ.trans σ, rfl, fun k => (inside (τ k)).trans (inside' k)⟩

theorem swapIfGreater_rearranges {i j : Nat} (first : i < 5) (second : j < 5)
    (a : Nat → UInt32) : Rearranges a (swapIfGreater i j a) := by
  rw [swapIfGreater]
  split
  · refine ⟨Equiv.swap i j, ?_, ?_⟩
    · funext k
      by_cases isSecond : k = j
      · subst isSecond
        simp
      · by_cases isFirst : k = i
        · subst isFirst
          simp [Function.update_of_ne isSecond]
        · simp [Function.update_of_ne isSecond, Function.update_of_ne isFirst,
            Equiv.swap_apply_of_ne_of_ne isFirst isSecond]
    · intro k
      by_cases isSecond : k = j
      · subst isSecond
        simp [first, second]
      · by_cases isFirst : k = i
        · subst isFirst
          simp [first, second]
        · rw [Equiv.swap_apply_of_ne_of_ne isFirst isSecond]
  · exact ⟨Equiv.refl Nat, rfl, fun k => Iff.rfl⟩

theorem sort5_rearranges (a : Nat → UInt32) : Rearranges a (sort5 a) := by
  rw [sort5]
  refine .trans ?_ (swapIfGreater_rearranges (by decide) (by decide) _)
  refine .trans ?_ (swapIfGreater_rearranges (by decide) (by decide) _)
  refine .trans ?_ (swapIfGreater_rearranges (by decide) (by decide) _)
  refine .trans ?_ (swapIfGreater_rearranges (by decide) (by decide) _)
  refine .trans ?_ (swapIfGreater_rearranges (by decide) (by decide) _)
  refine .trans ?_ (swapIfGreater_rearranges (by decide) (by decide) _)
  refine .trans ?_ (swapIfGreater_rearranges (by decide) (by decide) _)
  refine .trans ?_ (swapIfGreater_rearranges (by decide) (by decide) _)
  exact swapIfGreater_rearranges (by decide) (by decide) a

theorem mem_sort5 (a : Nat → UInt32) (v : UInt32) :
    (∃ k < 5, sort5 a k = v) ↔ ∃ k < 5, a k = v := by
  rcases sort5_rearranges a with ⟨σ, sorted, inside⟩
  rw [sorted]
  constructor
  · rintro ⟨k, few, rfl⟩
    exact ⟨σ k, (inside k).mpr few, rfl⟩
  · rintro ⟨k, few, rfl⟩
    refine ⟨σ.symm k, ?_, by simp⟩
    rw [← inside, Equiv.apply_symm_apply]
    exact few

/-- The first four comparisons order a pair and a triple. -/
theorem Compares.parts {a b c d e : Nat → UInt32} (pair : Compares 0 1 a b)
    (tail : Compares 3 4 b c) (outer : Compares 2 4 c d) (inner : Compares 2 3 d e) :
    (e 0).toNat ≤ (e 1).toNat ∧ (e 2).toNat ≤ (e 3).toNat ∧ (e 3).toNat ≤ (e 4).toNat := by
  have first : (e 0).toNat = (b 0).toNat := by
    rw [inner.rest 0 (by decide) (by decide), outer.rest 0 (by decide) (by decide),
      tail.rest 0 (by decide) (by decide)]
  have second : (e 1).toNat = (b 1).toNat := by
    rw [inner.rest 1 (by decide) (by decide), outer.rest 1 (by decide) (by decide),
      tail.rest 1 (by decide) (by decide)]
  have middle := outer.rest 3 (by decide) (by decide)
  have top := inner.rest 4 (by decide) (by decide)
  have low := pair.ordered
  have high := tail.ordered
  have highest := outer.ordered
  have higher := inner.ordered
  have places := outer.either
  have places' := inner.either
  omega

/-- The last five comparisons merge a pair and a triple that are ordered. -/
theorem Compares.merge {a b c d e f : Nat → UInt32}
    (pair : (a 0).toNat ≤ (a 1).toNat)
    (triple : (a 2).toNat ≤ (a 3).toNat ∧ (a 3).toNat ≤ (a 4).toNat)
    (top : Compares 1 4 a b) (across : Compares 0 3 b c) (bottom : Compares 0 2 c d)
    (upper : Compares 1 3 d e) (inner : Compares 1 2 e f) :
    (f 0).toNat ≤ (f 1).toNat ∧ (f 1).toNat ≤ (f 2).toNat ∧ (f 2).toNat ≤ (f 3).toNat ∧
      (f 3).toNat ≤ (f 4).toNat := by
  have b0 := top.rest 0 (by decide) (by decide)
  have b2 := top.rest 2 (by decide) (by decide)
  have b3 := top.rest 3 (by decide) (by decide)
  have c1 := across.rest 1 (by decide) (by decide)
  have c2 := across.rest 2 (by decide) (by decide)
  have c4 := across.rest 4 (by decide) (by decide)
  have d1 := bottom.rest 1 (by decide) (by decide)
  have d3 := bottom.rest 3 (by decide) (by decide)
  have d4 := bottom.rest 4 (by decide) (by decide)
  have e0 := upper.rest 0 (by decide) (by decide)
  have e2 := upper.rest 2 (by decide) (by decide)
  have e4 := upper.rest 4 (by decide) (by decide)
  have f0 := inner.rest 0 (by decide) (by decide)
  have f3 := inner.rest 3 (by decide) (by decide)
  have f4 := inner.rest 4 (by decide) (by decide)
  rcases top with ⟨b_le, b_either, -⟩
  rcases across with ⟨c_le, c_either, -⟩
  rcases bottom with ⟨d_le, d_either, -⟩
  rcases upper with ⟨e_le, e_either, -⟩
  rcases inner with ⟨f_le, f_either, -⟩
  omega

theorem sort5_sorted (a : Nat → UInt32) {i : Nat} (inside : i < 4) :
    (sort5 a i).toNat ≤ (sort5 a (i + 1)).toNat := by
  have parts := (swapIfGreater_compares (show 0 ≠ 1 by decide) a).parts
    (swapIfGreater_compares (show 3 ≠ 4 by decide) _)
    (swapIfGreater_compares (show 2 ≠ 4 by decide) _)
    (swapIfGreater_compares (show 2 ≠ 3 by decide) _)
  have merged := Compares.merge parts.1 parts.2
    (swapIfGreater_compares (show 1 ≠ 4 by decide) _)
    (swapIfGreater_compares (show 0 ≠ 3 by decide) _)
    (swapIfGreater_compares (show 0 ≠ 2 by decide) _)
    (swapIfGreater_compares (show 1 ≠ 3 by decide) _)
    (swapIfGreater_compares (show 1 ≠ 2 by decide) _)
  rcases i with _ | _ | _ | _ | i
  · exact merged.1
  · exact merged.2.1
  · exact merged.2.2.1
  · exact merged.2.2.2
  · omega

/-! ## The machine words -/

/-- The estimator's markers. -/
def P2Estimator.markers (e : P2Estimator) : Markers where
  pos := fun i => (e.markerN i).toNat
  height := fun i => (e.markerQQ16 i).toNat

/-- The candidate height of the code: the parabola, narrowed to 32 bits. -/
def narrowedParabola (markers : Markers) (i : Nat) (d : Int) : Int :=
  markers.parabola i d % 4294967296

/-- How far marker `i` lags behind its desired position. -/
def P2Estimator.lag (e : P2Estimator) (i : Nat) : Int :=
  (e.markerNPrimeQ16 i - (e.markerN i <<< 16).toInt32).toInt

theorem toInt32_bmod (v : UInt32) : v.toInt32.toInt = (v.toNat : Int).bmod 4294967296 :=
  BitVec.toInt_eq_toNat_bmod v.toBitVec

theorem toInt32_toInt {v : UInt32} (small : v.toNat < 2147483648) :
    v.toInt32.toInt = v.toNat := by
  rw [toInt32_bmod]
  exact Int.bmod_eq_of_le (by omega) (by omega)

theorem ofInt_toNat (v : Int) : ((UInt32.ofInt v).toNat : Int) = v % 4294967296 := by
  rw [UInt32.ofInt, UInt32.toNat_ofNat']
  omega

namespace P2Estimator

variable {e : P2Estimator} {count least greatest : Int} {i : Nat} {d : Int}

/-- With fewer than 2^31 samples a cast to `int32_t` keeps the positions. -/
theorem markerN_toInt (ordered : e.markers.Ordered count least greatest)
    (few : count < 2147483648) (inside : i ≤ 4) :
    (e.markerN i).toInt32.toInt = e.markers.pos i := by
  have bounds := ordered.pos_bounds inside
  apply toInt32_toInt
  simp only [markers] at bounds
  omega

theorem parabolicNum_eq (ordered : e.markers.Ordered count least greatest)
    (few : count < 2147483648) (low : 1 ≤ i) (high : i ≤ 3) :
    e.parabolicNum i d = e.markers.parabola i d := by
  have below := markerN_toInt ordered few (show i - 1 ≤ 4 by omega)
  have here := markerN_toInt ordered few (show i ≤ 4 by omega)
  have above := markerN_toInt ordered few (show i + 1 ≤ 4 by omega)
  simp only [parabolicNum, below, here, above]
  rfl

theorem parabolic_eq (ordered : e.markers.Ordered count least greatest)
    (few : count < 2147483648) (low : 1 ≤ i) (high : i ≤ 3) :
    ((e.parabolic i d).toNat : Int) = narrowedParabola e.markers i d := by
  rw [parabolic, ofInt_toNat, parabolicNum_eq ordered few low high, narrowedParabola]

/-- An integer of the type `int64_t`. -/
def FitsInt64 (v : Int) : Prop :=
  -9223372036854775808 ≤ v ∧ v < 9223372036854775808

/-- No intermediate value of `lb__p2_parabolic_` leaves the range of its type. -/
theorem parabolicNum_fits (ordered : e.markers.Ordered count least greatest)
    (few : count < 2147483648) (low : 1 ≤ i) (high : i ≤ 3) (moves : d = 1 ∨ d = -1) :
    let left := (e.markers.pos i - e.markers.pos (i - 1) + d) *
      (e.markers.height (i + 1) - e.markers.height i)
    let right := (e.markers.pos (i + 1) - e.markers.pos i - d) *
      (e.markers.height i - e.markers.height (i - 1))
    let sum := left.tdiv (e.markers.pos (i + 1) - e.markers.pos i) +
      right.tdiv (e.markers.pos i - e.markers.pos (i - 1))
    FitsInt64 left ∧ FitsInt64 right ∧ FitsInt64 sum ∧ FitsInt64 (d * sum) ∧
      FitsInt64 (e.parabolicNum i d) := by
  intro left right sum
  have slopes := ordered.slopes low high
  have gaps := ordered.gaps low high
  have first := ordered.pos_bounds (show i - 1 ≤ 4 by omega)
  have last := ordered.pos_bounds (show i + 1 ≤ 4 by omega)
  have bottom : 0 ≤ e.markers.height (i - 1) := Int.natCast_nonneg _
  have top : e.markers.height (i + 1) < 4294967296 :=
    Int.ofNat_lt.mpr (e.markerQQ16 (i + 1)).toNat_lt
  have left_nonneg : 0 ≤ left := Int.mul_nonneg (by omega) slopes.1
  have right_nonneg : 0 ≤ right := Int.mul_nonneg (by omega) slopes.2
  have left_le : left ≤ 2147483647 * (e.markers.height (i + 1) - e.markers.height i) :=
    Int.mul_le_mul_of_nonneg_right (by omega) slopes.1
  have right_le : right ≤ 2147483647 * (e.markers.height i - e.markers.height (i - 1)) :=
    Int.mul_le_mul_of_nonneg_right (by omega) slopes.2
  have sum_nonneg : 0 ≤ sum :=
    Int.add_nonneg (Int.tdiv_nonneg left_nonneg gaps.1.le)
      (Int.tdiv_nonneg right_nonneg gaps.2.le)
  have sum_le : sum ≤ left + right :=
    Int.add_le_add (Int.tdiv_le_self _ left_nonneg) (Int.tdiv_le_self _ right_nonneg)
  have quotient_nonneg : 0 ≤ sum.tdiv (e.markers.pos (i + 1) - e.markers.pos (i - 1)) :=
    Int.tdiv_nonneg sum_nonneg (by omega)
  have quotient_le : sum.tdiv (e.markers.pos (i + 1) - e.markers.pos (i - 1)) ≤ sum :=
    Int.tdiv_le_self _ sum_nonneg
  have value : e.parabolicNum i d = e.markers.height i +
      (d * sum).tdiv (e.markers.pos (i + 1) - e.markers.pos (i - 1)) :=
    parabolicNum_eq ordered few low high
  rw [value]
  simp only [FitsInt64]
  rcases moves with rfl | rfl
  · rw [Int.one_mul]
    omega
  · rw [Int.neg_one_mul, Int.neg_tdiv]
    omega

theorem linear_eq (ordered : e.markers.Ordered count least greatest) (few : count < 2147483648)
    (low : 1 ≤ i) (high : i ≤ 3) (moves : d = 1 ∨ d = -1) :
    ((linear (e.markerQQ16 i) d (e.markerQQ16 (i + d).toNat) (e.markerN (i + d).toNat)
      (e.markerN i)).toNat : Int) = e.markers.linear i d := by
  have inside : (i + d).toNat ≤ 4 := by
    rcases moves with rfl | rfl
    · omega
    · omega
  have target := markerN_toInt ordered few inside
  have here := markerN_toInt ordered few (show i ≤ 4 by omega)
  have range : 0 ≤ e.markers.linear i d ∧ e.markers.linear i d < 4294967296 := by
    have top := (e.markerQQ16 (i + 1)).toNat_lt
    have middle := (e.markerQQ16 i).toNat_lt
    rcases moves with rfl | rfl
    · have bounds := ordered.linear_up low high
      simp only [markers] at bounds ⊢
      omega
    · have bounds := ordered.linear_down low high
      simp only [markers] at bounds ⊢
      omega
  rw [linear, ofInt_toNat, target, here]
  exact Int.emod_eq_of_lt range.1 range.2

theorem direction_eq (ordered : e.markers.Ordered count least greatest) (low : 1 ≤ i)
    (high : i ≤ 3) : e.direction i = e.markers.direction 65536 (e.lag i) i := by
  have gaps := ordered.gaps low high
  simp only [markers] at gaps
  have gap_up : e.markerN (i + 1) - e.markerN i > 1 ↔
      1 < e.markers.pos (i + 1) - e.markers.pos i := by
    have le : e.markerN i ≤ e.markerN (i + 1) := UInt32.le_iff_toNat_le.mpr (by omega)
    rw [gt_iff_lt, UInt32.lt_iff_toNat_lt, UInt32.toNat_sub_of_le _ _ le]
    simp only [markers, UInt32.reduceToNat]
    omega
  have gap_down : e.markerN i - e.markerN (i - 1) > 1 ↔
      1 < e.markers.pos i - e.markers.pos (i - 1) := by
    have le : e.markerN (i - 1) ≤ e.markerN i := UInt32.le_iff_toNat_le.mpr (by omega)
    rw [gt_iff_lt, UInt32.lt_iff_toNat_lt, UInt32.toNat_sub_of_le _ _ le]
    simp only [markers, UInt32.reduceToNat]
    omega
  have up_unit : (0x10000 : Int32).toInt = 65536 := by decide
  have down_unit : (-0x10000 : Int32).toInt = -65536 := by decide
  simp only [direction, Markers.direction, gap_up, gap_down, ge_iff_le, Int32.le_iff_toInt_le,
    up_unit, down_unit]
  rfl

theorem adjustedQ_eq (ordered : e.markers.Ordered count least greatest)
    (few : count < 2147483648) (low : 1 ≤ i) (high : i ≤ 3) (moves : d = 1 ∨ d = -1) :
    ((e.adjustedQ i d).toNat : Int) = e.markers.moved narrowedParabola i d := by
  have candidate := parabolic_eq (d := d) ordered few low high
  have accepted : (e.parabolic i d > e.markerQQ16 (i - 1) ∧
      e.parabolic i d < e.markerQQ16 (i + 1)) ↔
      e.markers.Between i (narrowedParabola e.markers i d) := by
    rw [← candidate, gt_iff_lt, UInt32.lt_iff_toNat_lt, UInt32.lt_iff_toNat_lt]
    simp only [Markers.Between, markers]
    omega
  simp only [adjustedQ, Markers.moved, accepted]
  split
  · exact candidate
  · exact linear_eq ordered few low high moves

/-- An iteration of the adjustment loop moves a marker. -/
theorem adjust_markers (ordered : e.markers.Ordered count least greatest)
    (few : count < 2147483648) (low : 1 ≤ i) (high : i ≤ 3) :
    (e.adjust i).markers = e.markers.adjust narrowedParabola 65536 (e.lag i) i := by
  have direction := direction_eq ordered low high
  simp only [adjust, Markers.adjust, direction]
  split
  · rfl
  rename_i moves
  have either : e.markers.direction 65536 (e.lag i) i = 1 ∨
      e.markers.direction 65536 (e.lag i) i = -1 := by
    rcases e.markers.direction_cases 65536 (e.lag i) i with still | ⟨up, -⟩ | ⟨down, -⟩
    · exact absurd still moves
    · exact Or.inl up
    · exact Or.inr down
  have bounds := ordered.pos_bounds (show i ≤ 4 by omega)
  have height := adjustedQ_eq ordered few low high either
  have position : ((UInt32.ofInt ((e.markerN i).toInt32.toInt +
      e.markers.direction 65536 (e.lag i) i)).toNat : Int) =
      e.markers.pos i + e.markers.direction 65536 (e.lag i) i := by
    rw [ofInt_toNat, markerN_toInt ordered few (by omega)]
    apply Int.emod_eq_of_lt
    · rcases either with up | down
      · omega
      · omega
    · rcases either with up | down
      · omega
      · omega
  simp only [markers, Markers.mk.injEq]
  constructor
  · funext j
    by_cases here : j = i
    · subst here
      simp only [Function.update_self]
      exact position
    · simp only [Function.update_of_ne here]
  · funext j
    by_cases here : j = i
    · subst here
      simp only [Function.update_self]
      exact height
    · simp only [Function.update_of_ne here]

theorem adjust_ordered (ordered : e.markers.Ordered count least greatest)
    (few : count < 2147483648) (low : 1 ≤ i) (high : i ≤ 3) :
    (e.adjust i).markers.Ordered count least greatest := by
  rw [adjust_markers ordered few low high]
  exact ordered.adjust low high

theorem findCell_eq (e : P2Estimator) (xQ16 : UInt32) :
    e.findCell xQ16 = e.markers.cell xQ16.toNat := by
  simp only [findCell, Markers.cell, markers, UInt32.le_iff_toNat_le, UInt32.lt_iff_toNat_lt,
    Int.ofNat_le, Int.ofNat_lt]

/-- The counting part of `lb__p2_add_sample_` places the sample. -/
theorem countSample_markers (ordered : e.markers.Ordered count least greatest)
    (few : count < 2147483648) (xQ16 : UInt32) :
    (e.countSample xQ16).markers = e.markers.place xQ16.toNat := by
  have bump : ∀ k, (fun i => ((if k < i ∧ i < 5 then e.markerN i + 1
      else e.markerN i).toNat : Int)) = e.markers.bump k := by
    intro k
    funext i
    simp only [Markers.bump]
    split
    · rename_i above
      have bounds := ordered.pos_bounds (show i ≤ 4 by omega)
      simp only [markers] at bounds ⊢
      rw [UInt32.toNat_add]
      simp only [UInt32.reduceToNat]
      omega
    · rfl
  have raised : ∀ k, (fun i => ((Function.update e.markerQQ16 k xQ16 i).toNat : Int)) =
      Function.update e.markers.height k xQ16.toNat := by
    intro k
    funext i
    by_cases here : i = k
    · subst here
      simp
    · simp [Function.update_of_ne here, markers]
  have below : xQ16 < e.markerQQ16 0 ↔ (xQ16.toNat : Int) < e.markers.height 0 := by
    rw [UInt32.lt_iff_toNat_lt]
    simp only [markers, Int.ofNat_lt]
  have above : xQ16 ≥ e.markerQQ16 4 ↔ e.markers.height 4 ≤ (xQ16.toNat : Int) := by
    rw [ge_iff_le, UInt32.le_iff_toNat_le]
    simp only [markers, Int.ofNat_le]
  simp only [countSample, Markers.place, below, above, findCell_eq]
  split
  · exact congrArg₂ Markers.mk (bump 0) (raised 0)
  split
  · exact congrArg₂ Markers.mk (bump 3) (raised 4)
  · exact congrArg₂ Markers.mk (bump _) rfl

theorem adjust_lag {j : Nat} (apart : j ≠ i) : (e.adjust i).lag j = e.lag j := by
  simp only [adjust]
  split
  · rfl
  · simp only [lag, Function.update_of_ne apart]

theorem adjust_frame (e : P2Estimator) (i : Nat) :
    (e.adjust i).initialized = e.initialized ∧ (e.adjust i).count = e.count := by
  simp only [adjust]
  split
  · exact ⟨rfl, rfl⟩
  · exact ⟨rfl, rfl⟩

theorem addSample_frame (initialized : e.initialized = true) (pQ16 x : UInt32) :
    (e.addSample pQ16 x).initialized = true ∧ (e.addSample pQ16 x).count = e.count + 1 := by
  simp only [addSample, initialized, Bool.true_eq_false, if_false, List.foldl_cons,
    List.foldl_nil, (adjust_frame _ _).1, (adjust_frame _ _).2]
  exact ⟨initialized, rfl⟩

theorem adjust_desired (e : P2Estimator) (i : Nat) :
    (e.adjust i).dnQ16 = e.dnQ16 ∧ (e.adjust i).markerNPrimeQ16 = e.markerNPrimeQ16 := by
  simp only [adjust]
  split
  · exact ⟨rfl, rfl⟩
  · exact ⟨rfl, rfl⟩

/-- Only the counting part moves the desired positions on. -/
theorem addSample_desired (initialized : e.initialized = true) (pQ16 x : UInt32) :
    (e.addSample pQ16 x).dnQ16 = (e.countSample (x <<< 16)).dnQ16 ∧
      (e.addSample pQ16 x).markerNPrimeQ16 = (e.countSample (x <<< 16)).markerNPrimeQ16 := by
  simp only [addSample, initialized, Bool.true_eq_false, if_false, List.foldl_cons,
    List.foldl_nil, (adjust_desired _ _).1, (adjust_desired _ _).2, and_self]

/-- The estimator as the adjustment of marker `i` finds it. -/
def found (e : P2Estimator) (xQ16 : UInt32) (i : Nat) : P2Estimator :=
  (List.range' 1 (i - 1)).foldl adjust (e.countSample xQ16)

theorem found_succ (e : P2Estimator) (xQ16 : UInt32) (low : 1 ≤ i) :
    e.found xQ16 (i + 1) = (e.found xQ16 i).adjust i := by
  have counted : i + 1 - 1 = i - 1 + 1 := by omega
  have last : 1 + (i - 1) = i := by omega
  rw [found, counted, List.range'_1_concat, List.foldl_append, last]
  rfl

/-- The adjustments before that of marker `i` leave the lag of the markers from `i` on alone. -/
theorem found_lag (e : P2Estimator) (xQ16 : UInt32) {j : Nat} (le : i ≤ j) :
    (e.found xQ16 i).lag j = (e.countSample xQ16).lag j := by
  induction i with
  | zero => rfl
  | succ i ih =>
      rcases Nat.eq_zero_or_pos i with rfl | low
      · rfl
      · rw [found_succ e xQ16 low, adjust_lag (by omega)]
        exact ih (by omega)

/-- The adjustment loop moves the five markers. -/
theorem found_markers {xQ16 : UInt32}
    (ordered : (e.countSample xQ16).markers.Ordered count least greatest)
    (few : count < 2147483648) (high : i ≤ 4) :
    (e.found xQ16 i).markers =
      (e.countSample xQ16).markers.reach narrowedParabola 65536 (e.countSample xQ16).lag i := by
  induction i with
  | zero => rfl
  | succ i ih =>
      rcases Nat.eq_zero_or_pos i with rfl | low
      · rfl
      · have before := ih (by omega)
        have ordered' : (e.found xQ16 i).markers.Ordered count least greatest := by
          rw [before]
          exact ordered.reach (by omega)
        rw [found_succ e xQ16 low, adjust_markers ordered' few low (by omega),
          found_lag e xQ16 le_rfl, Markers.reach_succ _ _ _ _ low, before]

theorem found_ordered {xQ16 : UInt32}
    (ordered : (e.countSample xQ16).markers.Ordered count least greatest)
    (few : count < 2147483648) (high : i ≤ 4) :
    (e.found xQ16 i).markers.Ordered count least greatest := by
  rw [found_markers ordered few high]
  exact ordered.reach high

theorem addSample_eq_found (initialized : e.initialized = true) (pQ16 x : UInt32) :
    e.addSample pQ16 x = e.found (x <<< 16) 4 := by
  rw [addSample, if_neg (by simp [initialized])]
  rfl

/-- Past the seed, `lb__p2_add_sample_` is a step of the five markers. -/
theorem addSample_markers (ordered : e.markers.Ordered count least greatest)
    (few : count + 1 < 2147483648) (initialized : e.initialized = true) (pQ16 x : UInt32) :
    (e.addSample pQ16 x).markers =
      e.markers.step narrowedParabola 65536 (fun _ => (e.countSample (x <<< 16)).lag)
        (x <<< 16).toNat := by
  have placed := countSample_markers ordered (by omega) (x <<< 16)
  have ordered' := ordered.place (x <<< 16).toNat
  rw [← placed] at ordered'
  rw [addSample_eq_found initialized, found_markers ordered' few le_rfl,
    Markers.step_eq_reach, placed]

end P2Estimator

/-! ## Runs -/

theorem toNat_shiftLeft_sixteen_of_lt {x : UInt32} (small : x.toNat < 65536) :
    (x <<< 16).toNat = x.toNat * 65536 := by
  rw [UInt32.toNat_shiftLeft]
  simp only [UInt32.reduceToNat, Nat.reduceMod, Nat.shiftLeft_eq, Nat.reducePow]
  omega

/-- The heights of the values of a stream, in Q16.16. -/
def heights (values : List UInt16) : Set Int :=
  {height | ∃ value ∈ values, height = value.toNat * 65536}

theorem heights_append (values : List UInt16) (value : UInt16) :
    heights (values ++ [value]) = insert (value.toNat * 65536 : Int) (heights values) := by
  ext height
  simp [heights, or_comm, or_and_right, exists_or]

/-- What the estimator has made of a stream: it is still collecting the first five values, or its
markers are in order between the least and the greatest value. -/
inductive P2Estimator.Estimates (e : P2Estimator) (values : List UInt16) : Prop where
  | collecting (uninitialized : e.initialized = false) (few : values.length < 5)
      (count : e.count.toNat = values.length)
      (buffer : ∀ k (inside : k < values.length), e.initialBuffer k = values[k].toUInt32)
  | estimating (initialized : e.initialized = true) (many : 5 ≤ values.length)
      (count : e.count.toNat = values.length) (least greatest : Int)
      (ordered : e.markers.Ordered values.length least greatest)
      (isLeast : IsLeast (heights values) least)
      (isGreatest : IsGreatest (heights values) greatest)

namespace P2Estimator.Estimates

variable {e : P2Estimator} {values : List UInt16}

theorem init (pQ16 : UInt32) : (p2Init pQ16).Estimates [] :=
  .collecting rfl (by decide) rfl (by simp)

/-- The desired positions have no part in it. -/
theorem havoc (estimates : e.Estimates values) (markerNPrimeQ16 : Nat → Int32) :
    { e with markerNPrimeQ16 := markerNPrimeQ16 }.Estimates values := by
  cases estimates with
  | collecting uninitialized few count buffer =>
      exact .collecting uninitialized few count buffer
  | estimating initialized many count least greatest ordered isLeast isGreatest =>
      exact .estimating initialized many count least greatest ordered isLeast isGreatest

theorem seed5_pos (e : P2Estimator) (pQ16 : UInt32) {i : Nat} (inside : i < 5) :
    (e.seed5 pQ16).markers.pos i = i + 1 := by
  rcases i with _ | _ | _ | _ | _ | i
  all_goals first | rfl | omega

theorem seed (pQ16 : UInt32) (five : values.length = 5)
    (buffer : ∀ k (inside : k < values.length), e.initialBuffer k = values[k].toUInt32) :
    (e.seed5 pQ16).Estimates values := by
  have entries : ∀ k < 5, ∃ value ∈ values, sort5 e.initialBuffer k = value.toUInt32 := by
    intro k inside
    rcases (mem_sort5 e.initialBuffer _).mp ⟨k, inside, rfl⟩ with ⟨k', inside', same⟩
    refine ⟨values[k'], List.getElem_mem _, ?_⟩
    rw [← same, buffer k' (by omega)]
  have places : ∀ value ∈ values, ∃ k < 5, sort5 e.initialBuffer k = value.toUInt32 := by
    intro value listed
    rcases List.getElem_of_mem listed with ⟨k, inside, rfl⟩
    exact (mem_sort5 e.initialBuffer _).mpr ⟨k, by omega, buffer k inside⟩
  have height : ∀ k < 5, ((sort5 e.initialBuffer k <<< 16).toNat : Int) =
      (sort5 e.initialBuffer k).toNat * 65536 := by
    intro k inside
    rcases entries k inside with ⟨value, -, same⟩
    have small : (sort5 e.initialBuffer k).toNat < 65536 := by
      rw [same, UInt16.toNat_toUInt32]
      exact value.toNat_lt
    rw [toNat_shiftLeft_sixteen_of_lt small]
    push_cast
    rfl
  have mono : ∀ i j, i ≤ j → j < 5 →
      (sort5 e.initialBuffer i).toNat ≤ (sort5 e.initialBuffer j).toNat := by
    intro i j le
    induction j, le using Nat.le_induction with
    | base => exact fun _ => le_refl _
    | succ j _ ih => exact fun inside => (ih (by omega)).trans (sort5_sorted _ (by omega))
  have listed : ∀ k < 5, ((sort5 e.initialBuffer k <<< 16).toNat : Int) ∈ heights values := by
    intro k inside
    rcases entries k inside with ⟨value, listed, same⟩
    refine ⟨value, listed, ?_⟩
    rw [height k inside, same, UInt16.toNat_toUInt32]
  refine .estimating rfl five.ge (by rw [five]; rfl)
    (sort5 e.initialBuffer 0 <<< 16).toNat (sort5 e.initialBuffer 4 <<< 16).toNat
    ⟨rfl, ?_, by rw [five]; rfl, ?_, rfl, rfl⟩ ⟨listed 0 (by decide), ?_⟩
    ⟨listed 4 (by decide), ?_⟩
  · intro i inside
    rw [seed5_pos e pQ16 (by omega), seed5_pos e pQ16 (by omega)]
    omega
  · intro i inside
    have sorted := sort5_sorted e.initialBuffer inside
    change ((sort5 e.initialBuffer i <<< 16).toNat : Int) ≤
      (sort5 e.initialBuffer (i + 1) <<< 16).toNat
    rw [height i (by omega), height (i + 1) (by omega)]
    omega
  · rintro other ⟨value, listed', rfl⟩
    rcases places value listed' with ⟨k, inside, same⟩
    have sorted := mono 0 k (Nat.zero_le k) inside
    rw [same, UInt16.toNat_toUInt32] at sorted
    rw [height 0 (by decide)]
    omega
  · rintro other ⟨value, listed', rfl⟩
    rcases places value listed' with ⟨k, inside, same⟩
    have sorted := mono k 4 (by omega) (by decide)
    rw [same, UInt16.toNat_toUInt32] at sorted
    rw [height 4 (by decide)]
    omega

theorem addSample (estimates : e.Estimates values) (few : values.length + 1 < 2147483648)
    (pQ16 : UInt32) (value : UInt16) :
    (e.addSample pQ16 value.toUInt32).Estimates (values ++ [value]) := by
  cases estimates with
  | collecting uninitialized few count buffer =>
      have filled : ∀ k (inside : k < (values ++ [value]).length),
          Function.update e.initialBuffer e.count.toNat value.toUInt32 k =
            (values ++ [value])[k].toUInt32 := by
        intro k inside
        rw [count]
        by_cases last : k = values.length
        · subst last
          simp
        · have before : k < values.length := by
            rw [List.length_append, List.length_singleton] at inside
            omega
          rw [Function.update_of_ne last, List.getElem_append_left before]
          exact buffer k before
      have counted : (e.count + 1).toNat = (values ++ [value]).length := by
        rw [UInt32.toNat_add, count, List.length_append]
        simp only [UInt32.reduceToNat, List.length_singleton]
        omega
      simp only [P2Estimator.addSample, uninitialized, if_true]
      split
      · rename_i full
        have five : (values ++ [value]).length = 5 := by
          rw [← counted, full]
          rfl
        exact seed pQ16 five filled
      · rename_i open'
        refine .collecting rfl ?_ counted filled
        have differs : (values ++ [value]).length ≠ 5 := by
          rw [← counted]
          exact fun five => open' (UInt32.toNat_inj.mp five)
        rw [List.length_append, List.length_singleton] at differs ⊢
        omega
  | estimating initialized many count least greatest ordered isLeast isGreatest =>
      have length : ((values ++ [value]).length : Int) = values.length + 1 := by simp
      have shifted : ((value.toUInt32 <<< 16).toNat : Int) = value.toNat * 65536 := by
        rw [toNat_shiftLeft_sixteen_of_lt (by simpa using value.toNat_lt),
          UInt16.toNat_toUInt32]
        simp
      have markers := addSample_markers ordered (by omega) initialized pQ16 value.toUInt32
      have stepped : (e.markers.step narrowedParabola 65536
          (fun _ => (e.countSample (value.toUInt32 <<< 16)).lag)
          (value.toUInt32 <<< 16).toNat).Ordered _ _ _ := ordered.step _
      rw [← markers, shifted, ← length] at stepped
      have kept := addSample_frame initialized pQ16 value.toUInt32
      refine .estimating kept.1 (by simp; omega) ?_ _ _ stepped ?_ ?_
      · rw [kept.2, UInt32.toNat_add, count, List.length_append]
        simp only [UInt32.reduceToNat, List.length_singleton]
        omega
      · rw [heights_append, min_comm]
        exact IsLeast.insert _ isLeast
      · rw [heights_append, max_comm]
        exact IsGreatest.insert _ isGreatest

end P2Estimator.Estimates

/-! ## The invariant of the estimator -/

namespace P2Estimator

variable {e : P2Estimator} {count least greatest : Int} {i : Nat}

/-- What the adjustment of marker `i` divides by, in `lb__p2_parabolic_` and, if its value is not
accepted, in `lb__p2_linear_`. -/
def divisors (e : P2Estimator) (i : Nat) : List Int :=
  let d := e.direction i
  if d = 0 then []
  else
    let nIm1 := (e.markerN (i - 1)).toInt32.toInt
    let nI := (e.markerN i).toInt32.toInt
    let nIp1 := (e.markerN (i + 1)).toInt32.toInt
    let qNew := e.parabolic i d
    [nIp1 - nI, nI - nIm1, nIp1 - nIm1] ++
      if qNew > e.markerQQ16 (i - 1) ∧ qNew < e.markerQQ16 (i + 1) then []
      else [(e.markerN (i + d).toNat).toInt32.toInt - nI]

/-- What one sample divides by, as the adjustment loop comes to it. -/
def sampleDivisors (e : P2Estimator) (xQ16 : UInt32) : List Int :=
  let e := e.countSample xQ16
  e.divisors 1 ++ (e.adjust 1).divisors 2 ++ ((e.adjust 1).adjust 2).divisors 3

theorem divisors_ne_zero (ordered : e.markers.Ordered count least greatest)
    (few : count < 2147483648) (low : 1 ≤ i) (high : i ≤ 3) : 0 ∉ e.divisors i := by
  have gaps := ordered.gaps low high
  have below := markerN_toInt ordered few (show i - 1 ≤ 4 by omega)
  have here := markerN_toInt ordered few (show i ≤ 4 by omega)
  have above := markerN_toInt ordered few (show i + 1 ≤ 4 by omega)
  simp only [divisors, below, here, above]
  rw [direction_eq ordered low high]
  rcases e.markers.direction_cases 65536 (e.lag i) i with still | ⟨up, -⟩ | ⟨down, -⟩
  · simp [still]
  · have target : ((i : Int) + 1).toNat = i + 1 := by omega
    rw [up, if_neg (by decide), target, above]
    simp only [List.mem_append, List.mem_cons, List.not_mem_nil, or_false, not_or]
    refine ⟨⟨by omega, by omega, by omega⟩, ?_⟩
    split
    · simp
    · simp only [List.mem_cons, List.not_mem_nil, or_false]
      omega
  · have target : ((i : Int) + -1).toNat = i - 1 := by omega
    rw [down, if_neg (by decide), target, below]
    simp only [List.mem_append, List.mem_cons, List.not_mem_nil, or_false, not_or]
    refine ⟨⟨by omega, by omega, by omega⟩, ?_⟩
    split
    · simp
    · simp only [List.mem_cons, List.not_mem_nil, or_false]
      omega

theorem sampleDivisors_ne_zero (ordered : e.markers.Ordered count least greatest)
    (few : count + 1 < 2147483648) (xQ16 : UInt32) : 0 ∉ e.sampleDivisors xQ16 := by
  have placed := countSample_markers ordered (by omega) xQ16
  have ordered₀ := ordered.place xQ16.toNat
  rw [← placed] at ordered₀
  simp only [sampleDivisors]
  generalize e.countSample xQ16 = e at ordered₀ ⊢
  have ordered₁ := adjust_ordered ordered₀ few le_rfl (by decide : 1 ≤ 3)
  have ordered₂ := adjust_ordered ordered₁ few (by decide : 1 ≤ 2) (by decide)
  rw [List.mem_append, List.mem_append, not_or, not_or]
  exact ⟨⟨divisors_ne_zero ordered₀ few le_rfl (by decide),
    divisors_ne_zero ordered₁ few (by decide) (by decide)⟩,
    divisors_ne_zero ordered₂ few (by decide) le_rfl⟩

/-- The markers after `samples` samples between `least` and `greatest`. -/
structure Invariant (e : P2Estimator) (samples : Nat) (least greatest : UInt16) : Prop where
  first : e.markerN 0 = 1
  increasing : ∀ i < 4, e.markerN i < e.markerN (i + 1)
  last : (e.markerN 4).toNat = samples
  count : e.count.toNat = samples
  monotone : ∀ i < 4, e.markerQQ16 i ≤ e.markerQQ16 (i + 1)
  bottom : e.markerQQ16 0 = least.toUInt32 <<< 16
  top : e.markerQQ16 4 = greatest.toUInt32 <<< 16

/-- The cell search finds the cell of a sample between the outer markers, and the adjustments
divide by nothing that is zero. -/
structure Safe (e : P2Estimator) (xQ16 : UInt32) : Prop where
  cell : e.markerQQ16 0 ≤ xQ16 → xQ16 < e.markerQQ16 4 → (e.findCell xQ16).isSome = true
  divisors : 0 ∉ e.sampleDivisors xQ16

/-- The estimator after a stream, each of whose samples finds the desired positions at any
values. -/
def driven (pQ16 : UInt32) (samples : List (UInt16 × (Nat → Int32))) : P2Estimator :=
  samples.foldl
    (fun e sample =>
      { e with markerNPrimeQ16 := sample.2 }.addSample pQ16 sample.1.toUInt32)
    (p2Init pQ16)

theorem driven_estimates (pQ16 : UInt32) {samples : List (UInt16 × (Nat → Int32))}
    (few : samples.length < 2147483648) :
    (driven pQ16 samples).Estimates (samples.map Prod.fst) := by
  induction samples using List.reverseRecOn with
  | nil => exact Estimates.init pQ16
  | append_singleton samples sample ih =>
      rw [List.length_append, List.length_singleton] at few
      have before := (ih (by omega)).havoc sample.2
      rw [driven, List.foldl_append, List.map_append]
      exact before.addSample (by simpa using few) pQ16 sample.1

theorem safe_of_ordered (ordered : e.markers.Ordered count least greatest)
    (few : count + 1 < 2147483648) (xQ16 : UInt32) : e.Safe xQ16 := by
  refine ⟨?_, sampleDivisors_ne_zero ordered few xQ16⟩
  intro above below
  have above' : e.markers.height 0 ≤ (xQ16.toNat : Int) :=
    Int.ofNat_le.mpr (UInt32.le_iff_toNat_le.mp above)
  have below' : (xQ16.toNat : Int) < e.markers.height 4 :=
    Int.ofNat_lt.mpr (UInt32.lt_iff_toNat_lt.mp below)
  rw [findCell_eq]
  exact Markers.cell_isSome above' below'

theorem shifted_toNat (value : UInt16) :
    (value.toUInt32 <<< 16).toNat = value.toNat * 65536 := by
  rw [toNat_shiftLeft_sixteen_of_lt (by simpa using value.toNat_lt), UInt16.toNat_toUInt32]

/-- Markers in order, in the words of the code. -/
theorem invariant_of_ordered {samples : Nat} {low top : UInt16}
    (count : e.count.toNat = samples)
    (ordered : e.markers.Ordered samples (low.toNat * 65536) (top.toNat * 65536)) :
    e.Invariant samples low top where
  first := UInt32.toNat_inj.mp (Int.ofNat_inj.mp ordered.first)
  increasing := fun i inside =>
    UInt32.lt_iff_toNat_lt.mpr (Int.ofNat_lt.mp (ordered.increasing i inside))
  last := Int.ofNat_inj.mp ordered.last
  count := count
  monotone := fun i inside =>
    UInt32.le_iff_toNat_le.mpr (Int.ofNat_le.mp (ordered.monotone i inside))
  bottom := by
    apply UInt32.toNat_inj.mp
    rw [shifted_toNat]
    exact Int.ofNat_inj.mp ordered.bottom
  top := by
    apply UInt32.toNat_inj.mp
    rw [shifted_toNat]
    exact Int.ofNat_inj.mp ordered.top

/-- The quantile that is reported for an estimator. -/
def reported (e : P2Estimator) : UInt16 :=
  (e.getQQ16 >>> 16).toUInt16

theorem shiftRight_toNat (v : UInt32) : (v >>> 16).toNat = v.toNat / 65536 := by
  rw [UInt32.toNat_shiftRight]
  simp only [UInt32.reduceToNat, Nat.reduceMod, Nat.shiftRight_eq_div_pow, Nat.reducePow]

theorem reported_toNat (e : P2Estimator) : e.reported.toNat = e.getQQ16.toNat / 65536 := by
  have small := e.getQQ16.toNat_lt
  rw [reported, UInt32.toNat_toUInt16, shiftRight_toNat]
  omega

theorem reported_between {samples : Nat} {low top : UInt16} (initialized : e.initialized = true)
    (invariant : e.Invariant samples low top) : low ≤ e.reported ∧ e.reported ≤ top := by
  have below : (e.markerQQ16 0).toNat ≤ (e.markerQQ16 2).toNat :=
    (UInt32.le_iff_toNat_le.mp (invariant.monotone 0 (by decide))).trans
      (UInt32.le_iff_toNat_le.mp (invariant.monotone 1 (by decide)))
  have above : (e.markerQQ16 2).toNat ≤ (e.markerQQ16 4).toNat :=
    (UInt32.le_iff_toNat_le.mp (invariant.monotone 2 (by decide))).trans
      (UInt32.le_iff_toNat_le.mp (invariant.monotone 3 (by decide)))
  rw [invariant.bottom, shifted_toNat] at below
  rw [invariant.top, shifted_toNat] at above
  have median : e.getQQ16 = e.markerQQ16 2 := by
    simp [getQQ16, initialized]
  constructor
  · apply UInt16.le_iff_toNat_le.mpr
    rw [reported_toNat, median]
    omega
  · apply UInt16.le_iff_toNat_le.mpr
    rw [reported_toNat, median]
    omega

/-- In every run of at least five and fewer than 2^31 samples, whatever values the desired
positions take: the markers are strictly increasing from 1 to the number of samples, their heights
never decrease from the least to the greatest sample, the reported quantile lies between these,
and the next sample finds its cell and divides by nothing that is zero. -/
theorem p2_markers_in_order (pQ16 : UInt32) {samples : List (UInt16 × (Nat → Int32))}
    (many : 5 ≤ samples.length) (few : samples.length < 2147483648) :
    ∃ least greatest : UInt16,
      IsLeast {value | value ∈ samples.map Prod.fst} least ∧
        IsGreatest {value | value ∈ samples.map Prod.fst} greatest ∧
        (driven pQ16 samples).Invariant samples.length least greatest ∧
        (least ≤ (driven pQ16 samples).reported ∧ (driven pQ16 samples).reported ≤ greatest) ∧
        ∀ (value : UInt16) (markerNPrimeQ16 : Nat → Int32), samples.length + 1 < 2147483648 →
          { driven pQ16 samples with markerNPrimeQ16 := markerNPrimeQ16 }.Safe
            (value.toUInt32 <<< 16) := by
  have estimates := driven_estimates pQ16 few
  generalize driven pQ16 samples = e at estimates ⊢
  cases estimates with
  | collecting _ few' =>
      rw [List.length_map] at few'
      omega
  | estimating initialized _ count least greatest ordered isLeast isGreatest =>
      rw [List.length_map] at count ordered
      rcases isLeast with ⟨⟨low, low_listed, rfl⟩, lower⟩
      rcases isGreatest with ⟨⟨top, top_listed, rfl⟩, upper⟩
      have invariant := invariant_of_ordered count ordered
      refine ⟨low, top, ⟨low_listed, ?_⟩, ⟨top_listed, ?_⟩, invariant,
        reported_between initialized invariant, ?_⟩
      · intro value listed
        have bound := lower ⟨value, listed, rfl⟩
        exact UInt16.le_iff_toNat_le.mpr (by omega)
      · intro value listed
        have bound := upper ⟨value, listed, rfl⟩
        exact UInt16.le_iff_toNat_le.mpr (by omega)
      · intro value markerNPrimeQ16 next
        have ordered' : { e with markerNPrimeQ16 := markerNPrimeQ16 }.markers.Ordered
            samples.length (low.toNat * 65536) (top.toNat * 65536) := ordered
        exact safe_of_ordered ordered' (by omega) _

/-- Six samples that find the desired positions at 0. -/
def sixSamples : List (UInt16 × (Nat → Int32)) :=
  [(3, fun _ => 0), (1, fun _ => 0), (4, fun _ => 0), (1, fun _ => 0), (5, fun _ => 0),
    (9, fun _ => 0)]

theorem p2_markers_in_order_six :
    ∃ least greatest : UInt16, (driven 0x8000 sixSamples).Invariant 6 least greatest ∧
      least ≤ (driven 0x8000 sixSamples).reported := by
  rcases p2_markers_in_order 0x8000 (by decide : 5 ≤ sixSamples.length) (by decide) with
    ⟨least, greatest, -, -, invariant, between, -⟩
  exact ⟨least, greatest, invariant, between.1⟩

end P2Estimator

end Loxbudget
