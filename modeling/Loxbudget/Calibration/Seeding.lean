import Loxbudget.Calibration.Exact
import Mathlib.Data.List.Nodup

/-!
# Estimates before the estimator is seeded

With fewer than five samples `lb__p2_get_q_q16_` sorts its buffer of five entries, of which only
the first hold samples, and picks the entry in the middle of the samples' number. The zeros of the
others are sorted in front: up to three samples the estimate is 0, and with four it is the second
smallest of them.
-/

namespace Loxbudget

/-! ## The sorted array as a list -/

theorem Rearranges.perm {a b : Nat → UInt32} (rearranges : Rearranges a b) :
    ((List.range 5).map b).Perm ((List.range 5).map a) := by
  rcases rearranges with ⟨σ, rfl, inside⟩
  have places : ((List.range 5).map σ).Perm (List.range 5) := by
    have nodup : ((List.range 5).map σ).Nodup := List.Nodup.map σ.injective List.nodup_range
    rw [List.perm_ext_iff_of_nodup nodup List.nodup_range]
    intro k
    simp only [List.mem_map, List.mem_range]
    constructor
    · rintro ⟨j, few, rfl⟩
      exact (inside j).mpr few
    · intro few
      exact ⟨σ.symm k, (inside _).mp (by rwa [Equiv.apply_symm_apply]), σ.apply_symm_apply k⟩
  rw [← List.map_map]
  exact places.map a

theorem sort5_pairwise (a : Nat → UInt32) : ((List.range 5).map (sort5 a)).Pairwise (· ≤ ·) := by
  have first := UInt32.le_iff_toNat_le.mpr (sort5_sorted a (show 0 < 4 by decide))
  have second := UInt32.le_iff_toNat_le.mpr (sort5_sorted a (show 1 < 4 by decide))
  have third := UInt32.le_iff_toNat_le.mpr (sort5_sorted a (show 2 < 4 by decide))
  have fourth := UInt32.le_iff_toNat_le.mpr (sort5_sorted a (show 3 < 4 by decide))
  simp only [List.range, List.range.loop, List.map_cons, List.map_nil]
  rw [← List.isChain_iff_pairwise]
  simp [first, second, third, fourth]

/-- The network leaves the only sorted rearrangement of the array. -/
theorem sort5_eq_of_sorted {a : Nat → UInt32} {sorted : List UInt32}
    (perm : sorted.Perm ((List.range 5).map a)) (ordered : sorted.Pairwise (· ≤ ·)) :
    (List.range 5).map (sort5 a) = sorted :=
  List.Perm.eq_of_pairwise (fun _ _ _ _ => UInt32.le_antisymm) (sort5_pairwise a) ordered
    ((sort5_rearranges a).perm.trans perm.symm)

/-! ## The padded buffer -/

/-- The sample at index `n / 2` of the sorted list of `n` samples. -/
def middle (values : List UInt16) : UInt16 :=
  values.mergeSort.getD (values.length / 2) 0

theorem mergeSort_ordered (values : List UInt16) : values.mergeSort.Pairwise (· ≤ ·) := by
  have ordered : values.mergeSort.Pairwise fun a b => decide (a ≤ b) = true :=
    List.pairwise_mergeSort (by simpa using fun _ _ _ => UInt16.le_trans)
      (by simpa using UInt16.le_total) values
  simpa using ordered

/-- Up to five samples and the zeros behind them, sorted: the zeros come first. -/
theorem sort5_padded {values : List UInt16} (few : values.length ≤ 5) :
    (List.range 5).map (sort5 (P2Estimator.buffered values)) =
      List.replicate (5 - values.length) 0 ++ values.mergeSort.map UInt16.toUInt32 := by
  apply sort5_eq_of_sorted
  · have buffer : (List.range 5).map (P2Estimator.buffered values) =
        values.map UInt16.toUInt32 ++ List.replicate (5 - values.length) 0 := by
      apply List.ext_getElem
      · simp
        omega
      · intro k inside inside'
        simp only [List.length_map, List.length_range] at inside
        simp only [List.getElem_map, List.getElem_range, List.getElem_append, List.length_map,
          List.getElem_replicate, P2Estimator.buffered]
        split
        · rename_i sample
          rw [List.getD_eq_getElem _ _ sample]
        · rename_i padding
          rw [List.getD_eq_default _ _ (Nat.not_lt.mp padding)]
          rfl
    rw [buffer]
    exact ((List.mergeSort_perm values _).map _).append_left _ |>.trans List.perm_append_comm
  · rw [List.pairwise_append]
    refine ⟨List.pairwise_replicate.mpr (Or.inr (UInt32.le_refl 0)), ?_, ?_⟩
    · rw [List.pairwise_map]
      exact (mergeSort_ordered values).imp fun le => by
        rwa [UInt32.le_iff_toNat_le, UInt16.toNat_toUInt32, UInt16.toNat_toUInt32,
          ← UInt16.le_iff_toNat_le]
    · intro zero padding value _
      rw [List.eq_of_mem_replicate padding]
      exact UInt32.zero_le

theorem sort5_getD {values : List UInt16} (few : values.length ≤ 5) {k : Nat} (inside : k < 5) :
    sort5 (P2Estimator.buffered values) k =
      (List.replicate (5 - values.length) 0 ++ values.mergeSort.map UInt16.toUInt32).getD k 0 := by
  rw [← sort5_padded few, List.getD_eq_getElem _ _ (by simpa using inside)]
  simp

theorem sort5_padding {values : List UInt16} {k : Nat} (padding : k + values.length < 5) :
    sort5 (P2Estimator.buffered values) k = 0 := by
  rw [sort5_getD (by omega) (by omega),
    List.getD_append _ _ _ _ (by rw [List.length_replicate]; omega)]
  exact List.getD_replicate _ (by omega)

theorem sort5_sample {values : List UInt16} (few : values.length ≤ 5) {k : Nat}
    (inside : k < values.length) :
    sort5 (P2Estimator.buffered values) (5 - values.length + k) =
      (values.mergeSort.getD k 0).toUInt32 := by
  rw [sort5_getD few (by omega),
    List.getD_append_right _ _ _ _ (by rw [List.length_replicate]; omega), List.length_replicate,
    Nat.add_sub_cancel_left]
  exact List.getD_map _ 0 UInt16.toUInt32

/-! ## The estimate -/

namespace P2Estimator

variable {values : List UInt16}

theorem getQQ16_few (pQ16 : UInt32) (nonempty : values ≠ []) (few : values.length < 5) :
    (fed pQ16 values).getQQ16 = sort5 (buffered values) (values.length / 2) <<< 16 := by
  have positive := List.length_pos_of_ne_nil nonempty
  have counted : (UInt32.ofNat values.length).toNat = values.length := by
    rw [UInt32.toNat_ofNat']
    omega
  have some_sample : UInt32.ofNat values.length ≠ 0 := by
    rw [← UInt32.toNat_inj.ne, counted]
    exact positive.ne'
  have copied : (fun i => if i < values.length then buffered values i else 0) =
      buffered values := by
    funext i
    split
    · rfl
    · rename_i padding
      rw [buffered, List.getD_eq_default _ _ (Nat.not_lt.mp padding)]
      rfl
  have half : (UInt32.ofNat values.length / 2).toNat = values.length / 2 := by
    rw [UInt32.toNat_div, counted]
    rfl
  rw [fed_few pQ16 few, getQQ16]
  simp only [counted, copied, half, if_neg some_sample]
  exact if_pos rfl

theorem getQQ16_three (pQ16 : UInt32) (few : values.length < 4) :
    (fed pQ16 values).getQQ16 = 0 := by
  rcases eq_or_ne values [] with rfl | nonempty
  · rfl
  · rw [getQQ16_few pQ16 nonempty (by omega), sort5_padding (by omega)]
    rfl

theorem getQQ16_four (pQ16 : UInt32) (four : values.length = 4) :
    (fed pQ16 values).getQQ16 = (values.mergeSort.getD 1 0).toUInt32 <<< 16 := by
  have nonempty : values ≠ [] := List.ne_nil_of_length_pos (by omega)
  have second := sort5_sample (by omega) (show 1 < values.length by omega)
  rw [four] at second
  have index : 4 / 2 = 5 - 4 + 1 := rfl
  rw [getQQ16_few pQ16 nonempty (by omega), four, index, second]

theorem toUInt32_shiftLeft_inj {v w : UInt16} :
    v.toUInt32 <<< 16 = w.toUInt32 <<< 16 ↔ v = w := by
  rw [← UInt32.toNat_inj, shifted_toNat, shifted_toNat, ← UInt16.toNat_inj]
  omega

/-- The estimate is the sample in the middle, and so between the least and the greatest one. -/
structure ReportsMiddle (e : P2Estimator) (values : List UInt16) : Prop where
  middle : e.getQQ16 = (Loxbudget.middle values).toUInt32 <<< 16
  between : ∃ low ∈ values, ∃ high ∈ values,
    low.toUInt32 <<< 16 ≤ e.getQQ16 ∧ e.getQQ16 ≤ high.toUInt32 <<< 16

theorem reportsMiddle_iff (e : P2Estimator) (nonempty : values ≠ []) :
    e.ReportsMiddle values ↔ e.getQQ16 = (Loxbudget.middle values).toUInt32 <<< 16 := by
  refine ⟨ReportsMiddle.middle, fun middle => ⟨middle, ?_⟩⟩
  have positive := List.length_pos_of_ne_nil nonempty
  have inside : values.length / 2 < values.mergeSort.length := by
    rw [List.length_mergeSort]
    omega
  have sample : Loxbudget.middle values ∈ values := by
    rw [Loxbudget.middle, List.getD_eq_getElem _ _ inside]
    exact (List.mergeSort_perm values _).mem_iff.mp (List.getElem_mem inside)
  exact ⟨_, sample, _, sample, middle ▸ UInt32.le_refl _, middle ▸ UInt32.le_refl _⟩

/-- The zeros behind the samples do not show: the sample in the middle of up to three is itself 0,
or the two in the middle of four are the same. -/
def PaddingHidden (values : List UInt16) : Prop :=
  values.length < 4 ∧ middle values = 0 ∨
    values.length = 4 ∧ values.mergeSort.getD 1 0 = values.mergeSort.getD 2 0

/-- Fewer than five samples are reported as the one in their middle exactly if the zeros behind
them do not show. -/
theorem few_reportsMiddle_iff (pQ16 : UInt32) {values : List UInt16} (nonempty : values ≠ [])
    (few : values.length < 5) :
    (fed pQ16 values).ReportsMiddle values ↔ PaddingHidden values := by
  rw [reportsMiddle_iff _ nonempty, PaddingHidden]
  rcases Nat.lt_or_ge values.length 4 with three | four
  · have zero : (0 : UInt32) = (0 : UInt16).toUInt32 <<< 16 := rfl
    rw [getQQ16_three pQ16 three, zero, toUInt32_shiftLeft_inj]
    constructor
    · exact fun shown => Or.inl ⟨three, shown.symm⟩
    · rintro (⟨-, shown⟩ | ⟨four, -⟩)
      · exact shown.symm
      · omega
  · have four : values.length = 4 := by omega
    rw [getQQ16_four pQ16 four, toUInt32_shiftLeft_inj, middle, four]
    constructor
    · exact fun same => Or.inr ⟨rfl, same⟩
    · rintro (⟨three, -⟩ | ⟨-, same⟩)
      · omega
      · exact same

theorem few_reportsMiddle_one :
    (fed 0x8000 [7]).ReportsMiddle [7] ↔ PaddingHidden [7] :=
  few_reportsMiddle_iff 0x8000 (by decide) (by decide)

/-- A single sample of 7 is reported as 0. -/
theorem one_sample_lost :
    (fed 0x8000 [7]).getQQ16 = 0 ∧ middle [7] = 7 ∧ ¬(fed 0x8000 [7]).ReportsMiddle [7] := by
  have middle_seven : middle [7] = 7 := by
    rw [middle, List.mergeSort_singleton]
    rfl
  refine ⟨by decide, middle_seven, ?_⟩
  intro reports
  have lost := reports.middle
  rw [middle_seven] at lost
  exact absurd lost (by decide)

end P2Estimator

end Loxbudget
