import Mathlib.Algebra.Order.Group.Int
import Mathlib.Algebra.Order.Ring.Int
import Mathlib.Logic.Function.Basic

/-!
# Five markers along a stream of values

A quantile estimator keeps five markers. A marker has a position, which counts the
values up to it, and a height. A new value moves the markers above its cell up by one
position; then each inner marker that lags behind where it should be moves one position
towards a neighbour, if there is room, and its height is interpolated: the candidate
height is taken if it lies strictly between the heights of the neighbours, and the
linear interpolation towards the neighbour otherwise.

Whatever the candidates are and whichever markers lag, the markers stay in order, and
the outer ones are the least and the greatest value (`Ordered.step`).
-/

/-- Five markers, by their index. -/
structure Markers where
  pos : Nat → Int
  height : Nat → Int

namespace Markers

variable (markers : Markers)

/-- The cell of a value between the outer markers. -/
def cell (value : Int) : Option Nat :=
  (List.range 4).find? fun k =>
    markers.height k ≤ value ∧ value < markers.height (k + 1)

/-- The markers above a cell move up by one position. -/
def bump (k : Nat) : Nat → Int := fun i =>
  if k < i ∧ i < 5 then markers.pos i + 1 else markers.pos i

/-- A new value is counted in its cell; an outer marker makes way for it. -/
def place (value : Int) : Markers :=
  if value < markers.height 0 then
    ⟨markers.bump 0, Function.update markers.height 0 value⟩
  else if markers.height 4 ≤ value then
    ⟨markers.bump 3, Function.update markers.height 4 value⟩
  else ⟨markers.bump ((markers.cell value).getD 0), markers.height⟩

/-- Where a marker moves that lags by so much behind its desired position, in parts of a position:
up, down, or not at all, which is also where there is no room. -/
def direction (unit lag : Int) (i : Nat) : Int :=
  if unit ≤ lag ∧ 1 < markers.pos (i + 1) - markers.pos i then 1
  else if lag ≤ -unit ∧ 1 < markers.pos i - markers.pos (i - 1) then -1
  else 0

/-- The marker towards which marker `i` moves. -/
def neighbour (i : Nat) (d : Int) : Nat :=
  (i + d).toNat

/-- The linear interpolation of the new height. -/
def linear (i : Nat) (d : Int) : Int :=
  markers.height i + (d * (markers.height (neighbour i d) - markers.height i)).tdiv
    (markers.pos (neighbour i d) - markers.pos i)

/-- The piecewise-parabolic interpolation of the new height. -/
def parabola (i : Nat) (d : Int) : Int :=
  markers.height i +
    (d * (((markers.pos i - markers.pos (i - 1) + d) *
          (markers.height (i + 1) - markers.height i)).tdiv
            (markers.pos (i + 1) - markers.pos i) +
        ((markers.pos (i + 1) - markers.pos i - d) *
          (markers.height i - markers.height (i - 1))).tdiv
            (markers.pos i - markers.pos (i - 1)))).tdiv
      (markers.pos (i + 1) - markers.pos (i - 1))

/-- A height strictly between those of the neighbours of marker `i`. -/
def Between (i : Nat) (height : Int) : Prop :=
  markers.height (i - 1) < height ∧ height < markers.height (i + 1)

instance (i : Nat) (height : Int) : Decidable (markers.Between i height) :=
  inferInstanceAs (Decidable (_ ∧ _))

/-- The new height of marker `i`, which moves in the direction `d`. -/
def moved (candidate : Markers → Nat → Int → Int) (i : Nat) (d : Int) : Int :=
  if markers.Between i (candidate markers i d) then candidate markers i d
  else markers.linear i d

/-- Marker `i` moves if it lags and has room. -/
def adjust (candidate : Markers → Nat → Int → Int) (unit lag : Int) (i : Nat) : Markers :=
  let d := markers.direction unit lag i
  if d = 0 then markers
  else
    ⟨Function.update markers.pos i (markers.pos i + d),
      Function.update markers.height i (markers.moved candidate i d)⟩

/-- One value of the stream; `lag` tells how far the inner markers lag once it is counted. -/
def step (candidate : Markers → Nat → Int → Int) (unit : Int) (lag : Markers → Nat → Int)
    (value : Int) : Markers :=
  let placed := markers.place value
  [1, 2, 3].foldl (fun moving i => moving.adjust candidate unit (lag placed i) i) placed

/-- The markers are in order, and their ends are known. -/
structure Ordered (count least greatest : Int) : Prop where
  first : markers.pos 0 = 1
  increasing : ∀ i < 4, markers.pos i < markers.pos (i + 1)
  last : markers.pos 4 = count
  monotone : ∀ i < 4, markers.height i ≤ markers.height (i + 1)
  bottom : markers.height 0 = least
  top : markers.height 4 = greatest

/-! ## Counting a value -/

variable {markers} {count least greatest : Int}

/-- A value between the outer markers has a cell. -/
theorem cell_isSome {value : Int} (above : markers.height 0 ≤ value)
    (below : value < markers.height 4) : (markers.cell value).isSome = true := by
  rw [cell, List.find?_isSome]
  by_cases first : value < markers.height 1
  · exact ⟨0, by simp, by simp [above, first]⟩
  by_cases second : value < markers.height 2
  · exact ⟨1, by simp, by simp [not_lt.mp first, second]⟩
  by_cases third : value < markers.height 3
  · exact ⟨2, by simp, by simp [not_lt.mp second, third]⟩
  · exact ⟨3, by simp, by simp [not_lt.mp third, below]⟩

theorem cell_lt {value : Int} {k : Nat} (found : markers.cell value = some k) : k < 4 := by
  have listed := List.mem_of_find?_eq_some found
  simpa using listed

namespace Ordered

theorem bump (ordered : markers.Ordered count least greatest) {k : Nat} (inside : k < 4) :
    markers.bump k 0 = 1 ∧ (∀ i < 4, markers.bump k i < markers.bump k (i + 1)) ∧
      markers.bump k 4 = count + 1 := by
  refine ⟨?_, ?_, ?_⟩
  · simp [Markers.bump, ordered.first]
  · intro i inner
    have before := ordered.increasing i inner
    simp only [Markers.bump]
    split
    · rename_i above
      rw [if_pos (by omega)]
      omega
    · split
      · omega
      · exact before
  · simp [Markers.bump, inside, ordered.last]

theorem height_mono (ordered : markers.Ordered count least greatest) {i j : Nat} (le : i ≤ j)
    (inside : j ≤ 4) : markers.height i ≤ markers.height j := by
  induction j, le using Nat.le_induction with
  | base => exact le_refl _
  | succ j _ ih => exact (ih (by omega)).trans (ordered.monotone j (by omega))

theorem pos_mono (ordered : markers.Ordered count least greatest) {i j : Nat} (le : i ≤ j)
    (inside : j ≤ 4) : markers.pos i ≤ markers.pos j := by
  induction j, le using Nat.le_induction with
  | base => exact le_refl _
  | succ j _ ih => exact (ih (by omega)).trans (ordered.increasing j (by omega)).le

/-- Every position is one of the values counted so far. -/
theorem pos_bounds (ordered : markers.Ordered count least greatest) {i : Nat} (inside : i ≤ 4) :
    1 ≤ markers.pos i ∧ markers.pos i ≤ count := by
  have low := ordered.pos_mono (Nat.zero_le i) inside
  have high := ordered.pos_mono inside le_rfl
  rw [ordered.first] at low
  rw [ordered.last] at high
  exact ⟨low, high⟩

theorem least_le (ordered : markers.Ordered count least greatest) : least ≤ greatest := by
  have ends := ordered.height_mono (Nat.zero_le 4) le_rfl
  rwa [ordered.bottom, ordered.top] at ends

theorem place (ordered : markers.Ordered count least greatest) (value : Int) :
    (markers.place value).Ordered (count + 1) (min least value) (max greatest value) := by
  have ends := ordered.least_le
  rw [Markers.place, ordered.bottom, ordered.top]
  split
  · rename_i below
    have moved := ordered.bump (show 0 < 4 by decide)
    rw [min_eq_right below.le, max_eq_left (below.le.trans ends)]
    refine ⟨moved.1, moved.2.1, moved.2.2, ?_, ?_, ?_⟩
    · intro i inner
      have before := ordered.monotone i inner
      cases i with
      | zero =>
          rw [ordered.bottom] at before
          simp only [Function.update_self, Function.update_of_ne (Nat.succ_ne_zero 0)]
          exact below.le.trans before
      | succ i => simpa [Function.update_of_ne] using before
    · simp
    · simp [ordered.top]
  split
  · rename_i above
    have moved := ordered.bump (show 3 < 4 by decide)
    rw [min_eq_left (ends.trans above), max_eq_right above]
    refine ⟨moved.1, moved.2.1, moved.2.2, ?_, ?_, ?_⟩
    · intro i inner
      have before := ordered.monotone i inner
      have apart : i ≠ 4 := by omega
      by_cases last : i = 3
      · subst last
        rw [ordered.top] at before
        simp only [Function.update_self, Function.update_of_ne apart]
        exact before.trans above
      · have apart' : i + 1 ≠ 4 := by omega
        simpa only [Function.update_of_ne apart, Function.update_of_ne apart'] using before
    · simp [ordered.bottom]
    · simp
  · rename_i above below
    have above' := not_lt.mp above
    have below' := not_le.mp below
    rw [min_eq_left above', max_eq_left below'.le]
    rw [← ordered.bottom] at above'
    rw [← ordered.top] at below'
    rcases Option.isSome_iff_exists.mp (cell_isSome above' below') with ⟨k, cell⟩
    rw [cell, Option.getD_some]
    have moved := ordered.bump (cell_lt cell)
    exact ⟨moved.1, moved.2.1, moved.2.2, ordered.monotone, ordered.bottom, ordered.top⟩

/-- The divisors of both interpolations of an inner marker. -/
theorem gaps (ordered : markers.Ordered count least greatest) {i : Nat} (low : 1 ≤ i)
    (high : i ≤ 3) :
    0 < markers.pos (i + 1) - markers.pos i ∧ 0 < markers.pos i - markers.pos (i - 1) := by
  have above := ordered.increasing i (by omega)
  have below := ordered.increasing (i - 1) (by omega)
  rw [Nat.sub_add_cancel low] at below
  omega

/-- The heights around an inner marker. -/
theorem slopes (ordered : markers.Ordered count least greatest) {i : Nat} (low : 1 ≤ i)
    (high : i ≤ 3) :
    0 ≤ markers.height (i + 1) - markers.height i ∧
      0 ≤ markers.height i - markers.height (i - 1) := by
  have above := ordered.monotone i (by omega)
  have below := ordered.monotone (i - 1) (by omega)
  rw [Nat.sub_add_cancel low] at below
  omega

end Ordered

/-! ## Moving a marker -/

/-- The directions in which a marker can move, with the room that they ask for. -/
theorem direction_cases (markers : Markers) (unit lag : Int) (i : Nat) :
    markers.direction unit lag i = 0 ∨
      markers.direction unit lag i = 1 ∧ unit ≤ lag ∧
        1 < markers.pos (i + 1) - markers.pos i ∨
      markers.direction unit lag i = -1 ∧ lag ≤ -unit ∧
        1 < markers.pos i - markers.pos (i - 1) := by
  rw [direction]
  split
  · rename_i up
    exact Or.inr (Or.inl ⟨rfl, up⟩)
  split
  · rename_i down
    exact Or.inr (Or.inr ⟨rfl, down⟩)
  · exact Or.inl rfl

@[simp]
theorem neighbour_up (i : Nat) : neighbour i 1 = i + 1 := by
  simp only [neighbour]
  omega

@[simp]
theorem neighbour_down (i : Nat) : neighbour i (-1) = i - 1 := by
  simp only [neighbour]
  omega

theorem linear_up (markers : Markers) (i : Nat) :
    markers.linear i 1 = markers.height i +
      (markers.height (i + 1) - markers.height i).tdiv
        (markers.pos (i + 1) - markers.pos i) := by
  rw [linear, neighbour_up, Int.one_mul]

theorem linear_down (markers : Markers) (i : Nat) :
    markers.linear i (-1) = markers.height i -
      (markers.height i - markers.height (i - 1)).tdiv
        (markers.pos i - markers.pos (i - 1)) := by
  have rise : -1 * (markers.height (i - 1) - markers.height i) =
      markers.height i - markers.height (i - 1) := by omega
  have run : markers.pos (i - 1) - markers.pos i = -(markers.pos i - markers.pos (i - 1)) := by
    omega
  rw [linear, neighbour_down, rise, run, Int.tdiv_neg]
  exact Int.sub_eq_add_neg.symm

namespace Ordered

variable {candidate : Markers → Nat → Int → Int} {unit lag d : Int} {i : Nat}

/-- A marker that moves up is interpolated up to its upper neighbour at most. -/
theorem linear_up (ordered : markers.Ordered count least greatest) (low : 1 ≤ i) (high : i ≤ 3) :
    markers.height i ≤ markers.linear i 1 ∧ markers.linear i 1 ≤ markers.height (i + 1) := by
  have slopes := ordered.slopes low high
  have gaps := ordered.gaps low high
  have lower := Int.tdiv_nonneg slopes.1 gaps.1.le
  have upper := Int.tdiv_le_self (markers.pos (i + 1) - markers.pos i) slopes.1
  rw [Markers.linear_up]
  omega

/-- A marker that moves down is interpolated down to its lower neighbour at most. -/
theorem linear_down (ordered : markers.Ordered count least greatest) (low : 1 ≤ i)
    (high : i ≤ 3) :
    markers.height (i - 1) ≤ markers.linear i (-1) ∧
      markers.linear i (-1) ≤ markers.height i := by
  have slopes := ordered.slopes low high
  have gaps := ordered.gaps low high
  have lower := Int.tdiv_nonneg slopes.2 gaps.2.le
  have upper := Int.tdiv_le_self (markers.pos i - markers.pos (i - 1)) slopes.2
  rw [Markers.linear_down]
  omega

/-- Whatever the candidate is, the new height lies between those of the neighbours. -/
theorem moved (ordered : markers.Ordered count least greatest) (low : 1 ≤ i) (high : i ≤ 3)
    (moves : d = 1 ∨ d = -1) :
    markers.height (i - 1) ≤ markers.moved candidate i d ∧
      markers.moved candidate i d ≤ markers.height (i + 1) := by
  have slopes := ordered.slopes low high
  rw [Markers.moved]
  split
  · rename_i between
    exact ⟨between.1.le, between.2.le⟩
  · rcases moves with rfl | rfl
    · have inside := ordered.linear_up low high
      omega
    · have inside := ordered.linear_down low high
      omega

/-- The step lemma: a marker that moves stays in order. -/
theorem adjust (ordered : markers.Ordered count least greatest) (low : 1 ≤ i) (high : i ≤ 3) :
    (markers.adjust candidate unit lag i).Ordered count least greatest := by
  have gaps := ordered.gaps low high
  rw [Markers.adjust]
  split
  · exact ordered
  rename_i moves
  have room : markers.pos (i - 1) < markers.pos i + markers.direction unit lag i ∧
      markers.pos i + markers.direction unit lag i < markers.pos (i + 1) := by
    rcases markers.direction_cases unit lag i with still | ⟨up, -, room⟩ | ⟨down, -, room⟩
    · exact absurd still moves
    · rw [up]
      omega
    · rw [down]
      omega
  have between : markers.height (i - 1) ≤
        markers.moved candidate i (markers.direction unit lag i) ∧
      markers.moved candidate i (markers.direction unit lag i) ≤ markers.height (i + 1) := by
    apply ordered.moved low high
    rcases markers.direction_cases unit lag i with still | ⟨up, -⟩ | ⟨down, -⟩
    · exact absurd still moves
    · exact Or.inl up
    · exact Or.inr down
  have bottom_ne : 0 ≠ i := by omega
  have top_ne : 4 ≠ i := by omega
  refine ⟨?_, ?_, ?_, ?_, ?_, ?_⟩
  · exact (Function.update_of_ne bottom_ne _ _).trans ordered.first
  · intro j inner
    have before := ordered.increasing j inner
    by_cases here : j = i
    · subst here
      simpa [Function.update_of_ne (Nat.succ_ne_self j)] using room.2
    · by_cases below : j + 1 = i
      · subst below
        simpa [Function.update_of_ne here] using room.1
      · simpa [Function.update_of_ne here, Function.update_of_ne below] using before
  · exact (Function.update_of_ne top_ne _ _).trans ordered.last
  · intro j inner
    have before := ordered.monotone j inner
    by_cases here : j = i
    · subst here
      simpa [Function.update_of_ne (Nat.succ_ne_self j)] using between.2
    · by_cases below : j + 1 = i
      · subst below
        simpa [Function.update_of_ne here] using between.1
      · simpa [Function.update_of_ne here, Function.update_of_ne below] using before
  · exact (Function.update_of_ne bottom_ne _ _).trans ordered.bottom
  · exact (Function.update_of_ne top_ne _ _).trans ordered.top

/-- One value of the stream keeps the markers in order. -/
theorem step {lag : Markers → Nat → Int} (ordered : markers.Ordered count least greatest)
    (value : Int) :
    (markers.step candidate unit lag value).Ordered (count + 1) (min least value)
      (max greatest value) := by
  have placed := ordered.place value
  exact ((placed.adjust le_rfl (by decide)).adjust (by decide) (by decide)).adjust (by decide)
    le_rfl

/-- The parabola points where the marker moves. -/
theorem parabola_up (ordered : markers.Ordered count least greatest) (low : 1 ≤ i)
    (high : i ≤ 3) : markers.height i ≤ markers.parabola i 1 := by
  have slopes := ordered.slopes low high
  have gaps := ordered.gaps low high
  have above := Int.tdiv_nonneg (Int.mul_nonneg
    (by omega : 0 ≤ markers.pos i - markers.pos (i - 1) + 1) slopes.1) gaps.1.le
  have below := Int.tdiv_nonneg (Int.mul_nonneg
    (by omega : 0 ≤ markers.pos (i + 1) - markers.pos i - 1) slopes.2) gaps.2.le
  have rise := Int.tdiv_nonneg (Int.add_nonneg above below)
    (by omega : 0 ≤ markers.pos (i + 1) - markers.pos (i - 1))
  rw [Markers.parabola, Int.one_mul]
  omega

theorem parabola_down (ordered : markers.Ordered count least greatest) (low : 1 ≤ i)
    (high : i ≤ 3) : markers.parabola i (-1) ≤ markers.height i := by
  have slopes := ordered.slopes low high
  have gaps := ordered.gaps low high
  have above := Int.tdiv_nonneg (Int.mul_nonneg
    (by omega : 0 ≤ markers.pos i - markers.pos (i - 1) + -1) slopes.1) gaps.1.le
  have below := Int.tdiv_nonneg (Int.mul_nonneg
    (by omega : 0 ≤ markers.pos (i + 1) - markers.pos i - -1) slopes.2) gaps.2.le
  have fall := Int.tdiv_nonneg (Int.add_nonneg above below)
    (by omega : 0 ≤ markers.pos (i + 1) - markers.pos (i - 1))
  rw [Markers.parabola, Int.neg_one_mul, Int.neg_tdiv]
  omega

end Ordered

/-! ## Two candidates -/

section Candidates

variable {candidate other : Markers → Nat → Int → Int} {unit : Int} {lag : Nat → Int}

/-- The markers as the adjustment of marker `i` finds them. -/
def reach (candidate : Markers → Nat → Int → Int) (unit : Int) (lag : Nat → Int) (i : Nat) :
    Markers :=
  (List.range' 1 (i - 1)).foldl (fun moving j => moving.adjust candidate unit (lag j) j) markers

theorem reach_succ (markers : Markers) (candidate : Markers → Nat → Int → Int) (unit : Int)
    (lag : Nat → Int) {i : Nat} (low : 1 ≤ i) :
    markers.reach candidate unit lag (i + 1) =
      (markers.reach candidate unit lag i).adjust candidate unit (lag i) i := by
  have counted : i + 1 - 1 = i - 1 + 1 := by omega
  have last : 1 + (i - 1) = i := by omega
  rw [reach, counted, List.range'_1_concat, List.foldl_append, last]
  rfl

theorem step_eq_reach (markers : Markers) (candidate : Markers → Nat → Int → Int) (unit : Int)
    (lag : Markers → Nat → Int) (value : Int) :
    markers.step candidate unit lag value =
      (markers.place value).reach candidate unit (lag (markers.place value)) 4 := rfl

theorem adjust_height_of_ne {lag : Int} {i j : Nat} (apart : j ≠ i) :
    (markers.adjust candidate unit lag i).height j = markers.height j := by
  simp only [adjust]
  split
  · rfl
  · exact Function.update_of_ne apart _ _

theorem reach_congr {lag' : Nat → Int} {i : Nat} (same : ∀ j, 1 ≤ j → j < i → lag j = lag' j) :
    markers.reach candidate unit lag i = markers.reach candidate unit lag' i := by
  induction i with
  | zero => rfl
  | succ i ih =>
      rcases Nat.eq_zero_or_pos i with rfl | low
      · rfl
      · have before := ih fun j low' below => same j low' (by omega)
        rw [reach_succ _ _ _ _ low, reach_succ _ _ _ _ low, before,
          same i low (Nat.lt_succ_self i)]

theorem Ordered.reach (ordered : markers.Ordered count least greatest) {i : Nat} (high : i ≤ 4) :
    (markers.reach candidate unit lag i).Ordered count least greatest := by
  induction i with
  | zero => exact ordered
  | succ i ih =>
      rcases Nat.eq_zero_or_pos i with rfl | low
      · exact ordered
      · rw [reach_succ _ _ _ _ low]
        exact (ih (by omega)).adjust low (by omega)

/-- An adjustment leaves the markers below alone. -/
theorem reach_height {i j k : Nat} (low : 1 ≤ i) (le : i ≤ k) (below : j < i) :
    (markers.reach candidate unit lag k).height j =
      (markers.reach candidate unit lag i).height j := by
  induction k, le using Nat.le_induction with
  | base => rfl
  | succ k le ih =>
      have apart : j ≠ k := by omega
      rw [reach_succ markers candidate unit lag (low.trans le), adjust_height_of_ne apart]
      exact ih

/-- If marker `i` moves, both candidates give it the same height. -/
def Agree (candidate other : Markers → Nat → Int → Int) (unit lag : Int) (i : Nat) : Prop :=
  markers.direction unit lag i ≠ 0 →
    markers.moved candidate i (markers.direction unit lag i) =
      markers.moved other i (markers.direction unit lag i)

theorem adjust_eq {lag : Int} {i : Nat} (agree : markers.Agree candidate other unit lag i) :
    markers.adjust candidate unit lag i = markers.adjust other unit lag i := by
  simp only [adjust]
  split
  · rfl
  · rename_i moves
    rw [agree moves]

theorem agree_of_height {lag : Int} {i : Nat}
    (same : (markers.adjust candidate unit lag i).height i =
      (markers.adjust other unit lag i).height i) :
    markers.Agree candidate other unit lag i := by
  intro moves
  simpa only [adjust, if_neg moves, Function.update_self] using same

theorem reach_eq {i : Nat}
    (agree : ∀ j, 1 ≤ j → j < i →
      (markers.reach other unit lag j).Agree candidate other unit (lag j) j) :
    markers.reach candidate unit lag i = markers.reach other unit lag i := by
  induction i with
  | zero => rfl
  | succ i ih =>
      rcases Nat.eq_zero_or_pos i with rfl | low
      · rfl
      · have before := ih fun j low' below => agree j low' (by omega)
        rw [reach_succ _ _ _ _ low, reach_succ _ _ _ _ low, before]
        exact adjust_eq (agree i low (Nat.lt_succ_self i))

/-- Two candidates come to the same markers if and only if they agree at every adjustment: where
they first differ, the later adjustments leave the difference alone. -/
theorem reach_eq_iff {k : Nat} :
    markers.reach candidate unit lag k = markers.reach other unit lag k ↔
      ∀ i, 1 ≤ i → i < k →
        (markers.reach other unit lag i).Agree candidate other unit (lag i) i := by
  refine ⟨?_, reach_eq⟩
  intro same i
  induction i using Nat.strongRecOn with
  | ind i ih =>
      intro low inside
      have before : markers.reach candidate unit lag i = markers.reach other unit lag i :=
        reach_eq fun j low' below => ih j below low' (by omega)
      apply agree_of_height
      calc
        _ = (markers.reach candidate unit lag (i + 1)).height i := by
          rw [reach_succ _ _ _ _ low, before]
        _ = (markers.reach candidate unit lag k).height i :=
          (reach_height (by omega) inside (Nat.lt_succ_self i)).symm
        _ = (markers.reach other unit lag k).height i := by rw [same]
        _ = (markers.reach other unit lag (i + 1)).height i :=
          reach_height (by omega) inside (Nat.lt_succ_self i)
        _ = _ := by rw [reach_succ _ _ _ _ low]

end Candidates

end Markers
