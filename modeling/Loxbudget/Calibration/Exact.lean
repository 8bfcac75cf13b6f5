import Loxbudget.Calibration.Estimator
import Mathlib.Data.List.Basic
import Mathlib.Data.List.GetD

/-!
# The estimator beside the exact algorithm

The same algorithm over unbounded integers takes the parabola as it is; the code narrows
it to 32 bits before it compares it with the heights of the neighbours. An overshoot can
so be read as a height in between. This is the only way in which a stream of fewer than
32768 samples tells the two apart.
-/

namespace Loxbudget

/-! ## The exact algorithm -/

/-- The markers of the exact algorithm, and their desired positions in Q16.16. -/
structure ExactP2 where
  markers : Markers
  desired : Nat → Int

namespace ExactP2

/-- The increments of the desired positions. -/
def increment (pQ16 : Int) : Nat → Int :=
  five 0 (pQ16 / 2) pQ16 ((0x10000 + pQ16) / 2) 0x10000

/-- The first five values, sorted, are the first markers. -/
def seed (pQ16 : Int) (first : List Int) : ExactP2 where
  markers :=
    ⟨five 1 2 3 4 5, fun i => sort5 (fun k => first.getD k 0) i * 0x10000⟩
  desired := five 0x10000 (0x10000 + 2 * pQ16) (0x10000 + 4 * pQ16) (0x30000 + 2 * pQ16) 0x50000

/-- The desired positions once a value is counted. -/
def advance (pQ16 : Int) (exact : ExactP2) : Nat → Int := fun i =>
  if i < 5 then exact.desired i + increment pQ16 i else exact.desired i

/-- How far the markers lag once a value is counted. -/
def lag (pQ16 : Int) (exact : ExactP2) (placed : Markers) : Nat → Int := fun i =>
  exact.advance pQ16 i - placed.pos i * 0x10000

/-- One more value. -/
def add (pQ16 : Int) (exact : ExactP2) (value : Int) : ExactP2 where
  markers := exact.markers.step Markers.parabola 0x10000 (exact.lag pQ16) (value * 0x10000)
  desired := exact.advance pQ16

/-- The exact algorithm on a stream of at least five values. -/
def run (pQ16 : Int) (values : List Int) : ExactP2 :=
  (values.drop 5).foldl (add pQ16) (seed pQ16 (values.take 5))

end ExactP2

/-- The estimator after a stream of RAM samples. -/
def P2Estimator.fed (pQ16 : UInt32) (values : List UInt16) : P2Estimator :=
  values.foldl (fun e value => e.addSample pQ16 value.toUInt32) (p2Init pQ16)

/-- The exact algorithm on the same stream. -/
def ExactP2.fed (pQ16 : UInt32) (values : List UInt16) : ExactP2 :=
  run pQ16.toNat (values.map fun value => (value.toNat : Int))

/-- The parabola leaves the heights of the neighbours, but what is left of it in 32 bits lies
between them, and elsewhere than the linear interpolation. -/
def Misread (markers : Markers) (i : Nat) (d : Int) : Prop :=
  ¬markers.Between i (markers.parabola i d) ∧ markers.Between i (narrowedParabola markers i d) ∧
    narrowedParabola markers i d ≠ markers.linear i d

/-- The markers that the adjustment of marker `i` finds when the exact algorithm adds a value. -/
def ExactP2.found (pQ16 : Int) (exact : ExactP2) (value : Int) (i : Nat) : Markers :=
  let placed := exact.markers.place (value * 0x10000)
  placed.reach Markers.parabola 0x10000 (exact.lag pQ16 placed) i

/-- How it moves marker `i` then. -/
def ExactP2.move (pQ16 : Int) (exact : ExactP2) (value : Int) (i : Nat) : Int :=
  (exact.found pQ16 value i).direction 0x10000
    (exact.lag pQ16 (exact.markers.place (value * 0x10000)) i) i

/-- No marker that moves for this value has its parabola misread. -/
def ExactP2.ReadsTrue (pQ16 : Int) (exact : ExactP2) (value : Int) : Prop :=
  ∀ i, 1 ≤ i → i < 4 → exact.move pQ16 value i ≠ 0 →
    ¬Misread (exact.found pQ16 value i) i (exact.move pQ16 value i)

/-! ## The seeds -/

section Sorting

variable {α β : Type} [LT α] [DecidableLT α] [LT β] [DecidableLT β] {f : α → β}

theorem swapIfGreater_comp (mono : ∀ x y, f x > f y ↔ x > y) (i j : Nat) (a : Nat → α) :
    swapIfGreater i j (f ∘ a) = f ∘ swapIfGreater i j a := by
  simp only [swapIfGreater, Function.comp_apply, mono]
  split
  · rw [Function.comp_update, Function.comp_update]
  · rfl

/-- Sorting commutes with what keeps the order. -/
theorem sort5_comp (mono : ∀ x y, f x > f y ↔ x > y) (a : Nat → α) :
    sort5 (f ∘ a) = f ∘ sort5 a := by
  simp only [sort5, swapIfGreater_comp mono]

end Sorting

namespace P2Estimator

variable {values : List UInt16} {value : UInt16} {pQ16 : UInt32}

theorem fed_append (pQ16 : UInt32) (values : List UInt16) (value : UInt16) :
    fed pQ16 (values ++ [value]) = (fed pQ16 values).addSample pQ16 value.toUInt32 := by
  rw [fed, List.foldl_append]
  rfl

/-- The buffer that the first values fill. -/
def buffered (values : List UInt16) : Nat → UInt32 :=
  fun k => (values.getD k 0).toUInt32

theorem buffered_append (values : List UInt16) (value : UInt16) :
    Function.update (buffered values) values.length value.toUInt32 =
      buffered (values ++ [value]) := by
  funext k
  rcases Nat.lt_trichotomy k values.length with before | rfl | after
  · rw [Function.update_of_ne before.ne, buffered, buffered, List.getD_append _ _ _ _ before]
  · simp [buffered]
  · have outside : (values ++ [value]).length ≤ k := by
      rw [List.length_append, List.length_singleton]
      exact after
    rw [Function.update_of_ne after.ne', buffered, buffered,
      List.getD_eq_default _ _ outside, List.getD_eq_default _ _ after.le]

theorem fed_few (pQ16 : UInt32) (few : values.length < 5) :
    fed pQ16 values =
      { p2Init pQ16 with
        initialBuffer := buffered values
        count := UInt32.ofNat values.length } := by
  induction values using List.reverseRecOn with
  | nil => rfl
  | append_singleton values value ih =>
      rw [List.length_append, List.length_singleton] at few ⊢
      have counted : (UInt32.ofNat values.length).toNat = values.length := by
        rw [UInt32.toNat_ofNat']
        omega
      have open' : UInt32.ofNat values.length + 1 ≠ 5 := by
        rw [← UInt32.toNat_inj.ne, UInt32.toNat_add, counted]
        simp only [UInt32.reduceToNat]
        omega
      rw [fed_append, ih (by omega), addSample]
      simp only [counted, buffered_append, if_neg open']
      rw [if_pos (show (p2Init pQ16).initialized = false from rfl), UInt32.ofNat_add]
      rfl

theorem fed_five (pQ16 : UInt32) (five : values.length = 5) :
    fed pQ16 values =
      { p2Init pQ16 with initialBuffer := buffered values, count := 5 }.seed5 pQ16 := by
  rcases List.eq_nil_or_concat' values with rfl | ⟨first, last, rfl⟩
  · cases five
  · rw [List.length_append, List.length_singleton] at five
    have four : first.length = 4 := by omega
    have full := buffered_append first last
    rw [four] at full
    rw [fed_append, fed_few pQ16 (by omega), addSample, four, ← full]
    rfl

end P2Estimator

namespace ExactP2

variable {values : List UInt16} {value : UInt16} {pQ16 : UInt32}

theorem fed_append (pQ16 : UInt32) (many : 5 ≤ values.length) (value : UInt16) :
    fed pQ16 (values ++ [value]) = (fed pQ16 values).add pQ16.toNat value.toNat := by
  have many' : 5 ≤ (values.map fun value => (value.toNat : Int)).length := by
    rwa [List.length_map]
  rw [fed, run, List.map_append, List.drop_append_of_le_length many',
    List.take_append_of_le_length many', List.foldl_append]
  rfl

theorem fed_five (pQ16 : UInt32) (five : values.length = 5) :
    fed pQ16 values = seed pQ16.toNat (values.map fun value => (value.toNat : Int)) := by
  have five' : (values.map fun value => (value.toNat : Int)).length = 5 := by
    rwa [List.length_map]
  rw [fed, run, List.drop_of_length_le five'.le, List.take_of_length_le five'.le]
  rfl

end ExactP2

/-- Both algorithms start from the same markers. -/
theorem seed_markers (pQ16 : UInt32) {values : List UInt16} (five' : values.length = 5) :
    (P2Estimator.fed pQ16 values).markers = (ExactP2.fed pQ16 values).markers := by
  have mono : ∀ x y : UInt16, (x.toNat : Int) > y.toNat ↔ x > y := by
    intro x y
    rw [gt_iff_lt, gt_iff_lt, UInt16.lt_iff_toNat_lt, Int.ofNat_lt]
  have mono' : ∀ x y : UInt16, x.toUInt32 > y.toUInt32 ↔ x > y := by
    intro x y
    rw [gt_iff_lt, gt_iff_lt, UInt32.lt_iff_toNat_lt, UInt16.lt_iff_toNat_lt,
      UInt16.toNat_toUInt32, UInt16.toNat_toUInt32]
  have buffer : P2Estimator.buffered values = UInt16.toUInt32 ∘ fun k => values.getD k 0 := rfl
  have listed : (fun k => (values.map fun value => (value.toNat : Int)).getD k 0) =
      (fun value : UInt16 => (value.toNat : Int)) ∘ fun k => values.getD k 0 := by
    funext k
    exact List.getD_map values 0 fun value : UInt16 => (value.toNat : Int)
  rw [P2Estimator.fed_five pQ16 five', ExactP2.fed_five pQ16 five']
  simp only [P2Estimator.markers, P2Estimator.seed5, ExactP2.seed, Markers.mk.injEq, buffer,
    listed]
  rw [sort5_comp mono', sort5_comp mono]
  constructor
  · funext i
    rcases i with _ | _ | _ | _ | i
    all_goals rfl
  · funext i
    have shifted := P2Estimator.shifted_toNat (sort5 (fun k => values.getD k 0) i)
    simp only [Function.comp_apply, shifted]
    push_cast
    rfl

/-! ## The desired positions -/

/-- The estimator has the increments and the desired positions of the exact algorithm after `n`
values. -/
structure P2Estimator.Tracks (e : P2Estimator) (exact : ExactP2) (pQ16 : UInt32) (n : Nat) :
    Prop where
  initialized : e.initialized = true
  increments : ∀ i < 5, (e.dnQ16 i).toInt32.toInt = ExactP2.increment pQ16.toNat i
  desired : ∀ i < 5, (e.markerNPrimeQ16 i).toInt = exact.desired i
  bounds : ∀ i < 5, 0 ≤ exact.desired i ∧ exact.desired i ≤ 65536 * n

theorem ExactP2.increment_bounds {pQ16 : UInt32} (small : pQ16.toNat ≤ 65536) {i : Nat}
    (inside : i < 5) :
    0 ≤ increment pQ16.toNat i ∧ increment pQ16.toNat i ≤ 65536 := by
  rcases i with _ | _ | _ | _ | _ | i
  · exact ⟨le_rfl, by simp [increment, five]⟩
  · simp only [increment, five]
    omega
  · simp only [increment, five]
    omega
  · simp only [increment, five]
    omega
  · exact ⟨by simp [increment, five], by simp [increment, five]⟩
  · omega

theorem p2Init_increment {pQ16 : UInt32} (small : pQ16.toNat ≤ 65536) {i : Nat}
    (inside : i < 5) :
    ((p2Init pQ16).dnQ16 i).toInt32.toInt = ExactP2.increment pQ16.toNat i := by
  have counted : ((p2Init pQ16).dnQ16 i).toNat = ExactP2.increment pQ16.toNat i := by
    rcases i with _ | _ | _ | _ | _ | i
    · rfl
    · simp only [p2Init, ExactP2.increment, five, UInt32.toNat_div, UInt32.reduceToNat]
      omega
    · rfl
    · simp only [p2Init, ExactP2.increment, five, UInt32.toNat_div, UInt32.toNat_add,
        UInt32.reduceToNat]
      omega
    · rfl
    · omega
  have bounds := ExactP2.increment_bounds small inside
  rw [← counted] at bounds ⊢
  exact toInt32_toInt (by omega)

namespace P2Estimator.Tracks

variable {e : P2Estimator} {exact : ExactP2} {pQ16 : UInt32} {n : Nat} {i : Nat}

theorem seed (small : pQ16.toNat ≤ 65536) (first : List Int) (buffer : Nat → UInt32) :
    ({ p2Init pQ16 with initialBuffer := buffer, count := 5 }.seed5 pQ16).Tracks
      (ExactP2.seed pQ16.toNat first) pQ16 5 := by
  refine ⟨rfl, fun i inside => p2Init_increment small inside, ?_, ?_⟩
  · intro i inside
    have scaled : ∀ base factor : UInt32, base.toNat + factor.toNat * 65536 < 2147483648 →
        (base + factor * pQ16).toInt32.toInt = base.toNat + factor.toNat * pQ16.toNat := by
      intro base factor fits
      have bound : factor.toNat * pQ16.toNat ≤ factor.toNat * 65536 :=
        Nat.mul_le_mul_left _ small
      have counted : (base + factor * pQ16).toNat = base.toNat + factor.toNat * pQ16.toNat := by
        rw [UInt32.toNat_add, UInt32.toNat_mul]
        omega
      rw [toInt32_toInt (by omega), counted]
      push_cast
      rfl
    rcases i with _ | _ | _ | _ | _ | i
    · rfl
    · exact scaled 0x10000 2 (by decide)
    · exact scaled 0x10000 4 (by decide)
    · exact scaled 0x30000 2 (by decide)
    · rfl
    · omega
  · intro i inside
    rcases i with _ | _ | _ | _ | _ | i
    all_goals simp only [ExactP2.seed, five]
    all_goals omega

/-- Counting a value moves the desired positions of both on. -/
theorem advance (tracks : e.Tracks exact pQ16 n) (small : pQ16.toNat ≤ 65536)
    (few : n + 1 < 32768) (xQ16 : UInt32) (inside : i < 5) :
    ((e.countSample xQ16).markerNPrimeQ16 i).toInt = exact.advance pQ16.toNat i ∧
      0 ≤ exact.advance pQ16.toNat i ∧ exact.advance pQ16.toNat i ≤ 65536 * (n + 1 : Nat) := by
  have increments := ExactP2.increment_bounds small inside
  have bounds := tracks.bounds i inside
  have advanced : exact.advance pQ16.toNat i =
      exact.desired i + ExactP2.increment pQ16.toNat i := if_pos inside
  have counted : (e.countSample xQ16).markerNPrimeQ16 i =
      e.markerNPrimeQ16 i + (e.dnQ16 i).toInt32 := if_pos inside
  refine ⟨?_, by omega, by omega⟩
  rw [counted, Int32.toInt_add, tracks.increments i inside, tracks.desired i inside, advanced]
  exact Int.bmod_eq_of_le (by omega) (by omega)

theorem lag (tracks : e.Tracks exact pQ16 n) (small : pQ16.toNat ≤ 65536) (few : n + 1 < 32768)
    {least greatest : Int} (xQ16 : UInt32)
    (ordered : (e.countSample xQ16).markers.Ordered (n + 1) least greatest) (inside : i < 5) :
    (e.countSample xQ16).lag i =
      exact.lag pQ16.toNat (e.countSample xQ16).markers i := by
  have advanced := tracks.advance small few xQ16 inside
  have position := ordered.pos_bounds (show i ≤ 4 by omega)
  simp only [markers] at position
  have shifted : ((e.countSample xQ16).markerN i <<< 16).toInt32.toInt =
      (e.countSample xQ16).markers.pos i * 65536 := by
    have scaled := toNat_shiftLeft_sixteen_of_lt
      (show ((e.countSample xQ16).markerN i).toNat < 65536 by omega)
    rw [toInt32_toInt (by omega), scaled]
    push_cast
    rfl
  simp only [markers] at shifted
  rw [P2Estimator.lag, Int32.toInt_sub, advanced.1, shifted, ExactP2.lag]
  exact Int.bmod_eq_of_le (by omega) (by omega)

theorem add (tracks : e.Tracks exact pQ16 n) (small : pQ16.toNat ≤ 65536) (few : n + 1 < 32768)
    (x : UInt32) (value : Int) :
    (e.addSample pQ16 x).Tracks (exact.add pQ16.toNat value) pQ16 (n + 1) := by
  have kept := addSample_frame tracks.initialized pQ16 x
  have counted := addSample_desired tracks.initialized pQ16 x
  refine ⟨kept.1, ?_, ?_, ?_⟩
  · intro i inside
    rw [counted.1]
    exact tracks.increments i inside
  · intro i inside
    rw [counted.2]
    exact (tracks.advance small few (x <<< 16) inside).1
  · intro i inside
    exact (tracks.advance small few (x <<< 16) inside).2

end P2Estimator.Tracks

/-! ## One sample -/

section Sample

variable {markers : Markers} {count least greatest unit lag d : Int} {i : Nat}

/-- The narrowed parabola gives the marker another height if and only if it is misread. -/
theorem moved_narrowed_iff (ordered : markers.Ordered count least greatest) (bottom : 0 ≤ least)
    (top : greatest < 4294967296) (low : 1 ≤ i) (high : i < 4) :
    markers.moved narrowedParabola i d = markers.moved Markers.parabola i d ↔
      ¬Misread markers i d := by
  have lowest := ordered.height_mono (Nat.zero_le (i - 1)) (by omega)
  have highest := ordered.height_mono (show i + 1 ≤ 4 by omega) le_rfl
  rw [ordered.bottom] at lowest
  rw [ordered.top] at highest
  simp only [Markers.moved, Misread]
  by_cases between : markers.Between i (markers.parabola i d)
  · have same : narrowedParabola markers i d = markers.parabola i d :=
      Int.emod_eq_of_lt (bottom.trans (lowest.trans between.1.le))
        (between.2.trans_le (highest.trans top.le))
    simp [same, between]
  · by_cases narrowed : markers.Between i (narrowedParabola markers i d)
    · simp [between, narrowed]
    · simp [between, narrowed]

theorem agree_narrowed_iff (ordered : markers.Ordered count least greatest) (bottom : 0 ≤ least)
    (top : greatest < 4294967296) (low : 1 ≤ i) (high : i < 4) :
    markers.Agree narrowedParabola Markers.parabola unit lag i ↔
      (markers.direction unit lag i ≠ 0 → ¬Misread markers i (markers.direction unit lag i)) := by
  rw [Markers.Agree, moved_narrowed_iff ordered bottom top low high]

/-- An exact adjustment moves the height where it moves the position. -/
theorem moved_parabola_monotone (ordered : markers.Ordered count least greatest) (low : 1 ≤ i)
    (high : i < 4) :
    markers.height i ≤ markers.moved Markers.parabola i 1 ∧
      markers.moved Markers.parabola i (-1) ≤ markers.height i := by
  have above := ordered.parabola_up low (by omega)
  have below := ordered.parabola_down low (by omega)
  have linear_above := ordered.linear_up low (by omega)
  have linear_below := ordered.linear_down low (by omega)
  simp only [Markers.moved]
  constructor
  · split
    · exact above
    · exact linear_above.1
  · split
    · exact below
    · exact linear_below.2

end Sample

theorem ExactP2.found_height {pQ16 : Int} (exact : ExactP2) (value : Int) {i : Nat}
    (low : 1 ≤ i) (moves : exact.move pQ16 value i ≠ 0) :
    (exact.found pQ16 value (i + 1)).height i =
      (exact.found pQ16 value i).moved Markers.parabola i (exact.move pQ16 value i) := by
  have succ : exact.found pQ16 value (i + 1) = (exact.found pQ16 value i).adjust
      Markers.parabola 0x10000 (exact.lag pQ16 (exact.markers.place (value * 0x10000)) i) i :=
    Markers.reach_succ _ _ _ _ low
  rw [succ, Markers.adjust]
  change (if exact.move pQ16 value i = 0 then _ else _ : Markers).height i = _
  rw [if_neg moves]
  exact Function.update_self _ _ _

namespace P2Estimator

variable {e : P2Estimator} {exact : ExactP2} {values : List UInt16} {pQ16 : UInt32}

theorem fed_estimates (pQ16 : UInt32) (few : values.length < 2147483648) :
    (fed pQ16 values).Estimates values := by
  induction values using List.reverseRecOn with
  | nil => exact Estimates.init pQ16
  | append_singleton values value ih =>
      rw [List.length_append, List.length_singleton] at few
      rw [fed_append]
      exact (ih (by omega)).addSample few pQ16 value

/-- The markers of the estimator are in order, between heights of 32 bits. -/
theorem Estimates.ordered (estimates : e.Estimates values) (many : 5 ≤ values.length) :
    ∃ least greatest : Int, 0 ≤ least ∧ greatest ≤ 65535 * 65536 ∧
      e.markers.Ordered values.length least greatest := by
  cases estimates with
  | collecting _ few => omega
  | estimating _ _ _ least greatest ordered isLeast isGreatest =>
      rcases isLeast.1 with ⟨low, -, rfl⟩
      rcases isGreatest.1 with ⟨top, -, rfl⟩
      have bound := top.toNat_lt
      exact ⟨_, _, by omega, by omega, ordered⟩

/-- What the estimator and the exact algorithm have in common before a sample. -/
structure Meets (e : P2Estimator) (exact : ExactP2) (pQ16 : UInt32) (n : Nat) : Prop where
  small : pQ16.toNat ≤ 65536
  few : n + 1 < 32768
  tracks : e.Tracks exact pQ16 n
  same : e.markers = exact.markers
  ordered : ∃ least greatest : Int, 0 ≤ least ∧ greatest ≤ 65535 * 65536 ∧
    e.markers.Ordered n least greatest

namespace Meets

variable {n : Nat}

theorem placed (meets : e.Meets exact pQ16 n) (value : UInt16) :
    (e.countSample (value.toUInt32 <<< 16)).markers =
      exact.markers.place (value.toNat * 0x10000) ∧
    ∃ least greatest : Int, 0 ≤ least ∧ greatest < 4294967296 ∧
      (e.countSample (value.toUInt32 <<< 16)).markers.Ordered (n + 1) least greatest := by
  have few := meets.few
  rcases meets.ordered with ⟨least, greatest, bottom, top, ordered⟩
  have placed := countSample_markers ordered (by omega) (value.toUInt32 <<< 16)
  have bound := value.toNat_lt
  have ordered' := ordered.place (value.toUInt32 <<< 16).toNat
  rw [← placed] at ordered'
  refine ⟨?_, _, _, ?_, ?_, ordered'⟩
  · rw [placed, meets.same, shifted_toNat]
    push_cast
    rfl
  · rw [shifted_toNat]
    exact le_min bottom (by omega)
  · rw [shifted_toNat]
    exact max_lt (by omega) (by omega)

theorem lag (meets : e.Meets exact pQ16 n) (value : UInt16) {i : Nat} (inside : i < 5) :
    (e.countSample (value.toUInt32 <<< 16)).lag i =
      exact.lag pQ16.toNat (exact.markers.place (value.toNat * 0x10000)) i := by
  rcases meets.placed value with ⟨placed, least, greatest, -, -, ordered⟩
  rw [← placed]
  exact meets.tracks.lag meets.small meets.few _ ordered inside

theorem found_ordered (meets : e.Meets exact pQ16 n) (value : UInt16) {i : Nat} (high : i ≤ 4) :
    ∃ least greatest : Int, 0 ≤ least ∧ greatest < 4294967296 ∧
      (exact.found pQ16.toNat value.toNat i).Ordered (n + 1) least greatest := by
  rcases meets.placed value with ⟨placed, least, greatest, bottom, top, ordered⟩
  rw [placed] at ordered
  exact ⟨least, greatest, bottom, top, ordered.reach high⟩

/-- The estimator comes to the same markers if and only if no parabola before is misread. -/
theorem found_eq_iff (meets : e.Meets exact pQ16 n) (value : UInt16) {k : Nat} (high : k ≤ 4) :
    (e.found (value.toUInt32 <<< 16) k).markers = exact.found pQ16.toNat value.toNat k ↔
      ∀ i, 1 ≤ i → i < k → exact.move pQ16.toNat value.toNat i ≠ 0 →
        ¬Misread (exact.found pQ16.toNat value.toNat i) i
          (exact.move pQ16.toNat value.toNat i) := by
  have few := meets.few
  rcases meets.placed value with ⟨placed, _, _, _, _, ordered⟩
  rw [P2Estimator.found_markers ordered (by omega) high, placed,
    Markers.reach_congr fun j _ below => meets.lag value (show j < 5 by omega), ExactP2.found,
    Markers.reach_eq_iff]
  constructor
  · intro agree i low below
    rcases meets.found_ordered value (show i ≤ 4 by omega) with ⟨_, _, bottom, top, ordered'⟩
    exact (agree_narrowed_iff ordered' bottom top low (by omega)).mp (agree i low below)
  · intro true i low below
    rcases meets.found_ordered value (show i ≤ 4 by omega) with ⟨_, _, bottom, top, ordered'⟩
    exact (agree_narrowed_iff ordered' bottom top low (by omega)).mpr (true i low below)

/-- The step lemma: a sample leaves the markers the same if and only if it is read true. -/
theorem addSample_eq_iff (meets : e.Meets exact pQ16 n) (value : UInt16) :
    (e.addSample pQ16 value.toUInt32).markers =
        (exact.add pQ16.toNat value.toNat).markers ↔
      exact.ReadsTrue pQ16.toNat value.toNat := by
  rw [addSample_eq_found meets.tracks.initialized]
  exact meets.found_eq_iff value le_rfl

theorem direction_eq (meets : e.Meets exact pQ16 n) (value : UInt16) {i : Nat} (low : 1 ≤ i)
    (high : i < 4)
    (same : (e.found (value.toUInt32 <<< 16) i).markers = exact.found pQ16.toNat value.toNat i) :
    (e.found (value.toUInt32 <<< 16) i).direction i = exact.move pQ16.toNat value.toNat i := by
  rcases meets.found_ordered value (show i ≤ 4 by omega) with ⟨_, _, _, _, ordered⟩
  rw [← same] at ordered
  rw [P2Estimator.direction_eq ordered low (by omega), same, found_lag e _ le_rfl,
    meets.lag value (by omega)]
  rfl

/-- Where a sample is read true, an adjustment moves the height where it moves the position. -/
theorem adjust_monotone (meets : e.Meets exact pQ16 n) (value : UInt16)
    (true : exact.ReadsTrue pQ16.toNat value.toNat) {i : Nat} (low : 1 ≤ i) (high : i < 4) :
    let found := e.found (value.toUInt32 <<< 16) i
    (found.direction i = 1 → found.markerQQ16 i ≤ (found.adjust i).markerQQ16 i) ∧
      (found.direction i = -1 → (found.adjust i).markerQQ16 i ≤ found.markerQQ16 i) := by
  intro found
  have same : found.markers = exact.found pQ16.toNat value.toNat i :=
    (meets.found_eq_iff value (by omega)).mpr fun j low' below => true j low' (by omega)
  have same' : (found.adjust i).markers = exact.found pQ16.toNat value.toNat (i + 1) := by
    rw [← found_succ e _ low]
    exact (meets.found_eq_iff value (by omega)).mpr fun j low' below => true j low' (by omega)
  have height : ((found.markerQQ16 i).toNat : Int) =
      (exact.found pQ16.toNat value.toNat i).height i := congrArg (Markers.height · i) same
  have height' : (((found.adjust i).markerQQ16 i).toNat : Int) =
      (exact.found pQ16.toNat value.toNat (i + 1)).height i := congrArg (Markers.height · i) same'
  rcases meets.found_ordered value (show i ≤ 4 by omega) with ⟨_, _, _, _, ordered⟩
  have monotone := moved_parabola_monotone ordered low high
  rw [meets.direction_eq value low high same]
  constructor
  · intro up
    rw [ExactP2.found_height exact _ low (by rw [up]; decide), up] at height'
    exact UInt32.le_iff_toNat_le.mpr (by omega)
  · intro down
    rw [ExactP2.found_height exact _ low (by rw [down]; decide), down] at height'
    exact UInt32.le_iff_toNat_le.mpr (by omega)

end Meets

end P2Estimator

/-! ## Runs -/

section Runs

variable {pQ16 : UInt32} {values : List UInt16}

/-- The desired positions do not depend on how the parabolas are read. -/
theorem fed_tracks (small : pQ16.toNat ≤ 65536) (many : 5 ≤ values.length)
    (few : values.length < 32768) :
    (P2Estimator.fed pQ16 values).Tracks (ExactP2.fed pQ16 values) pQ16 values.length := by
  induction values using List.reverseRecOn with
  | nil => exact absurd many (by decide)
  | append_singleton values value ih =>
      by_cases seeded : 5 ≤ values.length
      · rw [List.length_append, List.length_singleton] at few ⊢
        rw [P2Estimator.fed_append, ExactP2.fed_append pQ16 seeded]
        exact (ih seeded (by omega)).add small few _ _
      · have five : (values ++ [value]).length = 5 := by
          rw [List.length_append, List.length_singleton] at many ⊢
          omega
        rw [P2Estimator.fed_five pQ16 five, ExactP2.fed_five pQ16 five, five]
        exact P2Estimator.Tracks.seed small _ _

theorem fed_meets (small : pQ16.toNat ≤ 65536) (many : 5 ≤ values.length)
    (few : values.length + 1 < 32768)
    (same : (P2Estimator.fed pQ16 values).markers = (ExactP2.fed pQ16 values).markers) :
    (P2Estimator.fed pQ16 values).Meets (ExactP2.fed pQ16 values) pQ16 values.length where
  small := small
  few := few
  tracks := fed_tracks small many (by omega)
  same := same
  ordered := (P2Estimator.fed_estimates pQ16 (by omega)).ordered many

/-- After the first five samples and after each later one, the markers of the estimator are those
of the exact algorithm. -/
def SameMarkers (pQ16 : UInt32) (values : List UInt16) : Prop :=
  ∀ first, first <+: values → 5 ≤ first.length →
    (P2Estimator.fed pQ16 first).markers = (ExactP2.fed pQ16 first).markers

/-- No adjustment moves a position up and its height down, or the other way round. -/
def MovesTrue (pQ16 : UInt32) (values : List UInt16) : Prop :=
  ∀ first value, first ++ [value] <+: values → 5 ≤ first.length → ∀ i, 1 ≤ i → i < 4 →
    let found := (P2Estimator.fed pQ16 first).found (value.toUInt32 <<< 16) i
    (found.direction i = 1 → found.markerQQ16 i ≤ (found.adjust i).markerQQ16 i) ∧
      (found.direction i = -1 → (found.adjust i).markerQQ16 i ≤ found.markerQQ16 i)

/-- The exact algorithm comes to no parabola that the estimator would misread. -/
def ReadTrue (pQ16 : UInt32) (values : List UInt16) : Prop :=
  ∀ first value, first ++ [value] <+: values → 5 ≤ first.length →
    (ExactP2.fed pQ16 first).ReadsTrue pQ16.toNat value.toNat

/-- The run lemma: as long as every parabola is read true, the markers are the same. -/
theorem sameMarkers_of_readTrue (small : pQ16.toNat ≤ 65536) (few : values.length < 32768)
    (true : ReadTrue pQ16 values) : SameMarkers pQ16 values := by
  intro first
  induction first using List.reverseRecOn with
  | nil => exact fun _ many => absurd many (by decide)
  | append_singleton first value ih =>
      intro before many
      have shorter := before.length_le
      rw [List.length_append, List.length_singleton] at shorter many
      by_cases seeded : 5 ≤ first.length
      · have meets := fed_meets small seeded (by omega)
          (ih ((List.prefix_append first [value]).trans before) seeded)
        rw [P2Estimator.fed_append, ExactP2.fed_append pQ16 seeded]
        exact (meets.addSample_eq_iff value).mpr (true first value before seeded)
      · apply seed_markers
        rw [List.length_append, List.length_singleton]
        omega

/-- For every stream of fewer than 32768 samples the estimator computes the markers of the exact
algorithm, and moves every height with its position, if and only if no parabola value outside the
heights of the neighbours is, modulo 2^32, strictly between them and not the linear value. -/
theorem p2_exact_iff (small : pQ16.toNat ≤ 65536) (few : values.length < 32768) :
    SameMarkers pQ16 values ∧ MovesTrue pQ16 values ↔ ReadTrue pQ16 values := by
  constructor
  · rintro ⟨same, -⟩ first value before many
    have shorter := before.length_le
    rw [List.length_append, List.length_singleton] at shorter
    have meets := fed_meets small many (by omega)
      (same first ((List.prefix_append first [value]).trans before) many)
    have after := same (first ++ [value]) before (by simp; omega)
    rw [P2Estimator.fed_append, ExactP2.fed_append pQ16 many] at after
    exact (meets.addSample_eq_iff value).mp after
  · intro true
    have same := sameMarkers_of_readTrue small few true
    refine ⟨same, ?_⟩
    intro first value before many i low high
    have shorter := before.length_le
    rw [List.length_append, List.length_singleton] at shorter
    have meets := fed_meets small many (by omega)
      (same first ((List.prefix_append first [value]).trans before) many)
    exact meets.adjust_monotone value (true first value before many) low high

/-- Ten samples, some of which move a marker. -/
def tenSamples : List UInt16 :=
  [3, 1, 4, 1, 5, 9, 2, 6, 5, 3]

theorem p2_exact_iff_ten :
    SameMarkers 0x8000 tenSamples ∧ MovesTrue 0x8000 tenSamples ↔ ReadTrue 0x8000 tenSamples :=
  p2_exact_iff (by decide) (by decide)

end Runs

/-- A stream on whose ninth sample the estimator of the median misreads a parabola. -/
def overshoot : List UInt16 :=
  [0, 60000, 60001, 60002, 60003, 60000, 60000, 60000, 60000]

/-- The exact parabola at the ninth sample is 2^32 above a height in between. -/
theorem overshoot_misread : ¬SameMarkers 0x8000 overshoot ∧ ¬MovesTrue 0x8000 overshoot := by
  constructor
  · intro same
    have differs : (P2Estimator.fed 0x8000 overshoot).markers.height 1 ≠
        (ExactP2.fed 0x8000 overshoot).markers.height 1 := by decide +kernel
    exact differs (congrArg (Markers.height · 1) (same overshoot (List.prefix_refl _) (by decide)))
  · intro moves
    have falls := (moves (overshoot.take 8) 60000 (by decide) (by decide) 1 (by decide)
      (by decide)).1 (by decide +kernel)
    exact absurd falls (by decide +kernel)

end Loxbudget
