import Mathlib.Logic.Function.Basic

/-!
# The streaming quantile estimator

`loxbudget_calibration.c` estimates a quantile of a stream by five markers whose
heights, like the desired positions, are kept in Q16.16. The arrays of five entries are
functions of the index; no function reads an entry from the fifth on. An `int64_t` is an
integer: no expression here leaves its range. The desired positions are of the type
`int32_t` and wrap as the compilers make them.
-/

namespace Loxbudget

/-- `lb__p2_estimator_t` -/
structure P2Estimator where
  markerN : Nat → UInt32
  markerNPrimeQ16 : Nat → Int32
  markerQQ16 : Nat → UInt32
  dnQ16 : Nat → UInt32
  count : UInt32
  initialBuffer : Nat → UInt32
  initialized : Bool

/-- The estimator as `memset` leaves it. -/
def P2Estimator.zero : P2Estimator where
  markerN := fun _ => 0
  markerNPrimeQ16 := fun _ => 0
  markerQQ16 := fun _ => 0
  dnQ16 := fun _ => 0
  count := 0
  initialBuffer := fun _ => 0
  initialized := false

/-- An array of five entries from its values. -/
def five {α : Type} (v0 v1 v2 v3 v4 : α) : Nat → α
  | 0 => v0
  | 1 => v1
  | 2 => v2
  | 3 => v3
  | _ => v4

section Sort5

variable {α : Type} [LT α] [DecidableLT α]

/-- `SWAP(i, j)` -/
def swapIfGreater (i j : Nat) (a : Nat → α) : Nat → α :=
  if a i > a j then Function.update (Function.update a i (a j)) j (a i) else a

/-- `lb__sort5_u32_` is this network on `uint32_t`. -/
def sort5 (a : Nat → α) : Nat → α :=
  let a := swapIfGreater 0 1 a
  let a := swapIfGreater 3 4 a
  let a := swapIfGreater 2 4 a
  let a := swapIfGreater 2 3 a
  let a := swapIfGreater 1 4 a
  let a := swapIfGreater 0 3 a
  let a := swapIfGreater 0 2 a
  let a := swapIfGreater 1 3 a
  swapIfGreater 1 2 a

end Sort5

/-- `lb__p2_init_` -/
def p2Init (pQ16 : UInt32) : P2Estimator :=
  { P2Estimator.zero with
    dnQ16 := five 0 (pQ16 / 2) pQ16 ((0x10000 + pQ16) / 2) 0x10000 }

namespace P2Estimator

/-- `lb__p2_seed5_` -/
def seed5 (e : P2Estimator) (pQ16 : UInt32) : P2Estimator :=
  let s := sort5 e.initialBuffer
  { e with
    markerN := five 1 2 3 4 5
    markerQQ16 := fun i => s i <<< 16
    markerNPrimeQ16 :=
      five 0x10000 (0x10000 + 2 * pQ16).toInt32 (0x10000 + 4 * pQ16).toInt32
        (0x30000 + 2 * pQ16).toInt32 0x50000
    initialized := true
    count := 5 }

/-- `lb__p2_linear_` -/
def linear (qiQ16 : UInt32) (d : Int) (qidQ16 niD ni : UInt32) : UInt32 :=
  let num : Int := qiQ16.toNat +
    (d * ((qidQ16.toNat : Int) - qiQ16.toNat)).tdiv (niD.toInt32.toInt - ni.toInt32.toInt)
  UInt32.ofInt num

/-- The value that `lb__p2_parabolic_` narrows to its result. -/
def parabolicNum (e : P2Estimator) (i : Nat) (d : Int) : Int :=
  let nIm1 := (e.markerN (i - 1)).toInt32.toInt
  let nI := (e.markerN i).toInt32.toInt
  let nIp1 := (e.markerN (i + 1)).toInt32.toInt
  let qi : Int := (e.markerQQ16 i).toNat
  let qim1 : Int := (e.markerQQ16 (i - 1)).toNat
  let qip1 : Int := (e.markerQQ16 (i + 1)).toNat
  let term1 := ((nI - nIm1 + d) * (qip1 - qi)).tdiv (nIp1 - nI)
  let term2 := ((nIp1 - nI - d) * (qi - qim1)).tdiv (nI - nIm1)
  qi + (d * (term1 + term2)).tdiv (nIp1 - nIm1)

/-- `lb__p2_parabolic_` -/
def parabolic (e : P2Estimator) (i : Nat) (d : Int) : UInt32 :=
  UInt32.ofInt (e.parabolicNum i d)

/-- The cell search of `lb__p2_add_sample_`; if it finds no cell, `k` stays 0. -/
def findCell (e : P2Estimator) (xQ16 : UInt32) : Option Nat :=
  (List.range 4).find? fun i =>
    e.markerQQ16 i ≤ xQ16 ∧ xQ16 < e.markerQQ16 (i + 1)

/-- The part of `lb__p2_add_sample_` that counts a sample, up to the adjustment loop. -/
def countSample (e : P2Estimator) (xQ16 : UInt32) : P2Estimator :=
  let (markerQQ16, k) :=
    if xQ16 < e.markerQQ16 0 then (Function.update e.markerQQ16 0 xQ16, 0)
    else if xQ16 ≥ e.markerQQ16 4 then (Function.update e.markerQQ16 4 xQ16, 3)
    else (e.markerQQ16, (e.findCell xQ16).getD 0)
  { e with
    markerQQ16 := markerQQ16
    markerN := fun i => if k < i ∧ i < 5 then e.markerN i + 1 else e.markerN i
    markerNPrimeQ16 := fun i =>
      if i < 5 then e.markerNPrimeQ16 i + (e.dnQ16 i).toInt32 else e.markerNPrimeQ16 i
    count := e.count + 1 }

/-- The direction `d` in which the adjustment loop moves marker `i`. -/
def direction (e : P2Estimator) (i : Nat) : Int :=
  let nQ16 := (e.markerN i <<< 16).toInt32
  let deltaQ16 := e.markerNPrimeQ16 i - nQ16
  if deltaQ16 ≥ 0x10000 ∧ e.markerN (i + 1) - e.markerN i > 1 then 1
  else if deltaQ16 ≤ -0x10000 ∧ e.markerN i - e.markerN (i - 1) > 1 then -1
  else 0

/-- The height that the adjustment loop gives to marker `i`, which it moves by `d`. -/
def adjustedQ (e : P2Estimator) (i : Nat) (d : Int) : UInt32 :=
  let qNew := e.parabolic i d
  let qLo := e.markerQQ16 (i - 1)
  let qHi := e.markerQQ16 (i + 1)
  if qNew > qLo ∧ qNew < qHi then qNew
  else
    let id := (i + d).toNat
    linear (e.markerQQ16 i) d (e.markerQQ16 id) (e.markerN id) (e.markerN i)

/-- One iteration of the adjustment loop of `lb__p2_add_sample_`. -/
def adjust (e : P2Estimator) (i : Nat) : P2Estimator :=
  let d := e.direction i
  if d = 0 then e
  else
    { e with
      markerQQ16 := Function.update e.markerQQ16 i (e.adjustedQ i d)
      markerN := Function.update e.markerN i (UInt32.ofInt ((e.markerN i).toInt32.toInt + d)) }

/-- `lb__p2_add_sample_` -/
def addSample (e : P2Estimator) (pQ16 x : UInt32) : P2Estimator :=
  if e.initialized = false then
    let e := { e with
      initialBuffer := Function.update e.initialBuffer e.count.toNat x
      count := e.count + 1 }
    if e.count = 5 then e.seed5 pQ16 else e
  else
    let xQ16 := x <<< 16
    [1, 2, 3].foldl adjust (e.countSample xQ16)

/-- `lb__p2_get_q_q16_` -/
def getQQ16 (e : P2Estimator) : UInt32 :=
  if e.initialized = false then
    if e.count = 0 then 0
    else
      let s := sort5 fun i => if i < e.count.toNat then e.initialBuffer i else 0
      s (e.count / 2).toNat <<< 16
  else e.markerQQ16 2

end P2Estimator

end Loxbudget
