import Mathlib.Algebra.GroupWithZero.Nat
import Mathlib.Algebra.Order.Group.Nat
import Mathlib.Data.List.Basic

/-!
# What a limiter has granted over time

The trace of a limiter lists its grants, each with its amount, and its resets, newest
first and stamped with real time. Two disciplines bound what such a trace grants:

* a metered trace grants at most the limit between two resets, and its resets are at
  least a duration apart; so in an interval of that duration it grants at most twice
  the limit (`Metered.total_interval_le`);
* a trace that is paid from a capped account, refilled at a bounded rate, grants in any
  interval at most the cap and what the rate brings in (`Paid.within`).

A refill that rounds down loses the fraction. What an account holds that is refilled in
several gaps, and when that is no less than one refill brings, is `foldl_fill` and
`fill_le_foldl_iff`.
-/

namespace Metering

/-- An entry of the trace of a limiter. -/
inductive Entry where
  | reset (time : Nat)
  | grant (time amount : Nat)
  deriving DecidableEq, Repr

namespace Entry

def time : Entry → Nat
  | reset time => time
  | grant time _ => time

def amount : Entry → Nat
  | reset _ => 0
  | grant _ amount => amount

def isReset : Entry → Bool
  | reset _ => true
  | grant _ _ => false

end Entry

/-- What the entries of a trace grant together. -/
def total (trace : List Entry) : Nat :=
  (trace.map Entry.amount).sum

/-- What a trace, newest entry first, has granted since its last reset. -/
def current : List Entry → Nat
  | [] => 0
  | .reset _ :: _ => 0
  | .grant _ amount :: earlier => amount + current earlier

/-- The time of the last reset of a trace, newest entry first, or when the limiter was opened. -/
def lastReset (opened : Nat) : List Entry → Nat
  | [] => opened
  | .reset time :: _ => time
  | .grant _ _ :: earlier => lastReset opened earlier

/-- The entries stamped no earlier than `since`. -/
def startingAt (since : Nat) (trace : List Entry) : List Entry :=
  trace.filter fun entry => since ≤ entry.time

/-- The entries stamped in the half-open interval from `since` to `till`. -/
def interval (since till : Nat) (trace : List Entry) : List Entry :=
  trace.filter fun entry => since ≤ entry.time ∧ entry.time < till

@[simp]
theorem total_nil : total [] = 0 := rfl

@[simp]
theorem total_cons (entry : Entry) (trace : List Entry) :
    total (entry :: trace) = entry.amount + total trace := rfl

/-- A reset costs nothing, in whatever part of a trace. -/
theorem total_filter_reset (counts : Entry → Bool) (time : Nat) (trace : List Entry) :
    total ((Entry.reset time :: trace).filter counts) = total (trace.filter counts) := by
  rw [List.filter_cons]
  split
  · simp [Entry.amount]
  · rfl

theorem startingAt_eq_nil {since : Nat} {trace : List Entry}
    (early : ∀ entry ∈ trace, entry.time < since) : startingAt since trace = [] := by
  apply List.filter_eq_nil_iff.mpr
  intro entry listed
  simpa using early entry listed

theorem total_startingAt_grant_le (since time amount : Nat) (trace : List Entry) :
    total (startingAt since (.grant time amount :: trace)) ≤
      amount + total (startingAt since trace) := by
  simp only [startingAt, List.filter_cons]
  split
  · exact le_refl _
  · exact Nat.le_add_left _ _

theorem interval_eq_startingAt {since till : Nat} {trace : List Entry}
    (early : ∀ entry ∈ trace, entry.time < till) :
    interval since till trace = startingAt since trace := by
  apply List.filter_congr
  intro entry listed
  simp [early entry listed]

/-! ## Resets a duration apart -/

/-- A trace whose times never decrease, whose resets are a duration apart, and which grants no
more than the limit between them. -/
inductive Metered (limit duration : Nat) : List Entry → Prop where
  | nil : Metered limit duration []
  | reset {earlier : List Entry} {time : Nat} (metered : Metered limit duration earlier)
      (ordered : ∀ entry ∈ earlier, entry.time ≤ time)
      (spaced : ∀ entry ∈ earlier, entry.isReset = true → entry.time + duration ≤ time) :
      Metered limit duration (.reset time :: earlier)
  | grant {earlier : List Entry} {time amount : Nat} (metered : Metered limit duration earlier)
      (ordered : ∀ entry ∈ earlier, entry.time ≤ time)
      (fits : amount + current earlier ≤ limit) :
      Metered limit duration (.grant time amount :: earlier)

namespace Metered

variable {limit duration : Nat} {trace : List Entry}

theorem current_le (metered : Metered limit duration trace) : current trace ≤ limit := by
  cases metered with
  | nil => exact Nat.zero_le limit
  | reset => exact Nat.zero_le limit
  | grant _ _ fits => exact fits

theorem of_append {newer older : List Entry} (metered : Metered limit duration (newer ++ older)) :
    Metered limit duration older := by
  induction newer with
  | nil => exact metered
  | cons entry newer ih =>
      cases metered with
      | reset earlier => exact ih earlier
      | grant earlier => exact ih earlier

theorem total_le_current {epoch : List Entry} (older : List Entry)
    (unbroken : ∀ entry ∈ epoch, entry.isReset = false) :
    total epoch ≤ current (epoch ++ older) := by
  induction epoch with
  | nil => exact Nat.zero_le _
  | cons entry epoch ih =>
      have rest := ih fun other listed => unbroken other (List.mem_cons_of_mem _ listed)
      cases entry with
      | reset time => exact absurd (unbroken _ List.mem_cons_self) Bool.true_eq_false.mp
      | grant time amount => exact Nat.add_le_add_left rest amount

/-- Entries with no reset among them grant at most the limit. -/
theorem total_epoch_le {newer epoch older : List Entry}
    (metered : Metered limit duration (newer ++ epoch ++ older))
    (unbroken : ∀ entry ∈ epoch, entry.isReset = false) : total epoch ≤ limit := by
  rw [List.append_assoc] at metered
  exact (total_le_current older unbroken).trans metered.of_append.current_le

/-- What is granted from a moment on was granted since the last reset, if that lies before it. -/
theorem total_startingAt_le_current (metered : Metered limit duration trace) {since : Nat}
    (before : ∀ entry ∈ trace, entry.isReset = true → entry.time < since) :
    total (startingAt since trace) ≤ current trace := by
  induction metered with
  | nil => exact Nat.zero_le _
  | @reset earlier time _ ordered _ _ =>
      have past : time < since := before _ List.mem_cons_self rfl
      have early : ∀ entry ∈ Entry.reset time :: earlier, entry.time < since := by
        intro entry listed
        rcases List.mem_cons.mp listed with rfl | older
        · exact past
        · exact (ordered entry older).trans_lt past
      rw [startingAt_eq_nil early]
      exact Nat.zero_le _
  | @grant earlier time amount _ _ _ ih =>
      have rest := ih fun entry listed => before entry (List.mem_cons_of_mem _ listed)
      have kept := total_startingAt_grant_le since time amount earlier
      exact kept.trans (Nat.add_le_add_left rest amount)

/-- From a moment on, at most the limit is granted before the next reset, and what comes after it
is what was granted since. -/
theorem total_startingAt_le (metered : Metered limit duration trace) {since : Nat}
    (recent : ∀ entry ∈ trace, entry.isReset = true → entry.time < since + duration) :
    total (startingAt since trace) ≤ current trace + limit := by
  induction metered with
  | nil => exact Nat.zero_le _
  | @reset earlier time rest _ spaced _ =>
      have near : time < since + duration := recent _ List.mem_cons_self rfl
      have before : ∀ entry ∈ earlier, entry.isReset = true → entry.time < since := by
        intro entry listed isReset
        have apart := spaced entry listed isReset
        omega
      have older := (rest.total_startingAt_le_current before).trans rest.current_le
      rw [startingAt, total_filter_reset]
      exact older.trans (Nat.le_add_left _ _)
  | @grant earlier time amount _ _ _ ih =>
      have rest := ih fun entry listed => recent entry (List.mem_cons_of_mem _ listed)
      have kept := total_startingAt_grant_le since time amount earlier
      rw [current]
      omega

/-- An interval as long as the resets are apart holds at most one of them. -/
theorem total_interval_le (metered : Metered limit duration trace) (since : Nat) :
    total (interval since (since + duration) trace) ≤ 2 * limit := by
  induction metered with
  | nil => exact Nat.zero_le _
  | @reset earlier time _ _ _ ih =>
      rw [interval, total_filter_reset]
      exact ih
  | @grant earlier time amount rest ordered fits ih =>
      by_cases late : time < since + duration
      · have whole : Metered limit duration (.grant time amount :: earlier) :=
          rest.grant ordered fits
        have early : ∀ entry ∈ Entry.grant time amount :: earlier,
            entry.time < since + duration := by
          intro entry listed
          rcases List.mem_cons.mp listed with rfl | older
          · exact late
          · exact (ordered entry older).trans_lt late
        have bound : total (startingAt since (.grant time amount :: earlier)) ≤
            current (.grant time amount :: earlier) + limit :=
          whole.total_startingAt_le fun entry listed _ => early entry listed
        have fits' := whole.current_le
        rw [interval_eq_startingAt early]
        omega
      · have same : interval since (since + duration) (.grant time amount :: earlier) =
            interval since (since + duration) earlier := by
          simp [interval, Entry.time, late]
        rw [same]
        exact ih

end Metered

/-! ## An account with a cap and a bounded refill -/

/-- The entries stamped from `since` to `till`, both included. -/
def closedInterval (since till : Nat) (trace : List Entry) : List Entry :=
  trace.filter fun entry => since ≤ entry.time ∧ entry.time ≤ till

/-- The trace is paid from an account that holds `tokens` at the time `now`. A granted unit costs
`scale` tokens; the account holds at most `capacity`, and is refilled at most at the rate that
fills it in `duration`. -/
structure Paid (scale capacity duration : Nat) (trace : List Entry) (tokens now : Nat) :
    Prop where
  ordered : ∀ entry ∈ trace, entry.time ≤ now
  capped : tokens ≤ capacity
  startingAt : ∀ since ≤ now,
    total (startingAt since trace) * scale * duration + tokens * duration ≤
      capacity * duration + capacity * (now - since)
  within : ∀ since till, since ≤ till →
    total (closedInterval since till trace) * scale * duration ≤
      capacity * duration + capacity * (till - since)

namespace Paid

variable {scale capacity duration tokens now : Nat} {trace : List Entry}

theorem opened (capped : tokens ≤ capacity) :
    Paid scale capacity duration [] tokens now where
  ordered := by simp
  capped := capped
  startingAt := by
    intro since _
    have full := Nat.mul_le_mul_right duration capped
    simp only [Metering.startingAt, List.filter_nil, total_nil, Nat.zero_mul, Nat.zero_add]
    exact full.trans (Nat.le_add_right _ _)
  within := by
    intro since till _
    simp [closedInterval]

/-- Time passes, and the account is refilled no faster than its rate. -/
theorem refill (paid : Paid scale capacity duration trace tokens now) {later filled : Nat}
    (after : now ≤ later) (capped : filled ≤ capacity)
    (rate : filled * duration ≤ tokens * duration + capacity * (later - now)) :
    Paid scale capacity duration trace filled later where
  ordered := fun entry listed => (paid.ordered entry listed).trans after
  capped := capped
  startingAt := by
    intro since recent
    by_cases earlier : since ≤ now
    · have before := paid.startingAt since earlier
      have elapsed : later - since = (later - now) + (now - since) := by omega
      rw [elapsed, Nat.mul_add]
      omega
    · have early : ∀ entry ∈ trace, entry.time < since := fun entry listed =>
        (paid.ordered entry listed).trans_lt (Nat.not_le.mp earlier)
      have full := Nat.mul_le_mul_right duration capped
      rw [startingAt_eq_nil early, total_nil, Nat.zero_mul, Nat.zero_mul, Nat.zero_add]
      exact full.trans (Nat.le_add_right _ _)
  within := paid.within

theorem lose (paid : Paid scale capacity duration trace tokens now) {left : Nat}
    (fewer : left ≤ tokens) : Paid scale capacity duration trace left now := by
  apply paid.refill (le_refl now) (fewer.trans paid.capped)
  exact (Nat.mul_le_mul_right duration fewer).trans (Nat.le_add_right _ _)

/-- A grant is paid for, and the account may lose more. -/
theorem grant (paid : Paid scale capacity duration trace tokens now) {amount left : Nat}
    (pays : amount * scale + left ≤ tokens) :
    Paid scale capacity duration (.grant now amount :: trace) left now := by
  have cost := Nat.mul_le_mul_right duration pays
  rw [Nat.add_mul] at cost
  have starting : ∀ since ≤ now,
      total (Metering.startingAt since (.grant now amount :: trace)) * scale * duration +
        left * duration ≤ capacity * duration + capacity * (now - since) := by
    intro since recent
    have before := paid.startingAt since recent
    have counted : Metering.startingAt since (.grant now amount :: trace) =
        .grant now amount :: Metering.startingAt since trace := by
      simp [Metering.startingAt, Entry.time, recent]
    rw [counted, total_cons, Entry.amount, Nat.add_mul, Nat.add_mul]
    omega
  refine ⟨?_, ?_, starting, ?_⟩
  · intro entry listed
    rcases List.mem_cons.mp listed with rfl | older
    · exact le_refl _
    · exact paid.ordered entry older
  · have capped := paid.capped
    omega
  · intro since till forward
    by_cases inside : since ≤ now ∧ now ≤ till
    · have all : closedInterval since till (.grant now amount :: trace) =
          Metering.startingAt since (.grant now amount :: trace) := by
        apply List.filter_congr
        intro entry listed
        have early : entry.time ≤ till := by
          rcases List.mem_cons.mp listed with rfl | older
          · exact inside.2
          · exact (paid.ordered entry older).trans inside.2
        simp [early]
      have bound := starting since inside.1
      have longer : capacity * (now - since) ≤ capacity * (till - since) :=
        Nat.mul_le_mul_left capacity (Nat.sub_le_sub_right inside.2 since)
      rw [all]
      omega
    · have same : closedInterval since till (.grant now amount :: trace) =
          closedInterval since till trace := by
        simp [closedInterval, Entry.time, inside]
      rw [same]
      exact paid.within since till forward

/-- A reset costs nothing. -/
theorem reset (paid : Paid scale capacity duration trace tokens now) :
    Paid scale capacity duration (.reset now :: trace) tokens now := by
  refine ⟨?_, paid.capped, ?_, ?_⟩
  · intro entry listed
    rcases List.mem_cons.mp listed with rfl | older
    · exact le_refl _
    · exact paid.ordered entry older
  · intro since recent
    rw [Metering.startingAt, total_filter_reset]
    exact paid.startingAt since recent
  · intro since till forward
    rw [closedInterval, total_filter_reset]
    exact paid.within since till forward

end Paid

/-! ## An account that is refilled in whole tokens -/

/-- What an account holds after a gap, if its rate fills it in `duration` and only whole tokens
are added. No refill, and so no cap, is applied to an empty gap. -/
def fill (capacity duration tokens gap : Nat) : Nat :=
  if gap = 0 then tokens else min capacity (tokens + capacity * gap / duration)

/-- The gaps between a moment and the times that follow it. -/
def gaps : Nat → List Nat → List Nat
  | _, [] => []
  | since, time :: later => (time - since) :: gaps time later

/-- The whole tokens that the gaps bring in, each for itself. -/
def whole (capacity duration : Nat) (gaps : List Nat) : Nat :=
  (gaps.map fun gap => capacity * gap / duration).sum

/-- The fractions, in parts of the duration, that are lost at the ends of the gaps. -/
def fractions (capacity duration : Nat) (gaps : List Nat) : Nat :=
  (gaps.map fun gap => capacity * gap % duration).sum

section Fill

variable (capacity duration tokens : Nat)

theorem sum_gaps {since till : Nat} {earlier : List Nat}
    (ordered : List.IsChain (· ≤ ·) (since :: (earlier ++ [till]))) :
    (gaps since (earlier ++ [till])).sum = till - since ∧ since ≤ till := by
  induction earlier generalizing since with
  | nil =>
      have forward : since ≤ till := by simpa using ordered
      simp [gaps, forward]
  | cons time earlier ih =>
      rw [List.cons_append, List.isChain_cons_cons] at ordered
      have rest := ih ordered.2
      have first := ordered.1
      rw [List.cons_append, gaps, List.sum_cons, rest.1]
      omega

theorem whole_add_fractions (gaps : List Nat) :
    duration * whole capacity duration gaps + fractions capacity duration gaps =
      capacity * gaps.sum := by
  induction gaps with
  | nil => rfl
  | cons gap gaps ih =>
      have divided := Nat.div_add_mod (capacity * gap) duration
      simp only [whole, fractions, List.map_cons, List.sum_cons] at ih ⊢
      rw [Nat.mul_add, Nat.mul_add, ← ih]
      omega

theorem whole_eq_zero {gaps : List Nat} (stands : gaps.sum = 0) :
    whole capacity duration gaps = 0 := by
  induction gaps with
  | nil => rfl
  | cons gap gaps ih =>
      rw [List.sum_cons, Nat.add_eq_zero_iff] at stands
      simp only [whole, List.map_cons, List.sum_cons, stands.1, Nat.mul_zero, Nat.zero_div,
        Nat.zero_add]
      exact ih stands.2

/-- The cap may as well be applied once, at the end. -/
theorem foldl_fill (gaps : List Nat) :
    gaps.foldl (fill capacity duration) tokens =
      if gaps.sum = 0 then tokens
      else min capacity (tokens + whole capacity duration gaps) := by
  induction gaps generalizing tokens with
  | nil => rfl
  | cons gap gaps ih =>
      rw [List.foldl_cons, ih, List.sum_cons]
      have first : whole capacity duration (gap :: gaps) =
          capacity * gap / duration + whole capacity duration gaps := rfl
      rw [first]
      by_cases stands : gap = 0
      · simp [fill, stands]
      · rw [fill, if_neg stands, if_neg (by omega : ¬ gap + gaps.sum = 0)]
        split
        · rename_i rest
          rw [whole_eq_zero capacity duration rest, Nat.add_zero]
        · omega

/-- Pieces bring in no less than one refill over all of them exactly if less than one token is
lost in fractions, or the account is full anyway. -/
theorem fill_le_foldl_iff {duration : Nat} (positive : 0 < duration) (gaps : List Nat) :
    fill capacity duration tokens gaps.sum ≤ gaps.foldl (fill capacity duration) tokens ↔
      fractions capacity duration gaps < duration ∨
        capacity ≤ tokens + whole capacity duration gaps := by
  have parts := whole_add_fractions capacity duration gaps
  have at_once : capacity * gaps.sum / duration =
      whole capacity duration gaps + fractions capacity duration gaps / duration := by
    rw [← parts, Nat.mul_add_div positive]
  rw [foldl_fill, fill, at_once]
  by_cases stands : gaps.sum = 0
  · rw [if_pos stands, if_pos stands]
    rw [stands, Nat.mul_zero, Nat.add_eq_zero_iff] at parts
    simp [parts.2, positive]
  · rw [if_neg stands, if_neg stands]
    by_cases few : fractions capacity duration gaps < duration
    · simp [few, Nat.div_eq_of_lt few]
    · have lost := Nat.div_pos (Nat.not_lt.mp few) positive
      simp only [few, false_or]
      omega

/-- One refill after a whole duration fills the account. -/
theorem fill_full {duration gap : Nat} (positive : 0 < duration) (waited : duration ≤ gap) :
    fill capacity duration tokens gap = capacity := by
  have brought : capacity ≤ capacity * gap / duration := by
    rw [Nat.le_div_iff_mul_le positive]
    exact Nat.mul_le_mul_left capacity waited
  rw [fill, if_neg (by omega : ¬ gap = 0)]
  omega

theorem foldl_fill_le {gaps : List Nat} (moves : gaps.sum ≠ 0) :
    gaps.foldl (fill capacity duration) tokens ≤ capacity := by
  rw [foldl_fill, if_neg moves]
  exact Nat.min_le_left _ _

end Fill

end Metering
