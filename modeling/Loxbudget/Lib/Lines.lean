import Mathlib.Data.List.Basic
import Mathlib.Data.Nat.Notation

/-!
# Reading a stream line by line

A loop over `fgets` with a buffer of fixed size sees a stream as a list of buffers: each ends
after a newline, or where the buffer is full, or where the stream ends. A text that is complete,
one that is empty or ends in a newline, is read the same whatever follows it. A `Char` stands for
a byte of the stream: the size of a buffer counts characters.
-/

namespace Lines

/-- What `fgets` takes of a stream when there is room for `room` characters, and the rest. -/
def takeLine : Nat → List Char → List Char × List Char
  | 0, stream => ([], stream)
  | _ + 1, [] => ([], [])
  | room + 1, c :: stream =>
      if c = '\n' then ([c], stream)
      else (c :: (takeLine room stream).1, (takeLine room stream).2)

/-- `fgets` with a buffer of `size` characters, one of which is for the terminator. -/
def fgets (size : Nat) (stream : List Char) : Option (List Char × List Char) :=
  if stream = [] then none else some (takeLine (size - 1) stream)

/-- The buffers that at most `count` calls of `fgets` fill. -/
def buffers (size : Nat) : Nat → List Char → List (List Char)
  | 0, _ => []
  | count + 1, stream =>
      match fgets size stream with
      | none => []
      | some (line, rest) => line :: buffers size count rest

/-- The buffers that a loop over `fgets` sees. With room for a character, each call takes one at
least, so the loop ends after as many calls as there are characters. -/
def lines (size : Nat) (stream : List Char) : List (List Char) :=
  buffers size stream.length stream

/-- A text after which `fgets` starts a new line. -/
def Complete (text : List Char) : Prop :=
  ∀ c ∈ text.getLast?, c = '\n'

/-! ## One call -/

theorem takeLine_append (room : Nat) (stream : List Char) :
    (takeLine room stream).1 ++ (takeLine room stream).2 = stream := by
  induction stream generalizing room with
  | nil => cases room <;> rfl
  | cons c stream ih =>
      cases room with
      | zero => rfl
      | succ room =>
          rw [takeLine]
          split
          · rfl
          · exact congrArg _ (ih room)

theorem takeLine_rest_length {room : Nat} (roomy : 0 < room) {stream : List Char}
    (more : stream ≠ []) : (takeLine room stream).2.length < stream.length := by
  have whole := congrArg List.length (takeLine_append room stream)
  have taken : (takeLine room stream).1 ≠ [] := by
    cases stream with
    | nil => exact absurd rfl more
    | cons c stream =>
        cases room with
        | zero => exact absurd rfl (Nat.ne_of_gt roomy)
        | succ room =>
            rw [takeLine]
            split
            · simp
            · simp
  have positive := List.length_pos_iff.mpr taken
  rw [List.length_append] at whole
  omega

theorem Complete.tail {c : Char} {text : List Char} (complete : Complete (c :: text)) :
    Complete text := by
  cases text with
  | nil => simp [Complete]
  | cons d text => exact complete

theorem Complete.append {front back : List Char} (complete : Complete back)
    (nonempty : back ≠ []) : Complete (front ++ back) := by
  intro c last
  rw [List.getLast?_append_of_ne_nil _ nonempty] at last
  exact complete c last

/-- What follows a complete text does not change how a line of it is taken. -/
theorem takeLine_complete (room : Nat) {text : List Char} (complete : Complete text)
    (nonempty : text ≠ []) (following : List Char) :
    takeLine room (text ++ following) =
        ((takeLine room text).1, (takeLine room text).2 ++ following) ∧
      Complete (takeLine room text).2 := by
  induction text generalizing room with
  | nil => exact absurd rfl nonempty
  | cons c text ih =>
      cases room with
      | zero => exact ⟨rfl, complete⟩
      | succ room =>
          rw [List.cons_append, takeLine, takeLine]
          split
          · exact ⟨rfl, complete.tail⟩
          · rename_i notNewline
            have more : text ≠ [] := by
              rintro rfl
              exact notNewline (complete c rfl)
            rcases ih room complete.tail more with ⟨taken, complete'⟩
            rw [taken]
            exact ⟨rfl, complete'⟩

/-- A line that fits into the buffer is taken whole. -/
theorem takeLine_line {room : Nat} {line : List Char} (unbroken : '\n' ∉ line)
    (fits : line.length < room) (following : List Char) :
    takeLine room (line ++ '\n' :: following) = (line ++ ['\n'], following) := by
  induction line generalizing room with
  | nil =>
      cases room with
      | zero => exact absurd fits (Nat.not_lt_zero _)
      | succ room => rfl
  | cons c line ih =>
      cases room with
      | zero => exact absurd fits (Nat.not_lt_zero _)
      | succ room =>
          rw [List.mem_cons, not_or] at unbroken
          rw [List.cons_append, takeLine, if_neg (Ne.symm unbroken.1),
            ih unbroken.2 (Nat.lt_of_succ_lt_succ fits)]
          rfl

/-! ## The loop -/

section Loop

variable {size : Nat} (roomy : 2 ≤ size)

include roomy

/-- More calls than there are characters change nothing. -/
theorem buffers_eq_lines {count : Nat} {stream : List Char} (enough : stream.length ≤ count) :
    buffers size count stream = lines size stream := by
  have shorter : ∀ {rest : List Char}, rest ≠ [] →
      (takeLine (size - 1) rest).2.length < rest.length :=
    fun more => takeLine_rest_length (by omega) more
  induction count using Nat.strongRecOn generalizing stream with
  | ind count ih =>
      by_cases more : stream = []
      · subst more
        cases count <;> rfl
      · have positive := List.length_pos_iff.mpr more
        have less := shorter more
        rcases Nat.exists_eq_succ_of_ne_zero (by omega : count ≠ 0) with ⟨previous, rfl⟩
        rcases Nat.exists_eq_succ_of_ne_zero (Nat.ne_of_gt positive) with ⟨length, spanned⟩
        simp only [lines, spanned, buffers, fgets, if_neg more]
        rw [ih previous (Nat.lt_succ_self _) (by omega)]
        congr 1
        by_cases full : length = previous
        · rw [full, ih previous (Nat.lt_succ_self _) (by omega)]
        · rw [ih length (by omega) (by omega)]

theorem lines_of_ne_nil {stream : List Char} (more : stream ≠ []) :
    lines size stream =
      (takeLine (size - 1) stream).1 :: lines size (takeLine (size - 1) stream).2 := by
  have less : (takeLine (size - 1) stream).2.length < stream.length :=
    takeLine_rest_length (by omega) more
  rcases Nat.exists_eq_succ_of_ne_zero (Nat.ne_of_gt (List.length_pos_iff.mpr more)) with
    ⟨length, spanned⟩
  rw [lines, spanned, buffers, fgets, if_neg more]
  exact congrArg _ (buffers_eq_lines roomy (by omega))

/-- A complete text is read as it would be alone, and what follows as if it came first. -/
theorem lines_append {text : List Char} (complete : Complete text) (following : List Char) :
    lines size (text ++ following) = lines size text ++ lines size following := by
  generalize counted : text.length = count
  induction count using Nat.strongRecOn generalizing text with
  | ind count ih =>
      by_cases more : text = []
      · subst more
        rfl
      · rcases takeLine_complete (size - 1) complete more following with ⟨taken, complete'⟩
        have less : (takeLine (size - 1) text).2.length < text.length :=
          takeLine_rest_length (by omega) more
        rw [lines_of_ne_nil roomy (by simp [more]), lines_of_ne_nil roomy more, taken]
        rw [List.cons_append, ih _ (by omega) complete' rfl]

theorem lines_line {line : List Char} (unbroken : '\n' ∉ line) (fits : line.length + 2 ≤ size)
    (following : List Char) :
    lines size (line ++ '\n' :: following) = (line ++ ['\n']) :: lines size following := by
  rw [lines_of_ne_nil roomy (by simp), takeLine_line unbroken (by omega)]

/-- Lines that fit into the buffer are read one by one. -/
theorem lines_unlines {texts : List (List Char)}
    (fitting : ∀ line ∈ texts, '\n' ∉ line ∧ line.length + 2 ≤ size) :
    lines size (texts.flatMap fun line => line ++ ['\n']) =
      texts.map fun line => line ++ ['\n'] := by
  induction texts with
  | nil => rfl
  | cons line texts ih =>
      rw [List.forall_mem_cons] at fitting
      rw [List.flatMap_cons, List.append_assoc, List.singleton_append,
        lines_line roomy fitting.1.1 fitting.1.2, ih fitting.2, List.map_cons]

end Loop

end Lines
