import Mathlib.Data.List.Infix
import Mathlib.Logic.Function.Iterate

/-!
# Searches with a bounded stack

A search pops an entry from a stack, skips it if its node has been expanded
before, and otherwise expands it: the entries that the expansion offers are pushed
one after the other, and a push onto a full stack is lost. What an expansion
offers may depend on the expansions before it, so a search can leave out the
children it has already seen, and an entry can carry more than its node, such as a
depth.

The state keeps the expanded entries themselves, newest first. A suffix
`entry :: older` of that list is one expansion, with what had been expanded when it
took place; the results of this file are about all such suffixes.
-/

/-- A search: the node of an entry, the entries offered by an expansion (given the earlier
expansions), and the capacity of the stack. -/
structure Worklist (Node Entry : Type*) where
  node : Entry → Node
  offers : List Entry → Entry → List Entry
  capacity : Nat

namespace Worklist

/-- The expanded entries, newest first, and the stack. -/
structure State (Entry : Type*) where
  expanded : List Entry
  stack : List Entry

variable {Node Entry : Type*} [DecidableEq Node] (search : Worklist Node Entry)

/-- Push entries one after the other; a push onto a full stack is lost. -/
def pushAll (capacity : Nat) (entries stack : List Entry) : List Entry :=
  entries.foldl
    (fun stack entry => if stack.length < capacity then entry :: stack else stack) stack

/-- One iteration of the search loop; it does nothing once the stack is empty. -/
def step (state : State Entry) : State Entry :=
  match state.stack with
  | [] => state
  | entry :: rest =>
      if search.node entry ∈ state.expanded.map search.node then ⟨state.expanded, rest⟩
      else
        ⟨entry :: state.expanded,
          pushAll search.capacity (search.offers state.expanded entry) rest⟩

/-- The state in which the search enters its loop. -/
def start (entry : Entry) : State Entry :=
  ⟨[], [entry]⟩

/-- The node has been expanded, or waits on the stack. -/
def Known (state : State Entry) (node : Node) : Prop :=
  node ∈ state.expanded.map search.node ∨ node ∈ state.stack.map search.node

/-- The next iteration loses no push of a node that matters and that it does not know otherwise. -/
def Lossless (matters : Node → Prop) (state : State Entry) : Prop :=
  ∀ entry rest, state.stack = entry :: rest →
    search.node entry ∉ state.expanded.map search.node →
    ∀ offer ∈ search.offers state.expanded entry, matters (search.node offer) →
      search.Known (search.step state) (search.node offer)

variable {search} {state : State Entry} {root : Entry}

/-! ## Pushing -/

theorem subset_pushAll (capacity : Nat) (entries stack : List Entry) :
    stack ⊆ pushAll capacity entries stack := by
  induction entries generalizing stack with
  | nil => exact List.Subset.refl stack
  | cons entry entries ih =>
      simp only [pushAll]
      rw [List.foldl_cons]
      split
      · exact List.Subset.trans (List.subset_cons_self entry stack) (ih (entry :: stack))
      · exact ih stack

theorem mem_of_mem_pushAll {capacity : Nat} {entries stack : List Entry} {entry : Entry}
    (pushed : entry ∈ pushAll capacity entries stack) : entry ∈ entries ∨ entry ∈ stack := by
  induction entries generalizing stack with
  | nil => exact Or.inr pushed
  | cons first entries ih =>
      simp only [pushAll] at pushed
      rw [List.foldl_cons] at pushed
      split at pushed
      · rcases ih pushed with later | before
        · exact Or.inl (List.mem_cons_of_mem _ later)
        · rcases List.mem_cons.mp before with rfl | before
          · exact Or.inl List.mem_cons_self
          · exact Or.inr before
      · rcases ih pushed with later | before
        · exact Or.inl (List.mem_cons_of_mem _ later)
        · exact Or.inr before

theorem length_pushAll_le (capacity : Nat) (entries stack : List Entry) :
    (pushAll capacity entries stack).length ≤ entries.length + stack.length := by
  induction entries generalizing stack with
  | nil => simp [pushAll]
  | cons entry entries ih =>
      simp only [pushAll]
      rw [List.foldl_cons]
      split
      · have bound := ih (entry :: stack)
        simp only [pushAll, List.length_cons] at bound ⊢
        omega
      · have bound := ih stack
        simp only [pushAll, List.length_cons] at bound ⊢
        omega

theorem mem_pushAll {capacity : Nat} {entries stack : List Entry} {entry : Entry}
    (room : entries.length + stack.length ≤ capacity) (offered : entry ∈ entries) :
    entry ∈ pushAll capacity entries stack := by
  induction entries generalizing stack with
  | nil => exact absurd offered List.not_mem_nil
  | cons first entries ih =>
      rw [List.length_cons] at room
      simp only [pushAll, List.foldl_cons]
      rw [if_pos (by omega)]
      rcases List.mem_cons.mp offered with rfl | later
      · exact subset_pushAll capacity entries (entry :: stack) List.mem_cons_self
      · refine ih ?_ later
        rw [List.length_cons]
        omega

/-! ## One iteration -/

theorem step_of_empty (empty : state.stack = []) : search.step state = state := by
  simp only [step]
  rw [empty]

theorem step_of_skip {entry : Entry} {rest : List Entry} (top : state.stack = entry :: rest)
    (seen : search.node entry ∈ state.expanded.map search.node) :
    search.step state = ⟨state.expanded, rest⟩ := by
  simp only [step]
  rw [top]
  exact if_pos seen

theorem step_of_expand {entry : Entry} {rest : List Entry} (top : state.stack = entry :: rest)
    (fresh : search.node entry ∉ state.expanded.map search.node) :
    search.step state = ⟨entry :: state.expanded,
      pushAll search.capacity (search.offers state.expanded entry) rest⟩ := by
  simp only [step]
  rw [top]
  exact if_neg fresh

/-- The three things that an iteration can do. -/
theorem step_cases (search : Worklist Node Entry) (state : State Entry) :
    (state.stack = [] ∧ search.step state = state) ∨
      (∃ entry rest, state.stack = entry :: rest ∧
        search.node entry ∈ state.expanded.map search.node ∧
        search.step state = ⟨state.expanded, rest⟩) ∨
      ∃ entry rest, state.stack = entry :: rest ∧
        search.node entry ∉ state.expanded.map search.node ∧
        search.step state = ⟨entry :: state.expanded,
          pushAll search.capacity (search.offers state.expanded entry) rest⟩ := by
  rcases top : state.stack with _ | ⟨entry, rest⟩
  · exact Or.inl ⟨rfl, step_of_empty top⟩
  · by_cases seen : search.node entry ∈ state.expanded.map search.node
    · exact Or.inr (Or.inl ⟨entry, rest, rfl, seen, step_of_skip top seen⟩)
    · exact Or.inr (Or.inr ⟨entry, rest, rfl, seen, step_of_expand top seen⟩)

theorem expanded_suffix_step (search : Worklist Node Entry) (state : State Entry) :
    state.expanded <:+ (search.step state).expanded := by
  rcases search.step_cases state with ⟨-, after⟩ | ⟨entry, rest, -, -, after⟩ |
    ⟨entry, rest, -, -, after⟩
  · rw [after]
  · rw [after]
  · rw [after]
    exact List.suffix_cons entry state.expanded

omit [DecidableEq Node] in
/-- Once the stack is empty, what is known has been expanded. -/
theorem Known.expanded {node : Node} (known : search.Known state node)
    (ended : state.stack = []) : node ∈ state.expanded.map search.node := by
  rcases known with done | waiting
  · exact done
  · rw [ended] at waiting
    exact absurd waiting List.not_mem_nil

theorem Known.step {node : Node} (known : search.Known state node) :
    search.Known (search.step state) node := by
  rcases search.step_cases state with ⟨-, after⟩ | ⟨entry, rest, top, seen, after⟩ |
    ⟨entry, rest, top, -, after⟩
  · rwa [after]
  · rw [after]
    rcases known with done | waiting
    · exact Or.inl done
    · rw [top, List.map_cons, List.mem_cons] at waiting
      rcases waiting with rfl | waiting
      · exact Or.inl seen
      · exact Or.inr waiting
  · rw [after]
    rcases known with done | waiting
    · exact Or.inl (List.mem_cons_of_mem _ done)
    · rw [top, List.map_cons, List.mem_cons] at waiting
      rcases waiting with rfl | waiting
      · exact Or.inl List.mem_cons_self
      · exact Or.inr (List.map_subset _ (subset_pushAll _ _ _) waiting)

/-- An expansion after an iteration was there before it, or is the one that it made. -/
theorem suffix_step_cases {entry : Entry} {older : List Entry}
    (expansion : entry :: older <:+ (search.step state).expanded) :
    entry :: older <:+ state.expanded ∨
      older = state.expanded ∧ search.node entry ∉ state.expanded.map search.node ∧
        ∃ rest, state.stack = entry :: rest := by
  rcases search.step_cases state with ⟨-, after⟩ | ⟨first, rest, -, -, after⟩ |
    ⟨first, rest, top, fresh, after⟩
  · rw [after] at expansion
    exact Or.inl expansion
  · rw [after] at expansion
    exact Or.inl expansion
  · rw [after] at expansion
    rcases List.suffix_cons_iff.mp expansion with new | old
    · obtain ⟨rfl, rfl⟩ := List.cons.inj new
      exact Or.inr ⟨rfl, fresh, rest, top⟩
    · exact Or.inl old

/-! ## Whole searches -/

/-- The state after some iterations. -/
def after (search : Worklist Node Entry) (root : Entry) (count : Nat) : State Entry :=
  search.step^[count] (start root)

@[simp]
theorem after_zero (search : Worklist Node Entry) (root : Entry) :
    search.after root 0 = start root := rfl

theorem after_succ (search : Worklist Node Entry) (root : Entry) (count : Nat) :
    search.after root (count + 1) = search.step (search.after root count) :=
  Function.iterate_succ_apply' _ _ _

theorem expanded_suffix_after (search : Worklist Node Entry) (root : Entry)
    {earlier later : Nat} (before : earlier ≤ later) :
    (search.after root earlier).expanded <:+ (search.after root later).expanded := by
  induction before with
  | refl => exact List.suffix_rfl
  | @step later before ih =>
      rw [after_succ]
      exact ih.trans (expanded_suffix_step search _)

theorem suffix_after_succ {entry : Entry} {older : List Entry} {count : Nat}
    (expansion : entry :: older <:+ (search.after root count).expanded) :
    entry :: older <:+ (search.after root (count + 1)).expanded :=
  expansion.trans (expanded_suffix_after search root count.le_succ)

/-- Every entry that the search comes across is the root, or was offered by an expansion. -/
theorem offered_of_mem {count : Nat} {entry : Entry}
    (found : entry ∈ (search.after root count).expanded ∨
      entry ∈ (search.after root count).stack) :
    entry = root ∨ ∃ parent older, parent :: older <:+ (search.after root count).expanded ∧
      entry ∈ search.offers older parent := by
  induction count generalizing entry with
  | zero =>
      rcases found with found | found
      · simp [start] at found
      · exact Or.inl (by simpa [start] using found)
  | succ count ih =>
      have earlier : (entry ∈ (search.after root count).expanded ∨
          entry ∈ (search.after root count).stack) →
          entry = root ∨ ∃ parent older,
            parent :: older <:+ (search.after root (count + 1)).expanded ∧
              entry ∈ search.offers older parent := by
        intro before
        rcases ih before with isRoot | ⟨parent, older, expansion, offered⟩
        · exact Or.inl isRoot
        · exact Or.inr ⟨parent, older, suffix_after_succ expansion, offered⟩
      rw [after_succ] at found
      rcases search.step_cases (search.after root count) with ⟨-, after⟩ |
        ⟨first, rest, top, -, after⟩ | ⟨first, rest, top, -, after⟩
      · rw [after] at found
        exact earlier found
      · rw [after] at found
        apply earlier
        rw [top]
        exact found.imp_right (List.mem_cons_of_mem _)
      · rcases found with done | waiting
        · rw [after] at done
          apply earlier
          rw [top]
          rcases List.mem_cons.mp done with rfl | done
          · exact Or.inr List.mem_cons_self
          · exact Or.inl done
        · rw [after] at waiting
          rcases mem_of_mem_pushAll waiting with offered | waiting
          · refine Or.inr ⟨first, (search.after root count).expanded, ?_, offered⟩
            rw [after_succ, after]
          · apply earlier
            rw [top]
            exact Or.inr (List.mem_cons_of_mem _ waiting)

/-- What is true of the root and of every entry offered by an entry of which it is true, is true
of every entry that the search comes across. -/
theorem entry_invariant (search : Worklist Node Entry) {root : Entry} (holds : Entry → Prop)
    (atRoot : holds root)
    (offered : ∀ older entry offer, holds entry → offer ∈ search.offers older entry →
      holds offer) {count : Nat} {entry : Entry}
    (found : entry ∈ (search.after root count).expanded ∨
      entry ∈ (search.after root count).stack) : holds entry := by
  induction count generalizing entry with
  | zero =>
      rcases found with found | found
      · simp [start] at found
      · obtain rfl : entry = root := by simpa [start] using found
        exact atRoot
  | succ count ih =>
      rw [after_succ] at found
      rcases search.step_cases (search.after root count) with ⟨-, after⟩ |
        ⟨first, rest, top, -, after⟩ | ⟨first, rest, top, -, after⟩
      · rw [after] at found
        exact ih found
      · rw [after] at found
        apply ih
        rw [top]
        exact found.imp_right (List.mem_cons_of_mem _)
      · rw [after] at found
        rw [top] at ih
        rcases found with done | waiting
        · rcases List.mem_cons.mp done with rfl | done
          · exact ih (Or.inr List.mem_cons_self)
          · exact ih (Or.inl done)
        · rcases mem_of_mem_pushAll waiting with offer | waiting
          · exact offered _ _ _ (ih (Or.inr List.mem_cons_self)) offer
          · exact ih (Or.inr (List.mem_cons_of_mem _ waiting))

/-- Two searches that offer alike from every entry that they come across make the same
iterations. -/
theorem after_congr {search' : Worklist Node Entry} {root : Entry} (holds : Entry → Prop)
    (node : search'.node = search.node) (capacity : search'.capacity = search.capacity)
    (atRoot : holds root)
    (offered : ∀ older entry offer, holds entry → offer ∈ search.offers older entry →
      holds offer)
    (alike : ∀ older entry, holds entry → search'.offers older entry = search.offers older entry)
    (count : Nat) : search'.after root count = search.after root count := by
  induction count with
  | zero => rfl
  | succ count ih =>
      rw [after_succ, after_succ, ih]
      rcases top : (search.after root count).stack with _ | ⟨entry, rest⟩
      · rw [step_of_empty top, step_of_empty top]
      · have waiting : entry ∈ (search.after root count).stack := by
          rw [top]
          exact List.mem_cons_self
        have holdsTop := entry_invariant search holds atRoot offered (Or.inr waiting)
        simp only [step, top, node, capacity, alike _ entry holdsTop]

/-- Iterations after the end change nothing. -/
theorem after_of_ended {root : Entry} {count later : Nat}
    (ended : (search.after root count).stack = []) (after : count ≤ later) :
    search.after root later = search.after root count := by
  induction after with
  | refl => rfl
  | step _ ih =>
      rw [after_succ, ih]
      exact step_of_empty ended

/-- Every expansion was made by an iteration that found its entry on top of the stack. -/
theorem exists_iteration {count : Nat} {entry : Entry} {older : List Entry}
    (expansion : entry :: older <:+ (search.after root count).expanded) :
    ∃ iteration < count, (search.after root iteration).expanded = older ∧
      search.node entry ∉ older.map search.node ∧
      ∃ rest, (search.after root iteration).stack = entry :: rest := by
  induction count with
  | zero => simp [start] at expansion
  | succ count ih =>
      rw [after_succ] at expansion
      rcases suffix_step_cases expansion with old | ⟨rfl, fresh, top⟩
      · rcases ih old with ⟨iteration, before, found⟩
        exact ⟨iteration, Nat.lt_succ_of_lt before, found⟩
      · exact ⟨count, Nat.lt_succ_self count, rfl, fresh, top⟩

theorem root_known (search : Worklist Node Entry) (root : Entry) (count : Nat) :
    search.Known (search.after root count) (search.node root) := by
  induction count with
  | zero => exact Or.inr (by simp [start])
  | succ count ih =>
      rw [after_succ]
      exact ih.step

/-- If no iteration lost a push of a node that matters, every such offer of every expansion is
known. -/
theorem offer_known {matters : Node → Prop} {count : Nat}
    (lossless : ∀ iteration, iteration < count →
      search.Lossless matters (search.after root iteration))
    {entry offer : Entry} {older : List Entry}
    (expansion : entry :: older <:+ (search.after root count).expanded)
    (offered : offer ∈ search.offers older entry) (relevant : matters (search.node offer)) :
    search.Known (search.after root count) (search.node offer) := by
  induction count with
  | zero => simp [start] at expansion
  | succ count ih =>
      rw [after_succ] at expansion ⊢
      rcases suffix_step_cases expansion with old | ⟨rfl, fresh, rest, top⟩
      · exact (ih (fun iteration before => lossless iteration (by omega)) old).step
      · exact lossless count (Nat.lt_succ_self count) entry rest top fresh offer offered relevant

/-- Every expansion offers no more entries than it takes from the fuel. -/
def Spends (search : Worklist Node Entry) (fuel : List Entry → Nat) : Prop :=
  ∀ expanded entry, search.node entry ∉ expanded.map search.node →
    (search.offers expanded entry).length + fuel (entry :: expanded) ≤ fuel expanded

/-- What is on the stack, what is left of the fuel and the iterations made do not exceed the
fuel that the search began with. -/
theorem Spends.bound {fuel : List Entry → Nat} (spends : search.Spends fuel) (root : Entry)
    (count : Nat) :
    (search.after root count).stack = [] ∨
      (search.after root count).stack.length + fuel (search.after root count).expanded + count ≤
        1 + fuel [] := by
  induction count with
  | zero => exact Or.inr (by simp [start])
  | succ count ih =>
      rw [after_succ]
      rcases search.step_cases (search.after root count) with ⟨empty, after⟩ |
        ⟨entry, rest, top, -, after⟩ | ⟨entry, rest, top, fresh, after⟩
      · left
        rwa [after]
      · rw [top, List.length_cons] at ih
        right
        rw [after]
        rcases ih with empty | bound
        · simp at empty
        · simp only
          omega
      · rw [top, List.length_cons] at ih
        right
        rw [after]
        have pushed := length_pushAll_le search.capacity
          (search.offers (search.after root count).expanded entry) rest
        have spent := spends (search.after root count).expanded entry fresh
        rcases ih with empty | bound
        · simp at empty
        · simp only
          omega

theorem Spends.stack_eq_nil {fuel : List Entry → Nat} (spends : search.Spends fuel)
    {count : Nat} (enough : fuel [] < count) : (search.after root count).stack = [] := by
  rcases spends.bound root count with empty | bound
  · exact empty
  · exact List.eq_nil_of_length_eq_zero (by omega)

/-- A stack with room for the fuel takes every push. -/
theorem Spends.pushed {fuel : List Entry → Nat} (spends : search.Spends fuel)
    (room : fuel [] ≤ search.capacity) {count : Nat} {entry offer : Entry} {rest : List Entry}
    (top : (search.after root count).stack = entry :: rest)
    (fresh : search.node entry ∉ (search.after root count).expanded.map search.node)
    (offered : offer ∈ search.offers (search.after root count).expanded entry) :
    offer ∈ (search.step (search.after root count)).stack := by
  rw [step_of_expand top fresh]
  refine mem_pushAll ?_ offered
  have spent := spends (search.after root count).expanded entry fresh
  rcases spends.bound root count with empty | bound
  · simp [top] at empty
  · rw [top, List.length_cons] at bound
    omega

/-! ## Loops that mark what they expand -/

section Marking

variable {Local Node : Type*} {loop : Local → Local} {marked : Local → List Node}
  {expands : Local → Option Node}

theorem marked_iterate (grows : ∀ l, marked l ⊆ marked (loop l)) (l : Local)
    {earlier later : Nat} (before : earlier ≤ later) :
    marked (loop^[earlier] l) ⊆ marked (loop^[later] l) := by
  induction later, before using Nat.le_induction with
  | base => exact List.Subset.refl _
  | succ later _ ih =>
      rw [Function.iterate_succ_apply']
      exact List.Subset.trans ih (grows _)

/-- If a loop expands only what is not marked, and marks it, it expands nothing twice. -/
theorem expands_once (grows : ∀ l, marked l ⊆ marked (loop l))
    (marks : ∀ l node, expands l = some node → node ∉ marked l ∧ node ∈ marked (loop l))
    {l : Local} {node : Node} {i j : Nat} (first : expands (loop^[i] l) = some node)
    (second : expands (loop^[j] l) = some node) : i = j := by
  have later : ∀ i j, expands (loop^[i] l) = some node → expands (loop^[j] l) = some node →
      ¬i < j := by
    intro i j first second before
    have done := (marks _ node first).2
    rw [← Function.iterate_succ_apply' loop] at done
    exact (marks _ node second).1 (marked_iterate grows l before done)
  have one := later i j first second
  have other := later j i second first
  omega

end Marking

end Worklist
