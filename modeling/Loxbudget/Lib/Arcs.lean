import Mathlib.Logic.Relation

/-!
# Walks along a relation

A new arc lengthens the walks of a relation only through its two ends. So the arc
closes a cycle exactly if its head already reached its tail, and asking whether it
did may be done before or after the arc is added.

`Walk` counts the arcs of a walk.
-/

open Relation

namespace Arcs

variable {Node : Type*} {arc : Node → Node → Prop} {tail head first last : Node}

/-- No walk with at least one arc ends where it began. -/
def Acyclic (arc : Node → Node → Prop) : Prop :=
  ∀ node, ¬TransGen arc node node

/-- The relation with one more arc. -/
def withArc (arc : Node → Node → Prop) (tail head : Node) (first last : Node) : Prop :=
  arc first last ∨ first = tail ∧ last = head

/-- A walk that uses the new arc reaches its tail before and leaves its head after. -/
theorem reaches_of_withArc (walk : ReflTransGen (withArc arc tail head) first last) :
    ReflTransGen arc first last ∨
      ReflTransGen arc first tail ∧ ReflTransGen arc head last := by
  induction walk with
  | refl => exact Or.inl .refl
  | tail _ final ih =>
      rcases final with old | ⟨rfl, rfl⟩
      · rcases ih with direct | ⟨reach, leave⟩
        · exact Or.inl (direct.tail old)
        · exact Or.inr ⟨reach, leave.tail old⟩
      · rcases ih with direct | ⟨reach, -⟩
        · exact Or.inr ⟨direct, .refl⟩
        · exact Or.inr ⟨reach, .refl⟩

/-- The new arc does not help its head to reach its tail. -/
theorem head_reaches_tail_iff :
    ReflTransGen (withArc arc tail head) head tail ↔ ReflTransGen arc head tail := by
  constructor
  · intro walk
    rcases reaches_of_withArc walk with direct | ⟨reach, -⟩
    · exact direct
    · exact reach
  · intro walk
    exact ReflTransGen.mono (fun _ _ old => Or.inl old) _ _ walk

/-- An arc whose head does not reach its tail closes no cycle. -/
theorem Acyclic.withArc (acyclic : Acyclic arc) (unreached : ¬ReflTransGen arc head tail) :
    Acyclic (withArc arc tail head) := by
  intro node cycle
  rcases TransGen.tail'_iff.mp cycle with ⟨before, walk, final⟩
  rcases reaches_of_withArc walk with direct | ⟨reach, leave⟩
  · rcases final with old | ⟨rfl, rfl⟩
    · exact acyclic node (.tail' direct old)
    · exact unreached direct
  · rcases final with old | ⟨rfl, -⟩
    · exact unreached ((leave.tail old).trans reach)
    · exact unreached leave

/-- A walk with a given number of arcs. -/
inductive Walk (arc : Node → Node → Prop) (first : Node) : Nat → Node → Prop where
  | nil : Walk arc first 0 first
  | snoc {length : Nat} {middle last : Node} (walk : Walk arc first length middle)
      (final : arc middle last) : Walk arc first (length + 1) last

theorem Walk.mono {arc' : Node → Node → Prop} (more : ∀ node next, arc node next → arc' node next)
    {length : Nat} (walk : Walk arc first length last) : Walk arc' first length last := by
  induction walk with
  | nil => exact .nil
  | snoc _ final ih => exact .snoc ih (more _ _ final)

/-- A walk from a node that alone has arcs, none of which returns to it, has at most one arc. -/
theorem Walk.length_le_one {length : Nat}
    (star : ∀ node next, arc node next → node = first ∧ next ≠ first)
    (walk : Walk arc first length last) : length ≤ 1 := by
  cases walk with
  | nil => exact Nat.zero_le 1
  | snoc walk final =>
      cases walk with
      | nil => exact Nat.le_refl 1
      | snoc walk before => exact absurd (star _ _ final).1 (star _ _ before).2

end Arcs
