import Mathlib.Data.List.Basic
import Mathlib.Logic.Function.Basic

/-!
# The first entry that meets a condition

A scan over the entries of an array that rewrites the first one that meets a condition can be told
on the list of the entries, or on the array and the places that the scan runs over. Both say the
same (`replaceFirst_map`), and other places keep their entries (`map_update_of_notMem`).
-/

namespace Slots

variable {Entry Place : Type*}

/-- The list with the first entry that meets the condition rewritten; `none` if there is none. -/
def replaceFirst (meets : Entry → Prop) [DecidablePred meets] (rewritten : Entry → Entry) :
    List Entry → Option (List Entry)
  | [] => none
  | entry :: rest =>
      if meets entry then some (rewritten entry :: rest)
      else (replaceFirst meets rewritten rest).map (entry :: ·)

variable {meets : Entry → Prop} [DecidablePred meets] {rewritten : Entry → Entry}

theorem replaceFirst_eq_none {entries : List Entry} :
    replaceFirst meets rewritten entries = none ↔ ∀ entry ∈ entries, ¬meets entry := by
  induction entries with
  | nil => simp [replaceFirst]
  | cons entry entries ih =>
      rw [replaceFirst, List.forall_mem_cons]
      split
      · rename_i here
        simp [here]
      · rename_i elsewhere
        rw [Option.map_eq_none_iff, ih]
        exact ⟨fun later => ⟨elsewhere, later⟩, And.right⟩

/-- Before the entry that is rewritten, none meets the condition. -/
theorem replaceFirst_eq_some {before after : List Entry}
    (replaced : replaceFirst meets rewritten before = some after) :
    ∃ front entry back, before = front ++ entry :: back ∧
      after = front ++ rewritten entry :: back ∧ meets entry ∧
      ∀ other ∈ front, ¬meets other := by
  induction before generalizing after with
  | nil => cases replaced
  | cons entry before ih =>
      rw [replaceFirst] at replaced
      split at replaced
      · rename_i here
        cases replaced
        exact ⟨[], entry, before, rfl, rfl, here, by simp⟩
      · rename_i elsewhere
        rcases Option.map_eq_some_iff.mp replaced with ⟨rest, later, rfl⟩
        rcases ih later with ⟨front, found, back, rfl, rfl, here, none⟩
        exact ⟨entry :: front, found, back, rfl, rfl, here,
          List.forall_mem_cons.mpr ⟨elsewhere, none⟩⟩

variable [DecidableEq Place]

theorem map_update_of_notMem {places : List Place} {place : Place} (apart : place ∉ places)
    (array : Place → Entry) (entry : Entry) :
    places.map (Function.update array place entry) = places.map array := by
  apply List.map_congr_left
  intro other listed
  have differs : other ≠ place := fun same => apart (same ▸ listed)
  exact Function.update_of_ne differs _ _

/-- The scan over the places of an array. -/
theorem replaceFirst_map (array : Place → Entry) {places : List Place}
    (distinct : places.Nodup) :
    replaceFirst meets rewritten (places.map array) =
      (places.find? fun place => meets (array place)).map fun place =>
        places.map (Function.update array place (rewritten (array place))) := by
  induction places with
  | nil => rfl
  | cons place places ih =>
      rcases List.nodup_cons.mp distinct with ⟨fresh, rest⟩
      rw [List.map_cons, replaceFirst]
      by_cases here : meets (array place)
      · rw [if_pos here, List.find?_cons_of_pos (by simpa using here), Option.map_some,
          List.map_cons, Function.update_self, map_update_of_notMem fresh]
      · rw [if_neg here, ih rest, List.find?_cons_of_neg (by simpa using here), Option.map_map]
        cases found : places.find? fun place => meets (array place) with
        | none => rfl
        | some other =>
            have apart : place ≠ other := fun same => fresh (same ▸ List.mem_of_find?_eq_some found)
            simp only [Option.map_some, Function.comp_apply, List.map_cons,
              Function.update_of_ne apart]

end Slots
