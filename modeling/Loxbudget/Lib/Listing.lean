import Mathlib.Data.Finset.Card
import Mathlib.Data.Finset.Dedup
import Mathlib.Logic.Function.Basic

/-!
# Lists of declarations

A list whose entries are taken in turn, where a later entry for a key stands in for an earlier
one. What a table holds after the list is its last entry for each key, and a condition on each
entry and those before it is, for distinct keys and for a bound on the number of keys, one on the
list as a whole.
-/

universe u v w

namespace Listing

variable {Entry : Type u} {Key : Type v} {Value : Type w} {entries : List Entry} {entry : Entry}

/-- The last entry with a property. -/
def last (p : Entry → Bool) (entries : List Entry) : Option Entry :=
  (entries.filter p).getLast?

@[simp]
theorem last_nil (p : Entry → Bool) : last p [] = none := rfl

theorem last_concat (p : Entry → Bool) (entries : List Entry) (entry : Entry) :
    last p (entries ++ [entry]) = if p entry then some entry else last p entries := by
  rw [last, List.filter_append]
  split
  · rename_i found
    rw [List.filter_singleton, found]
    exact List.getLast?_concat
  · rename_i missed
    rw [List.filter_singleton, Bool.not_eq_true _ |>.mp missed]
    exact congrArg List.getLast? (List.append_nil _)

theorem last_eq_some {p : Entry → Bool} (found : last p entries = some entry) :
    entry ∈ entries ∧ p entry = true :=
  List.mem_filter.mp (List.mem_of_getLast? found)

theorem last_isSome_iff {p : Entry → Bool} :
    (last p entries).isSome = true ↔ ∃ entry ∈ entries, p entry = true := by
  rw [last, List.getLast?_isSome, Ne, List.filter_eq_nil_iff]
  push Not
  rfl

section Overlay

variable [DecidableEq Key] (key : Entry → Key) (store : Entry → Value) (base : Key → Value)

/-- A table after the entries have been stored in it, one by one. -/
def overlay (entries : List Entry) (k : Key) : Value :=
  match last (fun entry => key entry == k) entries with
  | none => base k
  | some entry => store entry

@[simp]
theorem overlay_nil : overlay key store base [] = base := rfl

theorem overlay_concat (entries : List Entry) (entry : Entry) :
    overlay key store base (entries ++ [entry]) =
      Function.update (overlay key store base entries) (key entry) (store entry) := by
  funext k
  rw [overlay, last_concat]
  by_cases same : key entry = k
  · subst same
    simp
  · rw [Function.update_of_ne (Ne.symm same), if_neg (by simpa using same)]
    rfl

/-- A table holds what an entry with the key has stored, or nothing new if there is none. -/
theorem overlay_cases (entries : List Entry) (k : Key) :
    (∃ entry ∈ entries, key entry = k ∧ overlay key store base entries k = store entry) ∨
      (∀ entry ∈ entries, key entry ≠ k) ∧ overlay key store base entries k = base k := by
  rw [overlay]
  cases found : last (fun entry => key entry == k) entries with
  | some entry =>
      rcases last_eq_some found with ⟨listed, keyed⟩
      exact Or.inl ⟨entry, listed, beq_iff_eq.mp keyed, rfl⟩
  | none =>
      refine Or.inr ⟨fun entry listed keyed => ?_, rfl⟩
      have stored : (last (fun entry => key entry == k) entries).isSome = true :=
        last_isSome_iff.mpr ⟨entry, listed, beq_iff_eq.mpr keyed⟩
      rw [found] at stored
      cases stored

end Overlay

/-! ## Conditions on what comes before -/

/-- Each entry of the list is allowed after those before it. -/
def Each (allowed : List Entry → Entry → Prop) (entries : List Entry) : Prop :=
  ∀ before entry after, entries = before ++ entry :: after → allowed before entry

theorem each_nil (allowed : List Entry → Entry → Prop) : Each allowed [] := by
  intro before entry after split
  simp at split

theorem each_concat {allowed : List Entry → Entry → Prop} :
    Each allowed (entries ++ [entry]) ↔ Each allowed entries ∧ allowed entries entry := by
  constructor
  · intro each
    refine ⟨?_, each entries entry [] rfl⟩
    rintro before item after rfl
    exact each before item (after ++ [entry]) (by simp)
  · rintro ⟨each, now⟩ before item after split
    rcases List.eq_nil_or_concat after with rfl | ⟨later, final, rfl⟩
    · obtain ⟨rfl, same⟩ := List.append_inj' split rfl
      obtain rfl := (List.cons.inj same).1
      exact now
    · rw [List.concat_eq_append, ← List.cons_append, ← List.append_assoc] at split
      exact each before item later (List.append_inj' split rfl).1

theorem each_and {allowed allowed' : List Entry → Entry → Prop} :
    Each (fun before entry => allowed before entry ∧ allowed' before entry) entries ↔
      Each allowed entries ∧ Each allowed' entries := by
  constructor
  · intro each
    exact ⟨fun before entry after split => (each before entry after split).1,
      fun before entry after split => (each before entry after split).2⟩
  · rintro ⟨left, right⟩ before entry after split
    exact ⟨left before entry after split, right before entry after split⟩

theorem each_of_forall {holds : Entry → Prop} :
    Each (fun _ entry => holds entry) entries ↔ ∀ entry ∈ entries, holds entry := by
  constructor
  · intro each entry listed
    rcases List.append_of_mem listed with ⟨before, after, split⟩
    exact each before entry after split
  · rintro all before entry after rfl
    exact all entry (by simp)

/-- No entry has the key of one before it exactly if the keys are distinct. -/
theorem each_fresh_iff {key : Entry → Key} :
    Each (fun before entry => key entry ∉ before.map key) entries ↔ (entries.map key).Nodup := by
  induction entries using List.reverseRecOn with
  | nil => simp [each_nil]
  | append_singleton entries entry ih =>
      rw [each_concat, ih, List.map_append, List.map_singleton, List.nodup_append]
      simp

section Room

variable [DecidableEq Key] [DecidableEq Value] {key : Entry → Key} {value : Entry → Value}

/-- The values that the entries with a key have. -/
def values (key : Entry → Key) (value : Entry → Value) (entries : List Entry) (k : Key) :
    Finset Value :=
  ((entries.filter fun entry => key entry = k).map value).toFinset

theorem mem_values {k : Key} {v : Value} :
    v ∈ values key value entries k ↔ ∃ entry ∈ entries, key entry = k ∧ value entry = v := by
  simp only [values, List.mem_toFinset, List.mem_map, List.mem_filter, decide_eq_true_eq,
    and_assoc]

theorem values_concat (k : Key) :
    values key value (entries ++ [entry]) k =
      if key entry = k then insert (value entry) (values key value entries k)
      else values key value entries k := by
  ext v
  by_cases same : key entry = k
  · simp only [mem_values, if_pos same, Finset.mem_insert, List.mem_append, List.mem_singleton]
    constructor
    · rintro ⟨other, listed | rfl, keyed, valued⟩
      · exact Or.inr ⟨other, listed, keyed, valued⟩
      · exact Or.inl valued.symm
    · rintro (rfl | ⟨other, listed, keyed, valued⟩)
      · exact ⟨entry, Or.inr rfl, same, rfl⟩
      · exact ⟨other, Or.inl listed, keyed, valued⟩
  · simp only [mem_values, if_neg same, List.mem_append, List.mem_singleton]
    constructor
    · rintro ⟨other, listed | rfl, keyed, valued⟩
      · exact ⟨other, listed, keyed, valued⟩
      · exact absurd keyed same
    · rintro ⟨other, listed, keyed, valued⟩
      exact ⟨other, Or.inl listed, keyed, valued⟩

/-- There is room for each entry that brings a new value for its key exactly if there is room for
the values of every key. -/
theorem each_room_iff {room : Nat} :
    Each (fun before entry => value entry ∈ values key value before (key entry) ∨
      (values key value before (key entry)).card < room) entries ↔
        ∀ k, (values key value entries k).card ≤ room := by
  induction entries using List.reverseRecOn with
  | nil => simp [each_nil, values]
  | append_singleton entries entry ih =>
      rw [each_concat, ih]
      constructor
      · rintro ⟨fits, known | free⟩ k
        · rw [values_concat]
          split
          · rename_i same
            subst same
            rw [Finset.insert_eq_of_mem known]
            exact fits _
          · exact fits k
        · rw [values_concat]
          split
          · rename_i same
            subst same
            exact (Finset.card_insert_le _ _).trans free
          · exact fits k
      · intro fits
        have fewer (k : Key) : (values key value entries k).card ≤
            (values key value (entries ++ [entry]) k).card := by
          rw [values_concat]
          split
          · exact Finset.card_le_card (Finset.subset_insert _ _)
          · exact Nat.le_refl _
        refine ⟨fun k => (fewer k).trans (fits k), ?_⟩
        by_cases known : value entry ∈ values key value entries (key entry)
        · exact Or.inl known
        · right
          have here := fits (key entry)
          rw [values_concat, if_pos rfl, Finset.card_insert_of_notMem known] at here
          exact here

end Room

end Listing
