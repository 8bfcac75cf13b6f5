import Loxbudget.Lib.Machine

/-!
# Scripts

A script is a list of events that a machine is to take. It passes if every answer is accepted.
The rules say how scripts compose, how acceptance is settled for a loop whose steps depend on what
the loop has done so far, and when two states pass the same scripts.
-/

universe u v w

namespace Machine

variable {State : Type u} {Event : Type v} {Reply : Type w}
  (machine : Machine State Event Reply) (accepts : Event → Reply → Bool)

/-- Every answer along the script is accepted. -/
def Passes (state : State) (events : List Event) : Prop :=
  machine.Along (fun state event => accepts event (machine.reply state event) = true) state events

variable {machine accepts} {state : State} {events : List Event}

@[simp]
theorem passes_nil : machine.Passes accepts state [] := trivial

@[simp]
theorem passes_cons {event : Event} :
    machine.Passes accepts state (event :: events) ↔
      accepts event (machine.reply state event) = true ∧
        machine.Passes accepts (machine.next state event) events := Iff.rfl

theorem passes_append {before after : List Event} :
    machine.Passes accepts state (before ++ after) ↔
      machine.Passes accepts state before ∧
        machine.Passes accepts (machine.run state before) after :=
  machine.along_append _ state before after

/-! ## Loops -/

section Loop

variable {Item : Type*} {event : Item → Event} {allowed : List Item → Item → Prop}
  {invariant : List Item → State → Prop}

/-- The rule for a loop over a list: if what an iteration finds is told by the items done before,
the loop passes exactly if each item is allowed after those before it. -/
theorem passes_map_iff
    (accepted : ∀ done item state, invariant done state →
      (accepts (event item) (machine.reply state (event item)) = true ↔ allowed done item))
    (preserved : ∀ done item state, invariant done state → allowed done item →
      invariant (done ++ [item]) (machine.next state (event item)))
    {done : List Item} (initially : invariant done state) (items : List Item) :
    machine.Passes accepts state (items.map event) ↔
      ∀ before item after, items = before ++ item :: after → allowed (done ++ before) item := by
  induction items generalizing done state with
  | nil => simp
  | cons first items ih =>
      rw [List.map_cons, passes_cons, accepted done first state initially]
      constructor
      · rintro ⟨now, later⟩ before item after split
        cases before with
        | nil =>
            obtain ⟨rfl, -⟩ := List.cons.inj split
            rw [List.append_nil]
            exact now
        | cons head before =>
            rw [List.cons_append] at split
            obtain ⟨rfl, rfl⟩ := List.cons.inj split
            have rest := (ih (preserved done first state initially now)).mp later
            simpa using rest before item after rfl
      · intro all
        have now := all [] first items rfl
        rw [List.append_nil] at now
        refine ⟨now, (ih (preserved done first state initially now)).mpr ?_⟩
        rintro before item after rfl
        simpa using all (first :: before) item after rfl

theorem run_map_invariant
    (accepted : ∀ done item state, invariant done state →
      (accepts (event item) (machine.reply state (event item)) = true ↔ allowed done item))
    (preserved : ∀ done item state, invariant done state → allowed done item →
      invariant (done ++ [item]) (machine.next state (event item)))
    {done : List Item} (initially : invariant done state) {items : List Item}
    (passes : machine.Passes accepts state (items.map event)) :
    invariant (done ++ items) (machine.run state (items.map event)) := by
  induction items generalizing done state with
  | nil => simpa using initially
  | cons first items ih =>
      have now := (accepted done first state initially).mp passes.1
      have rest := ih (preserved done first state initially now) passes.2
      simpa using rest

end Loop

/-! ## States that are found alike -/

/-- Two states that every event finds alike pass the same scripts. -/
theorem passes_iff_of_related {State' : Type*} {other : Machine State' Event Reply}
    (related : State → State' → Prop) {holds : Event → Prop}
    (step : ∀ state state' event, related state state' → holds event →
      accepts event (machine.reply state event) = accepts event (other.reply state' event) ∧
        related (machine.next state event) (other.next state' event))
    {state' : State'} (initially : related state state')
    (all : ∀ event ∈ events, holds event) :
    machine.Passes accepts state events ↔ other.Passes accepts state' events := by
  induction events generalizing state state' with
  | nil => simp
  | cons event events ih =>
      rw [List.forall_mem_cons] at all
      rcases step state state' event initially all.1 with ⟨same, related'⟩
      rw [passes_cons, passes_cons, same, ih related' all.2]

end Machine
