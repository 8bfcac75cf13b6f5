import Loxbudget.Lib.Machine

/-!
# What a run emits

The steps of a run emit things: messages, records, calls of another library. `emitted` collects
them in their order. The rules speak of what every emission is like, of a counter that is moved by
what is emitted, and of a part of a machine that another machine describes.
-/

universe u v w

namespace Machine

variable {State : Type u} {Event : Type v} {Reply : Type w} {Out : Type*}
  (machine : Machine State Event Reply) (emits : State → Event → List Out)

/-- What the steps of a run emit, in their order. -/
def emitted (state : State) : List Event → List Out
  | [] => []
  | event :: events => emits state event ++ emitted (machine.next state event) events

@[simp]
theorem emitted_nil (state : State) : machine.emitted emits state [] = [] := rfl

@[simp]
theorem emitted_cons (state : State) (event : Event) (events : List Event) :
    machine.emitted emits state (event :: events) =
      emits state event ++ machine.emitted emits (machine.next state event) events := rfl

variable {machine emits} {state : State} {events : List Event}

/-- The rule for a property that holds of nothing and of two emissions one after the other. -/
theorem emitted_induction {P : List Out → Prop} (none : P [])
    (append : ∀ first second, P first → P second → P (first ++ second))
    (step : ∀ state event, P (emits state event)) : P (machine.emitted emits state events) := by
  induction events generalizing state with
  | nil => exact none
  | cons event events ih => exact append _ _ (step state event) ih

/-- The rule for a summary of what is emitted, such as a counter: if each step brings the summary
up to date, so does a run. -/
theorem run_summary {Summary : Type*} (summary : State → Summary)
    (update : Summary → Out → Summary)
    (step : ∀ state event,
      summary (machine.next state event) = (emits state event).foldl update (summary state)) :
    summary (machine.run state events) =
      (machine.emitted emits state events).foldl update (summary state) := by
  induction events generalizing state with
  | nil => rfl
  | cons event events ih => rw [run_cons, ih, step, emitted_cons, List.foldl_append]

section Part

variable {State' Event' Reply' Out' : Type*} {other : Machine State' Event' Reply'}
  {emits' : State' → Event' → List Out'}

/-- The rule for a part: if the events keep an invariant, have the effect on a part of the state
that their images have on another machine, and emit what is made of the emissions there, then so
does a run. -/
theorem run_part {invariant : State → Prop} {holds : Event → Prop} (view : State → State')
    (image : Event → Option Event') (translate : Out' → List Out)
    (step : ∀ state event, invariant state → holds event →
      invariant (machine.next state event) ∧
        view (machine.next state event) = other.run (view state) (image event).toList ∧
        emits state event =
          (other.emitted emits' (view state) (image event).toList).flatMap translate)
    (initially : invariant state) (steps : ∀ event ∈ events, holds event) :
    invariant (machine.run state events) ∧
      view (machine.run state events) = other.run (view state) (events.filterMap image) ∧
      machine.emitted emits state events =
        (other.emitted emits' (view state) (events.filterMap image)).flatMap translate := by
  induction events generalizing state with
  | nil => exact ⟨initially, rfl, rfl⟩
  | cons event events ih =>
      rcases step state event initially (steps event List.mem_cons_self) with
        ⟨kept, viewed, emission⟩
      rcases ih kept (fun later listed => steps later (List.mem_cons_of_mem _ listed)) with
        ⟨kept_later, viewed_later, emission_later⟩
      refine ⟨kept_later, ?_⟩
      rw [run_cons, emitted_cons, viewed_later, emission_later, viewed, emission]
      cases same : image event with
      | none =>
          rw [List.filterMap_cons_none same]
          exact ⟨rfl, rfl⟩
      | some event' =>
          rw [List.filterMap_cons_some same, Option.toList_some, run_cons, run_nil, emitted_cons,
            emitted_nil, List.append_nil, run_cons, emitted_cons, List.flatMap_append]
          exact ⟨rfl, rfl⟩

end Part

end Machine
