import Mathlib.Data.List.Basic

/-!
# Deterministic machines and their runs

A machine answers an event with a reply and moves to its next state; a run feeds
it a list of events. A property of the steps of a run is stated with `Along`,
which asks for it at every state the run passes through, together with the event
taken there. The rules below carry an invariant along a run, and exchange two
step properties that agree wherever the invariant holds: this turns an exact
condition on one step into an exact condition on whole runs. Steps without effect may be
taken out of a run.

`observe` extends a machine by a history variable that its own steps never read, and
`beside` lets two machines take turns.
-/

universe u v w

/-- A deterministic machine with an answer to every event. -/
structure Machine (State : Type u) (Event : Type v) (Reply : Type w) where
  exec : State → Event → Reply × State

namespace Machine

variable {State : Type u} {Event : Type v} {Reply : Type w} {History : Type*}
  (machine : Machine State Event Reply)

/-- The answer to one event. -/
def reply (state : State) (event : Event) : Reply :=
  (machine.exec state event).1

/-- The state after one event. -/
def next (state : State) (event : Event) : State :=
  (machine.exec state event).2

/-- The state after a list of events. -/
def run (state : State) : List Event → State
  | [] => state
  | event :: events => run (machine.next state event) events

/-- The events of a run, each with its answer. -/
def transcript (state : State) : List Event → List (Event × Reply)
  | [] => []
  | event :: events =>
      (event, machine.reply state event) :: transcript (machine.next state event) events

/-- A property of states and events holds at every step of a run. -/
def Along (holds : State → Event → Prop) (state : State) : List Event → Prop
  | [] => True
  | event :: events => holds state event ∧ Along holds (machine.next state event) events

@[simp]
theorem run_nil (state : State) : machine.run state [] = state := rfl

@[simp]
theorem run_cons (state : State) (event : Event) (events : List Event) :
    machine.run state (event :: events) = machine.run (machine.next state event) events := rfl

@[simp]
theorem along_nil (holds : State → Event → Prop) (state : State) :
    machine.Along holds state [] := trivial

@[simp]
theorem along_cons (holds : State → Event → Prop) (state : State) (event : Event)
    (events : List Event) :
    machine.Along holds state (event :: events) ↔
      holds state event ∧ machine.Along holds (machine.next state event) events := Iff.rfl

theorem run_append (state : State) (before after : List Event) :
    machine.run state (before ++ after) = machine.run (machine.run state before) after := by
  induction before generalizing state with
  | nil => rfl
  | cons event before ih => exact ih (machine.next state event)

theorem along_append (holds : State → Event → Prop) (state : State)
    (before after : List Event) :
    machine.Along holds state (before ++ after) ↔
      machine.Along holds state before ∧ machine.Along holds (machine.run state before) after := by
  induction before generalizing state with
  | nil => simp
  | cons event before ih => simp [ih, and_assoc]

variable {machine} {holds holds' : State → Event → Prop} {invariant : State → Prop}
  {state : State} {events : List Event}

/-- The invariant rule: what every step that satisfies `holds` preserves is true at the end of
every run whose steps do. -/
theorem run_invariant
    (preserved : ∀ state event, invariant state → holds state event →
      invariant (machine.next state event))
    (initially : invariant state) (steps : machine.Along holds state events) :
    invariant (machine.run state events) := by
  induction events generalizing state with
  | nil => exact initially
  | cons event events ih =>
      exact ih (preserved state event initially steps.1) steps.2

/-- The invariant rule for a property that every step preserves. -/
theorem run_invariant'
    (preserved : ∀ state event, invariant state → invariant (machine.next state event))
    (initially : invariant state) : invariant (machine.run state events) := by
  induction events generalizing state with
  | nil => exact initially
  | cons event events ih => exact ih (preserved state event initially)

/-- A step property that follows from the invariant and from `holds` is true along every run
whose steps satisfy `holds`. -/
theorem along_of_along
    (preserved : ∀ state event, invariant state → holds state event →
      invariant (machine.next state event))
    (step : ∀ state event, invariant state → holds state event → holds' state event)
    (initially : invariant state) (steps : machine.Along holds state events) :
    machine.Along holds' state events := by
  induction events generalizing state with
  | nil => trivial
  | cons event events ih =>
      exact ⟨step state event initially steps.1,
        ih (preserved state event initially steps.1) steps.2⟩

/-- A step property that follows from a preserved invariant is true along every run. -/
theorem along_of_invariant
    (preserved : ∀ state event, invariant state → invariant (machine.next state event))
    (step : ∀ state event, invariant state → holds state event)
    (initially : invariant state) : machine.Along holds state events := by
  induction events generalizing state with
  | nil => trivial
  | cons event events ih =>
      exact ⟨step state event initially, ih (preserved state event initially)⟩

/-- Two step properties that agree where the invariant holds are true along the same runs,
provided that their steps preserve the invariant. -/
theorem along_iff_along
    (preserved : ∀ state event, invariant state → holds state event →
      invariant (machine.next state event))
    (agree : ∀ state event, invariant state → (holds state event ↔ holds' state event))
    (initially : invariant state) :
    machine.Along holds state events ↔ machine.Along holds' state events := by
  constructor
  · intro steps
    exact along_of_along preserved (fun state event inv => (agree state event inv).mp)
      initially steps
  · intro steps
    refine along_of_along ?_ (fun state event inv => (agree state event inv).mpr) initially steps
    intro state event inv step
    exact preserved state event inv ((agree state event inv).mpr step)

theorem along_of_forall_mem (step : ∀ event ∈ events, ∀ state, holds state event) :
    machine.Along holds state events := by
  induction events generalizing state with
  | nil => trivial
  | cons event events ih =>
      exact ⟨step event List.mem_cons_self state,
        ih fun later listed => step later (List.mem_cons_of_mem _ listed)⟩

theorem along_and :
    machine.Along (fun state event => holds state event ∧ holds' state event) state events ↔
      machine.Along holds state events ∧ machine.Along holds' state events := by
  induction events generalizing state with
  | nil => simp
  | cons event events ih =>
      simp only [along_cons, ih]
      tauto

/-- The rule for events that leave no mark: if the steps of the hidden events stay related to the
run without them, and the steps of the others stay related and are answered alike, then the
visible part of a transcript is the transcript of the visible events. -/
theorem transcript_hiding {View : Type*} (visible : Event → Bool) (view : Reply → View)
    (related : State → State → Prop)
    (hidden : ∀ state shadow event, related state shadow → holds state event →
      visible event = false → related (machine.next state event) shadow)
    (shown : ∀ state shadow event, related state shadow → holds state event →
      visible event = true →
      view (machine.reply state event) = view (machine.reply shadow event) ∧
        related (machine.next state event) (machine.next shadow event))
    {shadow : State} (initially : related state shadow)
    (steps : machine.Along holds state events) :
    ((machine.transcript state events).filter fun step => visible step.1).map
        (fun step => view step.2) =
      (machine.transcript shadow (events.filter visible)).map fun step => view step.2 := by
  induction events generalizing state shadow with
  | nil => rfl
  | cons event events ih =>
      rw [transcript]
      cases marked : visible event with
      | false =>
          rw [List.filter_cons_of_neg (by simp [marked]), List.filter_cons_of_neg (by simp [marked])]
          exact ih (hidden state shadow event initially steps.1 marked) steps.2
      | true =>
          rcases shown state shadow event initially steps.1 marked with ⟨same, related'⟩
          rw [List.filter_cons_of_pos (by simp [marked]), List.filter_cons_of_pos (by simp [marked]),
            transcript, List.map_cons, List.map_cons, same, ih related' steps.2]

/-- The events of a run whose steps pass a test of the event and its answer. -/
def kept (machine : Machine State Event Reply) (keeps : Event → Reply → Bool) (state : State)
    (events : List Event) : List Event :=
  ((machine.transcript state events).filter fun step => keeps step.1 step.2).map Prod.fst

theorem kept_cons (keeps : Event → Reply → Bool) (state : State) (event : Event)
    (events : List Event) :
    machine.kept keeps state (event :: events) =
      if keeps event (machine.reply state event) = true then
        event :: machine.kept keeps (machine.next state event) events
      else machine.kept keeps (machine.next state event) events := by
  rw [kept, transcript, List.filter_cons]
  split
  · rfl
  · rfl

/-- The rule for steps without effect: if the steps that fail the test leave the state alone, a
run without them comes to the same state and is answered alike. -/
theorem run_kept {keeps : Event → Reply → Bool}
    (still : ∀ state event, keeps event (machine.reply state event) = false →
      machine.next state event = state) (state : State) (events : List Event) :
    machine.run state (machine.kept keeps state events) = machine.run state events ∧
      machine.transcript state (machine.kept keeps state events) =
        (machine.transcript state events).filter fun step => keeps step.1 step.2 := by
  induction events generalizing state with
  | nil => exact ⟨rfl, rfl⟩
  | cons event events ih =>
      have rest := ih (machine.next state event)
      rw [kept_cons, transcript, run_cons]
      cases passes : keeps event (machine.reply state event) with
      | true =>
          rw [if_pos rfl, List.filter_cons_of_pos (by simp [passes]), run_cons, transcript]
          exact ⟨rest.1, congrArg _ rest.2⟩
      | false =>
          have same := still state event passes
          rw [if_neg Bool.false_ne_true, List.filter_cons_of_neg (by simp [passes])]
          rw [same] at rest ⊢
          exact rest

variable (machine) (record : History → State → Event → Reply → State → History)

/-- The machine with a history variable, which `record` updates from the state before the step,
the event, its reply and the state after the step. -/
def observe : Machine (State × History) Event Reply where
  exec := fun observed event =>
    (machine.reply observed.1 event,
      (machine.next observed.1 event,
        record observed.2 observed.1 event (machine.reply observed.1 event)
          (machine.next observed.1 event)))

@[simp]
theorem observe_next (observed : State × History) (event : Event) :
    (machine.observe record).next observed event =
      (machine.next observed.1 event,
        record observed.2 observed.1 event (machine.reply observed.1 event)
          (machine.next observed.1 event)) := rfl

/-- The history variable does not influence the run. -/
theorem observe_run_fst (observed : State × History) :
    ((machine.observe record).run observed events).1 = machine.run observed.1 events := by
  induction events generalizing observed with
  | nil => rfl
  | cons event events ih => exact ih _

/-- Two machines side by side; each event is meant for one of them. -/
def beside {State' Event' Reply' : Type*} (other : Machine State' Event' Reply') :
    Machine (State × State') (Event ⊕ Event') (Reply ⊕ Reply') where
  exec := fun states event =>
    match event with
    | .inl event => (.inl (machine.reply states.1 event), (machine.next states.1 event, states.2))
    | .inr event => (.inr (other.reply states.2 event), (states.1, other.next states.2 event))

/-- Neither machine takes part in the steps of the other. -/
theorem beside_run {State' Event' Reply' : Type*} (other : Machine State' Event' Reply')
    (state : State) (state' : State') (events : List (Event ⊕ Event')) :
    (machine.beside other).run (state, state') events =
      (machine.run state (events.filterMap Sum.getLeft?),
        other.run state' (events.filterMap Sum.getRight?)) := by
  induction events generalizing state state' with
  | nil => rfl
  | cons event events ih =>
      cases event with
      | inl event => exact ih (machine.next state event) state'
      | inr event => exact ih state (other.next state' event)

end Machine
