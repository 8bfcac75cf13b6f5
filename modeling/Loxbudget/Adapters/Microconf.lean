import Loxbudget.Interface.Enumerators
import Loxbudget.Invariant.Instance
import Loxbudget.Invariant.Needs
import Loxbudget.Lib.Listing
import Loxbudget.Lib.Script
import Loxbudget.Model.Microconf

/-!
# Configurations that load

A configuration asks for a list of calls, and loading it makes them in order up to the first that
is refused. What the calls before have done stays. On a new instance a configuration loads exactly
if it is valid, and the tables then hold its last entry for each id. It never loads twice: the
second attempt stops at the first op, after it has set all resources back.
-/

namespace Loxbudget

open Listing

variable {B : Build} {hal : Hal} {budget start : Budget} {conf : Microconf}

/-- The reply is an `OK`. -/
def succeeds (_ : Event) (reply : Reply) : Bool :=
  reply.status == .ok

namespace ConfArray

variable {Entry : Type}

/-- The entries to be loaded. -/
def list : ConfArray Entry → List Entry
  | null _ => []
  | entries list => list

/-- The pointer is not null unless there is nothing to read. -/
def Given : ConfArray Entry → Prop
  | null count => count = 0
  | entries _ => True

end ConfArray

namespace Microconf

/-! ## A load as a list of calls -/

def resourceEvent (hal : Hal) (r : ConfResource) : Event :=
  ⟨hal, .setResource r.id r.limit r.kind.toUInt32⟩

def opEvent (hal : Hal) (op : RawProfile) : Event :=
  ⟨hal, .registerOp (some op)⟩

def needEvent (hal : Hal) (need : ConfNeed) : Event :=
  ⟨hal, .opSetNeed need.opId need.resourceId need.amount⟩

/-- The calls that a configuration asks for; none of them reads the HAL. -/
def events (hal : Hal) (conf : Microconf) : List Event :=
  conf.resources.list.map (resourceEvent hal) ++
    (conf.ops.list.map (opEvent hal) ++ conf.needs.list.map (needEvent hal))

/-- No array is missing. -/
structure Given (conf : Microconf) : Prop where
  resources : conf.resources.Given
  ops : conf.ops.Given
  needs : conf.needs.Given

/-- An array is missing, and these are the calls of the blocks before the first one that is. -/
inductive MissingAfter (hal : Hal) (conf : Microconf) : List Event → Prop
  | resources : ¬conf.resources.Given → MissingAfter hal conf []
  | ops : conf.resources.Given → ¬conf.ops.Given →
      MissingAfter hal conf (conf.resources.list.map (resourceEvent hal))
  | needs : conf.resources.Given → conf.ops.Given → ¬conf.needs.Given →
      MissingAfter hal conf
        (conf.resources.list.map (resourceEvent hal) ++ conf.ops.list.map (opEvent hal))

theorem MissingAfter.not_given {made : List Event} (missing : MissingAfter hal conf made) :
    ¬conf.Given := by
  intro given
  cases missing with
  | resources absent => exact absent given.resources
  | ops _ absent => exact absent given.ops
  | needs _ _ absent => exact absent given.needs

/-- All calls have been made, and all have succeeded. -/
def Finishes (B : Build) (budget : Budget) (events : List Event) (given : Prop)
    (result : Status × Budget) : Prop :=
  given ∧ (machine B).Passes succeeds budget events ∧
    result = (.ok, (machine B).run budget events)

/-- The calls before some point have been made and have succeeded. The next one is refused with
the status that is returned, or an array is missing there. -/
def Stops (B : Build) (budget : Budget) (events : List Event) (missing : List Event → Prop)
    (result : Status × Budget) : Prop :=
  result.1 ≠ .ok ∧ ∃ before after, events = before ++ after ∧
    (machine B).Passes succeeds budget before ∧ result.2 = (machine B).run budget before ∧
    ((∃ event rest, after = event :: rest ∧
        ((machine B).reply ((machine B).run budget before) event).status = result.1) ∨
      result.1 = .invalidArg ∧ missing before)

theorem Stops.not_passes {events : List Event} {missing : List Event → Prop}
    {result : Status × Budget} (stops : Stops B budget events missing result)
    (present : ∀ before, ¬missing before) : ¬(machine B).Passes succeeds budget events := by
  rcases stops with ⟨refused, before, after, rfl, -, -, why⟩
  intro passes
  rcases why with ⟨event, rest, rfl, replied⟩ | ⟨-, absent⟩
  · rw [Machine.passes_append, Machine.passes_cons] at passes
    exact refused (replied.symm.trans (beq_iff_eq.mp passes.2.1))
  · exact present before absent

theorem Stops.append {first : List Event} {missing : List Event → Prop} {result : Status × Budget}
    (stops : Stops B budget first missing result) (second : List Event)
    {missing' : List Event → Prop} (told : ∀ before, missing before → missing' before) :
    Stops B budget (first ++ second) missing' result := by
  rcases stops with ⟨refused, before, after, rfl, passes, reached, why⟩
  refine ⟨refused, before, after ++ second, by simp, passes, reached, ?_⟩
  rcases why with ⟨event, rest, rfl, replied⟩ | ⟨invalid, absent⟩
  · exact Or.inl ⟨event, rest ++ second, rfl, replied⟩
  · exact Or.inr ⟨invalid, told before absent⟩

theorem Stops.after {first second : List Event} {missing : List Event → Prop}
    {result : Status × Budget} (passes : (machine B).Passes succeeds budget first)
    (stops : Stops B ((machine B).run budget first) second missing result)
    {missing' : List Event → Prop} (told : ∀ before, missing before → missing' (first ++ before)) :
    Stops B budget (first ++ second) missing' result := by
  rcases stops with ⟨refused, before, after, rfl, passes', reached, why⟩
  rw [← Machine.run_append] at reached why
  refine ⟨refused, first ++ before, after, by simp, Machine.passes_append.mpr ⟨passes, passes'⟩,
    reached, ?_⟩
  rcases why with replied | ⟨invalid, absent⟩
  · exact Or.inl replied
  · exact Or.inr ⟨invalid, told before absent⟩

/-- The call of a block is a public call, and where it is refused it changes nothing. -/
structure Performs {Entry : Type} (B : Build) (call : Budget → Entry → Status × Budget)
    (event : Entry → Event) : Prop where
  exec : ∀ budget entry, call budget entry =
    (((machine B).reply budget (event entry)).status, (machine B).next budget (event entry))
  refused : ∀ budget entry, (call budget entry).1 ≠ .ok → (call budget entry).2 = budget

theorem loadArray_cases {Entry : Type} {call : Budget → Entry → Status × Budget}
    {event : Entry → Event} (performs : Performs B call event) (array : ConfArray Entry)
    (budget : Budget) :
    Finishes B budget (array.list.map event) array.Given (loadArray call array budget) ∨
      Stops B budget (array.list.map event) (fun before => before = [] ∧ ¬array.Given)
        (loadArray call array budget) := by
  cases array with
  | null count =>
      rw [loadArray]
      split
      · rename_i some_entries
        exact Or.inr ⟨by simp, [], [], rfl, trivial, rfl, Or.inr ⟨rfl, rfl, some_entries⟩⟩
      · rename_i no_entries
        exact Or.inl ⟨not_not.mp no_entries, trivial, rfl⟩
  | entries list =>
      rw [loadArray, ConfArray.list]
      induction list generalizing budget with
      | nil => exact Or.inl ⟨trivial, trivial, rfl⟩
      | cons entry list ih =>
          have called := performs.exec budget entry
          rw [loadEntries, List.map_cons, called]
          simp only
          split
          · rename_i refused
            have same := performs.refused budget entry (by rw [called]; exact refused)
            rw [called] at same
            exact Or.inr ⟨refused, [], _, rfl, trivial, same, Or.inl ⟨_, _, rfl, rfl⟩⟩
          · rename_i accepted
            have passes : (machine B).Passes succeeds budget [event entry] :=
              ⟨beq_iff_eq.mpr (not_not.mp accepted), trivial⟩
            rcases ih ((machine B).next budget (event entry)) with
              ⟨given, passes', finished⟩ | stops
            · exact Or.inl ⟨given, ⟨passes.1, passes'⟩, finished⟩
            · refine Or.inr (Stops.after passes stops ?_)
              rintro before ⟨-, missing⟩
              exact absurd trivial missing

theorem performs_resource (B : Build) (hal : Hal) :
    Performs B (fun budget (r : ConfResource) => setResource budget r.id r.limit r.kind.toUInt32)
      (resourceEvent hal) where
  exec _ _ := rfl
  refused budget r refused := by
    rcases setResource_cases budget r.id r.limit r.kind.toUInt32 with
      ⟨_, -, -, -, accepted⟩ | ⟨-, -, same⟩
    · rw [accepted] at refused
      exact absurd rfl refused
    · exact same

theorem performs_op (B : Build) (hal : Hal) :
    Performs B (fun budget (op : RawProfile) => registerOp B budget (some op))
      (opEvent hal) where
  exec _ _ := rfl
  refused budget op refused := by
    rcases registerOp_cases B budget (some op) with ⟨_, _, -, -, -, accepted⟩ | ⟨-, same⟩
    · rw [accepted] at refused
      exact absurd rfl refused
    · exact same

theorem performs_need (B : Build) (hal : Hal) :
    Performs B (fun budget (n : ConfNeed) => opSetNeed budget n.opId n.resourceId n.amount)
      (needEvent hal) where
  exec _ _ := rfl
  refused budget n refused := by
    rcases opSetNeed_cases budget n.opId n.resourceId n.amount with
      ⟨-, _, -, accepted⟩ | ⟨-, -, -, full⟩ | fails
    · rw [accepted] at refused
      exact absurd rfl refused
    · rw [full]
    · exact (opSetNeed_of_not_mayNeed fails).2.2

theorem load_cases (B : Build) (budget : Budget) (conf : Microconf) (hal : Hal) :
    Finishes B budget (conf.events hal) conf.Given (microconfLoad B budget (some conf)) ∨
      Stops B budget (conf.events hal) (conf.MissingAfter hal)
        (microconfLoad B budget (some conf)) := by
  rw [microconfLoad, loadResources, loadOps, loadNeeds, events]
  rcases loadArray_cases (performs_resource B hal) conf.resources budget with
    ⟨given, passes, finished⟩ | stops
  swap
  · simp only [if_pos stops.1]
    refine Or.inr (stops.append _ ?_)
    rintro before ⟨rfl, missing⟩
    exact .resources missing
  simp only [finished, ne_eq, not_true_eq_false, if_false]
  rcases loadArray_cases (performs_op B hal) conf.ops
      ((machine B).run budget (conf.resources.list.map (resourceEvent hal))) with
    ⟨given', passes', finished'⟩ | stops
  swap
  · simp only [if_pos stops.1]
    refine Or.inr (Stops.after passes (stops.append _ fun _ => id) ?_)
    rintro before ⟨rfl, missing⟩
    rw [List.append_nil]
    exact .ops given missing
  simp only [finished', not_true_eq_false, if_false]
  rcases loadArray_cases (performs_need B hal) conf.needs ((machine B).run
      ((machine B).run budget (conf.resources.list.map (resourceEvent hal)))
        (conf.ops.list.map (opEvent hal))) with
    ⟨given'', passes'', finished''⟩ | stops
  · refine Or.inl ⟨⟨given, given', given''⟩, ?_, ?_⟩
    · exact Machine.passes_append.mpr ⟨passes, Machine.passes_append.mpr ⟨passes', passes''⟩⟩
    · rw [finished'', Machine.run_append, Machine.run_append]
  · rw [← Machine.run_append] at stops ⊢
    rw [← List.append_assoc]
    refine Or.inr (Stops.after (Machine.passes_append.mpr ⟨passes, passes'⟩) stops ?_)
    rintro before ⟨rfl, missing⟩
    rw [List.append_nil]
    exact .needs given given' missing

/-- A load makes the calls of the configuration in order and leaves the instance as they do. It
makes all of them, or it returns what the first one answers that is refused, or it makes those of
the blocks before the first array that is missing. -/
theorem load_makes_calls (B : Build) (budget : Budget) (conf : Microconf) (hal : Hal) :
    ∃ made left, conf.events hal = made ++ left ∧ (machine B).Passes succeeds budget made ∧
      (microconfLoad B budget (some conf)).2 = (machine B).run budget made ∧
      match (microconfLoad B budget (some conf)).1 with
      | .ok => left = [] ∧ conf.Given
      | status => (∃ event rest, left = event :: rest ∧
          ((machine B).reply ((machine B).run budget made) event).status = status) ∨
        status = .invalidArg ∧ conf.MissingAfter hal made := by
  rcases load_cases B budget conf hal with
    ⟨given, passes, finished⟩ | ⟨refused, made, left, split, passes, reached, why⟩
  · refine ⟨conf.events hal, [], (List.append_nil _).symm, passes, ?_, ?_⟩
    · rw [finished]
    · rw [finished]
      exact ⟨rfl, given⟩
  · refine ⟨made, left, split, passes, reached, ?_⟩
    split
    · rename_i succeeded
      exact absurd succeeded refused
    · exact why

/-! ## Configurations that a new instance accepts -/

/-- The entry of a resource as it is stored. -/
def stored (r : ConfResource) : Resource :=
  ⟨r.limit, 0, 0, 0, (ResourceKind.ofByte? r.kind).getD .reusable⟩

/-- The instance after the block of the resources. -/
def withResources (list : List ConfResource) (budget : Budget) : Budget :=
  { budget with
    resources := overlay ConfResource.id stored budget.resources list
    resCfg := overlay ConfResource.id (fun _ => true) budget.resCfg list }

/-- The instance after the block of the ops, if none of them was there. -/
def withOps (list : List RawProfile) (budget : Budget) : Budget :=
  { budget with
    ops := overlay RawProfile.opId (fun raw => raw.parse.getD .zero) budget.ops list
    opCfg := overlay RawProfile.opId (fun _ => true) budget.opCfg list }

/-- The amount that the last entry for an op and a resource asks for. -/
def amount (list : List ConfNeed) (op : OpId) (resource : ResourceId) : UInt16 :=
  overlay (fun need => (need.opId, need.resourceId)) ConfNeed.amount (fun _ => 0) list
    (op, resource)

/-- The resources that the entries for an op name. -/
def needed (list : List ConfNeed) (op : OpId) : Finset ResourceId :=
  values ConfNeed.opId ConfNeed.resourceId list op

/-- A profile that the instance can take: ranges are kept, and the callbacks that strict mode
asks for are there. -/
structure Takes (budget : Budget) (raw : RawProfile) : Prop where
  inRange : raw.opId < budget.maxOps
  priority : raw.priority ≤ 3
  parses : ∃ profile, raw.parse = some profile ∧ budget.strictHalMissing profile = false

/-- A configuration in which every entry is in range, every op is listed once, and every need
names an op and a resource that are listed, with room for the needs of each op. -/
structure Valid (B : Build) (budget : Budget) (conf : Microconf) : Prop where
  given : conf.Given
  resources : ∀ r ∈ conf.resources.list, r.id < budget.maxResources ∧ r.kind ≤ 2
  ops : ∀ raw ∈ conf.ops.list, Takes budget raw
  once : (conf.ops.list.map RawProfile.opId).Nodup
  needs : ∀ need ∈ conf.needs.list, need.amount ≠ 0 ∧
    (∃ raw ∈ conf.ops.list, raw.opId = need.opId) ∧
    ∃ r ∈ conf.resources.list, r.id = need.resourceId
  room : ∀ op, (needed conf.needs.list op).card ≤ B.maxNeedsPerOp

/-! ## The resources -/

theorem setResource_ok_iff (initialized : budget.magic = magicInit) {r : ConfResource} :
    (setResource budget r.id r.limit r.kind.toUInt32).1 = .ok ↔
      r.id < budget.maxResources ∧ r.kind ≤ 2 := by
  have known := @ResourceKind.ofByte?_eq_none r.kind
  have narrowed : r.kind.toUInt32.toUInt8 = r.kind := by simp
  rcases setResource_cases budget r.id r.limit r.kind.toUInt32 with
    ⟨kind, -, inRange, parsed, accepted⟩ | ⟨unknown, refused, -⟩
  · rw [accepted]
    refine iff_of_true rfl ⟨inRange, ?_⟩
    rw [narrowed] at parsed
    by_contra outside
    rw [known.mpr outside] at parsed
    cases parsed
  · rw [narrowed] at unknown
    refine iff_of_false refused ?_
    rintro ⟨inRange, small⟩
    exact known.mp (unknown initialized inRange) small

theorem setResource_withResources (initialized : start.magic = magicInit)
    (done : List ConfResource) {r : ConfResource}
    (fits : r.id < start.maxResources ∧ r.kind ≤ 2) :
    (setResource (withResources done start) r.id r.limit r.kind.toUInt32).2 =
      withResources (done ++ [r]) start := by
  rcases setResource_cases (withResources done start) r.id r.limit r.kind.toUInt32 with
    ⟨kind, -, -, parsed, accepted⟩ | ⟨-, refused, -⟩
  · rw [show r.kind.toUInt32.toUInt8 = r.kind by simp] at parsed
    rw [accepted]
    simp only [withResources, overlay_concat, stored, parsed, Option.getD_some]
  · have magic : (withResources done start).magic = magicInit := initialized
    exact absurd ((setResource_ok_iff magic).mpr fits) refused

/-- The loop over the resources passes exactly if all are in range, and stores them. -/
theorem passes_resources (hal : Hal) (initialized : start.magic = magicInit)
    (list : List ConfResource) :
    ((machine B).Passes succeeds start (list.map (resourceEvent hal)) ↔
      ∀ r ∈ list, r.id < start.maxResources ∧ r.kind ≤ 2) ∧
    ((machine B).Passes succeeds start (list.map (resourceEvent hal)) →
      (machine B).run start (list.map (resourceEvent hal)) = withResources list start) := by
  have accepted (done : List ConfResource) (r : ConfResource) (state : Budget)
      (same : state = withResources done start) :
      succeeds (resourceEvent hal r) ((machine B).reply state (resourceEvent hal r)) = true ↔
        r.id < start.maxResources ∧ r.kind ≤ 2 := by
    subst same
    have magic : (withResources done start).magic = magicInit := initialized
    exact beq_iff_eq.trans (setResource_ok_iff magic)
  have preserved (done : List ConfResource) (r : ConfResource) (state : Budget)
      (same : state = withResources done start)
      (fits : r.id < start.maxResources ∧ r.kind ≤ 2) :
      (machine B).next state (resourceEvent hal r) = withResources (done ++ [r]) start := by
    subst same
    exact setResource_withResources initialized done fits
  have initially : start = withResources [] start := by simp [withResources]
  refine ⟨?_, fun passes => ?_⟩
  · rw [Machine.passes_map_iff accepted preserved initially]
    exact each_of_forall
  · exact Machine.run_map_invariant accepted preserved initially passes

/-! ## The ops -/

theorem registerOp_ok_iff (initialized : budget.magic = magicInit) {raw : RawProfile} :
    (registerOp B budget (some raw)).1 = .ok ↔
      Takes budget raw ∧ budget.opCfg raw.opId = false := by
  have valid : budget.validate = .ok := validate_eq_ok.mpr initialized
  simp only [registerOp, valid, ne_eq, not_true_eq_false, if_false]
  constructor
  · intro accepted
    split at accepted
    · cases accepted
    rename_i inRange
    split at accepted
    · cases accepted
    rename_i priority
    split at accepted
    · cases accepted
    rename_i profile parsed
    split at accepted
    · cases accepted
    rename_i fresh
    split at accepted
    · cases accepted
    · rename_i configured
      exact ⟨⟨UInt8.not_le.mp inRange, UInt8.not_lt.mp priority, profile, parsed,
        Bool.eq_false_iff.mpr configured⟩, Bool.eq_false_iff.mpr fresh⟩
  · rintro ⟨⟨inRange, priority, profile, parsed, configured⟩, fresh⟩
    rw [if_neg (UInt8.not_le.mpr inRange), if_neg (UInt8.not_lt.mpr priority), parsed]
    simp [fresh, configured]

theorem registerOp_withOps (initialized : start.magic = magicInit)
    (cleared : start.needs = fun _ => List.replicate B.maxNeedsPerOp ⟨0, 0⟩)
    (done : List RawProfile) {raw : RawProfile} (takes : Takes start raw)
    (fresh : (withOps done start).opCfg raw.opId = false) :
    (registerOp B (withOps done start) (some raw)).2 = withOps (done ++ [raw]) start := by
  rcases takes with ⟨inRange, priority, profile, parsed, configured⟩
  have valid : (withOps done start).validate = .ok := validate_eq_ok.mpr initialized
  have missing : (withOps done start).strictHalMissing profile = false := configured
  have outside : ¬raw.opId ≥ (withOps done start).maxOps := UInt8.not_le.mpr inRange
  have same : Function.update start.needs raw.opId (List.replicate B.maxNeedsPerOp ⟨0, 0⟩) =
      start.needs := by
    rw [cleared]
    exact Function.update_eq_self raw.opId _
  simp only [registerOp, valid, ne_eq, not_true_eq_false, if_false, if_neg outside,
    if_neg (UInt8.not_lt.mpr priority), parsed, fresh, missing, Bool.false_eq_true]
  simp only [withOps, overlay_concat, parsed, Option.getD_some, same]

theorem opCfg_withOps (unregistered : start.opCfg = fun _ => false) (list : List RawProfile)
    (op : OpId) :
    (withOps list start).opCfg op = true ↔ ∃ raw ∈ list, raw.opId = op := by
  rcases overlay_cases RawProfile.opId (fun _ => true) start.opCfg list op with
    ⟨raw, listed, same, stored⟩ | ⟨absent, kept⟩
  · exact iff_of_true stored ⟨raw, listed, same⟩
  · rw [unregistered] at kept
    apply iff_of_false
    · simp only [withOps, unregistered, kept, Bool.false_eq_true, not_false_eq_true]
    · rintro ⟨raw, listed, same⟩
      exact absent raw listed same

/-- The loop over the ops passes exactly if the instance can take all of them and no id is listed
twice, and stores them. -/
theorem passes_ops (hal : Hal) (initialized : start.magic = magicInit)
    (unregistered : start.opCfg = fun _ => false)
    (cleared : start.needs = fun _ => List.replicate B.maxNeedsPerOp ⟨0, 0⟩)
    (list : List RawProfile) :
    ((machine B).Passes succeeds start (list.map (opEvent hal)) ↔
      (∀ raw ∈ list, Takes start raw) ∧ (list.map RawProfile.opId).Nodup) ∧
    ((machine B).Passes succeeds start (list.map (opEvent hal)) →
      (machine B).run start (list.map (opEvent hal)) = withOps list start) := by
  have unlisted (done : List RawProfile) (raw : RawProfile) :
      (withOps done start).opCfg raw.opId = false ↔ raw.opId ∉ done.map RawProfile.opId := by
    rw [← Bool.not_eq_true, opCfg_withOps unregistered, List.mem_map]
  have accepted (done : List RawProfile) (raw : RawProfile) (state : Budget)
      (same : state = withOps done start) :
      succeeds (opEvent hal raw) ((machine B).reply state (opEvent hal raw)) = true ↔
        Takes start raw ∧ raw.opId ∉ done.map RawProfile.opId := by
    subst same
    have magic : (withOps done start).magic = magicInit := initialized
    rw [← unlisted]
    refine beq_iff_eq.trans ((registerOp_ok_iff magic).trans ?_)
    apply and_congr_left
    intro _
    exact ⟨fun takes => ⟨takes.inRange, takes.priority, takes.parses⟩,
      fun takes => ⟨takes.inRange, takes.priority, takes.parses⟩⟩
  have preserved (done : List RawProfile) (raw : RawProfile) (state : Budget)
      (same : state = withOps done start)
      (allowed : Takes start raw ∧ raw.opId ∉ done.map RawProfile.opId) :
      (machine B).next state (opEvent hal raw) = withOps (done ++ [raw]) start := by
    subst same
    exact registerOp_withOps initialized cleared done allowed.1
      ((unlisted done raw).mpr allowed.2)
  have initially : start = withOps [] start := by simp [withOps]
  refine ⟨?_, fun passes => ?_⟩
  · rw [Machine.passes_map_iff accepted preserved initially]
    exact each_and.trans (and_congr each_of_forall each_fresh_iff)
  · exact Machine.run_map_invariant accepted preserved initially passes

/-! ## The needs -/

/-- What the loop over the needs has done to an instance with the given resources and ops. -/
structure NeedsDone (B : Build) (base : Budget) (done : List ConfNeed) (state : Budget) : Prop where
  reachable : Reachable B state
  frame : ∃ needs, state = { base with needs := needs }
  amounts : ∀ op resource, needOf (state.needs op) resource = amount done op resource
  used : ∀ need ∈ done, need.amount ≠ 0

/-- The tests of `op_set_need`, as the instance answers them. -/
structure Named (base : Budget) (need : ConfNeed) : Prop where
  amount_ne : need.amount ≠ 0
  opInRange : need.opId < base.maxOps
  resourceInRange : need.resourceId < base.maxResources
  registered : base.opCfg need.opId = true
  configured : base.resCfg need.resourceId = true

theorem amount_ne_zero {done : List ConfNeed} (used : ∀ need ∈ done, need.amount ≠ 0)
    {op : OpId} {resource : ResourceId} :
    amount done op resource ≠ 0 ↔ resource ∈ needed done op := by
  rw [needed, mem_values]
  rcases overlay_cases (fun need : ConfNeed => (need.opId, need.resourceId)) ConfNeed.amount
      (fun _ => 0) done (op, resource) with ⟨need, listed, same, asked⟩ | ⟨absent, unasked⟩
  · refine iff_of_true ?_ ⟨need, listed, congrArg Prod.fst same, congrArg Prod.snd same⟩
    rw [amount, asked]
    exact used need listed
  · refine iff_of_false (not_not.mpr unasked) ?_
    rintro ⟨need, listed, rfl, rfl⟩
    exact absent need listed rfl

theorem NeedsDone.mayNeed_iff {base state : Budget} {done : List ConfNeed}
    (needsDone : NeedsDone B base done state) (need : ConfNeed) :
    state.MayNeed need.opId need.resourceId need.amount ↔ Named base need := by
  have initialized := needsDone.reachable.wellFormed.initialized
  rcases needsDone.frame with ⟨needs, rfl⟩
  constructor
  · rintro ⟨-, opInRange, resourceInRange, amount_ne, registered, configured⟩
    exact ⟨amount_ne, opInRange, resourceInRange, registered, configured⟩
  · rintro ⟨amount_ne, opInRange, resourceInRange, registered, configured⟩
    exact ⟨initialized, opInRange, resourceInRange, amount_ne, registered, configured⟩

/-- A need is accepted if it passes the tests and the op has an entry for it, or a free one. -/
theorem NeedsDone.accepts_iff {base state : Budget} {done : List ConfNeed}
    (needsDone : NeedsDone B base done state) (need : ConfNeed) :
    (opSetNeed state need.opId need.resourceId need.amount).1 = .ok ↔
      Named base need ∧ (need.resourceId ∈ needed done need.opId ∨
        (needed done need.opId).card < B.maxNeedsPerOp) := by
  have wellFormed := needsDone.reachable.wellFormed
  by_cases named : Named base need
  swap
  · have fails := (needsDone.mayNeed_iff need).not.mpr named
    exact iff_of_false (opSetNeed_of_not_mayNeed fails).1 fun allowed => named allowed.1
  have passes := (needsDone.mayNeed_iff need).mpr named
  have listed (resource : ResourceId) :
      needOf (state.needs need.opId) resource ≠ 0 ↔ resource ∈ needed done need.opId := by
    rw [needsDone.amounts]
    exact amount_ne_zero needsDone.used
  have count : (needed done need.opId).card ≤ B.maxNeedsPerOp := by
    have entries : {resource | needOf (state.needs need.opId) resource ≠ 0} =
        ↑(needed done need.opId) := Set.ext listed
    have whole := ncard_needed (wellFormed.needs_distinct need.opId)
    rw [entries, Set.ncard_coe_finset] at whole
    rw [whole, ← wellFormed.needs_length need.opId]
    exact List.length_filter_le _ _
  have full := opSetNeed_noSpace wellFormed passes
  have either : (opSetNeed state need.opId need.resourceId need.amount).1 = .ok ↔
      (opSetNeed state need.opId need.resourceId need.amount).1 ≠ .noSpace := by
    rcases opSetNeed_cases state need.opId need.resourceId need.amount with
      ⟨-, _, -, accepted⟩ | ⟨-, -, -, refused⟩ | fails
    · rw [accepted]
      simp
    · rw [refused]
      simp
    · exact absurd passes fails
  rw [either, ne_eq, full, and_iff_right named, not_and_or]
  by_cases known : need.resourceId ∈ needed done need.opId
  · exact iff_of_true (Or.inl ((listed _).mpr known)) (Or.inl known)
  · have absent := not_not.mp ((listed need.resourceId).not.mpr known)
    have others : {other | other ≠ need.resourceId ∧
        needOf (state.needs need.opId) other ≠ 0} = ↑(needed done need.opId) := by
      ext other
      rw [Set.mem_ofPred_eq, listed]
      refine and_iff_right_of_imp fun needed same => known ?_
      rwa [same] at needed
    rw [others, Set.ncard_coe_finset, absent]
    simp only [not_true_eq_false, false_or, known]
    omega

theorem NeedsDone.next {base state : Budget} {done : List ConfNeed}
    (needsDone : NeedsDone B base done state) {need : ConfNeed}
    (accepted : (opSetNeed state need.opId need.resourceId need.amount).1 = .ok)
    (named : Named base need) :
    NeedsDone B base (done ++ [need]) ((machine B).next state (needEvent hal need)) where
  reachable := needsDone.reachable.run [needEvent hal need]
  frame := by
    change ∃ needs, (opSetNeed state need.opId need.resourceId need.amount).2 = _
    rcases opSetNeed_cases state need.opId need.resourceId need.amount with
      ⟨-, needs, -, called⟩ | ⟨-, -, -, refused⟩ | fails
    · rcases needsDone.frame with ⟨before, rfl⟩
      exact ⟨Function.update before need.opId needs, congrArg Prod.snd called⟩
    · rw [refused] at accepted
      cases accepted
    · exact absurd accepted (opSetNeed_of_not_mayNeed fails).1
  amounts := by
    intro op resource
    have told := opSetNeed_accepted needsDone.reachable.wellFormed accepted op resource
    refine told.trans ?_
    rw [amount, overlay_concat, Function.update_apply, needsDone.amounts]
    rfl
  used := by
    intro other listed
    rcases List.mem_append.mp listed with before | here
    · exact needsDone.used other before
    · rw [List.mem_singleton.mp here]
      exact named.amount_ne

/-- The loop over the needs passes exactly if every need passes the tests and each op has room,
and stores the last amount for each op and resource. -/
theorem passes_needs {base : Budget} (reachable : Reachable B base)
    (cleared : base.needs = fun _ => List.replicate B.maxNeedsPerOp ⟨0, 0⟩)
    (list : List ConfNeed) :
    ((machine B).Passes succeeds base (list.map (needEvent hal)) ↔
      (∀ need ∈ list, Named base need) ∧ ∀ op, (needed list op).card ≤ B.maxNeedsPerOp) ∧
    ((machine B).Passes succeeds base (list.map (needEvent hal)) →
      NeedsDone B base list ((machine B).run base (list.map (needEvent hal)))) := by
  have accepted (done : List ConfNeed) (need : ConfNeed) (state : Budget)
      (needsDone : NeedsDone B base done state) :
      succeeds (needEvent hal need) ((machine B).reply state (needEvent hal need)) = true ↔
        Named base need ∧ (need.resourceId ∈ needed done need.opId ∨
          (needed done need.opId).card < B.maxNeedsPerOp) :=
    beq_iff_eq.trans (needsDone.accepts_iff need)
  have preserved (done : List ConfNeed) (need : ConfNeed) (state : Budget)
      (needsDone : NeedsDone B base done state)
      (allowed : Named base need ∧ (need.resourceId ∈ needed done need.opId ∨
        (needed done need.opId).card < B.maxNeedsPerOp)) :
      NeedsDone B base (done ++ [need]) ((machine B).next state (needEvent hal need)) :=
    needsDone.next ((needsDone.accepts_iff need).mpr allowed) allowed.1
  have initially : NeedsDone B base [] base := by
    refine ⟨reachable, ⟨base.needs, rfl⟩, fun op resource => ?_, by simp⟩
    rw [cleared]
    exact needOf_eq_zero.mpr (by simp)
  refine ⟨?_, fun passes => ?_⟩
  · rw [Machine.passes_map_iff accepted preserved initially]
    exact each_and.trans (and_congr each_of_forall each_room_iff)
  · exact Machine.run_map_invariant accepted preserved initially passes

/-! ## Loading -/

/-- What a load has made of a new instance: each table holds the last entries, and nothing else
has changed. -/
structure Loaded (conf : Microconf) (before after : Budget) : Prop where
  frame : ∃ needs, after =
    { withOps conf.ops.list (withResources conf.resources.list before) with needs := needs }
  amounts : ∀ op resource,
    needOf (after.needs op) resource = amount conf.needs.list op resource

theorem resCfg_withResources (unconfigured : start.resCfg = fun _ => false)
    (list : List ConfResource) (id : ResourceId) :
    (withResources list start).resCfg id = true ↔ ∃ r ∈ list, r.id = id := by
  rcases overlay_cases ConfResource.id (fun _ => true) start.resCfg list id with
    ⟨r, listed, same, configured⟩ | ⟨absent, kept⟩
  · exact iff_of_true configured ⟨r, listed, same⟩
  · rw [unconfigured] at kept
    apply iff_of_false
    · simp only [withResources, unconfigured, kept, Bool.false_eq_true, not_false_eq_true]
    · rintro ⟨r, listed, same⟩
      exact absent r listed same

/-- On a new instance the calls all succeed exactly if the configuration is valid, but for missing
arrays. -/
theorem passes_events (started : Started B start) (hal : Hal) (conf : Microconf) :
    (conf.Given ∧ (machine B).Passes succeeds start (conf.events hal) ↔ conf.Valid B start) ∧
    ((machine B).Passes succeeds start (conf.events hal) →
      conf.Loaded start ((machine B).run start (conf.events hal))) := by
  have fresh := started.fresh
  have initialized := fresh.initialized
  have magic : (withResources conf.resources.list start).magic = magicInit := initialized
  rcases passes_resources (B := B) hal initialized conf.resources.list with
    ⟨resources, configured⟩
  rcases passes_ops hal magic fresh.opCfg fresh.needs conf.ops.list with ⟨ops, registered⟩
  have reached (passes : (machine B).Passes succeeds start
        (conf.resources.list.map (resourceEvent hal)))
      (passes' : (machine B).Passes succeeds (withResources conf.resources.list start)
        (conf.ops.list.map (opEvent hal))) :
      Reachable B (withOps conf.ops.list (withResources conf.resources.list start)) := by
    rw [← registered passes', ← configured passes]
    exact ((Reachable.of_started started).run _).run _
  rw [events, Machine.run_append, Machine.run_append]
  simp only [Machine.passes_append]
  constructor
  · constructor
    · rintro ⟨given, passes, passes', passes''⟩
      rw [configured passes] at passes' passes''
      rw [registered passes'] at passes''
      rcases (passes_needs (reached passes passes') fresh.needs conf.needs.list).1.mp passes'' with
        ⟨named, room⟩
      refine ⟨given, resources.mp passes, fun raw listed => ?_, (ops.mp passes').2,
        fun need listed => ?_, room⟩
      · have takes := (ops.mp passes').1 raw listed
        exact ⟨takes.inRange, takes.priority, takes.parses⟩
      · have names := named need listed
        exact ⟨names.amount_ne, (opCfg_withOps fresh.opCfg _ _).mp names.registered,
          (resCfg_withResources fresh.resCfg _ _).mp names.configured⟩
    · intro valid
      have passes := resources.mpr valid.resources
      have passes' := ops.mpr ⟨fun raw listed => (by
        have takes := valid.ops raw listed
        exact ⟨takes.inRange, takes.priority, takes.parses⟩), valid.once⟩
      refine ⟨valid.given, passes, ?_⟩
      rw [configured passes, registered passes']
      refine ⟨passes', (passes_needs (reached passes passes') fresh.needs _).1.mpr
        ⟨fun need listed => ?_, valid.room⟩⟩
      rcases valid.needs need listed with
        ⟨amount_ne, ⟨raw, listedOp, sameOp⟩, r, listedResource, sameResource⟩
      refine ⟨amount_ne, ?_, ?_, ?_, ?_⟩
      · rw [← sameOp]
        exact (valid.ops raw listedOp).inRange
      · rw [← sameResource]
        exact (valid.resources r listedResource).1
      · exact (opCfg_withOps fresh.opCfg _ _).mpr ⟨raw, listedOp, sameOp⟩
      · exact (resCfg_withResources fresh.resCfg _ _).mpr ⟨r, listedResource, sameResource⟩
  · rintro ⟨passes, passes', passes''⟩
    rw [configured passes] at passes' passes'' ⊢
    rw [registered passes'] at passes'' ⊢
    have needsDone := (passes_needs (reached passes passes') fresh.needs _).2 passes''
    exact ⟨needsDone.frame, needsDone.amounts⟩

theorem loaded_of_ok (started : Started B start)
    (ok : (microconfLoad B start (some conf)).1 = .ok) :
    conf.Valid B start ∧ conf.Loaded start (microconfLoad B start (some conf)).2 := by
  rcases passes_events started (Hal.permissive 0) conf with ⟨valid, loaded⟩
  rcases load_cases B start conf (Hal.permissive 0) with ⟨given, passes, finished⟩ | stops
  · rw [finished]
    exact ⟨valid.mp ⟨given, passes⟩, loaded passes⟩
  · exact absurd ok stops.1

/-- On a new instance a configuration loads exactly if it is valid, and then the tables hold its
last entries. -/
theorem load_ok_iff_valid (started : Started B start) (conf : Microconf) :
    ((microconfLoad B start (some conf)).1 = .ok ↔ conf.Valid B start) ∧
      ((microconfLoad B start (some conf)).1 = .ok →
        conf.Loaded start (microconfLoad B start (some conf)).2) := by
  refine ⟨⟨fun ok => (loaded_of_ok started ok).1, fun valid => ?_⟩,
    fun ok => (loaded_of_ok started ok).2⟩
  rcases (passes_events started (Hal.permissive 0) conf).1.mpr valid with ⟨given, passes⟩
  rcases load_cases B start conf (Hal.permissive 0) with ⟨-, -, finished⟩ | stops
  · rw [finished]
  · exact absurd passes (stops.not_passes fun before missing => missing.not_given given)

/-- Two resources, the second listed twice, and an op that needs both. -/
def sample : Microconf where
  resources := .entries [⟨0, 10, 0⟩, ⟨1, 5, 1⟩, ⟨1, 7, 0⟩]
  ops := .entries [.permissive 3]
  needs := .entries [⟨3, 0, 4⟩, ⟨3, 1, 2⟩, ⟨3, 0, 6⟩]

theorem load_sample : (microconfLoad Build.full .sample (some sample)).1 = .ok := by
  decide +kernel

theorem load_ok_iff_valid_sample :
    sample.Valid Build.full .sample ∧
      sample.Loaded .sample (microconfLoad Build.full .sample (some sample)).2 :=
  ⟨(load_ok_iff_valid started_sample sample).1.mp load_sample,
    (load_ok_iff_valid started_sample sample).2 load_sample⟩

/-! ## Loading again -/

theorem next_registered {op : OpId} (event : Event)
    (registered : (budget.profile op).isSome = true) :
    (((machine B).next budget event).profile op).isSome = true := by
  rcases next_cases B budget event with
    quiet | ⟨entered, middle, slotId, booked, -, -, after⟩ | ⟨lease, -, after⟩
  · exact quiet.registered registered
  · rw [after, profile_isSome] at *
    rw [booked.frame]
    exact registered
  · rw [after, profile_isSome] at *
    exact registered

theorem run_registered {op : OpId} (events : List Event)
    (registered : (budget.profile op).isSome = true) :
    (((machine B).run budget events).profile op).isSome = true := by
  induction events generalizing budget with
  | nil => exact registered
  | cons event events ih => exact ih (next_registered event registered)

/-- However an instance is used after it has loaded a configuration, it does not load it again:
the first op is refused as a duplicate, after every listed resource has been set back. -/
theorem never_loads_twice (started : Started B start) {conf : Microconf}
    (loaded : (microconfLoad B start (some conf)).1 = .ok) (some_op : conf.ops.list ≠ [])
    (events : List Event) :
    let current := (machine B).run (microconfLoad B start (some conf)).2 events
    microconfLoad B current (some conf) =
      (.duplicate, withResources conf.resources.list current) := by
  intro current
  rcases loaded_of_ok started loaded with ⟨valid, tables⟩
  rcases tables.frame with ⟨needs, frame⟩
  have same : SameInstance start current := by
    have configured : SameInstance start (microconfLoad B start (some conf)).2 := by
      rw [frame]
      exact ⟨rfl, rfl, rfl, rfl, rfl, rfl, rfl⟩
    exact configured.trans (SameInstance.run B _ events)
  have initialized : current.magic = magicInit := same.magic.trans started.fresh.initialized
  have inRange : ∀ r ∈ conf.resources.list, r.id < current.maxResources ∧ r.kind ≤ 2 := by
    rw [same.maxResources]
    exact valid.resources
  have passes := (passes_resources (B := B) (Hal.permissive 0) initialized
    conf.resources.list).1.mpr inRange
  have configured := (passes_resources _ initialized conf.resources.list).2 passes
  have resources : loadResources conf.resources current =
      (.ok, withResources conf.resources.list current) := by
    rw [loadResources, ← configured]
    rcases loadArray_cases (performs_resource B (Hal.permissive 0)) conf.resources current with
      ⟨-, -, finished⟩ | stops
    · exact finished
    · exact absurd passes (stops.not_passes fun before missing =>
        missing.2 valid.given.resources)
  rcases ops : conf.ops with count | list
  · rw [ops] at some_op
    exact absurd rfl some_op
  rcases list with _ | ⟨raw, rest⟩
  · rw [ops] at some_op
    exact absurd rfl some_op
  have listed : raw ∈ conf.ops.list := by
    rw [ops]
    exact List.mem_cons_self
  have registered : current.opCfg raw.opId = true := by
    refine (profile_isSome.mp (run_registered events (profile_isSome.mpr ?_))).2
    rw [frame]
    exact ⟨(valid.ops raw listed).inRange, (opCfg_withOps started.fresh.opCfg _ _).mpr
      ⟨raw, listed, rfl⟩⟩
  have duplicate : registerOp B (withResources conf.resources.list current) (some raw) =
      (.duplicate, withResources conf.resources.list current) := by
    rcases valid.ops raw listed with ⟨opInRange, priority, profile, parsed, -⟩
    have validated : (withResources conf.resources.list current).validate = .ok :=
      validate_eq_ok.mpr initialized
    have outside : ¬raw.opId ≥ (withResources conf.resources.list current).maxOps := by
      refine UInt8.not_le.mpr ?_
      change raw.opId < current.maxOps
      rw [same.maxOps]
      exact opInRange
    have known : (withResources conf.resources.list current).opCfg raw.opId = true := registered
    simp only [registerOp, validated, ne_eq, not_true_eq_false, if_false, if_neg outside,
      if_neg (UInt8.not_lt.mpr priority), parsed, known, if_true]
  simp only [microconfLoad, resources, loadOps, ops, loadArray, loadEntries, duplicate]
  rfl

theorem never_loads_twice_sample :
    let current := (machine Build.full).run
      (microconfLoad Build.full .sample (some sample)).2 [.permissive (.enter 3 true)]
    microconfLoad Build.full current (some sample) =
      (.duplicate, withResources sample.resources.list current) :=
  never_loads_twice started_sample load_sample (by simp [sample, ConfArray.list]) _

end Microconf

end Loxbudget
