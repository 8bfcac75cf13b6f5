import Loxbudget.Decision.Admission

/-!
# Fixed windows never exceed their limit

`check` tests an amount against the windows rolled to one clock reading, and the
commit loop of `enter` restarts them once more at a later reading before it counts
the amount. A restart only lowers what a window has consumed, so an amount that was
admitted still fits, and the saturation of the commit is never reached.
-/

namespace Loxbudget

/-! ## One window -/

namespace RateWindow

theorem roll_consumed_le (window : RateWindow) (nowMs : UInt32) :
    (window.roll .fixedWindow nowMs).consumed.toNat ≤ window.consumed.toNat := by
  simp only [roll, restartIfExpired]
  split
  · exact le_refl _
  · split <;> simp

theorem commit_consumed {window : RateWindow} (limited : window.unlimited = false)
    (nowMs amount : UInt32) :
    (window.commit .fixedWindow nowMs amount).consumed.toNat =
      min 4294967295 ((window.roll .fixedWindow nowMs).consumed.toNat + amount.toNat) := by
  have rolled : window.roll .fixedWindow nowMs = window.restartIfExpired nowMs := by
    simp [roll, limited]
  have total_lt := (window.restartIfExpired nowMs).consumed.toNat_lt
  have amount_lt := amount.toNat_lt
  have exact_sub : (0xFFFFFFFF - (window.restartIfExpired nowMs).consumed).toNat =
      4294967295 - (window.restartIfExpired nowMs).consumed.toNat := by
    apply UInt32.toNat_sub_of_le
    apply UInt32.le_iff_toNat_le.mpr
    simp only [UInt32.reduceToNat]
    omega
  rw [rolled]
  simp only [commit, limited, Bool.false_eq_true, if_false]
  split
  · rename_i exceeds
    have exceeds' := UInt32.lt_iff_toNat_lt.mp exceeds
    simp only [UInt32.reduceToNat]
    omega
  · rename_i within
    have within' := UInt32.le_iff_toNat_le.mp (UInt32.not_lt.mp within)
    simp only [UInt32.toNat_add]
    omega

@[simp]
theorem commit_limit (window : RateWindow) (nowMs amount : UInt32) :
    (window.commit .fixedWindow nowMs amount).limit = window.limit := by
  simp only [commit]
  split
  · rfl
  · split <;> exact restartIfExpired_limit window nowMs

@[simp]
theorem commit_unlimited (window : RateWindow) (nowMs amount : UInt32) :
    (window.commit .fixedWindow nowMs amount).unlimited = window.unlimited := by
  have duration : (window.commit .fixedWindow nowMs amount).windowDurationMs =
      window.windowDurationMs := by
    simp only [commit]
    split
    · rfl
    · split <;> exact restartIfExpired_duration window nowMs
  simp [unlimited, duration]

/-- The window has consumed no more than its limit, if it is configured. -/
def Within (window : RateWindow) : Prop :=
  window.unlimited = false → window.consumed.toNat ≤ window.limit.toNat

/-- A commit at the given reading leaves the window within its limit. -/
def Bears (window : RateWindow) (nowMs amount : UInt32) : Prop :=
  window.unlimited = false →
    min 4294967295 ((window.roll .fixedWindow nowMs).consumed.toNat + amount.toNat) ≤
      window.limit.toNat

theorem within_commit_iff (window : RateWindow) (nowMs amount : UInt32) :
    (window.commit .fixedWindow nowMs amount).Within ↔ window.Bears nowMs amount := by
  simp only [Within, Bears, commit_unlimited, commit_limit]
  apply imp_congr_right
  intro limited
  rw [commit_consumed limited]

theorem Within.roll {window : RateWindow} (within : window.Within) (nowMs : UInt32) :
    (window.roll .fixedWindow nowMs).Within := by
  intro limited
  rw [roll_unlimited] at limited
  rw [roll_limit]
  exact (window.roll_consumed_le nowMs).trans (within limited)

/-- A window that admitted an amount when it was rolled bears its commit at any later reading. -/
theorem bears_of_admits {window : RateWindow} {nowMs amount : UInt32}
    (admits : window.Admits .fixedWindow nowMs amount) (laterMs : UInt32) :
    (window.roll .fixedWindow nowMs).Bears laterMs amount := by
  intro limited
  rw [roll_unlimited] at limited
  rcases admits with unlimited | fits
  · simp [limited] at unlimited
  · have lower := (window.roll .fixedWindow nowMs).roll_consumed_le laterMs
    rw [roll_limit]
    simp only at fits
    omega

end RateWindow

/-! ## The windows after a decision -/

theorem RateState.rollWindows_of_admits {impl : RateImpl} {nowMs amount : UInt32}
    {windows : List RateWindow}
    (admits : (RateState.rollWindows impl nowMs amount windows).2 = true) :
    (RateState.rollWindows impl nowMs amount windows).1 =
      windows.map (·.roll impl nowMs) := by
  induction windows with
  | nil => rfl
  | cons window rest ih =>
      have rolled_eq := window.rollAndCheck_fst impl nowMs amount
      simp only [RateState.rollWindows] at admits ⊢
      rcases checked : window.rollAndCheck impl nowMs amount with ⟨rolled, _ | _⟩
      · simp [checked] at admits
      · rw [checked] at rolled_eq admits
        simp only at rolled_eq admits ⊢
        rw [ih admits, rolled_eq, List.map_cons]

variable {B : Build} {hal : Hal} {budget : Budget} {profile : OpProfile} {out : Decision}

/-- The rate block applies to a need of the resource. -/
def RateLimited (B : Build) (budget : Budget) (profile : OpProfile) (resource : ResourceId) :
    Prop :=
  B.enableRateWindows = true ∧ profile.has opfBypassRateLimit = false ∧
    (budget.resources resource).kind = .consumable

theorem checkNeed_rolls {need : Need} {pass : NeedsPass} (amount_ne : need.amount ≠ 0)
    (limited : RateLimited B budget profile need.resource)
    (passed : (checkNeed B hal budget profile out need pass).2 = none) :
    ((checkNeed B hal budget profile out need pass).1.rateState need.resource).windows =
      (pass.rateState need.resource).windows.map (·.roll B.rateImpl hal.nowMs) := by
  have notState : ¬(budget.resources need.resource).kind = .state := by
    rw [limited.2.2]
    simp
  have applies : B.enableRateWindows = true ∧ profile.has opfBypassRateLimit = false ∧
      (budget.resources need.resource).kind = .consumable := limited
  simp only [checkNeed, if_neg amount_ne, if_neg notState, if_pos applies] at passed ⊢
  by_cases outside : need.resource ≥ budget.maxResources ∨
      budget.resCfg need.resource = false
  · simp [if_pos outside] at passed
  by_cases short : (budget.resources need.resource).available < need.amount
  · simp [if_neg outside, if_pos short] at passed
  by_cases spent : (pass.rateState need.resource).lifetimeExhausted need.amount.toUInt32 = true
  · simp [if_neg outside, if_neg short, if_pos spent] at passed
  simp only [if_neg outside, if_neg short, if_neg spent] at passed ⊢
  by_cases admits : (RateState.rollWindows B.rateImpl hal.nowMs need.amount.toUInt32
      (pass.rateState need.resource).windows).2 = true
  · rw [if_pos admits]
    simp [RateState.rollWindows_of_admits admits]
  · simp [if_neg admits] at passed

theorem checkNeeds_rateState_of_not_needed {needs : List Need} {pass : NeedsPass}
    {resource : ResourceId} (notNeeded : needOf needs resource = 0) :
    (checkNeeds B hal budget profile out needs pass).1.rateState resource =
      pass.rateState resource := by
  induction needs generalizing pass with
  | nil => rfl
  | cons need needs ih =>
      rcases needOf_cons_eq_zero.mp notNeeded with ⟨absent, later⟩
      have now : (checkNeed B hal budget profile out need pass).1.rateState resource =
          pass.rateState resource := by
        by_cases free : need.amount = 0
        · rw [checkNeed_of_free free]
        · exact checkNeed_rateState_of_ne (Ne.symm (absent free))
      simp only [checkNeeds]
      rcases checked : checkNeed B hal budget profile out need pass with ⟨pass', _ | d⟩
      · rw [checked] at now
        simp only
        rw [ih later]
        exact now
      · rw [checked] at now
        exact now

/-- When the loop over the needs passes, the windows of every rate-limited need are rolled. -/
theorem checkNeeds_rolls {needs : List Need} {pass : NeedsPass}
    (distinct : DistinctNeeds needs)
    (passed : (checkNeeds B hal budget profile out needs pass).2 = none)
    {resource : ResourceId} (needed : needOf needs resource ≠ 0)
    (limited : RateLimited B budget profile resource) :
    ((checkNeeds B hal budget profile out needs pass).1.rateState resource).windows =
      (pass.rateState resource).windows.map (·.roll B.rateImpl hal.nowMs) := by
  induction needs generalizing pass with
  | nil => exact absurd rfl needed
  | cons need needs ih =>
      have rest := (List.pairwise_cons.mp distinct).2
      simp only [checkNeeds] at passed ⊢
      by_cases free : need.amount = 0
      · rw [checkNeed_of_free free] at passed ⊢
        rw [needOf_cons_of_free free] at needed
        exact ih rest passed needed
      · have denied_or : (checkNeed B hal budget profile out need pass).2 = none := by
          rcases checked : checkNeed B hal budget profile out need pass with ⟨pass', _ | d⟩
          · rfl
          · simp [checked] at passed
        by_cases named : need.resource = resource
        · subst named
          have rolled := checkNeed_rolls free limited denied_or
          have once := needOf_tail_eq_zero distinct free
          rcases checked : checkNeed B hal budget profile out need pass with ⟨pass', denied⟩
          rw [checked] at denied_or rolled
          simp only at denied_or rolled ⊢
          subst denied_or
          simp only
          rw [checkNeeds_rateState_of_not_needed once]
          exact rolled
        · rw [needOf_cons_of_ne named] at needed
          have same : (checkNeed B hal budget profile out need pass).1.rateState resource =
              pass.rateState resource := checkNeed_rateState_of_ne (Ne.symm named)
          rcases checked : checkNeed B hal budget profile out need pass with ⟨pass', denied⟩
          rw [checked] at denied_or same passed
          simp only at denied_or same passed ⊢
          subst denied_or
          simp only at passed ⊢
          rw [ih rest passed needed, same]

theorem begun_booked {after : Budget} {op : OpId} {outGiven : Bool}
    (begun : enterBegin B hal budget op outGiven = (none, after)) :
    Booked B hal.nowMs budget after := by
  have booked := enterBegin_booked B hal budget op outGiven
  rwa [begun] at booked

theorem profile_eq_ops {op : OpId} (registered : budget.profile op = some profile) :
    budget.ops op = profile := by
  simp only [Budget.profile] at registered
  split at registered
  · simp at registered
  split at registered
  · simp at registered
  · exact Option.some.inj registered

/-- An `enter` that goes on to the critical section has rolled the windows of every rate-limited
need, and they admit its amount. -/
theorem rolled_of_begun {after : Budget} {op : OpId} {outGiven : Bool}
    (wellFormed : WellFormed B budget) (sound : budget.Sound)
    (begun : enterBegin B hal budget op outGiven = (none, after)) {resource : ResourceId}
    (limited : RateLimited B budget (budget.ops op) resource)
    (needed : needOf (budget.needs op) resource ≠ 0) :
    (after.rateState resource).windows =
        (budget.rateState resource).windows.map (·.roll B.rateImpl hal.nowMs) ∧
      (budget.rateState resource).AdmitsWindows B.rateImpl hal.nowMs
        (needOf (budget.needs op) resource).toUInt32 := by
  rcases enterBegin_decided begun with ⟨-, -, rfl, allowed, -, -⟩
  rcases decide_cases hal wellFormed sound op with
    ⟨profile, out, admissible, -, passed, rateState⟩ | ⟨denied, -⟩
  · rw [profile_eq_ops admissible.registered] at limited
    rcases exists_mem_of_needOf_ne needed with ⟨need, listed, amount, amount_ne, rfl⟩
    constructor
    · rw [rateState, checkNeeds_rolls (wellFormed.needs_distinct op) passed needed limited]
    · rw [← amount]
      exact (admissible.needs need listed amount_ne).windows limited.1 limited.2.1 limited.2.2
  · simp [allowed] at denied

/-! ## The windows after a commit -/

/-- The index of the entry that names a resource. -/
def needIndex (needs : List Need) (resource : ResourceId) : Nat :=
  needs.findIdx fun need => need.amount ≠ 0 ∧ need.resource = resource

theorem commitNeeds_rateState_of_not_needed {needs : List Need} {resource : ResourceId}
    (notNeeded : needOf needs resource = 0) (index : Nat) (budget : Budget) :
    (commitNeeds B hal profile index needs budget).rateState resource =
      budget.rateState resource := by
  induction needs generalizing index budget with
  | nil => rfl
  | cons need needs ih =>
      rcases needOf_cons_eq_zero.mp notNeeded with ⟨absent, later⟩
      rw [commitNeeds, ih later]
      simp only [commitNeed]
      split
      · rfl
      · rename_i amount_ne
        have other := absent amount_ne
        simp only
        split
        · rw [Function.update_of_ne (Ne.symm other)]
        · rfl

/-- The commit loop counts a rate-limited need in the windows of its resource, once. -/
theorem commitNeeds_rateState (B : Build) (hal : Hal) (profile : OpProfile) {needs : List Need}
    (distinct : DistinctNeeds needs) (index : Nat) (budget : Budget) (resource : ResourceId) :
    ((RateLimited B budget profile resource ∧ needOf needs resource ≠ 0) →
      (commitNeeds B hal profile index needs budget).rateState resource =
        (budget.rateState resource).commit B.rateImpl
          (hal.commitNowMs (index + needIndex needs resource))
          (needOf needs resource).toUInt32) ∧
      (¬(RateLimited B budget profile resource ∧ needOf needs resource ≠ 0) →
        (commitNeeds B hal profile index needs budget).rateState resource =
          budget.rateState resource) := by
  induction needs generalizing index budget with
  | nil => exact ⟨fun limited => absurd rfl limited.2, fun _ => rfl⟩
  | cons need needs ih =>
      have rest := (List.pairwise_cons.mp distinct).2
      rw [commitNeeds]
      by_cases free : need.amount = 0
      · have skipped : commitNeed B hal profile index budget need = budget := by
          simp [commitNeed, free]
        have index_eq : needIndex (need :: needs) resource = needIndex needs resource + 1 := by
          simp [needIndex, List.findIdx_cons, free]
        rw [skipped, needOf_cons_of_free free, index_eq, ← Nat.add_assoc,
          Nat.add_right_comm index]
        exact ih rest (index + 1) budget
      · by_cases named : need.resource = resource
        · subst named
          have index_eq : needIndex (need :: needs) need.resource = 0 := by
            simp [needIndex, List.findIdx_cons, free]
          rw [commitNeeds_rateState_of_not_needed (needOf_tail_eq_zero distinct free),
            needOf_cons_self free, index_eq, Nat.add_zero]
          constructor
          · rintro ⟨⟨enabled, rated, consumable⟩, -⟩
            simp [commitNeed, free, enabled, rated, consumable]
          · intro unlimited
            have skipped : ¬(B.enableRateWindows = true ∧
                (budget.resources need.resource).kind = .consumable ∧
                profile.has opfBypassRateLimit = false) := fun both =>
              unlimited ⟨⟨both.1, both.2.2, both.2.1⟩, free⟩
            simp only [commitNeed, if_neg free, if_neg skipped]
        · have index_eq : needIndex (need :: needs) resource = needIndex needs resource + 1 := by
            simp [needIndex, List.findIdx_cons, named]
          have rates : (commitNeed B hal profile index budget need).rateState resource =
              budget.rateState resource := by
            simp only [commitNeed, if_neg free]
            split
            · rw [Function.update_of_ne (Ne.symm named)]
            · rfl
          have limited_iff : RateLimited B (commitNeed B hal profile index budget need) profile
              resource ↔ RateLimited B budget profile resource := by
            simp [RateLimited, commitNeed, free, Function.update_of_ne (Ne.symm named)]
          have later := ih rest (index + 1) (commitNeed B hal profile index budget need)
          rw [limited_iff, rates] at later
          rw [needOf_cons_of_ne named, index_eq, ← Nat.add_assoc, Nat.add_right_comm index]
          exact later

/-! ## Every run -/

/-- Every configured fixed window is within its limit. -/
def Budget.WindowsWithin (B : Build) (budget : Budget) : Prop :=
  B.rateImpl = .fixedWindow → ∀ resource, ∀ window ∈ (budget.rateState resource).windows,
    window.Within

/-- The windows bear what the commit loop is about to count. -/
def WindowsBear (B : Build) (hal : Hal) (budget : Budget) (op : OpId) : Prop :=
  B.rateImpl = .fixedWindow → ∀ resource, RateLimited B budget (budget.ops op) resource →
    needOf (budget.needs op) resource ≠ 0 →
    ∀ window ∈ (budget.rateState resource).windows,
      window.Bears (hal.commitNowMs (needIndex (budget.needs op) resource))
        (needOf (budget.needs op) resource).toUInt32

theorem RateState.RolledTo.mem {impl : RateImpl} {nowMs : UInt32} {before after : RateState}
    (rolled : before.RolledTo impl nowMs after) {window : RateWindow}
    (listed : window ∈ after.windows) :
    ∃ earlier ∈ before.windows, earlier.RolledTo impl nowMs window := by
  have windows := rolled.windows
  generalize before.windows = earlierWindows at windows ⊢
  generalize after.windows = laterWindows at windows listed
  induction windows with
  | nil => simp at listed
  | cons head _ ih =>
      rcases List.mem_cons.mp listed with rfl | later
      · exact ⟨_, List.mem_cons_self, head⟩
      · rcases ih later with ⟨earlier, before, step⟩
        exact ⟨earlier, List.mem_cons_of_mem _ before, step⟩

namespace Budget.WindowsWithin

theorem of_fresh (fresh : Fresh B budget) : budget.WindowsWithin B := by
  intro _ resource window listed
  simp only [fresh.rateState, RateState.zero] at listed
  obtain rfl := List.eq_of_mem_replicate listed
  intro limited
  simp [RateWindow.zero]

theorem of_rateState {after : Budget} (within : budget.WindowsWithin B)
    (rateState : after.rateState = budget.rateState) : after.WindowsWithin B := by
  intro fixed resource window listed
  rw [rateState] at listed
  exact within fixed resource window listed

theorem booked {nowMs : UInt32} {after : Budget} (within : budget.WindowsWithin B)
    (booked : Booked B nowMs budget after) : after.WindowsWithin B := by
  intro fixed resource window listed
  rcases (booked.rolled resource).mem listed with ⟨earlier, before, same | rolled⟩
  · rw [same]
    exact within fixed resource earlier before
  · rw [rolled, fixed]
    exact (within fixed resource earlier before).roll nowMs

theorem quiet {nowMs : UInt32} {after : Budget} (within : budget.WindowsWithin B)
    (effect : QuietEffect B nowMs budget after) : after.WindowsWithin B := by
  cases effect with
  | rateLimit res index window fresh =>
      intro fixed resource other listed
      by_cases named : resource = res
      · subst named
        simp only [Function.update_self] at listed
        rcases List.mem_or_eq_of_mem_set listed with before | rfl
        · exact within fixed resource other before
        · intro _
          simp [fresh fixed]
      · simp only [Function.update_of_ne named] at listed
        exact within fixed resource other listed
  | lifetimeLimit res lifetimeMax =>
      intro fixed resource other listed
      by_cases named : resource = res
      · subst named
        simp only [Function.update_self] at listed
        exact within fixed resource other listed
      · simp only [Function.update_of_ne named] at listed
        exact within fixed resource other listed
  | booked booked => exact within.booked booked
  | unchanged => exact within
  | resource id limit kind inRange => exact within.of_rateState rfl
  | register id profile inRange fresh => exact within.of_rateState rfl
  | need op resource amount needs opInRange registered resourceInRange configured amount_ne set =>
      exact within.of_rateState rfl
  | trigger edge edges hasStorage parentInRange childInRange parent_ne parentRegistered
      childRegistered set => exact within.of_rateState rfl
  | pressure pressure => exact within.of_rateState rfl
  | hook hook => exact within.of_rateState rfl
  | journal journal => exact within.of_rateState rfl

theorem acquired_iff (within : budget.WindowsWithin B) (wellFormed : WellFormed B budget)
    (hal : Hal) (op : OpId) (slotId : UInt8) :
    (budget.acquired B hal op slotId).WindowsWithin B ↔ WindowsBear B hal budget op := by
  have committed := commitNeeds_rateState B hal (budget.ops op) (wellFormed.needs_distinct op) 0
    budget
  simp only [Nat.zero_add] at committed
  constructor
  · intro after fixed resource limited needed window listed
    rw [← RateWindow.within_commit_iff]
    apply after fixed resource
    change _ ∈ ((commitNeeds B hal (budget.ops op) 0 (budget.needs op) budget).rateState
      resource).windows
    rw [(committed resource).1 ⟨limited, needed⟩, fixed]
    exact List.mem_map_of_mem listed
  · intro bear fixed resource window listed
    change window ∈ ((commitNeeds B hal (budget.ops op) 0 (budget.needs op) budget).rateState
      resource).windows at listed
    by_cases counted : RateLimited B budget (budget.ops op) resource ∧
        needOf (budget.needs op) resource ≠ 0
    · rw [(committed resource).1 counted, fixed] at listed
      rcases List.mem_map.mp listed with ⟨earlier, before, rfl⟩
      rw [RateWindow.within_commit_iff]
      exact bear fixed resource counted.1 counted.2 earlier before
    · rw [(committed resource).2 counted] at listed
      exact within fixed resource window listed

/-- What `check` has admitted, the windows bear in the state that it leaves. -/
theorem bear_of_begun {after : Budget} {op : OpId} {outGiven : Bool}
    (wellFormed : WellFormed B budget) (sound : budget.Sound) (later : Hal)
    (begun : enterBegin B hal budget op outGiven = (none, after)) :
    WindowsBear B later after op := by
  intro fixed resource limited needed window listed
  have booked := begun_booked begun
  rw [RateLimited, booked.resources, booked.ops] at limited
  rw [booked.needs] at needed ⊢
  rcases rolled_of_begun wellFormed sound begun limited needed with ⟨rolled, admits⟩
  rw [rolled] at listed
  rcases List.mem_map.mp listed with ⟨earlier, before, rfl⟩
  have admitted := admits earlier before
  rw [fixed] at admitted ⊢
  exact RateWindow.bears_of_admits admitted _

theorem next (event : Event) (within : budget.WindowsWithin B) (wellFormed : WellFormed B budget)
    (sound : budget.Sound) : ((machine B).next budget event).WindowsWithin B := by
  by_cases quietCall : event.call.isQuiet = true
  · exact within.quiet (next_quiet B budget event quietCall)
  · rcases event with ⟨hal, call⟩
    cases call with
    | enter op out =>
        rw [next_enter]
        have booked := enterBegin_booked B hal budget op out
        simp only [enter]
        rcases begun : enterBegin B hal budget op out with ⟨_ | reply, middle⟩
        · rw [begun] at booked
          have bear := bear_of_begun wellFormed sound hal begun
          simp only
          rcases free : middle.freeSlot with _ | slotId
          · rw [enterCommit_of_full B hal middle op free]
            exact within.booked booked
          · rw [enterCommit_of_free B hal middle op free]
            exact ((within.booked booked).acquired_iff (wellFormed.booked booked) hal op
              slotId).mpr bear
        · rw [begun] at booked
          exact within.booked booked
    | leave lease =>
        rw [next_leave]
        by_cases accepts : Accepts budget lease
        · rw [leave_of_accepts accepts]
          exact within.of_rateState rfl
        · rw [(leave_of_not_accepts accepts).2]
          exact within
    | _ => exact absurd rfl quietCall

end Budget.WindowsWithin

theorem Reachable.windowsWithin {B : Build} {budget : Budget} (reachable : Reachable B budget) :
    budget.WindowsWithin B := by
  have initially : ∀ start, Started B start → Reachable B start ∧ start.WindowsWithin B := by
    intro start started
    exact ⟨Reachable.of_started started, Budget.WindowsWithin.of_fresh started.fresh⟩
  have preserved : ∀ budget event, Reachable B budget ∧ budget.WindowsWithin B →
      Reachable B ((machine B).next budget event) ∧
        ((machine B).next budget event).WindowsWithin B := by
    intro budget event before
    exact ⟨before.1.run [event], before.2.next event before.1.wellFormed before.1.sound⟩
  exact (reachable.induction initially preserved).2

end Loxbudget
