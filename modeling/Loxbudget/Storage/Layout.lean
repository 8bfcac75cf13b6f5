import Loxbudget.Invariant.Instance
import Loxbudget.Model.Layout

/-!
# The layouts agree and fit

As long as the layout does not outgrow 32 bits, each `uint32_t` offset is the one that placing
the regions one after the other gives. What is said about placing then holds of the storage:
the regions are aligned and disjoint and end where the layout ends.
-/

namespace Loxbudget

open Placement

/-! ## One step of the layout -/

theorem alignUp_toNat {v : UInt32} (small : v.toNat + 3 < 4294967296) :
    (alignUp v).toNat = (v.toNat + 3) / 4 * 4 := by
  have sum : (v + 3).toNat = v.toNat + 3 := by
    rw [UInt32.toNat_add]
    simp only [UInt32.reduceToNat]
    omega
  have mask : (~~~(3 : UInt32)).toNat = 2 ^ 2 * (2 ^ 30 - 1) := by decide
  rw [alignUp, UInt32.toNat_and, sum, mask]
  apply Nat.eq_of_testBit_eq
  intro i
  have product : (v.toNat + 3) / 4 * 4 = 2 ^ 2 * ((v.toNat + 3) / 2 ^ 2) := Nat.mul_comm _ _
  rw [product, Nat.testBit_and, Nat.testBit_two_pow_mul, Nat.testBit_two_pow_mul,
    Nat.testBit_two_pow_sub_one, Nat.testBit_div_two_pow]
  by_cases low : i < 2
  · simp [show ¬2 ≤ i by omega]
  · have back : i - 2 + 2 = i := by omega
    rw [back]
    by_cases high : i < 32
    · simp [show i - 2 < 30 by omega, show 2 ≤ i by omega]
    · have zero : (v.toNat + 3).testBit i = false := by
        apply Nat.testBit_lt_two_pow
        calc
          v.toNat + 3 < 2 ^ 32 := small
          _ ≤ 2 ^ i := Nat.pow_le_pow_right (by decide) (by omega)
      simp [zero]

/-- Regions placed from offset 0 on, the last of which ends in front of an offset. -/
structure Laid (next : UInt32) (sizes : List Nat) (regions : List Region) : Prop where
  regions_eq : place 4 0 sizes = regions
  finish_eq : finish 4 0 sizes = next.toNat

namespace Laid

variable {off bytes : UInt32} {size : Nat} {sizes : List Nat} {regions : List Region}

/-- A table moves the offset on to where the placement goes on. -/
theorem table (laid : Laid off sizes regions) (table : bytes.toNat = size % 4294967296)
    (fits : finish 4 0 (sizes ++ [size]) + 16 < 4294967296) :
    Laid (alignUp (off + bytes)) (sizes ++ [size]) (regions ++ [⟨off.toNat, size⟩]) := by
  have behind := le_roundUp (show 0 < 4 by decide) (off.toNat + size)
  rw [finish_append, laid.finish_eq, finish, finish] at fits
  have sum : (off + bytes).toNat = off.toNat + size := by
    rw [UInt32.toNat_add]
    omega
  constructor
  · rw [place_append, laid.regions_eq, laid.finish_eq]
    rfl
  · rw [finish_append, laid.finish_eq, alignUp_toNat (by omega), sum]
    rfl

/-- The same for a table that only some builds have. -/
theorem tableIf (enabled : Bool) (laid : Laid off sizes regions)
    (table : bytes.toNat = size % 4294967296)
    (fits : finish 4 0 (sizes ++ if enabled then [size] else []) + 16 < 4294967296) :
    Laid (if enabled then alignUp (off + bytes) else off)
      (sizes ++ if enabled then [size] else [])
      (regions ++ (if enabled then [size] else []).map (⟨off.toNat, ·⟩)) := by
  cases enabled with
  | false =>
      simp only [Bool.false_eq_true, if_false, List.map_nil, List.append_nil]
      exact laid
  | true => exact laid.table table fits

end Laid

theorem table_toNat (count : UInt8) (entry : Nat) :
    (count.toUInt32 * UInt32.ofNat entry).toNat = count.toNat * entry % 4294967296 := by
  rw [UInt32.toNat_mul, UInt8.toNat_toUInt32, UInt32.toNat_ofNat']
  exact Nat.mul_mod_mod _ _ _

theorem needs_toNat (count : UInt8) (needs : Nat) :
    (count.toUInt32 * UInt32.ofNat needs * 4).toNat = count.toNat * needs * 4 % 4294967296 := by
  rw [UInt32.toNat_mul, table_toNat]
  exact Nat.mod_mul_mod _ _ _

theorem causality_toNat (edges : Nat) (maxOps : UInt8) :
    (4 + UInt32.ofNat edges * 4 + (maxOps.toUInt32 + 7) / 8).toNat =
      (4 + edges * 4 + (maxOps.toNat + 7) / 8) % 4294967296 := by
  have few := maxOps.toNat_lt
  have visited : ((maxOps.toUInt32 + 7) / 8).toNat = (maxOps.toNat + 7) / 8 := by
    rw [UInt32.toNat_div, UInt32.toNat_add, UInt8.toNat_toUInt32]
    simp only [UInt32.reduceToNat]
    omega
  rw [UInt32.toNat_add, UInt32.toNat_add, UInt32.toNat_mul, UInt32.toNat_ofNat', visited]
  simp only [UInt32.reduceToNat]
  omega

/-! ## The layout -/

section

variable {B : Build} {cfg : Config}

/-- The regions in front of the causality block are placed one after the other. -/
theorem layout_preceding (small : B.layoutBytes cfg < 4294967296) :
    Laid (B.layout cfg).causalityOff (B.precedingSizes cfg)
      (B.precedingRegions cfg (B.layout cfg)) := by
  have fits {sizes : List Nat} (front : sizes <+: B.regionSizes cfg) :
      finish 4 0 sizes + 16 < 4294967296 :=
    lt_of_le_of_lt (Nat.add_le_add_right (finish_front_le (by decide) front) 16) small
  have header : Laid (B.layout cfg).resourcesOff [32] [⟨0, 32⟩] := ⟨rfl, rfl⟩
  have resources := header.table (table_toNat cfg.maxResources 12) (fits ⟨_, rfl⟩)
  have ops := resources.table (table_toNat cfg.maxOps 8) (fits ⟨_, rfl⟩)
  have needs := ops.table (needs_toNat cfg.maxOps B.maxNeedsPerOp) (fits ⟨_, rfl⟩)
  have leaseSlots := needs.table (table_toNat cfg.maxConcurrentLeases 4) (fits ⟨_, rfl⟩)
  have audit := leaseSlots.table (table_toNat cfg.auditSize 16)
    (fits ⟨B.rateSizes cfg ++ B.calibSizes cfg ++ B.causalitySizes cfg, by
      simp [Build.regionSizes, Build.precedingSizes, Build.commonSizes]⟩)
  have rates := audit.tableIf B.enableRateWindows (table_toNat cfg.maxResources 72)
    (fits ⟨B.calibSizes cfg ++ B.causalitySizes cfg, by
      simp [Build.regionSizes, Build.precedingSizes, Build.commonSizes, Build.rateSizes]⟩)
  have calib := rates.tableIf B.enableCalibration (table_toNat cfg.maxOps B.calibStateSize)
    (fits ⟨B.causalitySizes cfg, rfl⟩)
  have kept (enabled : Bool) (off : UInt32) (size : Nat) :
      (if enabled then [size] else []).map (Region.mk (if enabled then off else 0).toNat) =
        (if enabled then [size] else []).map (Region.mk off.toNat) := by
    cases enabled with
    | false => rfl
    | true => rfl
  rw [← kept B.enableRateWindows, ← kept B.enableCalibration] at calib
  exact calib

/-- And so are all regions; the total is the end of the last one and the slack. -/
theorem layout_regions (small : B.layoutBytes cfg < 4294967296) :
    ∃ last, (B.layout cfg).total = last + 16 ∧
      Laid last (B.regionSizes cfg) (B.regions cfg (B.layout cfg)) := by
  have all := (layout_preceding small).tableIf B.enableCausality
    (causality_toNat B.causalityMaxEdges cfg.maxOps) small
  simp only [← UInt32.add_assoc] at all
  exact ⟨_, rfl, all⟩

/-- The size that `init` compares with the storage. -/
theorem layoutSize_toNat (small : B.layoutBytes cfg < 4294967296) :
    (B.layoutSize cfg).toNat = B.layoutBytes cfg := by
  rcases layout_regions small with ⟨last, total, laid⟩
  have size : B.layoutSize cfg = last + 16 := total
  have ends := laid.finish_eq
  rw [Build.layoutBytes] at small ⊢
  rw [size, UInt32.toNat_add, ← ends]
  exact Nat.mod_eq_of_lt small

/-- The slots of a build with calibration are whole words. -/
theorem dvd_precedingSizes (slots : B.enableCalibration = true → 4 ∣ B.calibStateSize) :
    ∀ size ∈ B.precedingSizes cfg, 4 ∣ size := by
  intro size listed
  simp only [Build.precedingSizes, Build.commonSizes, Build.rateSizes, Build.calibSizes,
    List.mem_append, List.mem_cons, List.not_mem_nil, or_false] at listed
  rcases listed with ((rfl | rfl | rfl | rfl | rfl | rfl) | rates) | calib
  · decide
  · exact Nat.dvd_mul_left_of_dvd (by decide) _
  · exact Nat.dvd_mul_left_of_dvd (by decide) _
  · exact Nat.dvd_mul_left 4 _
  · exact Nat.dvd_mul_left 4 _
  · exact Nat.dvd_mul_left_of_dvd (by decide) _
  · split at rates
    · obtain rfl := List.mem_singleton.mp rates
      exact Nat.dvd_mul_left_of_dvd (by decide) _
    · exact absurd rates List.not_mem_nil
  · split at calib
    · rename_i enabled
      obtain rfl := List.mem_singleton.mp calib
      exact Nat.dvd_mul_left_of_dvd (slots enabled) _
    · exact absurd calib List.not_mem_nil

/-- The sum that the caller is given covers the layout: a lease slot is counted with eight bytes
instead of four, which pays for the padding behind the causality block. -/
theorem layoutBytes_le_requiredBytes
    (slots : B.enableCalibration = true → 4 ∣ B.calibStateSize)
    (leases : cfg.maxConcurrentLeases.toNat ≤ B.maxLeases) (some_lease : 0 < B.maxLeases) :
    B.layoutBytes cfg ≤ B.requiredBytes cfg := by
  have preceding : finish 4 0 (B.precedingSizes cfg) = _ :=
    finish_of_dvd (by decide) (Nat.dvd_zero 4) (dvd_precedingSizes slots)
  have last : finish 4 (finish 4 0 (B.precedingSizes cfg)) (B.causalitySizes cfg) ≤
      finish 4 0 (B.precedingSizes cfg) + (B.causalitySizes cfg).sum + 3 := by
    rw [Build.causalitySizes]
    split
    · exact roundUp_le 4 _
    · exact Nat.le_add_right _ _
  have sum : (B.precedingSizes cfg).sum =
      32 + cfg.maxResources.toNat * 12 + cfg.maxOps.toNat * 8 +
        cfg.maxOps.toNat * B.maxNeedsPerOp * 4 + cfg.maxConcurrentLeases.toNat * 4 +
        cfg.auditSize.toNat * 16 + (B.rateSizes cfg).sum + (B.calibSizes cfg).sum := by
    simp only [Build.precedingSizes, Build.commonSizes, List.sum_append, List.sum_cons,
      List.sum_nil]
    omega
  rw [Build.layoutBytes, Build.regionSizes, finish_append, Build.requiredBytes]
  omega

theorem requiredSize_toNat (small : B.requiredBytes cfg < 4294967296) :
    (B.requiredSize cfg.maxResources cfg.maxOps cfg.auditSize).toNat = B.requiredBytes cfg := by
  have optional (enabled : Bool) {bytes : UInt32} {size : Nat}
      (table : bytes.toNat = size % 4294967296) :
      (if enabled then bytes else 0).toNat = (if enabled then [size] else []).sum % 4294967296 := by
    cases enabled with
    | false => rfl
    | true => simpa using table
  have resources : (cfg.maxResources.toUInt32 * 12).toNat = _ := table_toNat cfg.maxResources 12
  have ops : (cfg.maxOps.toUInt32 * 8).toNat = _ := table_toNat cfg.maxOps 8
  have needs := needs_toNat cfg.maxOps B.maxNeedsPerOp
  have audit : (cfg.auditSize.toUInt32 * 16).toNat = _ := table_toNat cfg.auditSize 16
  have rates : (if B.enableRateWindows then cfg.maxResources.toUInt32 * 72 else 0).toNat = _ :=
    optional B.enableRateWindows (table_toNat cfg.maxResources 72)
  have calib := optional B.enableCalibration (table_toNat cfg.maxOps B.calibStateSize)
  have causality :=
    optional B.enableCausality (causality_toNat B.causalityMaxEdges cfg.maxOps)
  have leases : (UInt32.ofNat B.maxLeases * 8).toNat = B.maxLeases * 8 % 4294967296 := by
    rw [UInt32.toNat_mul, UInt32.toNat_ofNat']
    exact Nat.mod_mul_mod _ _ _
  have sum : (B.requiredSize cfg.maxResources cfg.maxOps cfg.auditSize).toNat =
      B.requiredBytes cfg % 4294967296 := by
    simp only [Build.requiredSize, UInt32.toNat_add, resources, ops, needs, leases, audit, rates,
      calib, causality, UInt32.reduceToNat, Build.requiredBytes, Build.rateSizes,
      Build.calibSizes, Build.causalitySizes]
    omega
  rw [sum, Nat.mod_eq_of_lt small]

/-- The causality block lies within the storage of every state that a run comes to. -/
theorem causalityHasStorage_run {hal : Hal} {args : InitArgs}
    (small : B.layoutBytes cfg < 4294967296)
    (fits : B.layoutSize cfg ≤ args.storageSize.toUInt32) (enabled : B.enableCausality = true)
    (events : List Event) :
    ((machine B).run (Budget.initial B hal args cfg) events).causalityHasStorage B = true := by
  have kept := SameInstance.run B (Budget.initial B hal args cfg) events
  have preceding := (layout_preceding small).finish_eq
  have bytes : (B.causalityBytes cfg.maxOps).toNat = _ :=
    causality_toNat B.causalityMaxEdges cfg.maxOps
  have size := UInt32.le_iff_toNat_le.mp fits
  rw [layoutSize_toNat small] at size
  rw [Build.layoutBytes, Build.regionSizes, finish_append, preceding,
    Build.causalitySizes, if_pos enabled] at small size
  have behind := le_roundUp (show 0 < 4 by decide) ((B.layout cfg).causalityOff.toNat +
    (4 + B.causalityMaxEdges * 4 + (cfg.maxOps.toNat + 7) / 8))
  simp only [finish] at small size
  simp only [Budget.causalityHasStorage, kept.maxResources, kept.maxOps, kept.maxLeases,
    kept.auditSize, kept.storageSize, decide_eq_true_eq, UInt32.le_iff_toNat_le]
  change ((B.layout cfg).causalityOff + B.causalityBytes cfg.maxOps).toNat ≤
    args.storageSize.toUInt32.toNat
  rw [UInt32.toNat_add, bytes]
  omega

end

theorem init_of_fits {B : Build} {hal : Hal} {previous : Budget} {args : InitArgs} {cfg : Config}
    (valid : validateInitArgs B args = .ok) (given : args.cfg = some cfg)
    (fits : B.layoutSize cfg ≤ args.storageSize.toUInt32) : (init B hal previous args).1 = .ok := by
  rw [init_eq_ok.mpr ⟨valid, cfg, given, fits, rfl⟩]

/-- As long as the layout stays below 2^32 bytes, every storage that `init` accepts holds all
regions, aligned and one behind the other; `lb__causality_off_` and the offset that `init` clears
are both the end of the region in front of the causality block, which stays within the storage
for the whole run. As long as `LOXBUDGET_REQUIRED_SIZE` stays below 2^32, that much storage
is enough. -/
theorem layouts_agree_and_fit {B : Build} {cfg : Config}
    (slots : B.enableCalibration = true → 4 ∣ B.calibStateSize) :
    (B.layoutBytes cfg < 4294967296 → ∀ (hal : Hal) (previous : Budget) (args : InitArgs)
        (budget : Budget), args.cfg = some cfg → init B hal previous args = (.ok, budget) →
      (∀ region ∈ B.regions cfg (B.layout cfg), 4 ∣ region.offset ∧
        region.finish ≤ args.storageSize.toNat ∧
        ∀ storage, args.storage = some storage → 4 ∣ storage.toNat + region.offset) ∧
      (B.regions cfg (B.layout cfg)).Pairwise (fun region later => region.finish ≤ later.offset) ∧
      (∃ preceding, (B.precedingRegions cfg (B.layout cfg)).getLast? = some preceding ∧
        preceding.finish = (B.layout cfg).causalityOff.toNat) ∧
      B.causalityOff budget.maxResources budget.maxOps budget.maxLeases budget.auditSize =
        (B.layout cfg).causalityOff ∧
      B.clearingOff budget = (B.layout cfg).causalityOff ∧
      (B.enableCausality = true →
        ∀ events, ((machine B).run budget events).causalityHasStorage B = true)) ∧
    (B.requiredBytes cfg < 4294967296 → ∀ (hal : Hal) (previous : Budget) (args : InitArgs),
      args.cfg = some cfg → validateInitArgs B args = .ok →
      (B.requiredSize cfg.maxResources cfg.maxOps cfg.auditSize).toNat ≤ args.storageSize.toNat →
      args.storageSize.toNat < 4294967296 → (init B hal previous args).1 = .ok) := by
  constructor
  · intro small hal previous args budget given success
    rcases init_eq_ok.mp success with ⟨valid, cfg', given', fits, rfl⟩
    obtain rfl : cfg = cfg' := Option.some.inj (given.symm.trans given')
    have preceding := layout_preceding small
    rcases layout_regions small with ⟨last, -, laid⟩
    have size := UInt32.le_iff_toNat_le.mp fits
    rw [layoutSize_toNat small, Build.layoutBytes, UInt64.toNat_toUInt32] at size
    refine ⟨?_, ?_, ?_, rfl, rfl, causalityHasStorage_run small fits⟩
    · intro region listed
      rw [← laid.regions_eq] at listed
      have aligned := place_aligned (Nat.dvd_zero 4) listed
      refine ⟨aligned, ?_, ?_⟩
      · have within := (place_within (by decide) listed).2
        have truncated := Nat.mod_le args.storageSize.toNat (2 ^ 32)
        omega
      · intro storage placed
        rcases (validateInitArgs_ok valid given).stored with ⟨storage', placed', low⟩
        obtain rfl : storage = storage' := Option.some.inj (placed.symm.trans placed')
        have bits := congrArg UInt64.toNat low
        rw [UInt64.toNat_and] at bits
        have masked : storage.toNat &&& 3 = storage.toNat % 4 :=
          Nat.and_two_pow_sub_one_eq_mod _ 2
        simp only [UInt64.reduceToNat, masked] at bits
        omega
    · rw [← laid.regions_eq]
      exact place_disjoint (by decide) 0 _
    · have nonempty : B.precedingRegions cfg (B.layout cfg) ≠ [] := by
        simp [Build.precedingRegions]
      refine ⟨_, List.getLast?_eq_getLast_of_ne_nil nonempty, ?_⟩
      rw [← preceding.finish_eq]
      apply place_getLast (by decide) (Nat.dvd_zero 4) (dvd_precedingSizes slots)
      rw [preceding.regions_eq]
      exact List.getLast?_eq_getLast_of_ne_nil nonempty
  · intro small hal previous args given valid enough below
    have validArgs := validateInitArgs_ok valid given
    have positive : 0 < B.maxLeases := by
      have nonzero := UInt8.lt_iff_toNat_lt.mp validArgs.maxLeases_pos
      have bounded := validArgs.maxLeases_le
      simp only [UInt8.reduceToNat] at nonzero
      omega
    have covered := layoutBytes_le_requiredBytes slots validArgs.maxLeases_le positive
    rw [requiredSize_toNat small] at enough
    apply init_of_fits valid given
    rw [UInt32.le_iff_toNat_le, layoutSize_toNat (by omega), UInt64.toNat_toUInt32]
    omega

/-- In the default build, the eight resources and sixteen ops of the sample instance. -/
theorem layouts_agree_and_fit_sample :
    (Build.full.regions ⟨8, 16, 4, 0, 0, none⟩ (Build.full.layout ⟨8, 16, 4, 0, 0, none⟩)).Pairwise
        (fun region later => region.finish ≤ later.offset) ∧
      (∀ events, ((machine Build.full).run .sample events).causalityHasStorage Build.full = true) ∧
      (init Build.full (Hal.permissive 0) .zero
        ⟨0x1000, some 0x2000, 11510, some ⟨8, 16, 4, 0, 0, none⟩⟩).1 = .ok := by
  have sound := @layouts_agree_and_fit Build.full ⟨8, 16, 4, 0, 0, none⟩ fun _ => by decide
  have laid := sound.1 (by decide) (Hal.permissive 0) .zero .sample .sample rfl
    (Prod.ext (by decide +kernel) rfl)
  exact ⟨laid.2.1, laid.2.2.2.2.2 rfl,
    sound.2 (by decide) (Hal.permissive 0) .zero _ rfl (by decide) (by decide) (by decide)⟩

/-- So many edges that the layout of the sample instance outgrows 32 bits. -/
def Build.manyEdges : Build :=
  { Build.full with causalityMaxEdges := 1073739324 }

/-- Past 2^32 bytes the sum wraps: `init` accepts 2000 bytes of storage, in which not even the
calibration slots have room. -/
theorem layout_outgrows_storage :
    ∃ (B : Build) (cfg : Config) (args : InitArgs) (budget : Budget), 4 ∣ B.calibStateSize ∧
      args.cfg = some cfg ∧ init B (Hal.permissive 0) .zero args = (.ok, budget) ∧
      ∃ region ∈ B.regions cfg (B.layout cfg), args.storageSize.toNat < region.finish := by
  have accepted : (init Build.manyEdges (Hal.permissive 0) .zero
      ⟨0x1000, some 0x2000, 2000, some ⟨8, 16, 4, 0, 0, none⟩⟩).1 = .ok := by decide +kernel
  refine ⟨Build.manyEdges, ⟨8, 16, 4, 0, 0, none⟩,
    ⟨0x1000, some 0x2000, 2000, some ⟨8, 16, 4, 0, 0, none⟩⟩, _, by decide, rfl,
    Prod.ext accepted rfl, ⟨1104, 10240⟩, by decide, by decide⟩

end Loxbudget
