import Loxbudget.Lib.Placement
import Loxbudget.Model.Core

/-!
# The storage layout

The layout of the caller's storage is written out several times: `loxbudget_init` computes the
offsets it keeps and, when it clears the causality block, that of the block again;
`lb__causality_off_` computes it a third time; `LOXBUDGET_REQUIRED_SIZE` sums the sizes up
for the caller. All of them compute in `uint32_t`.
-/

namespace Loxbudget

open Placement

/-- The offsets that `loxbudget_init` computes. Those of the rate states and of the calibration
slots stay 0 in a build without them. The offset of the causality block is not kept in the
instance. -/
structure Layout where
  resourcesOff : UInt32
  opsOff : UInt32
  needsOff : UInt32
  leaseSlotsOff : UInt32
  auditOff : UInt32
  rateOff : UInt32
  calibOff : UInt32
  causalityOff : UInt32
  total : UInt32
  deriving DecidableEq, Repr

/-- The table layout of `loxbudget_init`. -/
def Build.layout (B : Build) (cfg : Config) : Layout :=
  let off : UInt32 := 0
  let resourcesOff := alignUp (off + 32)
  let opsOff := alignUp (resourcesOff + cfg.maxResources.toUInt32 * 12)
  let needsOff := alignUp (opsOff + cfg.maxOps.toUInt32 * 8)
  let leaseSlotsOff :=
    alignUp (needsOff + cfg.maxOps.toUInt32 * UInt32.ofNat B.maxNeedsPerOp * 4)
  let auditOff := alignUp (leaseSlotsOff + cfg.maxConcurrentLeases.toUInt32 * 4)
  let off := alignUp (auditOff + cfg.auditSize.toUInt32 * 16)
  let rateOff := if B.enableRateWindows then off else 0
  let off := if B.enableRateWindows then alignUp (off + cfg.maxResources.toUInt32 * 72) else off
  let calibOff := if B.enableCalibration then off else 0
  let off := if B.enableCalibration then
      alignUp (off + cfg.maxOps.toUInt32 * UInt32.ofNat B.calibStateSize) else off
  let causalityOff := off
  let off := if B.enableCausality then
      alignUp (off + 4 + UInt32.ofNat B.causalityMaxEdges * 4 + (cfg.maxOps.toUInt32 + 7) / 8)
    else off
  { resourcesOff, opsOff, needsOff, leaseSlotsOff, auditOff, rateOff, calibOff, causalityOff
    total := off + 16 }

/-- The offset at which `loxbudget_init` clears the causality block, recomputed from the
instance. -/
def Build.clearingOff (B : Build) (budget : Budget) : UInt32 :=
  let off : UInt32 := 0
  let off := alignUp (off + 32)
  let off := alignUp (off + budget.maxResources.toUInt32 * 12)
  let off := alignUp (off + budget.maxOps.toUInt32 * 8)
  let off := alignUp (off + budget.maxOps.toUInt32 * UInt32.ofNat B.maxNeedsPerOp * 4)
  let off := alignUp (off + budget.maxLeases.toUInt32 * 4)
  let off := alignUp (off + budget.auditSize.toUInt32 * 16)
  let off := if B.enableRateWindows then alignUp (off + budget.maxResources.toUInt32 * 72)
    else off
  if B.enableCalibration then
    alignUp (off + budget.maxOps.toUInt32 * UInt32.ofNat B.calibStateSize)
  else off

/-- `LOXBUDGET_REQUIRED_SIZE` -/
def Build.requiredSize (B : Build) (maxResources maxOps auditSize : UInt8) : UInt32 :=
  32 + maxResources.toUInt32 * 12 + maxOps.toUInt32 * 8 +
    maxOps.toUInt32 * UInt32.ofNat B.maxNeedsPerOp * 4 + UInt32.ofNat B.maxLeases * 8 +
    (if B.enableRateWindows then maxResources.toUInt32 * 72 else 0) +
    (if B.enableCalibration then maxOps.toUInt32 * UInt32.ofNat B.calibStateSize else 0) +
    (if B.enableCausality then
      4 + UInt32.ofNat B.causalityMaxEdges * 4 + (maxOps.toUInt32 + 7) / 8 else 0) +
    auditSize.toUInt32 * 16 + 16

/-! ## The sizes as they are meant -/

/-- The sizes of the header and of the tables of every build. -/
def Build.commonSizes (B : Build) (cfg : Config) : List Nat :=
  [32, cfg.maxResources.toNat * 12, cfg.maxOps.toNat * 8,
    cfg.maxOps.toNat * B.maxNeedsPerOp * 4, cfg.maxConcurrentLeases.toNat * 4,
    cfg.auditSize.toNat * 16]

/-- The sizes of the rate states, if there are any. -/
def Build.rateSizes (B : Build) (cfg : Config) : List Nat :=
  if B.enableRateWindows then [cfg.maxResources.toNat * 72] else []

/-- The sizes of the calibration slots, if there are any. -/
def Build.calibSizes (B : Build) (cfg : Config) : List Nat :=
  if B.enableCalibration then [cfg.maxOps.toNat * B.calibStateSize] else []

/-- The size of the causality block, if there is one. -/
def Build.causalitySizes (B : Build) (cfg : Config) : List Nat :=
  if B.enableCausality then [4 + B.causalityMaxEdges * 4 + (cfg.maxOps.toNat + 7) / 8] else []

/-- The sizes of the regions in front of the causality block. -/
def Build.precedingSizes (B : Build) (cfg : Config) : List Nat :=
  B.commonSizes cfg ++ B.rateSizes cfg ++ B.calibSizes cfg

/-- The sizes of all regions. -/
def Build.regionSizes (B : Build) (cfg : Config) : List Nat :=
  B.precedingSizes cfg ++ B.causalitySizes cfg

/-- The bytes of the layout, computed without a bound on the numbers. -/
def Build.layoutBytes (B : Build) (cfg : Config) : Nat :=
  finish 4 0 (B.regionSizes cfg) + 16

/-- `LOXBUDGET_REQUIRED_SIZE`, computed without a bound on the numbers. -/
def Build.requiredBytes (B : Build) (cfg : Config) : Nat :=
  32 + cfg.maxResources.toNat * 12 + cfg.maxOps.toNat * 8 +
    cfg.maxOps.toNat * B.maxNeedsPerOp * 4 + B.maxLeases * 8 + (B.rateSizes cfg).sum +
    (B.calibSizes cfg).sum + (B.causalitySizes cfg).sum + cfg.auditSize.toNat * 16 + 16

/-- The regions in front of the causality block, at the offsets of a layout. -/
def Build.precedingRegions (B : Build) (cfg : Config) (layout : Layout) : List Region :=
  [⟨0, 32⟩,
    ⟨layout.resourcesOff.toNat, cfg.maxResources.toNat * 12⟩,
    ⟨layout.opsOff.toNat, cfg.maxOps.toNat * 8⟩,
    ⟨layout.needsOff.toNat, cfg.maxOps.toNat * B.maxNeedsPerOp * 4⟩,
    ⟨layout.leaseSlotsOff.toNat, cfg.maxConcurrentLeases.toNat * 4⟩,
    ⟨layout.auditOff.toNat, cfg.auditSize.toNat * 16⟩] ++
  (B.rateSizes cfg).map (⟨layout.rateOff.toNat, ·⟩) ++
  (B.calibSizes cfg).map (⟨layout.calibOff.toNat, ·⟩)

/-- All regions, at the offsets of a layout. -/
def Build.regions (B : Build) (cfg : Config) (layout : Layout) : List Region :=
  B.precedingRegions cfg layout ++ (B.causalitySizes cfg).map (⟨layout.causalityOff.toNat, ·⟩)

end Loxbudget
