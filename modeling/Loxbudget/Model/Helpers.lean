import Loxbudget.Model.Calls
import Loxbudget.Model.EdgeTable

/-!
# The helpers of the public header

The conveniences that the header and `loxbudget_hal.c` add to the calls: the default profile of an
op, the simple configuration with the permissive callbacks, and the count of the edges in a build
with causality or without.
-/

namespace Loxbudget

/-- `loxbudget_op_profile_default` -/
def opProfileDefault (opId : OpId) : RawProfile where
  opId := opId
  priority := 1
  actionNormal := 0
  actionElevated := 0
  actionCritical := 0
  actionSurvival := 0
  actionLockdown := 0
  flags := 0

/-- `loxbudget_hal_default_permissive`; each of its queries is given. -/
def halDefaultPermissive : HalCallbacks :=
  ⟨true, true, true⟩

/-- What the permissive callbacks answer, next to the weak defaults of `loxbudget_hal.c`. -/
def Hal.simple : Hal where
  nowMs := 0
  auditNowMs := 0
  commitNowMs := fun _ => 0
  leaseNowMs := 0
  bootProven := ⟨1, 0⟩
  voltageOk := ⟨1, 0⟩
  networkUp := ⟨1, 0⟩

/-- `loxbudget_config_simple` -/
def configSimple (B : Build) (maxResources maxOps : UInt8) : Config where
  maxResources := maxResources
  maxOps := maxOps
  maxConcurrentLeases := UInt8.ofNat B.maxLeases
  auditSize := 0
  halStrict := 0
  halCallbacks := some halDefaultPermissive

/-- `loxbudget_init_simple` -/
def initSimple (B : Build) (budget : Budget) (budgetAddr storage storageSize : UInt64)
    (maxResources maxOps : UInt8) : Status × Budget :=
  init B .simple budget
    ⟨budgetAddr, some storage, storageSize, some (configSimple B maxResources maxOps)⟩

/-- `loxbudget_causality_edge_count` as the header declares it for the build: a build without
causality has a stub. -/
def Build.causalityEdgeCount (B : Build) (budget : Budget) : UInt16 :=
  if B.enableCausality then Loxbudget.causalityEdgeCount B budget else 0

end Loxbudget
