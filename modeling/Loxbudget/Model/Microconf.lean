import Loxbudget.Model.Core

/-!
# Loading a configuration

`adapters/microconf` configures an instance from three arrays that the accessors of a configuration
object return. Each accessor is called once, so that the object is what its accessors return.
-/

namespace Loxbudget

/-- `loxbudget_microconf_resource_t` -/
structure ConfResource where
  id : ResourceId
  limit : UInt16
  kind : UInt8
  deriving DecidableEq, Repr

/-- `loxbudget_microconf_need_t` -/
structure ConfNeed where
  opId : OpId
  resourceId : ResourceId
  amount : UInt16
  deriving DecidableEq, Repr

/-- What a pair of accessors returns: a count with a null pointer, or as many entries. -/
inductive ConfArray (Entry : Type) where
  | null (count : UInt64)
  | entries (list : List Entry)

/-- `microconf_t`, as the accessors show it. -/
structure Microconf where
  resources : ConfArray ConfResource
  ops : ConfArray RawProfile
  needs : ConfArray ConfNeed

namespace Microconf

/-- The loop of a block: one call for each entry, up to the first that is refused. -/
def loadEntries {Entry : Type} (call : Budget → Entry → Status × Budget) :
    List Entry → Budget → Status × Budget
  | [], budget => (.ok, budget)
  | entry :: entries, budget =>
      let (status, budget) := call budget entry
      if status ≠ .ok then (status, budget) else loadEntries call entries budget

/-- A block of `loxbudget_microconf_load`. -/
def loadArray {Entry : Type} (call : Budget → Entry → Status × Budget) :
    ConfArray Entry → Budget → Status × Budget
  | .null count, budget => if count ≠ 0 then (.invalidArg, budget) else (.ok, budget)
  | .entries list, budget => loadEntries call list budget

/-- The block of the resources. -/
def loadResources : ConfArray ConfResource → Budget → Status × Budget :=
  loadArray fun budget r => setResource budget r.id r.limit r.kind.toUInt32

/-- The block of the operation profiles. -/
def loadOps (B : Build) : ConfArray RawProfile → Budget → Status × Budget :=
  loadArray fun budget op => registerOp B budget (some op)

/-- The block of the needs. -/
def loadNeeds : ConfArray ConfNeed → Budget → Status × Budget :=
  loadArray fun budget n => opSetNeed budget n.opId n.resourceId n.amount

end Microconf

/-- `loxbudget_microconf_load` -/
def microconfLoad (B : Build) (budget : Budget) : Option Microconf → Status × Budget
  | none => (.invalidArg, budget)
  | some conf =>
      let (status, budget) := Microconf.loadResources conf.resources budget
      if status ≠ .ok then (status, budget)
      else
        let (status, budget) := Microconf.loadOps B conf.ops budget
        if status ≠ .ok then (status, budget)
        else Microconf.loadNeeds conf.needs budget

end Loxbudget
