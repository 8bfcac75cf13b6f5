import Loxbudget.Model.Calls

/-!
# The lives of an instance

An instance lives from a successful `init` to the next one. In between it may be shut down by
`deinit`, and with the storage in a `.noinit` section the instance itself may be lost in a reset
while its tables stay where they are.
-/

namespace Loxbudget

/-- `loxbudget_deinit` -/
def deinit (budget : Budget) : Status × Budget :=
  if budget.validate ≠ .ok then (budget.validate, budget)
  else (.ok, { budget with magic := 0 })

/-- A soft reset: the instance is cleared with the rest of `.bss`, the tables in the storage
stay. The audit ring is one of them, its head and its count are not. -/
def Budget.softReset (budget : Budget) : Budget :=
  { Budget.zero with
    journal := { Budget.zero.journal with auditRing := budget.journal.auditRing }
    resCfg := budget.resCfg
    opCfg := budget.opCfg
    resources := budget.resources
    ops := budget.ops
    needs := budget.needs
    leaseSlots := budget.leaseSlots
    rateState := budget.rateState
    edges := budget.edges }

/-- What can happen to an instance and its storage. -/
inductive LifeEvent where
  | call (event : Event)
  | init (hal : Hal) (args : InitArgs)
  | deinit
  | softReset

/-- The instance as a machine over several lives. -/
def lifeMachine (B : Build) : Machine Budget LifeEvent Reply where
  exec := fun budget event =>
    match event with
    | .call event => exec B budget event
    | .init hal args =>
        let (status, budget) := Loxbudget.init B hal budget args
        (.ofStatus status, budget)
    | .deinit =>
        let (status, budget) := Loxbudget.deinit budget
        (.ofStatus status, budget)
    | .softReset => (.ofStatus .ok, budget.softReset)

end Loxbudget
