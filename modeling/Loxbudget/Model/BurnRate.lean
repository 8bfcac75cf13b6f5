import Loxbudget.Model.Calls

/-!
# Burn rates

The query `loxbudget_get_burn_rate` reads the counters of a resource and writes nothing
to the instance. In the token-bucket build it reports no rates.
-/

namespace Loxbudget

/-- `loxbudget_burn_rate_t` -/
structure BurnRate where
  perMinute : UInt32
  perHour : UInt32
  estimatedExhaustionMs : UInt32
  deriving DecidableEq, Repr

/-- The estimate at the end of `loxbudget_get_burn_rate`: the quotient is taken in 64 bits, and
the early returns leave the zero of `memset`. -/
def RateState.estimatedExhaustionMs (rate : RateState) (perMinute : UInt32) : UInt32 :=
  if rate.limitLifetime = 0 then 0
  else if rate.consumedLifetime ≥ rate.limitLifetime then 0
  else if perMinute = 0 then 0
  else
    let remaining := rate.limitLifetime - rate.consumedLifetime
    let num := remaining.toUInt64 * 60000
    (num / perMinute.toUInt64).toUInt32

/-- What `loxbudget_get_burn_rate` reports of a rate state. -/
def RateState.burnRate (impl : RateImpl) (rate : RateState) : BurnRate :=
  let perMinute := match impl with
    | .tokenBucket => 0
    | .fixedWindow => (rate.windows.getD 1 .zero).consumed
  let perHour := match impl with
    | .tokenBucket => 0
    | .fixedWindow => (rate.windows.getD 2 .zero).consumed
  ⟨perMinute, perHour, rate.estimatedExhaustionMs perMinute⟩

/-- `loxbudget_get_burn_rate`; `out` tells whether the output pointer is non-null. -/
def getBurnRate (B : Build) (budget : Budget) (res : ResourceId) (out : Bool) :
    Status × Option BurnRate :=
  if out = false then (.invalidArg, none)
  else if budget.validate ≠ .ok then (budget.validate, none)
  else if res ≥ budget.maxResources then (.invalidArg, none)
  else if budget.resCfg res = false then (.notFound, none)
  else (.ok, some ((budget.rateState res).burnRate B.rateImpl))

end Loxbudget
