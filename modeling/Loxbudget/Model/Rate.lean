import Loxbudget.Model.State

/-!
# Rate windows

The two compile-time implementations of a rate limit. In the fixed-window build
`consumed` counts what the window has granted since `windowStartMs`; in the
token-bucket build it holds the remaining tokens in Q16.16 and `windowStartMs`
is the time of the last refill. Both roll a window lazily, whenever `check` or
`enter` looks at it, and compare clock readings by 32-bit subtraction.
-/

namespace Loxbudget

/-- `lb__window_duration_ms_`; the argument is the raw enumerator. -/
def windowDurationMs (window : UInt32) : UInt32 :=
  if window = 0 then 1000
  else if window = 1 then 60000
  else if window = 2 then 3600000
  else if window = 3 then 86400000
  else 0

namespace RateWindow

/-- A window that limits nothing: it was never set, or was set to 0. -/
def unlimited (window : RateWindow) : Bool :=
  window.limit == 0 || window.windowDurationMs == 0

/-- The restart of an expired fixed window, written out in `lb__rate_roll_and_check_` and again in
`lb__rate_commit_`. -/
def restartIfExpired (window : RateWindow) (nowMs : UInt32) : RateWindow :=
  if nowMs - window.windowStartMs ≥ window.windowDurationMs then
    { window with windowStartMs := nowMs, consumed := 0 }
  else window

/-- The refill of a token bucket at the head of `lb__rate_roll_and_check_`. -/
def refill (window : RateWindow) (nowMs : UInt32) : RateWindow :=
  let dt := nowMs - window.windowStartMs
  if dt ≠ 0 then
    let cap := window.limit.toUInt64 <<< 16
    let add := cap * dt.toUInt64 / window.windowDurationMs.toUInt64
    let tok := window.consumed.toUInt64 + add
    let tok := if tok > cap then cap else tok
    { window with consumed := tok.toUInt32, windowStartMs := nowMs }
  else window

/-- `lb__rate_roll_and_check_` -/
def rollAndCheck (impl : RateImpl) (window : RateWindow) (nowMs amount : UInt32) :
    RateWindow × Bool :=
  if window.unlimited then (window, true)
  else
    match impl with
    | .tokenBucket =>
        let window := window.refill nowMs
        let need := amount.toUInt64 <<< 16
        (window, decide (window.consumed.toUInt64 ≥ need))
    | .fixedWindow =>
        let window := window.restartIfExpired nowMs
        if window.consumed > window.limit then (window, false)
        else if amount > window.limit - window.consumed then (window, false)
        else (window, true)

/-- `lb__rate_commit_` -/
def commit (impl : RateImpl) (window : RateWindow) (nowMs amount : UInt32) : RateWindow :=
  if window.unlimited then window
  else
    match impl with
    | .tokenBucket =>
        let window := (window.rollAndCheck impl nowMs 0).1
        let need := amount.toUInt64 <<< 16
        if window.consumed.toUInt64 ≥ need then
          { window with consumed := (window.consumed.toUInt64 - need).toUInt32 }
        else { window with consumed := 0 }
    | .fixedWindow =>
        let window := window.restartIfExpired nowMs
        if 0xFFFFFFFF - window.consumed < amount then { window with consumed := 0xFFFFFFFF }
        else { window with consumed := window.consumed + amount }

end RateWindow

namespace RateState

/-- The loop of `loxbudget_check` over the four windows of a resource: it stops at the first
window that refuses the amount and leaves the later ones as they are. -/
def rollWindows (impl : RateImpl) (nowMs amount : UInt32) :
    List RateWindow → List RateWindow × Bool
  | [] => ([], true)
  | window :: rest =>
      match window.rollAndCheck impl nowMs amount with
      | (rolled, false) => (rolled :: rest, false)
      | (rolled, true) =>
          let (rest, admitted) := rollWindows impl nowMs amount rest
          (rolled :: rest, admitted)

/-- The lifetime test of `loxbudget_check`. -/
def lifetimeExhausted (rate : RateState) (amount : UInt32) : Bool :=
  rate.limitLifetime != 0 &&
    (rate.consumedLifetime > rate.limitLifetime ||
      amount > rate.limitLifetime - rate.consumedLifetime)

/-- The rate part of the commit loop in `loxbudget_enter`. -/
def commit (impl : RateImpl) (rate : RateState) (nowMs amount : UInt32) : RateState where
  windows := rate.windows.map (·.commit impl nowMs amount)
  consumedLifetime :=
    if 0xFFFFFFFF - rate.consumedLifetime < amount then 0xFFFFFFFF
    else rate.consumedLifetime + amount
  limitLifetime := rate.limitLifetime

end RateState

end Loxbudget
