import FixFirst.Config

/-!
# Memory pressure

How much memory a process has to spare, in three levels.  A level comes from the memory in use
and from its trend: much but steady use is at most elevated, moderate use that grows fast
enough to reach the limit within the horizon is critical.  Batches and concurrency shrink as
the level rises.

## Main definitions

* `slope` — the trend of a window of readings, by least squares.
* `ResourceConfig.classify` — the level of a reading and its trend.
* `Level.batchSize`, `Level.concurrency` — how much is done at once under a level.
-/

namespace FixFirst

/-- How scarce memory is. -/
inductive Level where
  | normal
  | elevated
  | critical
  deriving DecidableEq, Repr

namespace Level

/-- The name of a level. -/
def name : Level → String
  | normal => "normal"
  | elevated => "elevated"
  | critical => "critical"

/-- Levels by scarcity. -/
def rank : Level → Nat
  | normal => 0
  | elevated => 1
  | critical => 2

/-- How many files to take at once: all of the target, half of it, or the minimum. -/
def batchSize (level : Level) (target minimum : Int) : Int :=
  max minimum <| match level with
    | normal => target
    | elevated => target.fdiv 2
    | critical => minimum

/-- How many engines to run at once: all jobs, half of them, or one. -/
def concurrency (level : Level) (jobs : Int) : Int :=
  max 1 <| match level with
    | normal => jobs
    | elevated => jobs.fdiv 2
    | critical => 1

theorem minimum_le_batchSize (level : Level) (target minimum : Int) :
    minimum ≤ level.batchSize target minimum := Int.le_max_left _ _

theorem one_le_concurrency (level : Level) (jobs : Int) : 1 ≤ level.concurrency jobs := Int.le_max_left _ _

end Level

variable {τ : Type} [Quantity τ]

/-- A result that is beyond the range of its format is a fault. -/
def inRange {α : Type} : Option α → Except Fault α
  | some value => .ok value
  | none => .error (.overflow "result out of range")

/-- A reading of the memory in use. -/
structure Point (τ : Type) where
  time : τ
  bytes : Int
  deriving Repr

/-- The time between the first and the last reading. -/
def span? (window : List (Point τ)) : Option τ :=
  match window.head?, window.getLast? with
  | some first, some last => some (last.time - first.time)
  | _, _ => none

/-- The slope of the line through readings that fits best by least squares; none if all
readings have the same time. -/
def leastSquares (window : List (Point τ)) : Except Fault τ := do
  let meanTime := Quantity.sum (window.map (·.time)) / Quantity.ofNat window.length
  let meanBytes ← inRange (Quantity.ratio? ((window.map (·.bytes)).foldr (· + ·) 0) window.length)
  let products ← window.mapM fun point => do
    return (point.time - meanTime) * ((← inRange (Quantity.ofInt? point.bytes)) - meanBytes)
  let squares ← window.mapM fun point => inRange (Quantity.square? (point.time - meanTime))
  let denominator := Quantity.sum squares
  return if Quantity.isZero denominator then Quantity.zero else Quantity.sum products / denominator

/-- The trend of readings in bytes per second.  Readings that span less than `least` have none. -/
def slope (window : List (Point τ)) (least : τ) : Except Fault τ :=
  match window, span? window with
  | _ :: _ :: _, some width => if width < least then .ok Quantity.zero else leastSquares window
  | _, _ => .ok Quantity.zero

namespace Amount

/-- Whether memory grows at such a rate, in bytes per second. -/
def isGrowth : Amount τ → Bool
  | measured value => !decide (value ≤ Quantity.zero)
  | whole value => 0 < value

/-- The seconds in which memory grows by so many bytes.  A whole rate divides without a loss. -/
def seconds (bytes : Int) : Amount τ → Except Fault τ
  | measured value => do return (← inRange (Quantity.ofInt? bytes)) / value
  | whole value => inRange (Quantity.ratio? bytes value.toNat)

end Amount

namespace ResourceConfig

/-- The seconds until the limit is reached at a rate of growth; none if memory does not grow. -/
def exhaustion (config : ResourceConfig τ) (bytes : Int) (rate : Amount τ) : Except Fault (Option τ) := do
  if !rate.isGrowth then return none
  return some (Quantity.greatest Quantity.zero (← rate.seconds ((← config.limitBytes) - bytes)))

/-- The level of a reading and its rate of growth. -/
def classify (config : ResourceConfig τ) (bytes : Int) (rate : Amount τ) : Except Fault Level := do
  if !config.enabled then return .normal
  let limit ← config.limitBytes
  if limit ≤ bytes then return .critical
  let left ← config.exhaustion bytes rate
  let within (horizon : τ) : Bool := left.any fun seconds => seconds ≤ horizon
  if within config.horizon then return .critical
  let threshold := config.elevatedRatio * (← inRange (Quantity.ofInt? limit))
  if Quantity.leInt threshold bytes then return .elevated
  return if within (Quantity.ofNat 3 * config.horizon) then .elevated else .normal

end ResourceConfig

end FixFirst
