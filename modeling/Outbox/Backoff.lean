import Outbox.Json.Doc
import Outbox.Time.Duration

/-!
# Delays between attempts

* `Backoff.Policy`        first delay, largest delay, growth and jitter;
* `Policy.exponential`, `Policy.fixed`   the two ready-made ones;
* `Policy.delay`          the delay before the next attempt;
* `Policy.json`, `Policy.ofDoc?`   the JSON form, delays in whole milliseconds;
* `Chance`                where the random part of a delay comes from.

The delay grows by `multiplier` with every failure up to `maxInterval`, is then moved by at most `jitter`
of itself, and is at least one millisecond.
-/

namespace Outbox.Backoff

structure Policy where
  initialInterval : Duration
  maxInterval : Duration
  multiplier : Float
  jitter : Float
  deriving Inhabited

def minDelay : Duration := .ofNanos 1000000

namespace Policy

def exponential : Policy := ⟨.ofNanos 1000000000, .ofNanos 300000000000, 2.0, 0.1⟩

def fixed (d : Duration) : Policy := ⟨d, d, 1.0, 0.0⟩

/-- at least 1; what is not a number gives 1 -/
def withMultiplier (p : Policy) (x : Float) : Policy :=
  { p with multiplier := if 1.0 ≤ x then x else 1.0 }

/-- cut to the range from 0 to 1 -/
def withJitter (p : Policy) (x : Float) : Policy :=
  { p with jitter := if x < 0.0 then 0.0 else if 1.0 < x then 1.0 else x }

/-- `r * a ^ e` by squaring, in the order in which the rounding of doubles shows -/
def powerFrom (r a : Float) (e : Nat) : Float :=
  let r := if e % 2 = 1 then r * a else r
  if e / 2 = 0 then r else powerFrom r (a * a) (e / 2)
termination_by e
decreasing_by omega

def power (a : Float) (e : Nat) : Float := powerFrom 1.0 a e

/-- seconds before jitter, for the count of failures so far -/
def base (p : Policy) (failures : UInt32) : Float :=
  let grown := p.initialInterval.seconds * power p.multiplier (min (failures.toNat - 1) 0x7fffffff)
  let cap := p.maxInterval.seconds
  if grown < cap then grown else cap

/-- `sway` is the random part, from -1 to 1; without jitter it does not count. -/
def seconds (p : Policy) (failures : UInt32) (sway : Float) : Float :=
  let capped := p.base failures
  if 0.0 < p.jitter && 0.0 < capped then
    let moved := capped + capped * p.jitter * sway
    if 0.0 < moved then moved else 0.0
  else capped

def delay (p : Policy) (failures : UInt32) (sway : Float) : Duration :=
  let d := (Duration.ofSeconds? (p.seconds failures sway)).getD p.maxInterval
  if minDelay ≤ d then d else minDelay

/-! ## JSON -/

def millisJson (d : Duration) : Json := .int (min d.millis 0xffffffffffffffff)

def json (p : Policy) : Json :=
  .object
    [("initial_interval", millisJson p.initialInterval), ("max_interval", millisJson p.maxInterval),
     ("multiplier", Json.real p.multiplier), ("jitter", Json.real p.jitter)]

def fieldNames : List String := ["initial_interval", "max_interval", "multiplier", "jitter"]

def readMillis? (d : Doc) : Option Duration :=
  (d.natural? 0xffffffffffffffff).map fun n => Duration.ofMillis n.toUInt64

def ofDoc? (d : Doc) : Option Policy := do
  match ← d.parts? fieldNames with
  | [initialInterval, maxInterval, multiplier, jitter] =>
    some
      { initialInterval := ← initialInterval >>= readMillis?
        maxInterval := ← maxInterval >>= readMillis?
        multiplier := ← multiplier >>= Doc.real?
        jitter := ← jitter >>= Doc.real? }
  | _ => none

def read? (s : String) : Option Policy := (Doc.read? s.toList).bind ofDoc?

end Policy

/-! ## chance -/

/-- Draws by their number, and how many of them have been used. -/
structure Chance where
  draws : Nat → Float
  used : Nat
  deriving Inhabited

namespace Chance

def next (c : Chance) : Float × Chance := (c.draws c.used, { c with used := c.used + 1 })

/-- Numbers from -1 to 1 that look random.  The states are evenly spaced, and a draw is a state with its
bits mixed. -/
def ofSeed (seed : UInt64) : Chance where
  draws := fun n =>
    let s := seed + (n + 1).toUInt64 * 0x9e3779b97f4a7c15
    let z := (s ^^^ (s >>> 30)) * 0xbf58476d1ce4e5b9
    let z := (z ^^^ (z >>> 27)) * 0x94d049bb133111eb
    let z := z ^^^ (z >>> 31)
    (z >>> 11).toFloat / 4503599627370496.0 - 1.0
  used := 0

end Chance

end Outbox.Backoff
