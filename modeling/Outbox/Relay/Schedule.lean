import Outbox.Relay.Loop

/-!
# Who is next

When every publish takes the same time and writing takes none, the moves of a batch follow from the
clock: an outcome is settled at once, and flights that are due land, in the order of their starts, before
others begin.

* `Batch.due`          when a publish ends, by itself or at its time limit;
* `Batch.next?`, `Loop.next?`   the move that is made now, if any can be made;
* `Batch.wake?`, `Loop.wake?`   otherwise the time at which one can be made;
* `Batch.tickAtOnce`   a whole tick when publishes take no time.
-/

namespace Outbox.Relay

variable {σ : Type}

/-- the earliest of some times -/
def soonest? : List Nat → Option Nat
  | [] => none
  | t :: ts =>
    match soonest? ts with
    | none => some t
    | some u => some (min t u)

namespace Batch

def due (t : Batch) (latency : Duration) (f : Flight) : Nat :=
  f.started + min latency.nanos t.config.publishTimeout.nanos

/-- A publish that takes exactly its time limit is in time, and so is any that has ended when it is
looked at. -/
def isInTime (t : Batch) (now : Nat) (latency : Duration) (i : Nat) : Bool :=
  t.flights[i]?.any fun f => f.started + latency.nanos ≤ now

def next? (t : Batch) (now : Nat) (latency : Duration) : Option Move :=
  if !t.outcomes.isEmpty then some (.settle 0)
  else
    match t.flights.findIdx? fun f => t.due latency f ≤ now with
    | some i => some (.land i (t.isInTime now latency i))
    | none => if !t.waiting.isEmpty && t.hasRoom then some .start else none

def wake? (t : Batch) (latency : Duration) : Option Nat := soonest? (t.flights.map (t.due latency))

/-- `n` moves, or fewer where none can be made -/
def runAtOnce (b : Backend σ) : Nat → Batch → σ → Batch × σ
  | 0, t, s => (t, s)
  | n + 1, t, s =>
    match t.next? (b.now s) (.ofNanos 0) with
    | none => (t, s)
    | some m =>
      let (t, s) := t.move b s m
      runAtOnce b n t s

/-- Each record takes at most three moves. -/
def tickAtOnce (b : Backend σ) (config : Config) (s : σ) : Except StoreError Report × σ :=
  match claim b config (b.now s) s with
  | (.error e, s) => (.error e, s)
  | (.ok t, s) =>
    let (t, s) := t.runAtOnce b (3 * t.waiting.length) s
    (.ok t.report, s)

end Batch

namespace Loop

def next? (l : Loop) (signal : Signal) (now : Nat) (latency : Duration) : Option Move :=
  match l.phase with
  | .head => some .look
  | .tick t => if t.finished then some .ticked else (t.next? now latency).map .batch
  | .pause time =>
    if l.seen ≠ signal.version || !signal.live || time ≤ now then some .wake else none
  | .stopped => none

def wake? (l : Loop) (latency : Duration) : Option Nat :=
  match l.phase with
  | .tick t => t.wake? latency
  | .pause time => some time
  | _ => none

end Loop

end Outbox.Relay
