import Outbox.Relay.Purge

/-!
# The loop of a relay

A relay ticks, purges now and then, and pauses, until its signal says that it should stop.

* `Signal`          the value last sent to the relay, and whether anybody can still send;
* `Loop`            a relay at work, in one of four phases;
* `Loop.begin`      before the first round;
* `Loop.look`       at the head of a round: stop, or claim a batch;
* `Loop.ticked`     after a tick: log, purge when it is time, and pause unless the batch was full;
* `Loop.wake`       a pause ends: its time is over, or the signal changed;
* `Loop.elapse`     a pause ends because its time is over, even if the signal changed too;
* `Loop.move`       one of these, or a move of the batch; one that is not possible changes nothing.

A stop is seen between batches only, so a batch once claimed is finished.
-/

namespace Outbox.Relay

structure Signal where
  value : Bool
  /-- counts the values sent -/
  version : Nat
  /-- somebody can still send -/
  live : Bool
  deriving DecidableEq, Repr, Inhabited

namespace Signal

def initial (value : Bool) : Signal := ⟨value, 0, true⟩

def send (value : Bool) (s : Signal) : Signal := { s with value, version := s.version + 1 }

def drop (s : Signal) : Signal := { s with live := false }

/-- A relay that nobody can tell anything any more stops too. -/
def stops (s : Signal) : Bool := s.value || !s.live

end Signal

inductive Phase where
  /-- about to look at the signal -/
  | head
  | tick (t : Batch)
  | pause (wake : Nat)
  | stopped
  deriving Inhabited

structure Loop where
  config : Config
  phase : Phase
  /-- when the last purge began -/
  lastPurge : Option Nat
  /-- the version of the signal that was last taken notice of -/
  seen : Nat
  deriving Inhabited

variable {σ : Type}

namespace Loop

def starting (c : Config) : Log.Entry :=
  entry .info "relay worker started"
    [Log.count "poll_interval_ms" (millis c.pollInterval), Log.count "batch_size" c.batchSize,
     Log.count "max_concurrency" c.maxConcurrency]

def begin (b : Backend σ) (config : Config) (s : σ) : Loop × σ :=
  ({ config, phase := .head, lastPurge := none, seen := 0 }, b.log (starting config) s)

def stop (b : Backend σ) (l : Loop) (s : σ) : Loop × σ :=
  ({ l with phase := .stopped }, b.log (entry .info "relay worker stopped" []) s)

/-! ## after a tick -/

def reportEntry (r : Report) : Log.Entry :=
  entry .info "relay tick"
    [Log.count "claimed" r.claimed, Log.count "delivered" r.delivered,
     Log.count "retried" r.retried, Log.count "dead_lettered" r.deadLettered,
     Log.count "lease_expired" r.leaseExpired]

def tickEntry : Except StoreError Report → Option Log.Entry
  | .ok r => if 0 < r.claimed then some (reportEntry r) else none
  | .error e => some (entry .error "failed to fetch pending outbox events" [Log.error e])

/-- A full batch is followed by the next round at once. -/
def isFull (c : Config) : Except StoreError Report → Bool
  | .ok r => c.batchSize ≤ r.claimed
  | .error _ => false

/-- With a retention: after the first tick, and then when the interval has gone by. -/
def purgeDue (l : Loop) (now : Nat) : Bool :=
  l.config.retention.isSome &&
    match l.lastPurge with
    | none => true
    | some t => l.config.purgeInterval ≤ Duration.ofNanos (now - t)

def purgeEntry : Except StoreError Nat → Option Log.Entry
  | .ok _ => none
  | .error e => some (entry .error "failed to purge processed outbox events" [Log.error e])

def purged (b : Backend σ) (l : Loop) (s : σ) : Loop × σ :=
  if l.purgeDue (b.now s) then
    let (reply, s') := purge b l.config s
    ({ l with lastPurge := some (b.now s) }, b.logAll (purgeEntry reply) s')
  else (l, s)

def ticked (b : Backend σ) (l : Loop) (result : Except StoreError Report) (s : σ) : Loop × σ :=
  let s := b.logAll (tickEntry result) s
  let (l, s) := l.purged b s
  ({ l with
      phase := if isFull l.config result then .head else .pause (b.now s + l.config.pollInterval.nanos) },
    s)

/-! ## rounds -/

/-- at the head of a round -/
def look (b : Backend σ) (signal : Signal) (l : Loop) (s : σ) : Loop × σ :=
  if signal.stops then l.stop b s
  else
    match Batch.claim b l.config (b.now s) s with
    | (.error e, s) => l.ticked b (.error e) s
    | (.ok t, s) => ({ l with phase := .tick t }, s)

/-- in a pause that lasts until `time` -/
def wake (b : Backend σ) (signal : Signal) (time : Nat) (l : Loop) (s : σ) : Loop × σ :=
  if l.seen ≠ signal.version then ({ l with phase := .head, seen := signal.version }, s)
  else if !signal.live then l.stop b s
  else if time ≤ b.now s then ({ l with phase := .head }, s)
  else (l, s)

/-- When the signal changes just as the time is over, either may be noticed first. -/
def elapse (b : Backend σ) (time : Nat) (l : Loop) (s : σ) : Loop × σ :=
  if time ≤ b.now s then ({ l with phase := .head }, s) else (l, s)

/-- what a loop can do next -/
inductive Move where
  | look
  | batch (m : Relay.Move)
  | ticked
  | wake
  | elapse
  deriving DecidableEq, Repr

def move (b : Backend σ) (signal : Signal) (l : Loop) (s : σ) : Move → Loop × σ
  | .look =>
    match l.phase with
    | .head => l.look b signal s
    | _ => (l, s)
  | .batch m =>
    match l.phase with
    | .tick t =>
      let (t, s) := t.move b s m
      ({ l with phase := .tick t }, s)
    | _ => (l, s)
  | .ticked =>
    match l.phase with
    | .tick t => if t.finished then l.ticked b (.ok t.report) s else (l, s)
    | _ => (l, s)
  | .wake =>
    match l.phase with
    | .pause time => l.wake b signal time s
    | _ => (l, s)
  | .elapse =>
    match l.phase with
    | .pause time => l.elapse b time s
    | _ => (l, s)

end Loop

end Outbox.Relay
