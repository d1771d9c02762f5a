import Outbox.Relay.Backend
import Outbox.Relay.Config

/-!
# One batch of records

A tick claims a batch, publishes its records, a few at once, and writes down how each publish went.

* `writeFor`        what is written for a record after its publish;
* `Batch`           records that wait, flights (publishes under way), outcomes (publishes that ended, not
                    written down yet), and the `Report` so far;
* `Batch.claim`     begins a tick;
* `Move`            what can happen next: the first waiting record is looked at, a flight lands, or an
                    outcome is settled;
* `Batch.move`      makes a move; one that is not possible changes nothing;
* `Batch.finished`  nothing is left to do.

A record is published only if a whole attempt still fits into the lease of the claim.  Which of the
possible moves is made, and when, is up to the publishes and the store.
-/

namespace Outbox.Relay

structure Report where
  claimed : Nat
  delivered : Nat
  retried : Nat
  deadLettered : Nat
  /-- outcomes that could not be written -/
  storeErrors : Nat
  /-- records left for a later claim -/
  leaseExpired : Nat
  deriving DecidableEq, Repr, Inhabited

/-- what became of one record of a batch -/
inductive Delivery where
  | delivered
  | retried
  | deadLettered
  | storeError
  | leaseExpired
  deriving DecidableEq, Repr

def Report.record (r : Report) : Delivery → Report
  | .delivered => { r with delivered := r.delivered + 1 }
  | .retried => { r with retried := r.retried + 1 }
  | .deadLettered => { r with deadLettered := r.deadLettered + 1 }
  | .storeError => { r with storeErrors := r.storeErrors + 1 }
  | .leaseExpired => { r with leaseExpired := r.leaseExpired + 1 }

/-! ## after a publish -/

/-- one more, as far as 32 bits hold it -/
def oneMore (n : UInt32) : UInt32 := if n = 0xffffffff then n else n + 1

/-- A record with more failures than retries is a dead letter. -/
def exhausted (r : Record) : Bool := r.maxRetries < oneMore r.retryCount

def writeFor (completion : Completion) (r : Record) : Except PublishError Unit → Write
  | .ok () =>
    match completion with
    | .retain => .update r.id .processed r.retryCount r.lastError
    | .delete => .delete r.id
  | .error e =>
    .update r.id (if exhausted r then .failed else .pending) (oneMore r.retryCount) (some e.message)

def deliveryFor (r : Record) : Except PublishError Unit → Except StoreError Unit → Delivery
  | _, .error _ => .storeError
  | .ok _, .ok _ => .delivered
  | .error _, .ok _ => if exhausted r then .deadLettered else .retried

/-! ## log entries -/

def target : String := "courier_outbox::relay::worker"

def describe (r : Record) : List (String × Json) :=
  [Log.text "outbox_id" r.id.text, Log.text "topic" r.topic, Log.text "event_type" r.eventType]

def entry (level : Log.Level) (message : String) (fields : List (String × Json)) : Log.Entry :=
  ⟨level, target, message, fields, none⟩

def tickSpan : Log.Span := ⟨"tick", target⟩

/-- written as a part of a tick -/
def inTick (e : Log.Entry) : Log.Entry := { e with span := some tickSpan }

def batchEntry (level : Log.Level) (message : String) (fields : List (String × Json)) : Log.Entry :=
  inTick (entry level message fields)

/-- as a number of 64 bits -/
def millis (d : Duration) : Nat := min d.millis 0xffffffffffffffff

/-- logged when a publish ends -/
def published (r : Record) : Except PublishError Unit → Option Log.Entry
  | .ok _ => none
  | .error e =>
    let fields :=
      describe r ++
        [Log.count "retry_count" (oneMore r.retryCount).toNat, Log.text "error" e.message]
    some <|
      if exhausted r then
        batchEntry .error "outbox event exhausted retries, moving to dead letter" fields
      else batchEntry .warn "outbox publish failed, scheduling retry" fields

/-- logged after the write -/
def written (r : Record) : Except PublishError Unit → Except StoreError Unit → Option Log.Entry
  | .ok _, .ok _ => some (batchEntry .debug "outbox event delivered" (describe r))
  | .ok _, .error e =>
    some (batchEntry .error "failed to mark outbox event delivered"
      [Log.text "outbox_id" r.id.text, Log.error e])
  | .error _, .ok _ => none
  | .error _, .error e =>
    some (batchEntry .error "failed to record publish failure"
      [Log.text "outbox_id" r.id.text, Log.error e])

def tooLate (r : Record) (elapsed : Duration) : Log.Entry :=
  batchEntry .debug "claim lease too short for another publish, leaving record for a later claim"
    [Log.text "outbox_id" r.id.text, Log.count "elapsed_ms" (millis elapsed)]

/-! ## batches -/

/-- a publish under way -/
structure Flight where
  record : Record
  started : Nat
  deriving Inhabited

/-- a publish that ended -/
structure Outcome where
  record : Record
  result : Except PublishError Unit
  deriving Inhabited

structure Batch where
  config : Config
  lease : Duration
  /-- when the tick began -/
  began : Nat
  waiting : List Record
  /-- in the order of their starts -/
  flights : List Flight
  /-- in the order of their ends -/
  outcomes : List Outcome
  report : Report
  deriving Inhabited

inductive Move where
  | start
  /-- the publish at this place ends, in time or at its time limit -/
  | land (i : Nat) (inTime : Bool)
  /-- the outcome at this place is written -/
  | settle (i : Nat)
  deriving DecidableEq, Repr

variable {σ : Type}

def Backend.logAll (b : Backend σ) (e : Option Log.Entry) (s : σ) : σ :=
  match e with
  | none => s
  | some e => b.log e s

namespace Batch

def ofRecords (config : Config) (lease : Duration) (began : Nat) (records : List Record) : Batch :=
  { config, lease, began, waiting := records, flights := [], outcomes := []
    report := { claimed := records.length, delivered := 0, retried := 0, deadLettered := 0
                storeErrors := 0, leaseExpired := 0 } }

/-- `began` is when the tick began, which may be long before the store claims. -/
def claim (b : Backend σ) (config : Config) (began : Nat) (s : σ) : Except StoreError Batch × σ :=
  match b.claim config.batchSize s with
  | (.error e, s) => (.error e, s)
  | (.ok records, s) =>
    (.ok (ofRecords config b.lease began records),
      if records.isEmpty then s
      else b.log (batchEntry .debug "claimed outbox batch" [Log.count "claimed" records.length]) s)

def finished (t : Batch) : Bool := t.waiting.isEmpty && t.flights.isEmpty && t.outcomes.isEmpty

def elapsed (t : Batch) (now : Nat) : Duration := .ofNanos (now - t.began)

/-- whether a publish that starts now would still end within the lease -/
def fits (t : Batch) (now : Nat) : Bool :=
  ((t.elapsed now).add t.config.publishTimeout) ≤ t.lease

/-- A record makes room for another one when its outcome is written.  There is always room for one. -/
def hasRoom (t : Batch) : Bool :=
  t.flights.length + t.outcomes.length < max t.config.maxConcurrency 1

def start (b : Backend σ) (t : Batch) (s : σ) : Batch × σ :=
  match t.waiting with
  | [] => (t, s)
  | r :: rest =>
    if t.hasRoom then
      if t.fits (b.now s) then
        ({ t with waiting := rest, flights := t.flights ++ [⟨r, b.now s⟩] }, b.call r s)
      else
        ({ t with waiting := rest, report := t.report.record .leaseExpired },
          b.log (tooLate r (t.elapsed (b.now s))) s)
    else (t, s)

/-- the result of a publish, in time or not -/
def arrive (b : Backend σ) (t : Batch) (r : Record) (inTime : Bool) (s : σ) :
    Except PublishError Unit × σ :=
  if inTime then b.answer r s else (.error (.timedOut t.config.publishTimeout), s)

def land (b : Backend σ) (t : Batch) (i : Nat) (inTime : Bool) (s : σ) : Batch × σ :=
  match t.flights[i]? with
  | none => (t, s)
  | some f =>
    let (result, s) := t.arrive b f.record inTime s
    ({ t with flights := t.flights.eraseIdx i, outcomes := t.outcomes ++ [⟨f.record, result⟩] },
      b.logAll (published f.record result) s)

/-- An outcome is written and counted. -/
def settle (b : Backend σ) (t : Batch) (i : Nat) (s : σ) : Batch × σ :=
  match t.outcomes[i]? with
  | none => (t, s)
  | some o =>
    let (reply, s) := b.write (writeFor t.config.completion o.record o.result) s
    ({ t with
        outcomes := t.outcomes.eraseIdx i
        report := t.report.record (deliveryFor o.record o.result reply) },
      b.logAll (written o.record o.result reply) s)

def move (b : Backend σ) (t : Batch) (s : σ) : Move → Batch × σ
  | .start => t.start b s
  | .land i inTime => t.land b i inTime s
  | .settle i => t.settle b i s

end Batch

end Outbox.Relay
