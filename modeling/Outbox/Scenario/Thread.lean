import Outbox.Scenario.Step

/-!
# Steps under way

A step that is not over at once is a `Thread`: a relay beside its cues, a transaction that is being written
out, a publish, a move of the clock.

* `Thread.ofStep`   begins a step; most are over at once;
* `Thread.step?`    one small step, if one can be made at this time;
* `Thread.wake?`    the next time at which one can be made;
* `Thread.run`      goes on to the end, the clock moving whenever everything waits.

A relay and its cues take turns: each goes on until it has to wait.  When a cue moves the clock, everybody
for whom it is time then has a turn before the cues go on.
-/

namespace Outbox.Scenario

open Relay (Batch Loop Signal)

/-- the earlier of two times, if there is one -/
def sooner (a b : Option Nat) : Option Nat := Relay.soonest? (a.toList ++ b.toList)

/-! ## relays -/

inductive Worker where
  | tick (t : Batch)
  | loop (l : Loop)
  /-- with the report of a tick, or nothing after a loop -/
  | over (report : Option (Except StoreError Relay.Report))
  deriving Inhabited

namespace Worker

def beginTick (c : Relay.Config) (w : World) : Worker × World :=
  match Batch.claim (World.backend w.lease) c w.elapsed w with
  | (.error e, w) => (.over (some (.error e)), w)
  | (.ok t, w) => (.tick t, w)

def beginLoop (c : Relay.Config) (w : World) : Worker × World :=
  let (l, w) := Loop.begin (World.backend w.lease) c w
  (.loop l, w)

def isOver : Worker → Bool
  | .over _ => true
  | _ => false

def step? (signal : Signal) (w : World) : Worker → Option (Worker × World)
  | .tick t =>
    if t.finished then some (.over (some (.ok t.report)), w)
    else
      (t.next? w.elapsed w.latency).map fun m =>
        let (t, w) := t.move (World.backend w.lease) w m
        (.tick t, w)
  | .loop l =>
    match l.next? signal w.elapsed w.latency with
    | some m =>
      let (l, w) := l.move (World.backend w.lease) signal w m
      some (.loop l, w)
    | none =>
      match l.phase with
      | .stopped => some (.over none, w)
      | _ => none
  | .over _ => none

def wake? (latency : Duration) : Worker → Option Nat
  | .tick t => t.wake? latency
  | .loop l => l.wake? latency
  | .over _ => none

end Worker

/-! ## threads -/

/-- A relay beside its cues. -/
structure Beside where
  began : Nat
  worker : Worker
  signal : Signal
  /-- whether the cues have their turn -/
  cueing : Bool
  cues : List Cue
  results : List Result

/-- A transaction that is being written out. -/
structure Writing where
  staged : Staged
  ops : List Op
  results : List Result

inductive Thread where
  | over (r : Result)
  /-- The clock was moved. -/
  | moved
  | publish (r : Record) (wake : Nat)
  /-- `inner` is the cue under way -/
  | beside (b : Beside) (inner : Option Thread)
  /-- `inner` is the step outside the transaction under way -/
  | writing (t : Writing) (inner : Option Thread)

namespace Thread

def beginBeside (w : World) (worker : Worker) (signal : Bool) (cues : List Cue) : Thread :=
  .beside ⟨w.elapsed, worker, .initial signal, false, cues, []⟩ none

def ofStep (w : World) : Step → Thread × World
  | .create d => let (r, w) := w.enqueue d; (.over (.ofExcept .enqueued r), w)
  | .fetch limit => let (r, w) := w.claim limit; (.over (.ofExcept .records r), w)
  | .update id status retryCount lastError =>
    let (r, w) := w.update id status retryCount lastError; (.over (.done r), w)
  | .delete id => let (r, w) := w.delete id; (.over (.done r), w)
  | .requeue id => let (r, w) := w.requeue id; (.over (.done r), w)
  | .get id => (.over (.record (w.stores.outbox.get? id)), w)
  | .purge olderThan => let (r, w) := w.purge olderThan; (.over (.ofExcept .number r), w)
  | .listFailed limit offset => (.over (.records (w.stores.outbox.listFailed limit offset)), w)
  | .counts => (.over (.counts w.stores.outbox.counts w.stores.outbox.records.length), w)
  | .snapshot => (.over (.records w.stores.outbox.snapshot), w)
  | .relayConfig c => (.over (.relayConfig c), w)
  | .advance nanos => (.moved, { w with elapsed := w.elapsed + nanos })
  | .failStore m e => (.over .nothing, { w with faults := w.faults ++ [(m, e)] })
  | .failPublish e times => (.over .nothing, { w with broker := w.broker.fail e times })
  | .markMissing topic => (.over .nothing, { w with broker := w.broker.markMissing topic })
  | .publish id =>
    match w.stores.outbox.get? id with
    | none => (.over (.failed (.notFound id)), w)
    | some r => (.publish r (w.elapsed + w.latency.nanos), w.call)
  | .delivered => (.over (.delivered w.broker.calls w.broker.delivered), w)
  | .tick c cues => let (worker, w) := Worker.beginTick c w; (beginBeside w worker false cues, w)
  | .run c signal cues =>
    let (worker, w) := Worker.beginLoop c w; (beginBeside w worker signal cues, w)
  | .purgeOld c =>
    let (r, w) := Relay.purge (World.backend w.lease) c w; (.over (.ofExcept .number r), w)
  | .execute ops => (.writing ⟨.empty, ops, []⟩ none, w)
  | .failRollback reason => (.over .nothing, { w with rollbackFailure := some reason })
  | .createTodo t =>
    let (r, w) := w.withId fun eventId => World.createTodo eventId t
    (.over (.ofExcept (.todo ∘ some) r), w)
  | .deleteTodo id =>
    let (r, w) := w.withId fun eventId => World.deleteTodo eventId id
    (.over (.ofExcept (.todo ∘ some) r), w)
  | .getTodo id => (.over (.todo (w.stores.todos.get? id)), w)
  | .todoCount => (.over (.size w.stores.todos.items.length), w)

/-! ## cues -/

def afterCues (t : Beside) : Result :=
  match t.worker with
  | .over (some report) => .tick report t.results
  | _ => .run t.results

/-- The sender is dropped after the last cue. -/
def cue? (t : Beside) (w : World) : Option (Thread × World) :=
  match t.cues with
  | [] => if t.signal.live then some (.beside { t with signal := t.signal.drop } none, w) else none
  | c :: cues =>
    if t.began + c.after ≤ w.elapsed then
      let t := { t with cues }
      match c with
      | .step _ s => let (inner, w) := ofStep w s; some (.beside t (some inner), w)
      | .send _ value => some (.beside { t with signal := t.signal.send value } none, w)
      | .drop _ => some (.beside { t with signal := t.signal.drop } none, w)
    else none

/-! ## transactions -/

def finishWriting (t : Writing) (r : Except StoreError Unit) (w : World) : Thread × World :=
  let (outcome, w) := w.finish t.staged r
  (.over (.transaction t.results outcome), w)

/-- notes a result and goes on, or ends the transaction at an error that is not caught -/
def noted {α : Type} (t : Writing) (caught : Bool) (f : α → Result) (r : Except StoreError α)
    (w : World) : Thread × World :=
  let t := { t with results := t.results ++ [.ofExcept f r] }
  match r with
  | .ok _ => (.writing t none, w)
  | .error e => if caught then (.writing t none, w) else finishWriting t (.error e) w

def writeOp (t : Writing) (w : World) : Op → Thread × World
  | .insertTodo caught todo =>
    let (r, staged) := t.staged.insertTodo w.stores todo
    noted { t with staged } caught .flag (.ok r) w
  | .deleteTodo caught id =>
    let (r, staged) := t.staged.deleteTodo w.stores id
    noted { t with staged } caught (.todo ∘ some) r w
  | .getTodo caught id => noted t caught .todo (.ok (t.staged.todo? w.stores id)) w
  | .enqueue caught d =>
    match d.build w.now with
    | .error e => noted t caught .enqueued (.error e) w
    | .ok e =>
      let (r, staged) := t.staged.enqueue w.stores e
      noted { t with staged } caught .enqueued (.ok r) w
  | .fail caught e => noted t caught (fun _ : Unit => .ok) (.error e) w
  | .outside s => let (inner, w) := ofStep w s; (.writing t (some inner), w)

def write (t : Writing) (w : World) : Thread × World :=
  match t.ops with
  | [] => finishWriting t (.ok ()) w
  | op :: ops => writeOp { t with ops } w op

/-! ## small steps -/

/-- whether its next step ends the turn of the cues that it is part of -/
def endsTurn : Thread → Bool
  | .moved => true
  | .writing _ (some inner) => endsTurn inner
  | .beside t (some inner) => t.cueing && endsTurn inner
  | _ => false

def step? (w : World) : Thread → Option (Thread × World)
  | .over _ => none
  | .moved => some (.over .nothing, w)
  | .publish r wake =>
    if wake ≤ w.elapsed then
      let (result, w) := w.answer r
      let result := match result with
        | .ok () => .ok
        | .error e => .unpublished e
      some (.over result, w)
    else none
  | .writing t none => some (write t w)
  | .writing t (some (.over r)) => some (.writing { t with results := t.results ++ [r] } none, w)
  | .writing t (some inner) => (step? w inner).map fun (inner, w) => (.writing t (some inner), w)
  | .beside t inner =>
    if t.cueing then
      let cue := match inner with
        | none => cue? t w
        | some (.over r) => some (.beside { t with results := t.results ++ [r] } none, w)
        | some inner =>
          let t := { t with cueing := !inner.endsTurn }
          (step? w inner).map fun (inner, w) => (.beside t (some inner), w)
      match cue with
      | some next => some next
      | none =>
        match t.worker.step? t.signal w with
        | some (worker, w) => some (.beside { t with worker, cueing := false } inner, w)
        | none =>
          if t.worker.isOver && t.cues.isEmpty && inner.isNone then some (.over (afterCues t), w)
          else none
    else
      match t.worker.step? t.signal w with
      | some (worker, w) => some (.beside { t with worker } inner, w)
      | none => some (.beside { t with cueing := true } inner, w)

def wake? (w : World) : Thread → Option Nat
  | .over _ => none
  | .moved => none
  | .publish _ wake => some wake
  | .writing _ none => none
  | .writing _ (some inner) => wake? w inner
  | .beside t none => sooner (t.worker.wake? w.latency) (t.cues.head?.map (t.began + ·.after))
  | .beside t (some inner) => sooner (t.worker.wake? w.latency) (wake? w inner)

/-- `fuel` bounds the small steps and the moves of the clock. -/
def run : Nat → World → Thread → Result × World
  | _, w, .over r => (r, w)
  | 0, w, _ => (.nothing, w)
  | fuel + 1, w, t =>
    match t.step? w with
    | some (t, w) => run fuel w t
    | none =>
      match t.wake? w with
      | some time => run fuel { w with elapsed := max w.elapsed time } t
      | none => (.nothing, w)

end Thread

/-- enough small steps for any scenario that ends within hours -/
def patience : Nat := 0x10000000000

def World.perform (w : World) (s : Step) : Result × World :=
  let (t, w) := Thread.ofStep w s
  t.run patience w

end Outbox.Scenario
