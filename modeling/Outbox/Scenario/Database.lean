import Outbox.Scenario.Step
import Outbox.Sql.Client

/-!
# Steps against a database

* `workOf`    the parts of a transaction as one piece of work that notes its results;
* `perform`   a step of a scenario, with a client of a database in place of a world in memory.
-/

namespace Outbox.Scenario

/-- results so far, and what the work comes to -/
abbrev Noted : Type := List Result × Except StoreError Unit

/-- notes a result and goes on, or ends the work at an error that is not caught -/
def noting {α : Type} (caught : Bool) (f : α → Result) (results : List Result)
    (rest : List Result → Work Noted) (r : Except StoreError α) : Work Noted :=
  let results := results ++ [.ofExcept f r]
  match r with
  | .ok _ => rest results
  | .error e => if caught then rest results else .done (results, .error e)

/-- Steps outside the transaction are passed over. -/
def workOf (now : Timestamp) : List Op → List Result → Work Noted
  | [], results => .done (results, .ok ())
  | op :: ops, results =>
    match op with
    | .insertTodo caught t => .ask (.insertTodo t) (noting caught .flag results (workOf now ops))
    | .deleteTodo caught id =>
      .ask (.deleteTodo id) (noting caught (.todo ∘ some) results (workOf now ops))
    | .getTodo caught id => .ask (.getTodo id) (noting caught .todo results (workOf now ops))
    | .enqueue caught d =>
      match d.build now with
      | .error e => noting caught .enqueued results (workOf now ops) (.error e)
      | .ok e => .ask (.enqueue e) (noting caught .enqueued results (workOf now ops))
    | .fail caught e =>
      noting caught (fun _ : Unit => .ok) results (workOf now ops) (.error e)
    | .outside _ => workOf now ops results

/-- What no database answers comes to nothing. -/
def perform (s : Step) (c : Sql.Client Broker) : Result × Sql.Client Broker :=
  match s with
  | .create d =>
    match d.build c.wall with
    | .error e => (.failed e, c)
    | .ok e => let (r, c) := c.ask (Sql.Records.enqueue false e); (.ofExcept .enqueued r, c)
  | .fetch limit => let (r, c) := c.ask (Sql.Records.claim c.lease limit); (.ofExcept .records r, c)
  | .update id status retryCount lastError =>
    let (r, c) := c.write (.update id status retryCount lastError); (.done r, c)
  | .delete id => let (r, c) := c.ask (Sql.Records.delete id); (.done r, c)
  | .requeue id => let (r, c) := c.ask (Sql.Records.requeue id); (.done r, c)
  | .get id => let (r, c) := c.ask (Sql.Records.get id); (.ofExcept .record r, c)
  | .purge olderThan => let (r, c) := c.ask (Sql.Records.purge olderThan); (.ofExcept .number r, c)
  | .listFailed limit offset =>
    let (r, c) := c.ask (Sql.Records.listFailed limit offset); (.ofExcept .records r, c)
  | .counts => let (r, c) := c.ask Sql.Records.counts; (.ofExcept (fun n => .counts n n.total) r, c)
  | .tick config _ => let (r, c) := c.tick .ofBroker config; (.tick r [], c)
  | .failPublish e times => (.nothing, { c with publishing := c.publishing.fail e times })
  | .execute ops =>
    let work := (workOf c.wall ops []).mapAsk Sql.ofCall
    let ((noted, outcome), c) := c.ask (Sql.enclosed Prod.snd work)
    (.transaction ((noted.map Prod.fst).getD []) outcome, c)
  | .createTodo t =>
    let (r, c) := c.withId fun eventId => Sql.Client.createTodo eventId t
    (.ofExcept (.todo ∘ some) r, c)
  | .deleteTodo id =>
    let (r, c) := c.withId fun eventId => Sql.Client.deleteTodo eventId id
    (.ofExcept (.todo ∘ some) r, c)
  | _ => (.nothing, c)

end Outbox.Scenario
