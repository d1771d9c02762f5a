import Outbox.Event

/-!
# The outbox in memory

A `Store` holds records with distinct ids.

* `enqueue`                  stores the record of an event, unless its dedupe key is taken;
* `claim now lease limit`    the first due records in the order of `Record.dueLE`, which are then hidden
                             until `now + lease`;
* `update`, `delete`         write down how a delivery went; only pending records can be updated;
* `requeue`                  a failed record starts anew;
* `purge`                    removes what was processed before a time;
* `get?`, `listFailed`, `counts`, `snapshot`   look at the store.
-/

namespace Outbox

/-- what becomes of an event that is enqueued -/
inductive Enqueued where
  | inserted (id : Uuid)
  | duplicate
  deriving DecidableEq, Repr

structure Counts where
  pending : Nat
  processed : Nat
  failed : Nat
  deriving DecidableEq, Repr, Inhabited

namespace Counts

def total (c : Counts) : Nat := c.pending + c.processed + c.failed

def add (c : Counts) (st : Status) (n : Nat) : Counts :=
  match st with
  | .pending => { c with pending := c.pending + n }
  | .processed => { c with processed := c.processed + n }
  | .failed => { c with failed := c.failed + n }

end Counts

/-- how a delivery went, to be written into a store -/
inductive Write where
  | update (id : Uuid) (status : Status) (retryCount : UInt32) (lastError : Option String)
  | delete (id : Uuid)
  deriving DecidableEq, Repr

structure Store where
  records : List Record
  distinct : (records.map Record.id).Nodup

namespace Store

def empty : Store := ⟨[], List.nodup_nil⟩

instance : Inhabited Store := ⟨empty⟩

/-! ## the ways in which a store changes -/

def filter (p : Record → Bool) (s : Store) : Store :=
  ⟨s.records.filter p, (List.filter_sublist.map Record.id).nodup s.distinct⟩

/-- `f` applied to the records with `p`; ids stay -/
def adjust (p : Record → Bool) (f : Record → Record) (s : Store) : Store :=
  ⟨s.records.map fun r => if p r then { f r with id := r.id } else r, by
    have h : (Record.id ∘ fun r => if p r then { f r with id := r.id } else r) = Record.id := by
      funext r
      by_cases hp : p r <;> simp [hp]
    rw [List.map_map, h]
    exact s.distinct⟩

/-- stores a record in place of the one with its id -/
def put (r : Record) (s : Store) : Store :=
  ⟨s.records.filter (·.id ≠ r.id) ++ [r], by
    rw [List.map_append, List.nodup_append]
    refine ⟨(List.filter_sublist.map Record.id).nodup s.distinct, by simp, ?_⟩
    intro a ha b hb
    obtain ⟨x, hx, rfl⟩ := List.mem_map.1 ha
    have hne := (List.mem_filter.1 hx).2
    have hb : b = r.id := by simpa using hb
    subst hb
    simpa using hne⟩

/-! ## producers -/

def hasKey (s : Store) (key : String) : Bool := s.records.any (·.dedupeKey = some key)

/-- Events without a key are never duplicates. -/
def keyTaken (s : Store) : Option String → Bool
  | none => false
  | some key => s.hasKey key

def enqueue (e : Event) (s : Store) : Enqueued × Store :=
  if s.keyTaken e.dedupeKey then (.duplicate, s) else (.inserted e.id, s.put e.record)

/-! ## consumers -/

def get? (s : Store) (id : Uuid) : Option Record := s.records.find? (·.id = id)

def isDue (now : Timestamp) (r : Record) : Bool := r.status = .pending && r.availableAt ≤ now

/-- all due records in the order in which they are claimed -/
def due (s : Store) (now : Timestamp) : List Record :=
  (s.records.filter (isDue now)).mergeSort Record.dueLE

/-- The records are returned as they were before the claim. -/
def claim (now : Timestamp) (lease : Duration) (limit : Nat) (s : Store) : List Record × Store :=
  let batch := (s.due now).take limit
  (batch,
    s.adjust (fun r => batch.any (·.id = r.id)) fun r =>
      { r with availableAt := now.addOrMax lease })

/-- a record after its delivery; `delay` is the time until the next attempt -/
def outcome (now : Timestamp) (delay : Duration) (status : Status) (retryCount : UInt32)
    (lastError : Option String) (r : Record) : Record :=
  match status with
  | .pending =>
    { r with status, retryCount, lastError, availableAt := now.addOrMax delay, processedAt := none }
  | .processed => { r with status, retryCount, lastError, processedAt := some now }
  | .failed => { r with status, retryCount, lastError, processedAt := none }

/-- whether a record has this id and status -/
def has (s : Store) (id : Uuid) (status : Status) : Bool :=
  s.records.any fun r => r.id = id && r.status = status

def update (now : Timestamp) (delay : Duration) (id : Uuid) (status : Status) (retryCount : UInt32)
    (lastError : Option String) (s : Store) : Except StoreError Store :=
  if s.has id .pending then
    .ok (s.adjust (·.id = id) (outcome now delay status retryCount lastError))
  else .error (.notFound id)

def delete (id : Uuid) (s : Store) : Except StoreError Store :=
  if s.records.any (·.id = id) then .ok (s.filter (·.id ≠ id)) else .error (.notFound id)

def write (now : Timestamp) (delay : Duration) (s : Store) : Write → Except StoreError Store
  | .update id status retryCount lastError => s.update now delay id status retryCount lastError
  | .delete id => s.delete id

/-! ## operations -/

def isProcessedBefore (t : Timestamp) (r : Record) : Bool :=
  r.status = .processed && r.processedAt.any (· < t)

/-- the number of records removed, and the rest -/
def purge (olderThan : Timestamp) (s : Store) : Nat × Store :=
  let rest := s.filter fun r => !isProcessedBefore olderThan r
  (s.records.length - rest.records.length, rest)

/-- Newest first. -/
def failed (s : Store) : List Record :=
  (s.records.filter (·.status = .failed)).mergeSort fun a b => Record.createdLE b a

def listFailed (s : Store) (limit offset : Nat) : List Record := (s.failed.drop offset).take limit

/-- The text of the last error stays. -/
def requeue (now : Timestamp) (id : Uuid) (s : Store) : Except StoreError Store :=
  if s.has id .failed then
    .ok (s.adjust (·.id = id) fun r =>
      { r with status := .pending, retryCount := 0, availableAt := now, processedAt := none })
  else .error (.notFound id)

def counts (s : Store) : Counts := s.records.foldl (fun c r => c.add r.status 1) ⟨0, 0, 0⟩

/-- Oldest first. -/
def snapshot (s : Store) : List Record := s.records.mergeSort Record.createdLE

end Store

end Outbox
