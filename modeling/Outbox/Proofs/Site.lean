import Mathlib.Logic.Function.Basic
import Outbox.Proofs.Batch
import Outbox.Proofs.World

/-!
# Sites: many relays and units of work on one outbox

A `Site` is a world in memory with any number of relays and of units of work, all under way at once.
They take turns in any order; a turn is one atomic piece of a tick or of a unit of work.

* `Exchange`, `Piece`   a call with its answer; a unit of work between two of its calls;
* `Post`                a relay between two of its steps;
* `Publish`             the time from the beginning to the end of a publish;
* `Action`, `Site.act`  what can happen next; what is not possible changes nothing;
* `Step`, `Site.next`   an action, and what the clocks show when it happens;
* `Site.run`            any number of steps;
* `Site.RunOk`          every step of a run is as `P` wants it;
* `Site.Fresh`          a step stores nothing under an id that was used before;
* `enqueue_cases`, `proceed_cases`, `claim_cases`, `move_cases`   all that these actions can do.
-/

namespace Outbox

open Scenario (World Method)

/-! ## units of work -/

/-- a call and what it was answered -/
abbrev Exchange : Type := (c : Call) × c.Answer

/-- A unit of work that was opened. -/
structure Piece (α : Type) where
  /-- what is left to do -/
  work : Work (Except StoreError α)
  staged : Staged
  /-- the calls so far, oldest first -/
  said : List Exchange
  /-- what the execution came to, once it is over -/
  result : Option (Except StoreError α)

def Piece.ofWork {α : Type} (work : Work (Except StoreError α)) : Piece α := ⟨work, .empty, [], none⟩

/-! ## relays -/

inductive Post where
  | idle
  /-- A tick has begun at this time and is about to claim. -/
  | began (config : Relay.Config) (time : Nat)
  /-- The batch was claimed at this time. -/
  | busy (claimed : Nat) (t : Relay.Batch)
  deriving Inhabited

/-- the batch of a relay that has one -/
def Post.batch? : Post → Option Relay.Batch
  | .busy _ t => some t
  | _ => none

/-- whether a new tick can begin -/
def Post.isFree : Post → Bool
  | .idle => true
  | .began _ _ => false
  | .busy _ t => t.finished

/-- A publish by one of the relays. -/
structure Publish where
  relay : Nat
  id : Uuid
  began : Nat
  /-- when its time limit runs out -/
  deadline : Nat
  /-- `none` while it is under way -/
  ended : Option Nat
  deriving DecidableEq

namespace Publish

/-- a publish of the relay `i` while it is under way -/
def ofFlight (i : Nat) (config : Relay.Config) (f : Relay.Flight) : Publish :=
  ⟨i, f.record.id, f.started, f.started + config.publishTimeout.nanos, none⟩

/-- `p` after `q` has ended -/
def close (p q : Publish) (now : Nat) : Publish := if p = q then { p with ended := some now } else p

theorem close_id (p q : Publish) (now : Nat) : (p.close q now).id = p.id := by
  unfold close
  split <;> rfl

theorem close_began (p q : Publish) (now : Nat) : (p.close q now).began = p.began := by
  unfold close
  split <;> rfl

theorem close_of_ne {p q : Publish} (h : p ≠ q) (now : Nat) : p.close q now = p := if_neg h

/-- When a publish ends, the others stay under way. -/
theorem mem_map_close {ps : List Publish} {p q : Publish} {now : Nat} :
    p ∈ ps.map (·.close q now) ∧ p.ended = none ↔ (p ∈ ps ∧ p.ended = none) ∧ p ≠ q := by
  constructor
  · rintro ⟨hp, hn⟩
    obtain ⟨x, hx, rfl⟩ := List.mem_map.1 hp
    by_cases hxq : x = q
    · rw [close, if_pos hxq] at hn
      cases hn
    · rw [close_of_ne hxq] at hn ⊢
      exact ⟨⟨hx, hn⟩, hxq⟩
  · rintro ⟨⟨hp, hn⟩, hne⟩
    exact ⟨List.mem_map.2 ⟨p, hp, close_of_ne hne now⟩, hn⟩

end Publish

/-! ## sites -/

structure Site (α : Type) where
  world : World
  pieces : Nat → Option (Piece α)
  relays : Nat → Post
  /-- the ids of the records that were there at the beginning -/
  first : List Uuid
  /-- the events whose enqueue took effect, oldest first -/
  committed : List Event
  /-- in the order of their beginnings -/
  publishes : List Publish

inductive Action (α : Type) where
  | enqueue (e : Event)
  /-- A unit of work is opened under a number that is not in use. -/
  | openUnit (j : Nat) (work : Work (Except StoreError α))
  /-- the next call of a unit of work, or its end -/
  | proceed (j : Nat)
  /-- A relay reads the clock at the beginning of a tick. -/
  | tick (i : Nat) (config : Relay.Config)
  | claim (i : Nat)
  | move (i : Nat) (m : Relay.Move)
  /-- a publish ends and its outcome is written at once -/
  | conclude (i k : Nat) (inTime : Bool)
  | requeue (id : Uuid)
  | purge (olderThan : Timestamp)
  /-- a claim by somebody who is not a relay -/
  | take (limit : Nat)
  /-- a write by somebody who is not a relay -/
  | write (wr : Write)
  /-- What is going to fail is set anew. -/
  | script (failures : List PublishError) (missing : List String) (rollbackFailure : Option String)
      (faults : List (Method × StoreError))

namespace Action

variable {α : Type}

/-- the work that is opened under the number `j` -/
def opens? (j : Nat) : Action α → Option (Work (Except StoreError α))
  | .openUnit i work => if i = j then some work else none
  | _ => none

/-- whether it is the turn of the unit of work `j` -/
def isTurnOf (j : Nat) : Action α → Bool
  | .proceed i => i = j
  | _ => false

/-- whether somebody other than a relay delivers -/
def isByHand : Action α → Bool
  | .take _ => true
  | .write _ => true
  | _ => false

/-- whether only relays deliver, and write what comes of a publish as soon as it ends -/
def isPrompt : Action α → Bool
  | .take _ => false
  | .write _ => false
  | .move _ .start => true
  | .move _ _ => false
  | _ => true

end Action

namespace Site

variable {α : Type}

def outbox (s : Site α) : Store := s.world.stores.outbox

def delivered (s : Site α) : List Message := s.world.broker.delivered

/-- Nothing is under way. -/
def ofWorld (w : World) : Site α where
  world := w
  pieces := fun _ => none
  relays := fun _ => .idle
  first := w.stores.outbox.records.map Record.id
  committed := []
  publishes := []

/-- Nothing was stored or delivered so far; all else is as in `w`. -/
def new (w : World) : Site α :=
  ofWorld
    { w with
      stores := { w.stores with outbox := .empty }
      broker := { w.broker with delivered := [] } }

/-- the ids under which something was stored so far -/
def used (s : Site α) : List Uuid := s.first ++ s.committed.map Event.id

/-! ## actions -/

def enqueue (e : Event) (s : Site α) : Site α :=
  match s.outbox.enqueue e with
  | (.duplicate, _) => s
  | (.inserted _, outbox) =>
    { s with world := s.world.withOutbox outbox, committed := s.committed ++ [e] }

def openUnit (j : Nat) (work : Work (Except StoreError α)) (s : Site α) : Site α :=
  match s.pieces j with
  | none => { s with pieces := Function.update s.pieces j (some (.ofWork work)) }
  | some _ => s

/-- the events that a unit of work stores when it ends like this -/
def storedBy (staged : Staged) : Except StoreError α → List Event
  | .ok _ => staged.events
  | .error _ => []

def proceed (j : Nat) (s : Site α) : Site α :=
  match s.pieces j with
  | some ⟨.ask c next, staged, said, none⟩ =>
    let (answer, staged) := Staged.answer s.world.stores c staged
    { s with
      pieces := Function.update s.pieces j (some ⟨next answer, staged, said ++ [⟨c, answer⟩], none⟩) }
  | some ⟨.done outcome, staged, said, none⟩ =>
    let (result, world) := s.world.finish staged outcome
    { s with
      world
      pieces := Function.update s.pieces j (some ⟨.done outcome, staged, said, some result⟩)
      committed := s.committed ++ storedBy staged result }
  | _ => s

def setRelay (i : Nat) (p : Post) (s : Site α) : Site α :=
  { s with relays := Function.update s.relays i p }

def tick (i : Nat) (config : Relay.Config) (s : Site α) : Site α :=
  if (s.relays i).isFree then s.setRelay i (.began config s.world.elapsed) else s

def claim (i : Nat) (s : Site α) : Site α :=
  match s.relays i with
  | .began config time =>
    match Relay.Batch.claim (World.backend s.world.lease) config time s.world with
    | (.error _, world) => { s with world }.setRelay i .idle
    | (.ok t, world) => { s with world }.setRelay i (.busy s.world.elapsed t)
  | _ => s

/-- the publishes after a move of the relay `i` at the time `now` from a batch `t` to `t'` -/
def note (i now : Nat) (t t' : Relay.Batch) (ps : List Publish) : Relay.Move → List Publish
  | .start => ps ++ (t'.flights[t.flights.length]?.map (.ofFlight i t.config)).toList
  | .land k _ =>
    match t.flights[k]? with
    | none => ps
    | some f => ps.map (·.close (.ofFlight i t.config f) now)
  | .settle _ => ps

section

variable {i now : Nat} {t t' : Relay.Batch} {ps : List Publish}

theorem note_start_same (h : t'.flights = t.flights) : note i now t t' ps .start = ps := by
  simp [note, h]

theorem note_start {f : Relay.Flight} (h : t'.flights = t.flights ++ [f]) :
    note i now t t' ps .start = ps ++ [.ofFlight i t.config f] := by
  simp [note, h]

theorem note_land_none {k : Nat} {inTime : Bool} (h : t.flights[k]? = none) :
    note i now t t' ps (.land k inTime) = ps := by
  simp only [note, h]

theorem note_land {k : Nat} {inTime : Bool} {f : Relay.Flight} (h : t.flights[k]? = some f) :
    note i now t t' ps (.land k inTime) = ps.map (·.close (.ofFlight i t.config f) now) := by
  simp only [note, h]

end

def move (i : Nat) (m : Relay.Move) (s : Site α) : Site α :=
  match s.relays i with
  | .busy claimed t =>
    let (t', world) := t.move (World.backend s.world.lease) s.world m
    { s with world, publishes := note i s.world.elapsed t t' s.publishes m }.setRelay i
      (.busy claimed t')
  | _ => s

/-- the number of outcomes of the relay `i` that wait to be written -/
def unwritten (i : Nat) (s : Site α) : Nat :=
  match s.relays i with
  | .busy _ t => t.outcomes.length
  | _ => 0

def script (failures : List PublishError) (missing : List String) (rollbackFailure : Option String)
    (faults : List (Method × StoreError)) (s : Site α) : Site α :=
  { s with
    world := { s.world with
      broker := { s.world.broker with failures, missing }, rollbackFailure, faults } }

def act (s : Site α) : Action α → Site α
  | .enqueue e => s.enqueue e
  | .openUnit j work => s.openUnit j work
  | .proceed j => s.proceed j
  | .tick i config => s.tick i config
  | .claim i => s.claim i
  | .move i m => s.move i m
  | .conclude i k inTime => (s.move i (.land k inTime)).move i (.settle (s.unwritten i))
  | .requeue id => { s with world := (s.world.requeue id).2 }
  | .purge olderThan => { s with world := (s.world.purge olderThan).2 }
  | .take limit => { s with world := (s.world.claim limit).2 }
  | .write wr => { s with world := (s.world.write wr).2 }
  | .script failures missing rollbackFailure faults => s.script failures missing rollbackFailure faults

end Site

/-! ## runs -/

/-- An action, and what the clocks show when it happens: the time of day is `elapsed` nanoseconds after
`start`, and `elapsed` is also what the clock that only goes forward shows. -/
structure Step (α : Type) where
  start : Timestamp
  elapsed : Nat
  action : Action α

namespace Site

variable {α : Type}

def atTime (start : Timestamp) (elapsed : Nat) (s : Site α) : Site α :=
  { s with world := { s.world with start, elapsed } }

def next (s : Site α) (x : Step α) : Site α := (s.atTime x.start x.elapsed).act x.action

def run : Site α → List (Step α) → Site α
  | s, [] => s
  | s, x :: xs => (s.next x).run xs

def RunOk (P : Site α → Step α → Prop) : Site α → List (Step α) → Prop
  | _, [] => True
  | s, x :: xs => P s x ∧ RunOk P (s.next x) xs

instance decidableRunOk (P : Site α → Step α → Prop) [∀ s x, Decidable (P s x)] (s : Site α)
    (xs : List (Step α)) : Decidable (s.RunOk P xs) :=
  match xs with
  | [] => .isTrue trivial
  | x :: xs => @instDecidableAnd _ _ _ (decidableRunOk P (s.next x) xs)

/-- After the step no id was used twice. -/
def Fresh (s : Site α) (x : Step α) : Prop := (s.next x).used.Nodup

instance (s : Site α) (x : Step α) : Decidable (s.Fresh x) := inferInstanceAs (Decidable (List.Nodup _))

/-- what a step is like while only relays deliver -/
def Ordinary (s : Site α) (x : Step α) : Prop := s.Fresh x ∧ x.action.isByHand = false

instance (s : Site α) (x : Step α) : Decidable (s.Ordinary x) := inferInstanceAs (Decidable (_ ∧ _))

theorem relays_setRelay_self (s : Site α) (i : Nat) (p : Post) : (s.setRelay i p).relays i = p := by
  simp [setRelay]

theorem relays_setRelay_ne (s : Site α) {i j : Nat} (p : Post) (h : j ≠ i) :
    (s.setRelay i p).relays j = s.relays j := by
  simp [setRelay, h]

/-- What every step keeps, a run keeps. -/
theorem run_keeps {P : Site α → Step α → Prop} {I : Site α → Prop}
    (step : ∀ s x, I s → P s x → I (s.next x)) {s : Site α} {xs : List (Step α)} (hs : I s)
    (hxs : s.RunOk P xs) : I (s.run xs) := by
  induction xs generalizing s with
  | nil => exact hs
  | cons x xs ih => exact ih (step s x hs hxs.1) hxs.2

namespace RunOk

variable {P Q R : Site α → Step α → Prop} {s : Site α}

theorem combine (h : ∀ s x, P s x → Q s x → R s x) {xs : List (Step α)} (hp : s.RunOk P xs)
    (hq : s.RunOk Q xs) : s.RunOk R xs := by
  induction xs generalizing s with
  | nil => trivial
  | cons x xs ih => exact ⟨h s x hp.1 hq.1, ih hp.2 hq.2⟩

theorem of_forall {Q : Step α → Prop} {xs : List (Step α)} (h : ∀ x ∈ xs, Q x) :
    s.RunOk (fun _ x => Q x) xs := by
  induction xs generalizing s with
  | nil => trivial
  | cons x xs ih =>
    exact ⟨h x List.mem_cons_self, ih fun y hy => h y (List.mem_cons_of_mem x hy)⟩

theorem split {xs ys : List (Step α)} (h : s.RunOk P (xs ++ ys)) :
    s.RunOk P xs ∧ (s.run xs).RunOk P ys := by
  induction xs generalizing s with
  | nil => exact ⟨trivial, h⟩
  | cons x xs ih =>
    obtain ⟨hx, hrest⟩ := h
    obtain ⟨hxs, hys⟩ := ih hrest
    exact ⟨⟨hx, hxs⟩, hys⟩

end RunOk

/-! ## what the actions do -/

/-- An enqueue changes nothing, or stores the record of its event. -/
theorem enqueue_cases (e : Event) (s : Site α) :
    s.enqueue e = s ∨ ¬ s.outbox.keyTaken e.dedupeKey = true ∧
      s.enqueue e =
        { s with
          world := s.world.withOutbox (s.outbox.put e.record), committed := s.committed ++ [e] } := by
  unfold enqueue
  by_cases h : s.outbox.keyTaken e.dedupeKey = true
  · rw [Store.enqueue_taken h]
    exact Or.inl rfl
  · rw [Store.enqueue_free h]
    exact Or.inr ⟨h, rfl⟩

theorem openUnit_cases (j : Nat) (work : Work (Except StoreError α)) (s : Site α) :
    ∃ pieces, s.openUnit j work = { s with pieces } := by
  unfold openUnit
  split
  · exact ⟨_, rfl⟩
  · exact ⟨_, rfl⟩

theorem finish_ok {a : α} {t : Staged} {w : World} (h : t.conflict? w.stores = none) :
    w.finish t (.ok a) =
      (.ok a,
        { w with
          stores :=
            { outbox := t.events.foldl (fun o e => o.put e.record) w.stores.outbox
              todos := t.changes.foldl Todos.apply w.stores.todos } }) := by
  unfold World.finish Stores.finish Staged.commit
  rw [h]

theorem finish_conflict {a : α} {t : Staged} {w : World} {key : String}
    (h : t.conflict? w.stores = some key) :
    w.finish t (.ok a) = (.error (Staged.conflict key), w) := by
  unfold World.finish Stores.finish Staged.commit
  rw [h]

theorem finish_error {e : StoreError} {t : Staged} {w : World} :
    w.finish t (.error e : Except StoreError α) =
      (.error (e.afterRollback w.rollbackFailure), { w with rollbackFailure := none }) := rfl

theorem proceed_ask {j : Nat} {s : Site α} {c : Call} {next : c.Answer → Work (Except StoreError α)}
    {staged : Staged} {said : List Exchange} (h : s.pieces j = some ⟨.ask c next, staged, said, none⟩) :
    s.proceed j =
      { s with
        pieces := Function.update s.pieces j
          (some ⟨next (Staged.answer s.world.stores c staged).1,
            (Staged.answer s.world.stores c staged).2,
            said ++ [⟨c, (Staged.answer s.world.stores c staged).1⟩], none⟩) } := by
  unfold proceed
  rw [h]

theorem proceed_done {j : Nat} {s : Site α} {outcome : Except StoreError α} {staged : Staged}
    {said : List Exchange} (h : s.pieces j = some ⟨.done outcome, staged, said, none⟩) :
    s.proceed j =
      { s with
        world := (s.world.finish staged outcome).2
        pieces := Function.update s.pieces j
          (some ⟨.done outcome, staged, said, some (s.world.finish staged outcome).1⟩)
        committed := s.committed ++ storedBy staged (s.world.finish staged outcome).1 } := by
  unfold proceed
  rw [h]

theorem pieces_proceed_ask {j : Nat} {s : Site α} {c : Call}
    {next : c.Answer → Work (Except StoreError α)} {staged : Staged} {said : List Exchange}
    (h : s.pieces j = some ⟨.ask c next, staged, said, none⟩) :
    (s.proceed j).pieces j =
      some ⟨next (Staged.answer s.world.stores c staged).1,
        (Staged.answer s.world.stores c staged).2,
        said ++ [⟨c, (Staged.answer s.world.stores c staged).1⟩], none⟩ := by
  rw [proceed_ask h]
  simp

theorem pieces_proceed_done {j : Nat} {s : Site α} {outcome : Except StoreError α} {staged : Staged}
    {said : List Exchange} (h : s.pieces j = some ⟨.done outcome, staged, said, none⟩) :
    (s.proceed j).pieces j =
      some ⟨.done outcome, staged, said, some (s.world.finish staged outcome).1⟩ := by
  rw [proceed_done h]
  simp

theorem proceed_none {j : Nat} {s : Site α} (h : s.pieces j = none) : s.proceed j = s := by
  unfold proceed
  rw [h]

theorem proceed_over {j : Nat} {s : Site α} {p : Piece α} {r : Except StoreError α}
    (h : s.pieces j = some p) (hr : p.result = some r) : s.proceed j = s := by
  obtain ⟨work, staged, said, result⟩ := p
  have hr : result = some r := hr
  subst hr
  unfold proceed
  rw [h]
  cases work <;> rfl

theorem pieces_proceed_ne {i j : Nat} (h : j ≠ i) (s : Site α) :
    (s.proceed i).pieces j = s.pieces j := by
  unfold proceed
  split
  · exact Function.update_of_ne h _ _
  · exact Function.update_of_ne h _ _
  · rfl

/-- A step of a unit of work leaves the stores as they are, or commits what was staged. -/
theorem proceed_cases (j : Nat) (s : Site α) :
    (∃ world pieces, World.Alike s.world world ∧ s.proceed j = { s with world, pieces }) ∨
      ∃ a staged said pieces, s.pieces j = some ⟨.done (.ok a), staged, said, none⟩ ∧
        staged.conflict? s.world.stores = none ∧
        s.proceed j =
          { s with
            world := { s.world with
              stores :=
                { outbox := staged.events.foldl (fun o e => o.put e.record) s.outbox
                  todos := staged.changes.foldl Todos.apply s.world.stores.todos } }
            pieces
            committed := s.committed ++ staged.events } := by
  unfold proceed
  split
  · exact Or.inl ⟨s.world, _, World.Alike.refl _, rfl⟩
  · rename_i outcome staged said hp
    cases outcome with
    | error e =>
      rw [finish_error]
      simp only [storedBy, List.append_nil]
      exact Or.inl ⟨{ s.world with rollbackFailure := none }, _, ⟨rfl, rfl, rfl, rfl, rfl⟩, rfl⟩
    | ok a =>
      cases hc : staged.conflict? s.world.stores with
      | none =>
        rw [finish_ok hc]
        exact Or.inr ⟨a, staged, said, _, hp, hc, rfl⟩
      | some key =>
        rw [finish_conflict hc]
        simp only [storedBy, List.append_nil]
        exact Or.inl ⟨s.world, _, World.Alike.refl _, rfl⟩
  · exact Or.inl ⟨s.world, s.pieces, World.Alike.refl _, rfl⟩

theorem tick_cases (i : Nat) (config : Relay.Config) (s : Site α) :
    s.tick i config = s ∨ (s.relays i).isFree = true ∧
      s.tick i config = s.setRelay i (.began config s.world.elapsed) := by
  unfold tick
  split
  · rename_i h
    exact Or.inr ⟨h, rfl⟩
  · exact Or.inl rfl

/-- A claim by a relay is not possible, or fails and ends the tick, or gives the relay a batch. -/
theorem claim_cases (i : Nat) (s : Site α) :
    s.claim i = s ∨
      (∃ config time world, s.relays i = .began config time ∧ World.Alike s.world world ∧
        s.claim i = { s with world }.setRelay i .idle) ∨
      ∃ config time world, s.relays i = .began config time ∧
        World.Alike
          (s.world.withOutbox (s.outbox.claim s.world.now s.world.lease config.batchSize).2) world ∧
        s.claim i =
          { s with world }.setRelay i
            (.busy s.world.elapsed
              (.ofRecords config s.world.lease time
                (s.outbox.claim s.world.now s.world.lease config.batchSize).1)) := by
  unfold claim
  split
  · rename_i config time hr
    refine Or.inr ?_
    unfold Relay.Batch.claim World.backend
    rcases World.claim_cases config.batchSize s.world with ⟨e, v, hv, ha⟩ | ⟨v, hv, ha⟩
    · simp only [hv]
      exact Or.inl ⟨config, time, v, hr, ha, rfl⟩
    · simp only [hv]
      refine Or.inr ⟨config, time, _, hr, ?_, rfl⟩
      split
      · exact ha
      · exact ha.trans (World.addLog_alike _ v)
  · exact Or.inl rfl

theorem move_cases (i : Nat) (m : Relay.Move) (s : Site α) :
    s.move i m = s ∨
      ∃ claimed t t' world, s.relays i = .busy claimed t ∧
        Relay.Batch.Moved (World.backend s.world.lease) t s.world m t' world ∧
        s.move i m =
          { s with world, publishes := note i s.world.elapsed t t' s.publishes m }.setRelay i
            (.busy claimed t') := by
  unfold move
  split
  · rename_i claimed t hr
    exact Or.inr ⟨claimed, t, _, _, hr, Relay.Batch.moved _ t s.world m, rfl⟩
  · exact Or.inl rfl

end Site

end Outbox
