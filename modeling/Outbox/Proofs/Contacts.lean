import Outbox.Relay.Purge

/-!
# What a relay asks of the store and the publisher

* `Contact`             one request with its reply;
* `Backend.noting`      a backend that notes all that a relay asks of it;
* `Turn`                a move of a batch, before which the rest of the world changed in any way;
* `Batch.play`          the turns of a batch, one after another;
* `Batch.tick`          what a tick comes to after some turns;
* `Batch.tick_noting`   to be noted does not matter;
* `Config.cutoff?`      what a purge asks the store to remove, and `purge_noting` that it asks for nothing
                        else.
-/

namespace Outbox.Relay

inductive Contact where
  | claimed (limit : Nat) (reply : Except StoreError (List Record))
  /-- A publish begins. -/
  | called (r : Record)
  /-- The publisher answers, in time. -/
  | answered (r : Record) (result : Except PublishError Unit)
  | wrote (w : Write) (reply : Except StoreError Unit)
  /-- The store is asked to purge, at this time. -/
  | purged (time : Nat) (olderThan : Timestamp) (reply : Except StoreError Nat)

variable {σ : Type}

def Backend.noting (b : Backend σ) : Backend (σ × List Contact) where
  now := fun s => b.now s.1
  wall := fun s => b.wall s.1
  lease := b.lease
  claim := fun limit s =>
    let (reply, s') := b.claim limit s.1
    (reply, s', s.2 ++ [.claimed limit reply])
  write := fun w s =>
    let (reply, s') := b.write w s.1
    (reply, s', s.2 ++ [.wrote w reply])
  purge := fun olderThan s =>
    let (reply, s') := b.purge olderThan s.1
    (reply, s', s.2 ++ [.purged (b.now s.1) olderThan reply])
  call := fun r s => (b.call r s.1, s.2 ++ [.called r])
  answer := fun r s =>
    let (result, s') := b.answer r s.1
    (result, s', s.2 ++ [.answered r result])
  log := fun e s => (b.log e s.1, s.2)

structure Turn (σ : Type) where
  /-- what happens to everything else before the move -/
  before : σ → σ
  move : Move

/-- What was noted stays. -/
def Turn.noting (x : Turn σ) : Turn (σ × List Contact) := ⟨Prod.map x.before id, x.move⟩

namespace Batch

def play (b : Backend σ) : List (Turn σ) → Batch → σ → Batch × σ
  | [], t, s => (t, s)
  | x :: xs, t, s => play b xs (t.move b (x.before s) x.move).1 (t.move b (x.before s) x.move).2

/-- A tick that is not over has no result yet. -/
def tick (b : Backend σ) (config : Config) (began : Nat) (s : σ) (xs : List (Turn σ)) :
    Option (Except StoreError Report) × σ :=
  match claim b config began s with
  | (.error e, s) => (some (.error e), s)
  | (.ok t, s) =>
    let (t, s) := t.play b xs s
    (if t.finished then some (.ok t.report) else none, s)

/-! ## notes -/

theorem logAll_noting (b : Backend σ) (e : Option Log.Entry) (s : σ × List Contact) :
    b.noting.logAll e s = (b.logAll e s.1, s.2) := by
  cases e <;> rfl

theorem move_noting (b : Backend σ) (t : Batch) (s : σ × List Contact) (m : Move) :
    (t.move b.noting s m).1 = (t.move b s.1 m).1 ∧ (t.move b.noting s m).2.1 = (t.move b s.1 m).2 := by
  cases m with
  | start =>
    show (t.start b.noting s).1 = (t.start b s.1).1 ∧ (t.start b.noting s).2.1 = (t.start b s.1).2
    unfold start
    cases t.waiting with
    | nil => exact ⟨rfl, rfl⟩
    | cons r rest =>
      dsimp only [Backend.noting]
      cases t.hasRoom with
      | false => exact ⟨rfl, rfl⟩
      | true =>
        by_cases hf : t.fits (b.now s.1) = true
        · simp only [hf]
          exact ⟨rfl, rfl⟩
        · simp only [hf]
          exact ⟨rfl, rfl⟩
  | land i inTime =>
    show (t.land b.noting i inTime s).1 = (t.land b i inTime s.1).1 ∧
      (t.land b.noting i inTime s).2.1 = (t.land b i inTime s.1).2
    unfold land
    cases t.flights[i]? with
    | none => exact ⟨rfl, rfl⟩
    | some f => cases inTime <;> exact ⟨rfl, congrArg Prod.fst (logAll_noting b _ _)⟩
  | settle i =>
    show (t.settle b.noting i s).1 = (t.settle b i s.1).1 ∧
      (t.settle b.noting i s).2.1 = (t.settle b i s.1).2
    unfold settle
    cases t.outcomes[i]? with
    | none => exact ⟨rfl, rfl⟩
    | some o => exact ⟨rfl, congrArg Prod.fst (logAll_noting b _ _)⟩

theorem play_noting (b : Backend σ) (xs : List (Turn σ)) (t : Batch) (s : σ × List Contact) :
    (t.play b.noting (xs.map Turn.noting) s).1 = (t.play b xs s.1).1 ∧
      (t.play b.noting (xs.map Turn.noting) s).2.1 = (t.play b xs s.1).2 := by
  induction xs generalizing t s with
  | nil => exact ⟨rfl, rfl⟩
  | cons x xs ih =>
    obtain ⟨ht, hs⟩ := move_noting b t (Prod.map x.before id s) x.move
    rw [List.map_cons, play, play]
    exact ht ▸ hs ▸ ih _ _

theorem claim_noting (b : Backend σ) (config : Config) (began : Nat) (s : σ × List Contact) :
    claim b.noting config began s =
      ((claim b config began s.1).1, (claim b config began s.1).2,
        s.2 ++ [.claimed config.batchSize (b.claim config.batchSize s.1).1]) := by
  have hnoting : b.noting.claim config.batchSize s =
      ((b.claim config.batchSize s.1).1, (b.claim config.batchSize s.1).2,
        s.2 ++ [.claimed config.batchSize (b.claim config.batchSize s.1).1]) := rfl
  unfold claim
  rw [hnoting]
  rcases b.claim config.batchSize s.1 with ⟨e | records, s'⟩
  · rfl
  · dsimp only
    split <;> rfl

theorem tick_noting (b : Backend σ) (config : Config) (began : Nat) (s : σ × List Contact)
    (xs : List (Turn σ)) :
    (tick b.noting config began s (xs.map Turn.noting)).1 = (tick b config began s.1 xs).1 ∧
      (tick b.noting config began s (xs.map Turn.noting)).2.1 = (tick b config began s.1 xs).2 := by
  unfold tick
  rw [claim_noting]
  rcases claim b config began s.1 with ⟨e | t, s'⟩
  · exact ⟨rfl, rfl⟩
  · obtain ⟨ht, hs⟩ := play_noting b xs t
      (s', s.2 ++ [.claimed config.batchSize (b.claim config.batchSize s.1).1])
    dsimp only
    rw [ht, hs]
    exact ⟨rfl, rfl⟩

/-! ## how a tick begins -/

theorem claim_of_error {b : Backend σ} {config : Config} {s : σ} {e : StoreError} (began : Nat)
    (h : (b.claim config.batchSize s).1 = .error e) : (claim b config began s).1 = .error e := by
  obtain ⟨s', hs⟩ : ∃ s', b.claim config.batchSize s = (.error e, s') := ⟨_, Prod.ext h rfl⟩
  rw [claim, hs]

theorem claim_of_ok {b : Backend σ} {config : Config} {s : σ} {batch : List Record} (began : Nat)
    (h : (b.claim config.batchSize s).1 = .ok batch) :
    (claim b config began s).1 = .ok (ofRecords config b.lease began batch) := by
  obtain ⟨s', hs⟩ : ∃ s', b.claim config.batchSize s = (.ok batch, s') := ⟨_, Prod.ext h rfl⟩
  rw [claim, hs]

/-- A tick may begin with an entry in the log. -/
theorem exists_claim_log {b : Backend σ} {config : Config} {s : σ} {batch : List Record} (began : Nat)
    (h : (b.claim config.batchSize s).1 = .ok batch) :
    ∃ e, (claim b config began s).2 = b.logAll e (b.claim config.batchSize s).2 := by
  obtain ⟨s', hs⟩ : ∃ s', b.claim config.batchSize s = (.ok batch, s') := ⟨_, Prod.ext h rfl⟩
  rw [claim, hs]
  dsimp only
  split
  · exact ⟨none, rfl⟩
  · exact ⟨some _, rfl⟩

theorem tick_of_error {b : Backend σ} {config : Config} {began : Nat} {s : σ} {e : StoreError}
    (h : (claim b config began s).1 = .error e) (xs : List (Turn σ)) :
    tick b config began s xs = (some (.error e), (claim b config began s).2) := by
  obtain ⟨s', hs⟩ : ∃ s', claim b config began s = (.error e, s') := ⟨_, Prod.ext h rfl⟩
  rw [tick, hs]

theorem tick_of_ok {b : Backend σ} {config : Config} {began : Nat} {s : σ} {t : Batch}
    (h : (claim b config began s).1 = .ok t) (xs : List (Turn σ)) :
    tick b config began s xs =
      (if (t.play b xs (claim b config began s).2).1.finished then
          some (.ok (t.play b xs (claim b config began s).2).1.report) else none,
        (t.play b xs (claim b config began s).2).2) := by
  obtain ⟨s', hs⟩ : ∃ s', claim b config began s = (.ok t, s') := ⟨_, Prod.ext h rfl⟩
  rw [tick, hs]

end Batch

/-! ## purges -/

/-- the time before which a purge at `now` removes what was processed, if there is one -/
def Config.cutoff? (c : Config) (now : Timestamp) : Option Timestamp := c.retention.bind now.sub?

/-- The store is asked to purge just if there is a cutoff. -/
theorem purge_noting (b : Backend σ) (config : Config) (s : σ × List Contact) :
    purge b.noting config s =
      ((purge b config s.1).1, (purge b config s.1).2,
        s.2 ++ (config.cutoff? (b.wall s.1)).toList.map fun cutoff =>
          .purged (b.now s.1) cutoff (b.purge cutoff s.1).1) := by
  have hwall : b.noting.wall s = b.wall s.1 := rfl
  unfold purge Config.cutoff?
  cases config.retention with
  | none => exact Prod.ext rfl (Prod.ext rfl (List.append_nil _).symm)
  | some retention =>
    dsimp only [Option.bind_some]
    rw [hwall]
    cases (b.wall s.1).sub? retention with
    | none => exact Prod.ext rfl (Prod.ext rfl (List.append_nil _).symm)
    | some cutoff =>
      have hpurge : b.noting.purge cutoff s =
          ((b.purge cutoff s.1).1, (b.purge cutoff s.1).2,
            s.2 ++ [.purged (b.now s.1) cutoff (b.purge cutoff s.1).1]) := rfl
      show _ = (_, _, s.2 ++ [Contact.purged (b.now s.1) cutoff (b.purge cutoff s.1).1])
      dsimp only
      rw [hpurge]
      rcases b.purge cutoff s.1 with ⟨e | n, s'⟩
      · rfl
      · dsimp only
        split <;> rfl

end Outbox.Relay
