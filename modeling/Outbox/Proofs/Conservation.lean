import Outbox.Proofs.Terminal
import Outbox.Proofs.UnitOfWork

/-!
# Records are conserved

Whoever adds up what the callers of an outbox are told knows how many records it holds.

* `Receipts`                  how many records were stored, deleted and purged, by what callers are told;
* `Receipts.Takes`            receipts account for the number of records before and after;
* `Site.answers`, `Site.receipts`   the receipts of an action, and of a run;
* `length_delete`, `length_purge`, …   what an operation makes of the number of records;
* `Store.counts_eq`, `Store.total_counts`   each record is counted once, under its status;
* `Balanced`                  the receipts so far account for the records, and every step keeps it so;
* `records_conserved`         no run loses a record or doubles one.
-/

namespace Outbox

open Relay (Batch)
open Scenario (World)

/-! ## receipts -/

structure Receipts where
  inserted : Nat
  deleted : Nat
  purged : Nat
  deriving DecidableEq, Repr

namespace Receipts

def none : Receipts := ⟨0, 0, 0⟩

def add (t u : Receipts) : Receipts :=
  ⟨t.inserted + u.inserted, t.deleted + u.deleted, t.purged + u.purged⟩

def ofEnqueued : Enqueued → Receipts
  | .inserted _ => ⟨1, 0, 0⟩
  | .duplicate => none

def ofWrite : Write → Except StoreError Unit → Receipts
  | .delete _, .ok _ => ⟨0, 1, 0⟩
  | _, _ => none

def ofPurge : Except StoreError Nat → Receipts
  | .ok n => ⟨0, 0, n⟩
  | .error _ => none

/-- what a unit of work was told, which counts for nothing unless it succeeds -/
def ofWork {α : Type} (said : List Exchange) : Except StoreError α → Receipts
  | .ok _ => ⟨(insertedBy said).length, 0, 0⟩
  | .error _ => none

/-- `n` records become `n'` -/
def Takes (t : Receipts) (n n' : Nat) : Prop := n' + t.deleted + t.purged = n + t.inserted

theorem none_takes (n : Nat) : none.Takes n n := rfl

theorem none_takes_of_eq {n n' : Nat} (h : n' = n) : none.Takes n n' := h

theorem Takes.add {t u : Receipts} {a b c : Nat} (h : t.Takes a b) (k : u.Takes b c) :
    (t.add u).Takes a c := by
  unfold Takes Receipts.add at *
  show c + (t.deleted + u.deleted) + (t.purged + u.purged) = a + (t.inserted + u.inserted)
  omega

theorem none_add (t : Receipts) : none.add t = t := by
  unfold add none
  simp only [Nat.zero_add]

theorem add_assoc (t u v : Receipts) : (t.add u).add v = t.add (u.add v) := by
  unfold add
  simp only [Nat.add_assoc]

end Receipts

/-! ## the number of records -/

namespace Store

variable {s s' : Store}

theorem length_adjust (p : Record → Bool) (f : Record → Record) (s : Store) :
    (s.adjust p f).records.length = s.records.length :=
  List.length_map _

theorem length_update {now : Timestamp} {delay : Duration} {id : Uuid} {st : Status} {n : UInt32}
    {err : Option String} (h : s.update now delay id st n err = .ok s') :
    s'.records.length = s.records.length := by
  unfold update at h
  split at h
  · injection h with h
    subst h
    exact length_adjust _ _ s
  · cases h

theorem length_requeue {now : Timestamp} {id : Uuid} (h : s.requeue now id = .ok s') :
    s'.records.length = s.records.length := by
  unfold requeue at h
  split at h
  · injection h with h
    subst h
    exact length_adjust _ _ s
  · cases h

/-- Ids are distinct, so a deletion that succeeds removes just one record. -/
theorem length_delete {id : Uuid} (h : s.delete id = .ok s') :
    s'.records.length + 1 = s.records.length := by
  obtain ⟨r, hr⟩ := get?_of_delete h
  obtain ⟨hmem, rfl⟩ := get?_eq_some.1 hr
  have hone : s.records.countP (fun a => decide (a.id = r.id)) = 1 := by
    have hcount := List.count_eq_one_of_mem s.distinct (List.mem_map_of_mem hmem)
    rwa [List.count, List.countP_map] at hcount
  unfold delete at h
  split at h
  · injection h with h
    subst h
    show (s.records.filter fun a => decide (a.id ≠ r.id)).length + 1 = s.records.length
    rw [List.length_eq_countP_add_countP (fun a => decide (a.id = r.id)) (l := s.records), hone,
      ← List.countP_eq_length_filter]
    simp [Nat.add_comm]
  · cases h

theorem length_purge (t : Timestamp) (s : Store) :
    (s.purge t).2.records.length + (s.purge t).1 = s.records.length :=
  Nat.add_sub_cancel' (List.length_filter_le _ s.records)

theorem takes_write {now : Timestamp} {delay : Duration} {wr : Write}
    (h : s.write now delay wr = .ok s') :
    (Receipts.ofWrite wr (.ok ())).Takes s.records.length s'.records.length := by
  cases wr with
  | update id st n err => exact length_update h
  | delete id => exact length_delete h

/-! ## counts -/

theorem counts_foldl (rs : List Record) (c : Counts) :
    rs.foldl (fun c r => c.add r.status 1) c =
      ⟨c.pending + rs.countP (·.status = .pending), c.processed + rs.countP (·.status = .processed),
        c.failed + rs.countP (·.status = .failed)⟩ := by
  induction rs generalizing c with
  | nil => rfl
  | cons r rs ih =>
    rw [List.foldl_cons, ih]
    cases hst : r.status <;> simp [Counts.add, hst, Nat.add_assoc, Nat.add_comm 1]

theorem counts_eq (s : Store) :
    s.counts =
      ⟨s.records.countP (·.status = .pending), s.records.countP (·.status = .processed),
        s.records.countP (·.status = .failed)⟩ := by
  unfold counts
  rw [counts_foldl]
  simp only [Nat.zero_add]

theorem total_add (c : Counts) (st : Status) (n : Nat) : (c.add st n).total = c.total + n := by
  cases st <;> simp only [Counts.add, Counts.total] <;> omega

/-- Every record has one of the three statuses. -/
theorem total_counts (s : Store) : s.counts.total = s.records.length := by
  have hall : ∀ (rs : List Record) (c : Counts),
      (rs.foldl (fun c r => c.add r.status 1) c).total = c.total + rs.length := by
    intro rs
    induction rs with
    | nil => exact fun c => rfl
    | cons r rs ih =>
      intro c
      rw [List.foldl_cons, ih, total_add, List.length_cons]
      omega
  exact (hall s.records ⟨0, 0, 0⟩).trans (Nat.zero_add _)

end Store

namespace Scenario.World

theorem takes_write {wr : Write} {w v : World} {reply : Except StoreError Unit}
    (h : w.write wr = (reply, v)) :
    (Receipts.ofWrite wr reply).Takes w.stores.outbox.records.length v.stores.outbox.records.length := by
  rcases write_cases h with ⟨e, rfl, ha⟩ | ⟨rfl, delay, s, hs, ha⟩
  · rw [← ha.stores]
    cases wr <;> exact Receipts.none_takes _
  · rw [← ha.stores]
    exact Store.takes_write hs

theorem takes_purge (t : Timestamp) (w : World) :
    (Receipts.ofPurge (w.purge t).1).Takes w.stores.outbox.records.length
      (w.purge t).2.stores.outbox.records.length := by
  rcases method_cases .purge (fun w => (.ok (w.stores.outbox.purge t).1,
      w.withOutbox (w.stores.outbox.purge t).2)) w with ⟨e, v, hv, ha⟩ | ⟨v, hv, ha⟩
  · have hp : w.purge t = (.error e, v) := hv
    rw [hp, ha.stores]
    exact Receipts.none_takes _
  · have hp : w.purge t = (.ok (v.stores.outbox.purge t).1,
      v.withOutbox (v.stores.outbox.purge t).2) := hv
    rw [hp, ha.stores]
    exact Store.length_purge t v.stores.outbox

end Scenario.World

namespace Site

variable {α : Type}

/-! ## what callers are told -/

/-- what a unit of work is told when its turn is the one that ends it -/
def ending? (j : Nat) (s : Site α) : Option Receipts :=
  match s.pieces j with
  | some ⟨.done outcome, staged, said, none⟩ =>
    some (Receipts.ofWork said (s.world.finish staged outcome).1)
  | _ => none

/-- what a relay is told about a write -/
def replied (wr : Option Write) (s : Site α) : Receipts :=
  match wr with
  | some wr => Receipts.ofWrite wr (s.world.write wr).1
  | none => .none

def answers (s : Site α) : Action α → Receipts
  | .enqueue e => Receipts.ofEnqueued (s.outbox.enqueue e).1
  | .proceed j => (s.ending? j).getD .none
  | .move i (.settle k) => s.replied (s.settling? i k)
  | .conclude i k inTime =>
    let landed := s.move i (.land k inTime)
    landed.replied (landed.settling? i (s.unwritten i))
  | .write wr => s.replied (some wr)
  | .purge olderThan => Receipts.ofPurge (s.world.purge olderThan).1
  | _ => .none

def receipts : Site α → List (Step α) → Receipts
  | _, [] => .none
  | s, x :: xs => ((s.atTime x.start x.elapsed).answers x.action).add ((s.next x).receipts xs)

/-! ## one action -/

variable {s : Site α}

/-- the receipts account for what an action made of the number of records -/
def Accounts (s : Site α) (t : Receipts) (s' : Site α) : Prop :=
  t.Takes s.outbox.records.length s'.outbox.records.length

theorem accounts_stored (es : List Event) (hst : Stocked s)
    (hids : (s.first ++ (s.committed ++ es).map Event.id).Nodup) {s' : Site α}
    (ho : s'.outbox = es.foldl (fun o e => o.put e.record) s.outbox) :
    Accounts s ⟨es.length, 0, 0⟩ s' := by
  obtain ⟨hn, hnew⟩ := new_of_used hst hids
  unfold Accounts
  rw [ho, records_putAll hn hnew, List.length_append, List.length_map]
  rfl

theorem accounts_same {s' : Site α} (h : s'.outbox = s.outbox) : Accounts s .none s' := by
  unfold Accounts
  rw [h]
  exact Receipts.none_takes _

theorem accounts_enqueue {e : Event} (hst : Stocked s) (hids : (s.enqueue e).used.Nodup) :
    Accounts s (s.answers (.enqueue e)) (s.enqueue e) := by
  show Accounts s (Receipts.ofEnqueued (s.outbox.enqueue e).1) (s.enqueue e)
  unfold enqueue at hids ⊢
  by_cases h : s.outbox.keyTaken e.dedupeKey = true
  · rw [Store.enqueue_taken h]
    exact accounts_same rfl
  · rw [Store.enqueue_free h] at hids ⊢
    exact accounts_stored [e] hst hids rfl

/-- A unit of work stores as many events as it was told of, if it succeeds, and none if it does not. -/
theorem accounts_proceed {j : Nat} (hst : Stocked s) (ht : ∀ p, s.pieces j = some p → Told p)
    (hids : (s.proceed j).used.Nodup) : Accounts s (s.answers (.proceed j)) (s.proceed j) := by
  have hgoing (hs : s.ending? j = none) (ho : (s.proceed j).outbox = s.outbox) :
      Accounts s (s.answers (.proceed j)) (s.proceed j) := by
    show Accounts s ((s.ending? j).getD .none) (s.proceed j)
    rw [hs]
    exact accounts_same ho
  cases hp : s.pieces j with
  | none => exact hgoing (by rw [ending?, hp]) (by rw [proceed_none hp])
  | some p =>
    obtain ⟨work, staged, said, result⟩ := p
    cases result with
    | some r =>
      refine hgoing ?_ (by rw [proceed_over hp rfl])
      rw [ending?, hp]
      cases work <;> rfl
    | none =>
      cases work with
      | ask c next => exact hgoing (by rw [ending?, hp]) (by rw [proceed_ask hp]; rfl)
      | done outcome =>
        -- what is stored is what was staged, and of that just the answers tell
        have hanswer : s.ending? j = some (.ofWork said (s.world.finish staged outcome).1) := by
          rw [ending?, hp]
        have hstaged : staged.events = insertedBy said := (ht _ hp).1
        show Accounts s ((s.ending? j).getD .none) (s.proceed j)
        rw [hanswer, Option.getD_some]
        rw [proceed_done hp] at hids ⊢
        cases outcome with
        | error e =>
          rw [finish_error]
          exact accounts_same rfl
        | ok a =>
          cases hcon : staged.conflict? s.world.stores with
          | some key =>
            rw [finish_conflict hcon]
            exact accounts_same rfl
          | none =>
            rw [finish_ok hcon] at hids ⊢
            rw [Receipts.ofWork, ← hstaged]
            exact accounts_stored staged.events hst hids rfl

theorem accounts_write (wr : Write) (s : Site α) :
    Accounts s (s.replied (some wr)) { s with world := (s.world.write wr).2 } :=
  World.takes_write rfl

/-- Only a settled outcome changes the outbox. -/
theorem outbox_move {i : Nat} {m : Relay.Move} (hm : ∀ k, m ≠ .settle k) (s : Site α) :
    (s.move i m).outbox = s.outbox := by
  rcases move_cases i m s with hs | ⟨_, t, t', world, _, hmoved, hs⟩
  · rw [hs]
  · rw [hs]
    obtain ⟨_, ⟨ho, _⟩ | ⟨ho, _⟩ | ⟨_, k, _, hk, _⟩⟩ := World.moved_cases hmoved
    · exact congrArg Stores.outbox ho
    · exact congrArg Stores.outbox ho
    · exact absurd hk (hm k)

/-- The receipts of a settled outcome are what its write was answered. -/
theorem accounts_settle (i k : Nat) (s : Site α) :
    Accounts s (s.replied (s.settling? i k)) (s.move i (.settle k)) := by
  by_cases hb : ∃ c t, s.relays i = .busy c t
  case neg =>
    have hr : ∀ c t, s.relays i ≠ .busy c t := fun c t h => hb ⟨c, t, h⟩
    rw [move_of_not_busy hr, settling?_of_not_busy hr]
    exact accounts_same rfl
  obtain ⟨c, t, hr⟩ := hb
  have hstores : (s.move i (.settle k)).world.stores =
      (t.settle (World.backend s.world.lease) k s.world).2.stores := by
    unfold move
    rw [hr]
    rfl
  cases ho : t.outcomes[k]? with
  | none =>
    rw [Batch.settle, ho] at hstores
    rw [settling?_of_none hr ho]
    exact accounts_same (congrArg Stores.outbox hstores)
  | some o =>
    have hlog := World.logAll_alike s.world.lease
      (Relay.written o.record o.result
        (s.world.write (Relay.writeFor t.config.completion o.record o.result)).1)
      (s.world.write (Relay.writeFor t.config.completion o.record o.result)).2
    have hwrite := accounts_write (Relay.writeFor t.config.completion o.record o.result) s
    rw [Batch.settle, ho] at hstores
    have hstores := hstores.trans hlog.stores.symm
    rw [settling?_of_busy hr ho]
    unfold Accounts outbox at hwrite ⊢
    rw [hstores]
    exact hwrite

theorem accounts_act {a : Action α} (hst : Stocked s) (ht : ∀ j p, s.pieces j = some p → Told p)
    (hids : (s.act a).used.Nodup) : Accounts s (s.answers a) (s.act a) := by
  cases a with
  | enqueue e => exact accounts_enqueue hst hids
  | openUnit j work =>
    obtain ⟨pieces, hs⟩ := openUnit_cases j work s
    rw [show s.act (.openUnit j work) = _ from hs]
    exact accounts_same rfl
  | proceed j => exact accounts_proceed hst (ht j) hids
  | tick i config =>
    rcases tick_cases i config s with hs | ⟨_, hs⟩
    all_goals rw [show s.act (.tick i config) = _ from hs]
    all_goals exact accounts_same rfl
  | claim i =>
    rcases claim_cases i s with hs | ⟨_, _, _, _, ha, hs⟩ | ⟨_, _, _, _, ha, hs⟩
    all_goals rw [show s.act (.claim i) = _ from hs]
    · exact accounts_same rfl
    · exact accounts_same (congrArg Stores.outbox ha.stores.symm)
    · refine Receipts.none_takes_of_eq ?_
      rw [show Site.outbox _ = _ from congrArg Stores.outbox ha.stores.symm]
      exact Store.length_adjust _ _ s.outbox
  | move i m =>
    cases m with
    | start => exact accounts_same (outbox_move (m := .start) nofun s)
    | land k inTime => exact accounts_same (outbox_move (m := .land k inTime) nofun s)
    | settle k => exact accounts_settle i k s
  | conclude i k inTime =>
    have hsettle := accounts_settle i (s.unwritten i) (s.move i (.land k inTime))
    unfold Accounts at hsettle ⊢
    rw [outbox_move (m := .land k inTime) nofun s] at hsettle
    exact hsettle
  | requeue id =>
    rcases World.requeue_cases id s.world with h | ⟨o, ho, h⟩
    · exact accounts_same (congrArg (fun w => w.stores.outbox) h)
    · refine Receipts.none_takes_of_eq ?_
      rw [show Site.outbox _ = o from congrArg (fun w => w.stores.outbox) h]
      exact Store.length_requeue ho
  | purge olderThan => exact World.takes_purge olderThan s.world
  | take limit =>
    rcases World.claim_cases limit s.world with ⟨e, v, hv, ha⟩ | ⟨v, hv, ha⟩
    · refine accounts_same ?_
      show (s.world.claim limit).2.stores.outbox = _
      rw [hv, ← ha.stores]
      rfl
    · refine Receipts.none_takes_of_eq ?_
      show (s.world.claim limit).2.stores.outbox.records.length = _
      rw [hv, ← ha.stores]
      exact Store.length_adjust _ _ s.outbox
  | write wr => exact accounts_write wr s
  | script failures missing rollbackFailure faults => exact accounts_same rfl

/-! ## runs -/

theorem told_act {a : Action α} (ht : ∀ j p, s.pieces j = some p → Told p) :
    ∀ j p, (s.act a).pieces j = some p → Told p := by
  intro j p hp
  cases hturn : a.isTurnOf j with
  | false =>
    rw [pieces_act hturn] at hp
    rcases Option.or_eq_some_iff.1 hp with hp | ⟨_, hp⟩
    · exact ht j p hp
    · obtain ⟨work, _, rfl⟩ := Option.map_eq_some_iff.1 hp
      exact ⟨rfl, rfl⟩
  | true =>
    cases a with
    | proceed i =>
      obtain rfl : i = j := of_decide_eq_true hturn
      have hp : (s.proceed i).pieces i = some p := hp
      cases hi : s.pieces i with
      | none =>
        rw [proceed_none hi, hi] at hp
        cases hp
      | some q =>
        obtain ⟨work, staged, said, result⟩ := q
        have hq := ht i _ hi
        cases result with
        | some r =>
          rw [proceed_over hi rfl, hi] at hp
          injection hp with hp
          exact hp ▸ hq
        | none =>
          cases work with
          | ask c next =>
            rw [pieces_proceed_ask hi] at hp
            injection hp with hp
            exact hp ▸ hq.answer s.world.stores c
          | done outcome =>
            rw [pieces_proceed_done hi] at hp
            injection hp with hp
            exact hp ▸ hq
    | _ => cases hturn

/-- The receipts `t` of a run that came to `s` from an outbox of `n` records.  A unit of work that is under
way has staged what it was told of. -/
structure Balanced (n : Nat) (s : Site α) (t : Receipts) : Prop where
  stocked : Stocked s
  told : ∀ j p, s.pieces j = some p → Told p
  takes : t.Takes n s.outbox.records.length

namespace Balanced

variable {n : Nat} {t : Receipts}

theorem ofWorld (w : World) :
    Balanced w.stores.outbox.records.length (Site.ofWorld w : Site α) .none where
  stocked := Stocked.ofWorld w
  told := nofun
  takes := Receipts.none_takes _

theorem next (h : Balanced n s t) {x : Step α} (hx : s.Fresh x) :
    Balanced n (s.next x) (t.add ((s.atTime x.start x.elapsed).answers x.action)) where
  stocked := h.stocked.next x
  told := told_act (s := s.atTime x.start x.elapsed) h.told
  takes := h.takes.add (accounts_act (s := s.atTime x.start x.elapsed) h.stocked h.told hx)

theorem run (h : Balanced n s t) {xs : List (Step α)} (hxs : s.RunOk Fresh xs) :
    Balanced n (s.run xs) (t.add (s.receipts xs)) := by
  induction xs generalizing s t with
  | nil => exact h
  | cons x xs ih =>
    rw [receipts, ← Receipts.add_assoc]
    exact ih (h.next hxs.1) hxs.2

end Balanced

/-- **Records are conserved.**  Whatever callers, units of work and relays do with an outbox that was
empty, and in whatever order, it holds as many records as were inserted by what they were told, less the
deletions that succeeded and the numbers that purges came to; an insert of a unit of work counts once that
has succeeded.  Each record is counted under its status. -/
theorem records_conserved (w : World) (xs : List (Step α)) (hxs : (Site.new w).RunOk Fresh xs) :
    let o := ((Site.new w).run xs).outbox
    let t := (Site.new w).receipts xs
    o.records.length + t.deleted + t.purged = t.inserted ∧ o.counts.total = o.records.length ∧
      o.counts =
        { pending := o.records.countP (·.status = .pending)
          processed := o.records.countP (·.status = .processed)
          failed := o.records.countP (·.status = .failed) } := by
  intro o t
  have hrun := (Balanced.ofWorld _).run hxs
  have htakes := hrun.takes
  rw [Receipts.none_add] at htakes
  exact ⟨htakes.trans (Nat.zero_add _), o.total_counts, o.counts_eq⟩

/-- A unit of work that was told of two inserts loses the race for a key and stores neither.  Of the four
records that are stored, a relay deletes the one that it delivers, and one is purged. -/
theorem records_conserved_raced :
    let w : World := { (default : World) with lease := .ofSecs 60 }
    let event (n : Nat) (key : Option String) : Event :=
      { Event.create (.ofNat n) "Todo" (.ofNat 7) "todos" "TODO_CREATED" .null .epoch with
        dedupeKey := key }
    let storing (a b : Event) : Work (Except StoreError Unit) :=
      .ask (.enqueue a) fun _ => .ask (.enqueue b) fun _ => .done (.ok ())
    let config : Relay.Config := { Relay.Config.standard with batchSize := 1, completion := .delete }
    let xs : List (Step Unit) :=
      [.enqueue (event 1 (some "a")), .enqueue (event 2 (some "a")), .tick 0 config, .claim 0,
        .openUnit 0 (storing (event 3 none) (event 4 (some "b"))), .proceed 0, .proceed 0,
        .enqueue (event 5 (some "b")), .proceed 0,
        .openUnit 1 (storing (event 6 none) (event 7 none)), .proceed 1, .proceed 1, .proceed 1,
        .move 0 .start, .conclude 0 0 true, .write (.update (.ofNat 5) .processed 0 none),
        .write (.update (.ofNat 6) .failed 6 none), .write (.delete (.ofNat 1)), .purge .max].map
          fun a => ⟨.epoch, 0, a⟩
    let s := (Site.new w).run xs
    let t := (Site.new w).receipts xs
    ((Site.new w).RunOk Fresh xs ∧ t = ⟨4, 1, 1⟩ ∧
        s.outbox.records.map Record.id = [.ofNat 6, .ofNat 7] ∧ s.outbox.counts = ⟨1, 0, 1⟩) ∧
      s.outbox.records.length + t.deleted + t.purged = t.inserted ∧
        s.outbox.counts.total = s.outbox.records.length ∧
        s.outbox.counts =
          { pending := s.outbox.records.countP (·.status = .pending)
            processed := s.outbox.records.countP (·.status = .processed)
            failed := s.outbox.records.countP (·.status = .failed) } :=
  have h := by decide +kernel
  ⟨⟨h, by decide +kernel, by decide +kernel, by decide +kernel⟩, records_conserved _ _ h⟩

end Site
end Outbox
