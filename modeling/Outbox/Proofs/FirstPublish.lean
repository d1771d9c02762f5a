import Outbox.Proofs.Batch
import Outbox.Proofs.Contacts

/-!
# The first record of a batch is published

Each record of a batch waits until a publish can start, and is then published only if a whole attempt
still fits into the lease.  For the first record nothing but the clock stands in the way.

* `Batch.start_ofRecords`   what becomes of the first record when it is looked at in time;
* `Batch.play_ofRecords`    until then nothing happens to the batch;
* `Batch.exists_more`       what was noted stays;
* `Batch.called_first`      in any turns the first thing that is asked is to publish the first record;
* `LooksFirst`              what the first look at the first record finds and does;
* `PublishesFirst`          the first record of every batch is published, if it is looked at in time;
* `publishesFirst`          so it is wherever the lease is longer than the time limit of a publish.
-/

namespace Outbox.Relay

variable {σ : Type}

namespace Batch

theorem fits_of_elapsed {t : Batch} {now : Nat} (hlease : t.config.publishTimeout < t.lease)
    (h : now - t.began ≤ t.lease.nanos - t.config.publishTimeout.nanos) : t.fits now = true := by
  have hlt : t.config.publishTimeout.nanos < t.lease.nanos := hlease
  refine decide_eq_true ?_
  show min (min (now - t.began) Duration.maxNanos + t.config.publishTimeout.nanos) Duration.maxNanos ≤
    t.lease.nanos
  omega

variable {b : Backend σ} {config : Config} {lease : Duration} {began : Nat} {r : Record}
  {rest : List Record}

/-- There is always room for the first publish. -/
theorem start_ofRecords (hlease : config.publishTimeout < lease) {s : σ}
    (h : b.now s - began ≤ lease.nanos - config.publishTimeout.nanos) :
    (ofRecords config lease began (r :: rest)).start b s =
      ({ ofRecords config lease began (r :: rest) with waiting := rest, flights := [⟨r, b.now s⟩] },
        b.call r s) := by
  have hroom : (ofRecords config lease began (r :: rest)).hasRoom = true :=
    decide_eq_true (Nat.le_max_right config.maxConcurrency 1)
  have hfits : (ofRecords config lease began (r :: rest)).fits (b.now s) = true :=
    fits_of_elapsed hlease h
  show (if _ then _ else _) = _
  rw [if_pos hroom, if_pos hfits]
  rfl

theorem move_ofRecords {rs : List Record} {m : Move} (hm : m ≠ .start) (s : σ) :
    (ofRecords config lease began rs).move b s m = (ofRecords config lease began rs, s) := by
  cases m with
  | start => exact absurd rfl hm
  | land i inTime => rfl
  | settle i => rfl

/-- Until a record is looked at only the surroundings of the batch change. -/
theorem play_ofRecords (b : Backend σ) (rs : List Record) {xs : List (Turn σ)}
    (hxs : ∀ x ∈ xs, x.move ≠ .start) (s : σ) :
    ((ofRecords config lease began rs).play b xs s).1 = ofRecords config lease began rs := by
  induction xs generalizing s with
  | nil => rfl
  | cons x xs ih =>
    rw [List.forall_mem_cons] at hxs
    rw [play, move_ofRecords hxs.1]
    exact ih hxs.2 _

/-! ## notes -/

theorem Moved.notes {b : Backend σ} {t t' : Batch} {s s' : σ × List Contact} {m : Move}
    (h : Moved b.noting t s m t' s') : ∃ more, s'.2 = s.2 ++ more := by
  cases h with
  | nothing _ => exact ⟨[], (List.append_nil s.2).symm⟩
  | late _ _ => exact ⟨[], (List.append_nil s.2).symm⟩
  | @started r _ _ _ _ => exact ⟨[.called r], rfl⟩
  | @landed _ f inTime result w _ ha =>
    rw [logAll_noting]
    cases inTime with
    | false =>
      obtain ⟨_, rfl⟩ := Prod.mk.inj ha
      exact ⟨[], (List.append_nil s.2).symm⟩
    | true =>
      obtain ⟨_, rfl⟩ := Prod.mk.inj ha
      exact ⟨[.answered f.record (b.answer f.record s.1).1], rfl⟩
  | @settled _ o _ w _ hw =>
    rw [logAll_noting]
    obtain ⟨_, rfl⟩ := Prod.mk.inj hw
    exact ⟨[.wrote _ _], rfl⟩

/-- What was noted stays. -/
theorem exists_more (b : Backend σ) (xs : List (Turn σ)) (t : Batch) (s : σ × List Contact) :
    ∃ more, (t.play b.noting (xs.map Turn.noting) s).2.2 = s.2 ++ more := by
  induction xs generalizing t s with
  | nil => exact ⟨[], (List.append_nil s.2).symm⟩
  | cons x xs ih =>
    obtain ⟨first, hfirst⟩ := (moved b.noting t (Prod.map x.before id s) x.move).notes
    obtain ⟨more, hmore⟩ := ih (t.move b.noting (Prod.map x.before id s) x.move).1
      (t.move b.noting (Prod.map x.before id s) x.move).2
    refine ⟨first ++ more, ?_⟩
    rw [← List.append_assoc]
    exact hmore.trans (congrArg (· ++ more) hfirst)

/-- Nothing is noted before the first record is looked at, and then that its publish starts. -/
theorem called_first (hlease : config.publishTimeout < lease) (before after : List (Turn σ)) (f : σ → σ)
    (hbefore : ∀ x ∈ before, x.move ≠ .start) (s : σ × List Contact)
    (htime : b.now (f ((ofRecords config lease began (r :: rest)).play b before s.1).2) - began ≤
      lease.nanos - config.publishTimeout.nanos) :
    ∃ more, ((ofRecords config lease began (r :: rest)).play b.noting
      ((before ++ ⟨f, .start⟩ :: after).map Turn.noting) s).2.2 = s.2 ++ .called r :: more := by
  induction before generalizing s with
  | nil =>
    have hstart : (ofRecords config lease began (r :: rest)).start b.noting (f s.1, s.2) = _ :=
      start_ofRecords hlease htime
    obtain ⟨more, hmore⟩ := exists_more b after
      ((ofRecords config lease began (r :: rest)).start b.noting (f s.1, s.2)).1
      ((ofRecords config lease began (r :: rest)).start b.noting (f s.1, s.2)).2
    refine ⟨more, hmore.trans ?_⟩
    rw [hstart]
    exact List.append_assoc s.2 [.called r] more
  | cons x before ih =>
    rw [List.forall_mem_cons] at hbefore
    rw [play, move_ofRecords hbefore.1] at htime
    rw [List.cons_append, List.map_cons, play]
    show ∃ more, (play b.noting _ ((ofRecords config lease began (r :: rest)).move b.noting
      (x.before s.1, s.2) x.move).1 ((ofRecords config lease began (r :: rest)).move b.noting
      (x.before s.1, s.2) x.move).2).2.2 = _
    rw [move_ofRecords hbefore.1]
    exact ih hbefore.2 (x.before s.1, s.2) htime

end Batch

/-! ## ticks -/

/-- the first turn that looks at a record, and what comes before and after it -/
def LooksFirst (xs before : List (Turn σ)) (f : σ → σ) (after : List (Turn σ)) : Prop :=
  xs = before ++ ⟨f, .start⟩ :: after ∧ ∀ x ∈ before, x.move ≠ .start

theorem exists_looksFirst {xs : List (Turn σ)} (h : ∃ x ∈ xs, x.move = .start) :
    ∃ before f after, LooksFirst xs before f after := by
  induction xs with
  | nil =>
    obtain ⟨x, hx, _⟩ := h
    cases hx
  | cons x xs ih =>
    obtain ⟨f, m⟩ := x
    by_cases hm : m = .start
    · subst hm
      exact ⟨[], f, xs, rfl, nofun⟩
    · rw [List.exists_mem_cons_iff] at h
      obtain ⟨before, g, after, rfl, hbefore⟩ := ih (h.resolve_left hm)
      exact ⟨⟨f, m⟩ :: before, g, after, rfl, List.forall_mem_cons.2 ⟨hm, hbefore⟩⟩

/-- The first record of every batch is looked at before the tick returns, and then its publish starts if
no more time has passed since the tick began than the lease is longer than the time limit of a publish.
The rest of the world may change in any way between the moves of the tick. -/
def PublishesFirst (b : Backend σ) (config : Config) : Prop :=
  ∀ (began : Nat) (s : σ) (r : Record) (rest : List Record) (xs : List (Turn σ)),
    (b.claim config.batchSize s).1 = .ok (r :: rest) →
      let t := Batch.ofRecords config b.lease began (r :: rest)
      let noted := Batch.tick b.noting config began (s, []) (xs.map Turn.noting)
      (noted.1.isSome → ∃ before f after, LooksFirst xs before f after) ∧
        ∀ before f after, LooksFirst xs before f after →
          let checked := f (t.play b before (Batch.claim b config began s).2).2
          b.now checked - began ≤ b.lease.nanos - config.publishTimeout.nanos →
            ∃ more, noted.2.2 = .claimed config.batchSize (.ok (r :: rest)) :: .called r :: more

variable {b : Backend σ} {config : Config}

theorem exists_start {began : Nat} {s : σ} {r : Record} {rest : List Record} {xs : List (Turn σ)}
    (hclaim : (b.claim config.batchSize s).1 = .ok (r :: rest))
    (h : (Batch.tick b config began s xs).1.isSome) : ∃ x ∈ xs, x.move = .start := by
  by_contra hno
  have hxs : ∀ x ∈ xs, x.move ≠ .start := fun x hx hm => hno ⟨x, hx, hm⟩
  rw [Batch.tick_of_ok (Batch.claim_of_ok began hclaim), Batch.play_ofRecords b _ hxs] at h
  cases h

theorem publishesFirst (hlease : config.publishTimeout < b.lease) : PublishesFirst b config := by
  intro began s r rest xs hclaim t noted
  obtain ⟨hresult, -⟩ := Batch.tick_noting b config began (s, []) xs
  refine ⟨fun h => exists_looksFirst (exists_start hclaim (hresult ▸ h)), ?_⟩
  rintro before f after ⟨rfl, hbefore⟩ checked htime
  have hnoting := Batch.claim_noting b config began (s, [])
  rw [hclaim] at hnoting
  have hclaimed : (Batch.claim b.noting config began (s, [])).1 = .ok t := by
    rw [hnoting]
    exact Batch.claim_of_ok began hclaim
  obtain ⟨more, hmore⟩ := Batch.called_first hlease before after f hbefore
    (Batch.claim b.noting config began (s, [])).2 (by rw [hnoting]; exact htime)
  refine ⟨more, ?_⟩
  show (Batch.tick b.noting config began (s, []) _).2.2 = _
  rw [Batch.tick_of_ok hclaimed]
  refine hmore.trans ?_
  rw [hnoting]
  rfl

end Outbox.Relay
