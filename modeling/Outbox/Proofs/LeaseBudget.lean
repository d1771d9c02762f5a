import Outbox.Proofs.Contacts
import Outbox.Proofs.DueOrder
import Outbox.Proofs.World

/-!
# The lease of a batch is a budget

A tick publishes the records of its batch one after another, a few at once, and the publishes may take any
time up to their limit.  Each one begins only while there is time left for a whole one.

* `Mark`               what happened to a record, and when;
* `Batch.trace`        what happens in some turns;
* `Batch.fits_iff`     the test that is made before a publish, without the largest duration;
* `WithinLease`        what it tests;
* `Single`             how far a tick is that publishes one record at a time;
* `Spent`              how far any tick is: the records that were published, those that were left;
* `Spent.move`         each move adds at most one mark;
* `InMemory`           a backend with a store in memory, and a clock that never goes back;
* `Reserved`           the claims of the records that wait or were left are as they were made;
* `Reserved.move`      no move writes about such a record;
* `World.inMemory`     a world is such a backend;
* `tick_within_lease`  all of this about a whole tick.
-/

namespace Outbox

open Scenario (World)

namespace Relay

variable {σ : Type}

/-! ## what happens to the records of a batch -/

inductive Point where
  | began
  /-- The publish ended, or was cut off. -/
  | ended
  /-- The store was told how. -/
  | told
  /-- The record was left for a later claim. -/
  | left
  deriving DecidableEq

/-- what happened to a record, and when -/
structure Mark where
  point : Point
  record : Record
  time : Nat

def Mark.fact (m : Mark) : Point × Record := (m.point, m.record)

/-- Either its publish begins or it is left. -/
def Mark.isLook (m : Mark) : Bool := m.point = .began || m.point = .left

/-- what happens to a record that is published -/
def course (r : Record) : List (Point × Record) := [(.began, r), (.ended, r), (.told, r)]

namespace Batch

/-- what a move does at the time `now` that takes the batch `t` to `t'` -/
def marks (now : Nat) (t t' : Batch) : Move → List Mark
  | .start =>
    match t.waiting with
    | [] => []
    | r :: _ =>
      if t.flights.length < t'.flights.length then [⟨.began, r, now⟩]
      else if t'.waiting.length < t.waiting.length then [⟨.left, r, now⟩]
      else []
  | .land i _ => (t.flights[i]?.map fun f => ⟨.ended, f.record, now⟩).toList
  | .settle i => (t.outcomes[i]?.map fun o => ⟨.told, o.record, now⟩).toList

/-- what happens in some turns -/
def trace (b : Backend σ) : List (Turn σ) → Batch → σ → List Mark
  | [], _, _ => []
  | x :: xs, t, s =>
    let next := t.move b (x.before s) x.move
    marks (b.now (x.before s)) t next.1 x.move ++ trace b xs next.1 next.2

variable {b : Backend σ} {t : Batch} {s : σ} {now i : Nat} {r : Record} {rest : List Record}

theorem marks_unmoved (now : Nat) (t : Batch) : marks now t t .start = [] := by
  unfold marks
  cases t.waiting with
  | nil => rfl
  | cons r rest => simp

theorem marks_late (hw : t.waiting = r :: rest) (report : Report) :
    marks now t { t with waiting := rest, report } .start = [⟨.left, r, now⟩] := by
  unfold marks
  rw [hw]
  simp

theorem marks_started (hw : t.waiting = r :: rest) (fs : List Flight) (f : Flight)
    (hf : t.flights = fs) :
    marks now t { t with waiting := rest, flights := fs ++ [f] } .start = [⟨.began, r, now⟩] := by
  unfold marks
  rw [hw, hf]
  simp

theorem marks_land (now : Nat) (t t' : Batch) (i : Nat) (inTime : Bool) :
    marks now t t' (.land i inTime) =
      (t.flights[i]?.map fun f => ⟨.ended, f.record, now⟩).toList := rfl

theorem marks_settle (now : Nat) (t t' : Batch) (i : Nat) :
    marks now t t' (.settle i) = (t.outcomes[i]?.map fun o => ⟨.told, o.record, now⟩).toList := rfl

theorem start_of_full (h : t.hasRoom = false) : t.move b s .start = (t, s) := by
  show t.start b s = (t, s)
  unfold start
  cases t.waiting with
  | nil => rfl
  | cons r rest => simp [h]

theorem settle_of_none (h : t.outcomes[i]? = none) : t.move b s (.settle i) = (t, s) := by
  show t.settle b i s = (t, s)
  unfold settle
  rw [h]

theorem settle_of_some {o : Outcome} (h : t.outcomes[i]? = some o) :
    (t.move b s (.settle i)).1 =
      { t with
        outcomes := t.outcomes.eraseIdx i
        report := t.report.record (deliveryFor o.record o.result
          (b.write (writeFor t.config.completion o.record o.result) s).1) } := by
  show (t.settle b i s).1 = _
  unfold settle
  rw [h]

/-! ## the budget -/

/-- The time that has passed and the time limit are added up to the largest duration, which no lease
exceeds. -/
theorem fits_iff (h : t.began ≤ now) :
    t.fits now = true ↔ t.lease.nanos = Duration.maxNanos ∨
      now + t.config.publishTimeout.nanos ≤ t.began + t.lease.nanos := by
  have hle : t.lease.nanos ≤ Duration.maxNanos := t.lease.nanos_le
  rw [fits, decide_eq_true_iff]
  show min (min (now - t.began) Duration.maxNanos + t.config.publishTimeout.nanos) Duration.maxNanos ≤
    t.lease.nanos ↔ _
  omega

end Batch

/-- Nothing but a look counts a record as left. -/
theorem leaseExpired_record (report : Report) (r : Record) (result : Except PublishError Unit)
    (reply : Except StoreError Unit) :
    (report.record (deliveryFor r result reply)).leaseExpired = report.leaseExpired := by
  unfold deliveryFor
  cases reply <;> cases result
  · rfl
  · rfl
  · dsimp only
    split <;> rfl
  · rfl

/-- A publish that begins at `time` ends within the lease if it ends within its time limit.  The longest
lease never ends. -/
def WithinLease (config : Config) (lease : Duration) (began time : Nat) : Prop :=
  lease.nanos = Duration.maxNanos ∨ time + config.publishTimeout.nanos ≤ began + lease.nanos

theorem WithinLease.earlier {config : Config} {lease : Duration} {began time time' : Nat}
    (h : WithinLease config lease began time') (hle : time ≤ time') :
    WithinLease config lease began time :=
  h.imp_right fun h => by omega

/-! ## one publish at a time -/

/-- what is still to happen to the records whose publish has begun -/
def Batch.outstanding (t : Batch) : List (Point × Record) :=
  t.flights.flatMap (fun f => [(.ended, f.record), (.told, f.record)]) ++
    t.outcomes.map fun o => (.told, o.record)

/-- At most one record is under way, and what happened so far are the courses of those before it.  Nothing
is under way once a record was left. -/
structure Single (ms : List Mark) (published lapsed : List Record) (t : Batch) : Prop where
  few : t.flights.length + t.outcomes.length ≤ 1
  idle : lapsed ≠ [] → t.flights.length + t.outcomes.length = 0
  facts : ms.map Mark.fact ++ t.outstanding = published.flatMap course ++ lapsed.map (Point.left, ·)

/-! ## any number of publishes at a time -/

/-- what is to be said of the marks `ms` of a tick at the time `now`: the publishes of the records
`published` have begun, the records `lapsed` were left, and no other record of the batch was looked at -/
structure Spent (config : Config) (lease : Duration) (began : Nat) (batch : List Record)
    (ms : List Mark) (published lapsed : List Record) (t : Batch) (now : Nat) : Prop where
  same : t.lease = lease ∧ t.began = began ∧ t.config = config
  begun : began ≤ now
  ordered : ms.Pairwise fun m m' => m.time ≤ m'.time
  past : ∀ m ∈ ms, m.time ≤ now
  within : ∀ m ∈ ms, m.point = .began → WithinLease config lease began m.time
  beyond : ∀ m ∈ ms, m.point = .left → ¬ WithinLease config lease began m.time
  counted : t.report.leaseExpired = ms.countP (·.point = .left)
  looks : (ms.filter Mark.isLook).map Mark.fact =
    published.map (Point.began, ·) ++ lapsed.map (Point.left, ·)
  split : published ++ lapsed ++ t.waiting = batch
  single : config.maxConcurrency ≤ 1 → Single ms published lapsed t

namespace Single

variable {ms : List Mark} {published lapsed : List Record} {t : Batch}

/-- When there is room for a publish nothing is under way. -/
theorem nothing_underway (h : t.hasRoom = true) (hc : t.config.maxConcurrency ≤ 1) :
    t.flights = [] ∧ t.outcomes = [] := by
  have hlt : t.flights.length + t.outcomes.length < max t.config.maxConcurrency 1 := of_decide_eq_true h
  exact ⟨List.eq_nil_of_length_eq_zero (by omega), List.eq_nil_of_length_eq_zero (by omega)⟩

theorem late (h : Single ms published lapsed t) (hnothing : t.flights = [] ∧ t.outcomes = []) (r : Record)
    (rest : List Record) (report : Report) (now : Nat) :
    Single (ms ++ [⟨.left, r, now⟩]) published (lapsed ++ [r]) { t with waiting := rest, report } := by
  obtain ⟨hf, ho⟩ := hnothing
  have hfacts := h.facts
  unfold Batch.outstanding at hfacts
  refine ⟨h.few, fun _ => by simp [hf, ho], ?_⟩
  unfold Batch.outstanding
  rw [hf, ho] at hfacts ⊢
  simp only [List.flatMap_nil, List.map_nil, List.append_nil, List.map_append] at hfacts ⊢
  rw [hfacts, List.append_assoc]
  rfl

theorem started (h : Single ms published [] t) (hnothing : t.flights = [] ∧ t.outcomes = []) (r : Record)
    (rest : List Record) (now : Nat) :
    Single (ms ++ [⟨.began, r, now⟩]) (published ++ [r]) []
      { t with waiting := rest, flights := t.flights ++ [⟨r, now⟩] } := by
  obtain ⟨hf, ho⟩ := hnothing
  have hfacts := h.facts
  unfold Batch.outstanding at hfacts
  refine ⟨by simp [hf, ho], fun h => absurd rfl h, ?_⟩
  unfold Batch.outstanding
  rw [hf, ho] at hfacts ⊢
  simp only [List.flatMap_nil, List.map_nil, List.append_nil, List.map_append, List.flatMap_append]
    at hfacts ⊢
  rw [hfacts, List.append_assoc]
  rfl

theorem landed (h : Single ms published lapsed t) {i : Nat} {f : Flight} (hf : t.flights[i]? = some f)
    (result : Except PublishError Unit) (now : Nat) :
    Single (ms ++ [⟨.ended, f.record, now⟩]) published lapsed
      { t with flights := t.flights.eraseIdx i, outcomes := t.outcomes ++ [⟨f.record, result⟩] } := by
  obtain ⟨hlt, rfl⟩ := List.getElem?_eq_some_iff.1 hf
  have hfew := h.few
  obtain ⟨f, hflights⟩ : ∃ f, t.flights = [f] := List.length_eq_one_iff.1 (by omega)
  have houtcomes : t.outcomes = [] := List.eq_nil_of_length_eq_zero (by omega)
  have hi : i = 0 := by omega
  subst hi
  have hfacts := h.facts
  unfold Batch.outstanding at hfacts
  refine ⟨by simp [hflights, houtcomes], fun hl => ?_, ?_⟩
  · have hidle := h.idle hl
    omega
  · unfold Batch.outstanding
    simp only [hflights, houtcomes] at hfacts ⊢
    rw [← hfacts]
    simp [Mark.fact]

theorem settled (h : Single ms published lapsed t) {i : Nat} {o : Outcome}
    (ho : t.outcomes[i]? = some o) (report : Report) (now : Nat) :
    Single (ms ++ [⟨.told, o.record, now⟩]) published lapsed
      { t with outcomes := t.outcomes.eraseIdx i, report } := by
  obtain ⟨hlt, rfl⟩ := List.getElem?_eq_some_iff.1 ho
  have hfew := h.few
  obtain ⟨o, houtcomes⟩ : ∃ o, t.outcomes = [o] := List.length_eq_one_iff.1 (by omega)
  have hflights : t.flights = [] := List.eq_nil_of_length_eq_zero (by omega)
  have hi : i = 0 := by omega
  subst hi
  have hfacts := h.facts
  unfold Batch.outstanding at hfacts
  refine ⟨by simp [hflights, houtcomes], fun hl => ?_, ?_⟩
  · have hidle := h.idle hl
    omega
  · unfold Batch.outstanding
    simp only [hflights, houtcomes] at hfacts ⊢
    rw [← hfacts]
    simp [Mark.fact]

end Single

namespace Spent

variable {config : Config} {lease : Duration} {began now now' : Nat} {batch : List Record}
  {ms : List Mark} {published lapsed : List Record} {t t' : Batch} {r : Record}

theorem new (config : Config) (lease : Duration) (batch : List Record) (h : began ≤ now) :
    Spent config lease began batch [] [] [] (.ofRecords config lease began batch) now where
  same := ⟨rfl, rfl, rfl⟩
  begun := h
  ordered := .nil
  past := fun _ hm => absurd hm List.not_mem_nil
  within := fun _ hm => absurd hm List.not_mem_nil
  beyond := fun _ hm => absurd hm List.not_mem_nil
  counted := rfl
  looks := rfl
  split := rfl
  single := fun _ => ⟨Nat.zero_le _, fun h => absurd rfl h, rfl⟩

theorem later (h : Spent config lease began batch ms published lapsed t now) (hle : now ≤ now') :
    Spent config lease began batch ms published lapsed t now' :=
  { h with begun := Nat.le_trans h.begun hle, past := fun m hm => Nat.le_trans (h.past m hm) hle }

theorem fits_iff (h : Spent config lease began batch ms published lapsed t now) :
    t.fits now = true ↔ WithinLease config lease began now := by
  obtain ⟨rfl, rfl, rfl⟩ := h.same
  exact Batch.fits_iff h.begun

theorem mem_lapsed (h : Spent config lease began batch ms published lapsed t now) :
    r ∈ lapsed ↔ ∃ m ∈ ms, m.point = .left ∧ m.record = r := by
  have hfact : (Point.left, r) ∈ (ms.filter Mark.isLook).map Mark.fact ↔
      ∃ m ∈ ms, m.point = .left ∧ m.record = r := by
    simp only [List.mem_map, List.mem_filter, Mark.isLook, Mark.fact, Prod.mk.injEq]
    constructor
    · rintro ⟨m, ⟨hm, _⟩, hp, hr⟩
      exact ⟨m, hm, hp, hr⟩
    · rintro ⟨m, hm, hp, hr⟩
      exact ⟨m, ⟨hm, by simp [hp]⟩, hp, hr⟩
  rw [← hfact, h.looks]
  simp

/-- Once a record was left it is too late for every other one. -/
theorem lapsed_eq_nil (h : Spent config lease began batch ms published lapsed t now)
    (hfits : t.fits now = true) : lapsed = [] := by
  refine List.eq_nil_iff_forall_not_mem.2 fun r hr => ?_
  obtain ⟨m, hm, hp, _⟩ := h.mem_lapsed.1 hr
  exact h.beyond m hm hp ((h.fits_iff.1 hfits).earlier (h.past m hm))

/-- One more thing happens. -/
theorem add (h : Spent config lease began batch ms published lapsed t now) {m : Mark}
    {published' lapsed' : List Record} (htime : m.time = now)
    (hsame : t'.lease = t.lease ∧ t'.began = t.began ∧ t'.config = t.config)
    (hwithin : m.point = .began → WithinLease config lease began now)
    (hbeyond : m.point = .left → ¬ WithinLease config lease began now)
    (hcounted : t'.report.leaseExpired = t.report.leaseExpired + if m.point = .left then 1 else 0)
    (hlooks : published'.map (Point.began, ·) ++ lapsed'.map (Point.left, ·) =
      published.map (Point.began, ·) ++ lapsed.map (Point.left, ·) ++
        if m.isLook then [m.fact] else [])
    (hsplit : published' ++ lapsed' ++ t'.waiting = published ++ lapsed ++ t.waiting)
    (hsingle : config.maxConcurrency ≤ 1 → Single (ms ++ [m]) published' lapsed' t') :
    Spent config lease began batch (ms ++ [m]) published' lapsed' t' now where
  same := ⟨hsame.1.trans h.same.1, hsame.2.1.trans h.same.2.1, hsame.2.2.trans h.same.2.2⟩
  begun := h.begun
  ordered := List.pairwise_append.2 ⟨h.ordered, List.pairwise_singleton _ _, fun a ha a' ha' => by
    rw [List.mem_singleton.1 ha', htime]
    exact h.past a ha⟩
  past := List.forall_mem_append.2 ⟨h.past, fun a ha => by
    rw [List.mem_singleton.1 ha]
    exact Nat.le_of_eq htime⟩
  within := List.forall_mem_append.2 ⟨h.within, fun a ha hp => by
    rw [List.mem_singleton.1 ha] at hp ⊢
    exact htime ▸ hwithin hp⟩
  beyond := List.forall_mem_append.2 ⟨h.beyond, fun a ha hp => by
    rw [List.mem_singleton.1 ha] at hp ⊢
    exact htime ▸ hbeyond hp⟩
  counted := by
    rw [hcounted, h.counted, List.countP_append]
    by_cases hp : m.point = .left <;> simp [hp]
  looks := by
    rw [hlooks, ← h.looks, List.filter_append, List.map_append]
    cases hl : m.isLook <;> simp [hl]
  split := hsplit.trans h.split
  single := hsingle

/-- It is looked whether there is time for the first waiting record. -/
theorem start (b : Backend σ) {s : σ}
    (h : Spent config lease began batch ms published lapsed t (b.now s)) :
    ∃ published' lapsed', Spent config lease began batch
      (ms ++ Batch.marks (b.now s) t (t.move b s .start).1 .start) published' lapsed'
      (t.move b s .start).1 (b.now s) := by
  cases hroom : t.hasRoom with
  | false =>
    rw [Batch.start_of_full hroom, Batch.marks_unmoved, List.append_nil]
    exact ⟨published, lapsed, h⟩
  | true =>
    have hmoved := Batch.moved b t s .start
    generalize t.move b s .start = next at hmoved ⊢
    obtain ⟨t', s'⟩ := next
    dsimp only at hmoved ⊢
    have hnothing := fun hc => Single.nothing_underway (t := t) hroom (h.same.2.2 ▸ hc)
    cases hmoved with
    | nothing _ =>
      rw [Batch.marks_unmoved, List.append_nil]
      exact ⟨published, lapsed, h⟩
    | @late r rest hw hf =>
      rw [Batch.marks_late hw]
      refine ⟨published, lapsed ++ [r], h.add rfl ⟨rfl, rfl, rfl⟩ nofun (fun _ hin => ?_) rfl ?_ ?_
        fun hc => (h.single hc).late (hnothing hc) r rest _ _⟩
      · rw [h.fits_iff.2 hin] at hf
        cases hf
      · rw [List.map_append, ← List.append_assoc]
        rfl
      · rw [hw, ← List.append_assoc, List.append_assoc _ [r]]
        rfl
    | @started r rest hw hr hf =>
      rw [Batch.marks_started hw _ _ rfl]
      have hlapsed := h.lapsed_eq_nil hf
      subst hlapsed
      refine ⟨published ++ [r], [], h.add rfl ⟨rfl, rfl, rfl⟩ (fun _ => h.fits_iff.1 hf) nofun rfl ?_ ?_
        fun hc => (h.single hc).started (hnothing hc) r rest _⟩
      · simp [Mark.isLook, Mark.fact]
      · simp [hw]

/-- A publish ends. -/
theorem land (b : Backend σ) {s : σ}
    (h : Spent config lease began batch ms published lapsed t (b.now s)) (i : Nat) (inTime : Bool) :
    Spent config lease began batch
      (ms ++ Batch.marks (b.now s) t (t.move b s (.land i inTime)).1 (.land i inTime)) published lapsed
      (t.move b s (.land i inTime)).1 (b.now s) := by
  have hmoved := Batch.moved b t s (.land i inTime)
  generalize t.move b s (.land i inTime) = next at hmoved ⊢
  obtain ⟨t', s'⟩ := next
  dsimp only at hmoved ⊢
  rw [Batch.marks_land]
  cases hmoved with
  | nothing hm =>
    rw [hm i inTime rfl, Option.map_none, Option.toList_none, List.append_nil]
    exact h
  | @landed _ f _ result w hf ha =>
    rw [hf]
    exact h.add rfl ⟨rfl, rfl, rfl⟩ nofun nofun rfl (List.append_nil _).symm rfl
      fun hc => (h.single hc).landed hf result _

/-- The store is told how a publish ended. -/
theorem settle (b : Backend σ) {s : σ}
    (h : Spent config lease began batch ms published lapsed t (b.now s)) (i : Nat) :
    Spent config lease began batch
      (ms ++ Batch.marks (b.now s) t (t.move b s (.settle i)).1 (.settle i)) published lapsed
      (t.move b s (.settle i)).1 (b.now s) := by
  rw [Batch.marks_settle]
  cases ho : t.outcomes[i]? with
  | none =>
    rw [Batch.settle_of_none ho, Option.map_none, Option.toList_none, List.append_nil]
    exact h
  | some o =>
    rw [Batch.settle_of_some ho]
    exact h.add rfl ⟨rfl, rfl, rfl⟩ nofun nofun (leaseExpired_record _ _ _ _) (List.append_nil _).symm rfl
      fun hc => (h.single hc).settled ho _ _

theorem move (b : Backend σ) {s : σ}
    (h : Spent config lease began batch ms published lapsed t (b.now s)) (m : Move) :
    ∃ published' lapsed', Spent config lease began batch
      (ms ++ Batch.marks (b.now s) t (t.move b s m).1 m) published' lapsed' (t.move b s m).1
      (b.now s) := by
  cases m with
  | start => exact h.start b
  | land i inTime => exact ⟨published, lapsed, h.land b i inTime⟩
  | settle i => exact ⟨published, lapsed, h.settle b i⟩

end Spent

/-! ## backends -/

/-- The store of a backend is one in memory, which may fail, and its clock never goes back. -/
structure InMemory (b : Backend σ) (store : σ → Store) (Good : σ → Prop) : Prop where
  claim : ∀ limit s, Good s → Good (b.claim limit s).2 ∧ b.now s ≤ b.now (b.claim limit s).2 ∧
    ∀ batch, (b.claim limit s).1 = .ok batch →
      (batch, store (b.claim limit s).2) = (store s).claim (b.wall s) b.lease limit
  write : ∀ w s, Good s → Good (b.write w s).2 ∧ b.now s ≤ b.now (b.write w s).2 ∧
    (store (b.write w s).2 = store s ∨
      ∃ now delay, (store s).write now delay w = .ok (store (b.write w s).2))
  call : ∀ r s, Good s → Good (b.call r s) ∧ b.now s ≤ b.now (b.call r s) ∧
    store (b.call r s) = store s
  answer : ∀ r s, Good s → Good (b.answer r s).2 ∧ b.now s ≤ b.now (b.answer r s).2 ∧
    store (b.answer r s).2 = store s
  log : ∀ e s, Good s → Good (b.log e s) ∧ b.now s ≤ b.now (b.log e s) ∧ store (b.log e s) = store s

namespace InMemory

variable {b : Backend σ} {store : σ → Store} {Good : σ → Prop} {s s' : σ} {t t' : Batch} {m : Move}

theorem logAll (hb : InMemory b store Good) (e : Option Log.Entry) (hs : Good s) :
    Good (b.logAll e s) ∧ b.now s ≤ b.now (b.logAll e s) ∧ store (b.logAll e s) = store s := by
  cases e with
  | none => exact ⟨hs, Nat.le_refl _, rfl⟩
  | some e => exact hb.log e s hs

/-- A move changes the store only by the write of an outcome. -/
theorem moved (hb : InMemory b store Good) (hs : Good s) (h : Batch.Moved b t s m t' s') :
    Good s' ∧ b.now s ≤ b.now s' ∧
      (store s' = store s ∨ ∃ i o now delay, m = .settle i ∧ t.outcomes[i]? = some o ∧
        (store s).write now delay (writeFor t.config.completion o.record o.result) =
          .ok (store s')) := by
  cases h with
  | nothing _ => exact ⟨hs, Nat.le_refl _, Or.inl rfl⟩
  | late hw hf =>
    obtain ⟨hgood, hnow, hstore⟩ := hb.log _ s hs
    exact ⟨hgood, hnow, Or.inl hstore⟩
  | @started r _ _ _ _ =>
    obtain ⟨hgood, hnow, hstore⟩ := hb.call r s hs
    exact ⟨hgood, hnow, Or.inl hstore⟩
  | @landed i f inTime result w hf ha =>
    have hanswer : Good w ∧ b.now s ≤ b.now w ∧ store w = store s := by
      cases inTime with
      | false =>
        obtain ⟨_, rfl⟩ := Prod.mk.inj ha
        exact ⟨hs, Nat.le_refl _, rfl⟩
      | true =>
        have ha : b.answer f.record s = (result, w) := ha
        have h := hb.answer f.record s hs
        rwa [ha] at h
    obtain ⟨hgood, hnow, hstore⟩ := hanswer
    obtain ⟨hgood', hnow', hstore'⟩ := hb.logAll (published f.record result) hgood
    exact ⟨hgood', Nat.le_trans hnow hnow', Or.inl (hstore'.trans hstore)⟩
  | @settled i o reply w ho hw =>
    have hwrite := hb.write (writeFor t.config.completion o.record o.result) s hs
    rw [hw] at hwrite
    obtain ⟨hgood, hnow, hstore⟩ := hwrite
    obtain ⟨hgood', hnow', hstore'⟩ := hb.logAll (written o.record o.result reply) hgood
    refine ⟨hgood', Nat.le_trans hnow hnow', ?_⟩
    rw [hstore']
    exact hstore.imp_right fun ⟨now, delay, h⟩ => ⟨i, o, now, delay, rfl, ho, h⟩

end InMemory

/-! ## what is left -/

/-- the records that were left -/
def leftBehind (ms : List Mark) : List Record := (ms.filter (·.point = .left)).map Mark.record

theorem leftBehind_append (ms ms' : List Mark) :
    leftBehind (ms ++ ms') = leftBehind ms ++ leftBehind ms' := by
  unfold leftBehind
  rw [List.filter_append, List.map_append]

/-- A move takes what it leaves behind out of the waiting records. -/
theorem Batch.Moved.leftBehind {b : Backend σ} {t t' : Batch} {s s' : σ} {m : Move}
    (h : Batch.Moved b t s m t' s') (now : Nat) :
    Relay.leftBehind (Batch.marks now t t' m) ++ t'.waiting ⊆ t.waiting ∧
      (Relay.leftBehind (Batch.marks now t t' m) ++ t'.records).Subperm t.records := by
  have hland (i : Nat) (inTime : Bool) (t' : Batch) :
      Relay.leftBehind (Batch.marks now t t' (.land i inTime)) = [] := by
    rw [Batch.marks_land]
    cases t.flights[i]? <;> rfl
  have hsettle (i : Nat) (t' : Batch) : Relay.leftBehind (Batch.marks now t t' (.settle i)) = [] := by
    rw [Batch.marks_settle]
    cases t.outcomes[i]? <;> rfl
  cases h with
  | nothing _ =>
    have hnone : Relay.leftBehind (Batch.marks now t t m) = [] := by
      cases m with
      | start => exact congrArg Relay.leftBehind (Batch.marks_unmoved now t)
      | land i inTime => exact hland i inTime t
      | settle i => exact hsettle i t
    rw [hnone]
    exact ⟨List.Subset.refl _, List.Subperm.refl _⟩
  | @late r rest hw hf =>
    rw [Batch.marks_late hw]
    unfold Batch.records
    rw [hw]
    exact ⟨List.Subset.refl _, List.Subperm.refl _⟩
  | @started r rest hw hr hf =>
    rw [Batch.marks_started hw _ _ rfl]
    refine ⟨?_, (Batch.records_started hw _).subperm⟩
    rw [hw]
    exact List.subset_cons_self r rest
  | landed hf ha =>
    rw [hland]
    exact ⟨List.Subset.refl _, (Batch.records_landed hf _).subperm⟩
  | settled ho hw =>
    rw [hsettle]
    refine ⟨List.Subset.refl _, ?_⟩
    exact (List.sublist_cons_self _ _).subperm.trans (Batch.records_settled ho _).symm.subperm

/-- The claims of the records that wait or were left are in the store as they were made, and last until
`leaseEnd`. -/
structure Reserved (leaseEnd : Timestamp) (ms : List Mark) (t : Batch) (s : Store) : Prop where
  distinct : ((leftBehind ms ++ t.records).map Record.id).Nodup
  stored : ∀ r ∈ leftBehind ms ++ t.waiting, s.get? r.id = some { r with availableAt := leaseEnd }

namespace Reserved

variable {leaseEnd : Timestamp} {ms : List Mark} {t t' : Batch} {s : Store}

theorem new (config : Config) (lease : Duration) (began : Nat) (o : Store) (now : Timestamp)
    (limit : Nat) :
    Reserved (now.addOrMax lease) [] (.ofRecords config lease began (o.claim now lease limit).1)
      (o.claim now lease limit).2 where
  distinct := by
    rw [Batch.records_ofRecords]
    exact Store.claim_nodup o now lease limit
  stored := fun _ hr => Store.get?_claim_of_mem hr

/-- A record whose publish has begun is none of those that wait or were left. -/
theorem id_ne (h : Reserved leaseEnd ms t s) {o : Outcome} (ho : o ∈ t.outcomes) {r : Record}
    (hr : r ∈ leftBehind ms ++ t.waiting) : r.id ≠ o.record.id := by
  have hdistinct := h.distinct
  unfold Batch.records at hdistinct
  rw [← List.append_assoc, ← List.append_assoc, List.map_append] at hdistinct
  refine (List.nodup_append.1 hdistinct).2.2 _ ?_ _ (List.mem_map_of_mem (List.mem_map_of_mem ho))
  exact List.mem_map_of_mem (List.mem_append_left _ hr)

/-- No move writes about a record that waits or was left. -/
theorem move {b : Backend σ} {store : σ → Store} {Good : σ → Prop} (hb : InMemory b store Good) {s : σ}
    (hs : Good s) (h : Reserved leaseEnd ms t (store s)) (m : Move) :
    Reserved leaseEnd (ms ++ Batch.marks (b.now s) t (t.move b s m).1 m) (t.move b s m).1
      (store (t.move b s m).2) := by
  have hmoved := Batch.moved b t s m
  generalize t.move b s m = next at hmoved ⊢
  obtain ⟨t', s'⟩ := next
  dsimp only at hmoved ⊢
  obtain ⟨_, _, hstore⟩ := hb.moved hs hmoved
  obtain ⟨hwaiting, hrecords⟩ := hmoved.leftBehind (b.now s)
  refine ⟨?_, fun r hr => ?_⟩
  · rw [leftBehind_append, List.append_assoc]
    obtain ⟨rs, hperm, hsublist⟩ := (List.subperm_append_left (leftBehind ms)).2 hrecords
    exact (hperm.map Record.id).nodup_iff.1 ((hsublist.map Record.id).nodup h.distinct)
  · rw [leftBehind_append, List.append_assoc] at hr
    have hr : r ∈ leftBehind ms ++ t.waiting :=
      List.mem_append.2 ((List.mem_append.1 hr).imp_right fun hr => hwaiting hr)
    rcases hstore with hstore | ⟨i, o, now, delay, _, ho, hwrite⟩
    · rw [hstore]
      exact h.stored r hr
    · rw [Store.get?_write hwrite]
      · exact h.stored r hr
      · rw [writeFor_id]
        exact h.id_ne (List.mem_of_getElem? ho) hr

end Reserved

end Relay

/-! ## a world in memory -/

theorem Scenario.World.inMemory (lease : Duration) :
    Relay.InMemory (World.backend lease) (fun w => w.stores.outbox) (fun w => w.lease = lease) where
  claim := fun limit w hw => by
    show (w.claim limit).2.lease = lease ∧ w.elapsed ≤ (w.claim limit).2.elapsed ∧
      ∀ batch, (w.claim limit).1 = .ok batch →
        (batch, (w.claim limit).2.stores.outbox) = w.stores.outbox.claim w.now lease limit
    subst hw
    rcases World.claim_cases limit w with ⟨e, v, hv, ha⟩ | ⟨v, hv, ha⟩
    · rw [hv]
      exact ⟨ha.lease.symm, Nat.le_of_eq ha.elapsed, nofun⟩
    · rw [hv]
      refine ⟨ha.lease.symm, Nat.le_of_eq ha.elapsed, fun batch hbatch => ?_⟩
      injection hbatch with hbatch
      rw [← hbatch, ← ha.stores]
      rfl
  write := fun wr w hw => by
    subst hw
    have hwrite : w.write wr = ((w.write wr).1, (w.write wr).2) := rfl
    rcases World.write_cases hwrite with ⟨_, _, ha⟩ | ⟨_, delay, s, hs, ha⟩
    · exact ⟨ha.lease.symm, Nat.le_of_eq ha.elapsed, Or.inl (congrArg Stores.outbox ha.stores.symm)⟩
    · refine ⟨ha.lease.symm, Nat.le_of_eq ha.elapsed, Or.inr ⟨w.now, delay, ?_⟩⟩
      rw [hs]
      exact congrArg (fun stores => Except.ok stores.outbox) ha.stores
  call := fun _ w hw => ⟨hw, Nat.le_refl _, rfl⟩
  answer := fun _ w hw => ⟨hw, Nat.le_refl _, rfl⟩
  log := fun _ w hw => ⟨hw, Nat.le_refl _, rfl⟩

namespace Relay

variable {σ : Type} {b : Backend σ} {store : σ → Store} {Good : σ → Prop}

/-! ## ticks -/

/-- A tick begins with all claims in the store. -/
theorem InMemory.reserved (hb : InMemory b store Good) (config : Config) (began : Nat) {s : σ}
    (hs : Good s) {batch : List Record} (hclaim : (b.claim config.batchSize s).1 = .ok batch) :
    Good (Batch.claim b config began s).2 ∧ b.now s ≤ b.now (Batch.claim b config began s).2 ∧
      Reserved ((b.wall s).addOrMax b.lease) [] (.ofRecords config b.lease began batch)
        (store (Batch.claim b config began s).2) := by
  obtain ⟨hgood, hnow, hstore⟩ := hb.claim config.batchSize s hs
  have hnew := Reserved.new config b.lease began (store s) (b.wall s) config.batchSize
  rw [← hstore batch hclaim] at hnew
  obtain ⟨e, he⟩ := Batch.exists_claim_log began hclaim
  obtain ⟨hgood', hnow', hsame⟩ := hb.logAll e hgood
  rw [he, hsame]
  exact ⟨hgood', Nat.le_trans hnow hnow', hnew⟩

/-- All of this goes on through any turns. -/
theorem Spent.play {config : Config} {lease : Duration} {began : Nat} {batch : List Record}
    {ms : List Mark} {published lapsed : List Record} {t : Batch} {leaseEnd : Timestamp}
    (hb : InMemory b store Good) {xs : List (Turn σ)}
    (hxs : ∀ x ∈ xs, ∀ s, Good s →
      Good (x.before s) ∧ b.now s ≤ b.now (x.before s) ∧ store (x.before s) = store s)
    {s : σ} (hs : Good s) (h : Spent config lease began batch ms published lapsed t (b.now s))
    (hr : Reserved leaseEnd ms t (store s)) :
    ∃ published' lapsed', Spent config lease began batch (ms ++ t.trace b xs s) published' lapsed'
        (t.play b xs s).1 (b.now (t.play b xs s).2) ∧
      Reserved leaseEnd (ms ++ t.trace b xs s) (t.play b xs s).1 (store (t.play b xs s).2) := by
  induction xs generalizing ms published lapsed t s with
  | nil =>
    rw [Batch.trace, List.append_nil]
    exact ⟨published, lapsed, h, hr⟩
  | cons x xs ih =>
    rw [List.forall_mem_cons] at hxs
    obtain ⟨hgood, hnow, hstore⟩ := hxs.1 s hs
    rw [← hstore] at hr
    obtain ⟨published', lapsed', h'⟩ := (h.later hnow).move b x.move
    obtain ⟨hgood', hnow', _⟩ := hb.moved hgood (Batch.moved b t (x.before s) x.move)
    rw [Batch.trace, Batch.play, ← List.append_assoc]
    exact ih hxs.2 hgood' (h'.later hnow') (hr.move hb hgood x.move)

/-- In the end every record of the batch was looked at. -/
theorem Spent.finish {config : Config} {lease : Duration} {began now : Nat} {batch : List Record}
    {ms : List Mark} {published lapsed : List Record} {t : Batch}
    (h : Spent config lease began batch ms published lapsed t now) (hfin : t.finished = true) :
    ∃ n, (ms.filter Mark.isLook).map Mark.fact =
        (batch.take n).map (Point.began, ·) ++ (batch.drop n).map (Point.left, ·) ∧
      (config.maxConcurrency ≤ 1 →
        ms.map Mark.fact = (batch.take n).flatMap course ++ (batch.drop n).map (Point.left, ·)) := by
  obtain ⟨hw, hf, ho⟩ := Batch.finished_iff.1 hfin
  have hsplit := h.split
  rw [hw, List.append_nil] at hsplit
  refine ⟨published.length, ?_, fun hc => ?_⟩
  · rw [← hsplit, List.take_left, List.drop_left]
    exact h.looks
  · have hfacts := (h.single hc).facts
    rw [Batch.outstanding, hf, ho] at hfacts
    rw [← hsplit, List.take_left, List.drop_left, ← hfacts]
    exact (List.append_nil _).symm

/-- **The lease of a batch is a budget.**  The store is one in memory, which nobody else changes
meanwhile; the publishes may take any time, and any number of them may be under way.  A publish begins
only if it ends before the lease when it ends within its time limit; the longest lease never ends.  Every
other record is left: it counts as expired, and stays as its claim left it.  Once nothing is left to do,
the records whose publish began are the first ones of the batch.  If no more than one publish may be under
way, each of them is over and written down before the next one begins. -/
theorem tick_within_lease (hb : InMemory b store Good) (config : Config) {began : Nat} {s : σ}
    (hs : Good s) (hbegan : began ≤ b.now s) {batch : List Record}
    (hclaim : (b.claim config.batchSize s).1 = .ok batch) {xs : List (Turn σ)}
    (hxs : ∀ x ∈ xs, ∀ s, Good s →
      Good (x.before s) ∧ b.now s ≤ b.now (x.before s) ∧ store (x.before s) = store s) :
    let t := Batch.ofRecords config b.lease began batch
    let s' := (Batch.claim b config began s).2
    let ms := t.trace b xs s'
    let ended := t.play b xs s'
    Batch.tick b config began s xs =
        (if ended.1.finished then some (.ok ended.1.report) else none, ended.2) ∧
      (ms.Pairwise fun m m' => m.time ≤ m'.time) ∧
      (∀ m ∈ ms, m.point = .began → WithinLease config b.lease began m.time) ∧
      (∀ m ∈ ms, m.point = .left → ¬ WithinLease config b.lease began m.time ∧
        (store ended.2).get? m.record.id =
          some { m.record with availableAt := (b.wall s).addOrMax b.lease }) ∧
      ended.1.report.leaseExpired = ms.countP (·.point = .left) ∧
      (ended.1.finished = true → ∃ n,
        (ms.filter Mark.isLook).map Mark.fact =
            (batch.take n).map (Point.began, ·) ++ (batch.drop n).map (Point.left, ·) ∧
          (config.maxConcurrency ≤ 1 →
            ms.map Mark.fact =
              (batch.take n).flatMap course ++ (batch.drop n).map (Point.left, ·))) := by
  intro t s' ms ended
  obtain ⟨hgood, hnow, hreserved⟩ := hb.reserved config began hs hclaim
  have hnew := Spent.new config b.lease batch (Nat.le_trans hbegan hnow)
  obtain ⟨published, lapsed, hspent, hleft⟩ := hnew.play hb hxs hgood hreserved
  refine ⟨Batch.tick_of_ok (Batch.claim_of_ok began hclaim) xs, hspent.ordered, hspent.within,
    fun m hm hp => ⟨hspent.beyond m hm hp, hleft.stored m.record ?_⟩, hspent.counted, hspent.finish⟩
  refine List.mem_append_left _ (List.mem_map_of_mem (List.mem_filter.2 ⟨hm, decide_eq_true hp⟩))

/-- With the longest lease a publish begins whose time limit ends later than that. -/
theorem publish_beyond_longest_lease :
    let longest : Duration := .ofNanos Duration.maxNanos
    let record := (Event.create (.ofNat 1) "Todo" (.ofNat 7) "todos" "TODO_CREATED" .null .epoch).record
    let w : World :=
      { (default : World) with
        stores := { (default : Stores) with outbox := Store.empty.put record }
        lease := longest }
    let config := { Config.standard with publishTimeout := longest }
    let b := World.backend longest
    let wait (v : World) : World := { v with elapsed := v.elapsed + 1000000 }
    let ms := (Batch.ofRecords config longest 0 [record]).trace b [⟨wait, .start⟩]
      (Batch.claim b config 0 w).2
    w.elapsed = 0 ∧ (b.claim config.batchSize w).1.toOption.map (·.map Record.id) = some [record.id] ∧
      ms.map (fun m => (m.point, m.record.id, m.time)) = [(.began, record.id, 1000000)] ∧
      ¬ 1000000 + config.publishTimeout.nanos ≤ 0 + b.lease.nanos := by
  decide +kernel

/-- A publish takes too long for another one to begin. -/
theorem tick_within_lease_slow :
    let record (n : Nat) :=
      (Event.create (.ofNat n) "Todo" (.ofNat 7) "todos" "TODO_CREATED" .null .epoch).record
    let w : World :=
      { (default : World) with
        stores := { (default : Stores) with outbox := (Store.empty.put (record 1)).put (record 2) }
        lease := .ofMillis 100 }
    let config := { Config.standard with publishTimeout := .ofMillis 80 }
    let b := World.backend w.lease
    let wait (v : World) : World := { v with elapsed := v.elapsed + 60000000 }
    let xs : List (Turn World) := [⟨id, .start⟩, ⟨wait, .land 0 true⟩, ⟨id, .settle 0⟩, ⟨id, .start⟩]
    let batch := [record 1, record 2]
    let t := Batch.ofRecords config b.lease 0 batch
    let ms := t.trace b xs (Batch.claim b config 0 w).2
    let ended := t.play b xs (Batch.claim b config 0 w).2
    ((b.claim config.batchSize w).1 = .ok batch ∧
        (∀ x ∈ xs, ∀ v : World, v.lease = w.lease → (x.before v).lease = w.lease ∧
          v.elapsed ≤ (x.before v).elapsed ∧ (x.before v).stores.outbox = v.stores.outbox) ∧
        ended.1.finished = true) ∧
      ms.map (fun m => (m.point, m.record.id, m.time)) =
        [(.began, .ofNat 1, 0), (.ended, .ofNat 1, 60000000), (.told, .ofNat 1, 60000000),
          (.left, .ofNat 2, 60000000)] ∧
      ended.1.report.leaseExpired = 1 ∧
      ∃ m ∈ ms, m.point = .left ∧ m.record.id = .ofNat 2 ∧
        ended.2.stores.outbox.get? m.record.id =
          some { m.record with availableAt := w.now.addOrMax w.lease } := by
  intro record w config b wait xs batch t ms ended
  have hnow : w.now = .epoch := by decide +kernel
  have hdue : w.stores.outbox.due w.now = batch := by
    rw [Store.due_of_pairwise (by decide +kernel), hnow]
    rfl
  have hclaim : b.claim config.batchSize w = (.ok batch, w.withOutbox (w.stores.outbox.adjust
      (fun r => batch.any (·.id = r.id)) fun r => { r with availableAt := w.now.addOrMax w.lease })) := by
    show World.claim _ w = _
    unfold World.claim
    rw [World.method_of_steady _ _ rfl, Store.claim, hdue]
    rfl
  have hbatch : (b.claim config.batchSize w).1 = .ok batch := by rw [hclaim]
  have hxs : ∀ x ∈ xs, ∀ v : World, v.lease = w.lease → (x.before v).lease = w.lease ∧
      v.elapsed ≤ (x.before v).elapsed ∧ (x.before v).stores.outbox = v.stores.outbox := by
    have hid (v : World) (hv : v.lease = w.lease) : v.lease = w.lease ∧ v.elapsed ≤ v.elapsed ∧
        v.stores.outbox = v.stores.outbox := ⟨hv, Nat.le_refl _, rfl⟩
    simp only [xs, List.forall_mem_cons]
    exact ⟨hid, fun v hv => ⟨hv, Nat.le_add_right _ _, rfl⟩, hid, hid,
      fun _ h => absurd h List.not_mem_nil⟩
  have hms : ms.map (fun m => (m.point, m.record.id, m.time)) =
      [(.began, .ofNat 1, 0), (.ended, .ofNat 1, 60000000), (.told, .ofNat 1, 60000000),
        (.left, .ofNat 2, 60000000)] := by
    show (t.trace b xs (Batch.claim b config 0 w).2).map _ = _
    rw [Batch.claim, hclaim]
    decide +kernel
  have hfin : ended.1.finished = true := by
    show (t.play b xs (Batch.claim b config 0 w).2).1.finished = true
    rw [Batch.claim, hclaim]
    decide +kernel
  have hcount : ms.countP (·.point = .left) = 1 := by
    show (t.trace b xs (Batch.claim b config 0 w).2).countP _ = 1
    rw [Batch.claim, hclaim]
    decide +kernel
  have hb : InMemory b (fun v => v.stores.outbox) (fun v => v.lease = w.lease) :=
    World.inMemory w.lease
  obtain ⟨_, _, _, hleft, hcounted, _⟩ :=
    tick_within_lease hb config (s := w) rfl (Nat.le_refl 0) hbatch hxs
  have htrace : ms =
      Batch.trace b xs (Batch.ofRecords config b.lease 0 batch) (Batch.claim b config 0 w).2 := rfl
  have hended : ended =
      Batch.play b xs (Batch.ofRecords config b.lease 0 batch) (Batch.claim b config 0 w).2 := rfl
  rw [← htrace, ← hended] at hcounted
  rw [← htrace, ← hended] at hleft
  obtain ⟨m, hm, hmark⟩ : ∃ m ∈ ms, (m.point, m.record.id, m.time) = (.left, .ofNat 2, 60000000) :=
    List.mem_map.1 (by rw [hms]; simp)
  obtain ⟨hpoint, hmark⟩ := Prod.mk.inj hmark
  exact ⟨⟨hbatch, hxs, hfin⟩, hms, hcounted.trans hcount, m, hm, hpoint, (Prod.mk.inj hmark).1,
    (hleft m hm hpoint).2⟩

end Relay
end Outbox
