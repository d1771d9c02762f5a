import Outbox.Proofs.Origin

/-!
# All that a site can do in one step

What is stored and delivered, what the relays are at and which events were committed make up the `View`
of a site.  `Effect s a v ns` lists the ways in which an action `a` takes a site `s` to a view `v`, and
the happenings `ns` that tell of it:

* `nothing`      the action was not possible, or concerns nobody else;
* `stored`       events are committed, one by one or by a unit of work;
* `began`, `refused`, `claimed`    a tick begins, and its claim fails or brings a batch;
* `late`, `started`, `landed`, `settled`, `unsettled`    a batch goes on;
* `requeued`, `purged`, `taken`, `overwritten`    somebody works on the outbox directly.

`act_effect` shows that there is no other way, and `run_effects` that a run keeps what every effect
keeps.  A `conclude` is a `land` followed by a `settle` (`act_conclude`).

* `Site.news`, `Site.tale`   the happenings of an action, and of a run;
* `Post.places`, `held`      where the records of a relay's batch are, and which they are;
* `Fate`, `Effect.fates`     what an effect makes of one record;
* `Effect.dwindles`          relays hold less and less until they claim;
* `View.Sourced`             all records are those of committed events.
-/

namespace Outbox

open Relay (Batch Flight Outcome)
open Scenario (World)

/-! ## relays -/

namespace Post

/-- where the records of a relay's batch are -/
def places : Post → List Batch.Place
  | .busy _ t => t.places
  | _ => []

/-- the records of the batch whose outcome is not written yet -/
def held (p : Post) : List Record := p.places.map Batch.Place.record

/-- A relay that is free to begin a tick holds nothing. -/
theorem places_eq_nil_of_isFree {p : Post} (h : p.isFree = true) : p.places = [] := by
  cases p with
  | idle => rfl
  | began config time => rfl
  | busy c t =>
    have h : (t.waiting.isEmpty && t.flights.isEmpty && t.outcomes.isEmpty) = true := h
    simp only [Bool.and_eq_true, List.isEmpty_iff] at h
    obtain ⟨⟨hw, hf⟩, ho⟩ := h
    show t.places = []
    unfold Batch.places
    rw [hw, hf, ho]
    rfl

theorem record_mem_held {p : Post} {x : Batch.Place} (h : x ∈ p.places) : x.record ∈ p.held :=
  List.mem_map_of_mem h

/-- when the batch of a relay was claimed -/
def claimedAt? : Post → Option Nat
  | .busy c _ => some c
  | _ => none

theorem claimedAt?_of_mem_places {p : Post} {x : Batch.Place} (h : x ∈ p.places) :
    ∃ c, p.claimedAt? = some c := by
  cases p with
  | busy c t => exact ⟨c, rfl⟩
  | _ => cases h

/-- Nothing was claimed since, and no more is held than before. -/
structure Dwindles (p p' : Post) : Prop where
  claimed : ∀ c, p'.claimedAt? = some c → p.claimedAt? = some c
  held : ∃ gone, p.held.Perm (gone ++ p'.held)

namespace Dwindles

theorem refl (p : Post) : p.Dwindles p := ⟨fun _ h => h, [], .refl _⟩

theorem free {p p' : Post} (hp : p.held = []) (hc : p'.claimedAt? = none) (hp' : p'.held = []) :
    p.Dwindles p' where
  claimed := fun c h => by
    rw [hc] at h
    cases h
  held := by
    rw [hp, hp']
    exact ⟨[], .refl _⟩

variable {c : Nat} {t t' : Batch} {x y : Batch.Place}

/-- A record is done with. -/
theorem dropped (h : t.places.Perm (x :: t'.places)) : (Post.busy c t).Dwindles (.busy c t') :=
  ⟨fun _ hd => hd, [x.record], h.map Batch.Place.record⟩

/-- A record goes on to its next place. -/
theorem moved {others : List Batch.Place} (h : t.places.Perm (x :: others))
    (h' : t'.places.Perm (y :: others)) (hxy : x.record = y.record) :
    (Post.busy c t).Dwindles (.busy c t') := by
  refine ⟨fun _ hd => hd, [], ?_⟩
  have hx := h.map Batch.Place.record
  have hy := h'.map Batch.Place.record
  rw [List.map_cons] at hx hy
  rw [hxy] at hx
  exact hx.trans hy.symm

end Dwindles

end Post

/-! ## happenings -/

/-- what the state of a record does not show -/
inductive Happening where
  | stored (id : Uuid)
  | requeued (id : Uuid)
  /-- A publish begins. -/
  | called (id : Uuid)
  /-- A publish ends, in time or at its time limit. -/
  | ended (id : Uuid) (result : Except PublishError Unit)

def Happening.id : Happening → Uuid
  | .stored id => id
  | .requeued id => id
  | .called id => id
  | .ended id _ => id

namespace Site

variable {α : Type}

/-- what the publish `k` of the relay `i` comes to when it ends now -/
def landing? (i k : Nat) (inTime : Bool) (s : Site α) : Option Outcome :=
  match s.relays i with
  | .busy _ t =>
    t.flights[k]?.map fun f =>
      ⟨f.record, (t.arrive (World.backend s.world.lease) f.record inTime s.world).1⟩
  | _ => none

def news (s : Site α) : Action α → List Happening
  | .move i .start =>
    ((s.move i .start).publishes.drop s.publishes.length).map fun p => .called p.id
  | .move i (.land k inTime) =>
    (s.landing? i k inTime).toList.map fun o => .ended o.record.id o.result
  | .conclude i k inTime =>
    (s.landing? i k inTime).toList.map fun o => .ended o.record.id o.result
  | .requeue id =>
    match (s.world.requeue id).1 with
    | .ok _ => [.requeued id]
    | .error _ => []
  | a => ((s.act a).committed.drop s.committed.length).map fun e => .stored e.id

/-- the happenings of a run, oldest first -/
def tale : Site α → List (Step α) → List Happening
  | _, [] => []
  | s, x :: xs => (s.atTime x.start x.elapsed).news x.action ++ (s.next x).tale xs

/-! ## views -/

structure View where
  outbox : Store
  delivered : List Message
  relays : Nat → Post
  committed : List Event

def View.setRelay (i : Nat) (p : Post) (v : View) : View :=
  { v with relays := Function.update v.relays i p }

theorem View.relays_setRelay_self (i : Nat) (p : Post) (v : View) : (v.setRelay i p).relays i = p := by
  simp [setRelay]

theorem View.relays_setRelay_ne {i j : Nat} (h : j ≠ i) (p : Post) (v : View) :
    (v.setRelay i p).relays j = v.relays j := by
  simp [setRelay, h]

def view (s : Site α) : View := ⟨s.outbox, s.delivered, s.relays, s.committed⟩

/-- the messages that a publish leaves behind when it ends like this -/
def deliveredBy (r : Record) : Except PublishError Unit → List Message
  | .ok _ => [r.message]
  | .error _ => []

inductive Effect (s : Site α) : Action α → View → List Happening → Prop where
  | nothing {a : Action α} : Effect s a s.view []
  | stored {a : Action α} (ha : a.isProducing = true) (es : List Event) :
      Effect s a
        { s.view with
          outbox := es.foldl (fun o e => o.put e.record) s.outbox, committed := s.committed ++ es }
        (es.map fun e => .stored e.id)
  | began {i : Nat} {config : Relay.Config} (hr : (s.relays i).isFree = true) :
      Effect s (.tick i config) (s.view.setRelay i (.began config s.world.elapsed)) []
  | refused {i : Nat} {config : Relay.Config} {time : Nat} (hr : s.relays i = .began config time) :
      Effect s (.claim i) (s.view.setRelay i .idle) []
  | claimed {i : Nat} {config : Relay.Config} {time : Nat} (hr : s.relays i = .began config time) :
      Effect s (.claim i)
        { s.view.setRelay i
            (.busy s.world.elapsed
              (.ofRecords config s.world.lease time
                (s.outbox.claim s.world.now s.world.lease config.batchSize).1)) with
          outbox := (s.outbox.claim s.world.now s.world.lease config.batchSize).2 }
        []
  | late {i c : Nat} {t : Batch} {r : Record} {rest : List Record} {report : Relay.Report}
      (hr : s.relays i = .busy c t) (hw : t.waiting = r :: rest) (hf : t.fits s.world.elapsed = false) :
      Effect s (.move i .start) (s.view.setRelay i (.busy c { t with waiting := rest, report })) []
  | started {i c : Nat} {t : Batch} {r : Record} {rest : List Record}
      (hr : s.relays i = .busy c t) (hw : t.waiting = r :: rest) (hf : t.fits s.world.elapsed = true) :
      Effect s (.move i .start)
        (s.view.setRelay i
          (.busy c { t with waiting := rest, flights := t.flights ++ [⟨r, s.world.elapsed⟩] }))
        [.called r.id]
  | landed {i c k : Nat} {t : Batch} {f : Flight} {inTime : Bool} {result : Except PublishError Unit}
      (hr : s.relays i = .busy c t) (hf : t.flights[k]? = some f)
      (ht : result = .ok () → inTime = true) :
      Effect s (.move i (.land k inTime))
        { s.view.setRelay i
            (.busy c
              { t with
                flights := t.flights.eraseIdx k, outcomes := t.outcomes ++ [⟨f.record, result⟩] }) with
          delivered := s.delivered ++ deliveredBy f.record result }
        [.ended f.record.id result]
  | settled {i c k : Nat} {t : Batch} {o : Outcome} {report : Relay.Report} {delay : Duration}
      {outbox : Store} (hr : s.relays i = .busy c t) (ho : t.outcomes[k]? = some o)
      (hw : s.outbox.write s.world.now delay (Relay.writeFor t.config.completion o.record o.result) =
        .ok outbox) :
      Effect s (.move i (.settle k))
        { s.view.setRelay i (.busy c { t with outcomes := t.outcomes.eraseIdx k, report }) with outbox }
        []
  /-- The write failed. -/
  | unsettled {i c k : Nat} {t : Batch} {o : Outcome} {report : Relay.Report}
      (hr : s.relays i = .busy c t) (ho : t.outcomes[k]? = some o)
      (hw : s.world.faults = [] → ∃ delay e,
        s.outbox.write s.world.now delay (Relay.writeFor t.config.completion o.record o.result) =
          .error e) :
      Effect s (.move i (.settle k))
        (s.view.setRelay i (.busy c { t with outcomes := t.outcomes.eraseIdx k, report })) []
  | requeued {id : Uuid} {outbox : Store} (h : s.outbox.requeue s.world.now id = .ok outbox) :
      Effect s (.requeue id) { s.view with outbox } [.requeued id]
  | purged {time : Timestamp} :
      Effect s (.purge time) { s.view with outbox := (s.outbox.purge time).2 } []
  | taken {limit : Nat} :
      Effect s (.take limit)
        { s.view with outbox := (s.outbox.claim s.world.now s.world.lease limit).2 } []
  | overwritten {wr : Write} {delay : Duration} {outbox : Store}
      (h : s.outbox.write s.world.now delay wr = .ok outbox) :
      Effect s (.write wr) { s.view with outbox } []

namespace Effect

variable {s : Site α} {a : Action α} {v : View} {ns : List Happening}

theorem ofEq (hv : v = s.view) (hn : ns = []) : Effect s a v ns := by
  subst hv hn
  exact .nothing

end Effect

variable {s : Site α}

/-- what was committed since -/
theorem stored_eq {c c' es : List Event} (h : c' = c ++ es) :
    ((c'.drop c.length).map fun e => Happening.stored e.id) = es.map fun e => .stored e.id := by
  rw [h, List.drop_left]

theorem stored_nil {c c' : List Event} (h : c' = c) :
    ((c'.drop c.length).map fun e => Happening.stored e.id) = [] := by
  rw [h, List.drop_length, List.map_nil]

/-- A world that differs in nothing that the view shows. -/
theorem view_of_alike {world : World} (ha : World.Alike s.world world) :
    ({ s with world } : Site α).view = s.view := by
  show (⟨world.stores.outbox, world.broker.delivered, s.relays, s.committed⟩ : View) = _
  rw [← ha.stores, ← ha.broker]
  rfl

theorem view_setRelay (world : World) (publishes : List Publish) (i : Nat) (p : Post) (s : Site α) :
    ({ s with world, publishes }.setRelay i p).view =
      ⟨world.stores.outbox, world.broker.delivered, Function.update s.relays i p, s.committed⟩ := rfl

/-! ## producers -/

theorem effect_enqueue (e : Event) (s : Site α) :
    Effect s (.enqueue e) (s.enqueue e).view (s.news (.enqueue e)) := by
  show Effect s _ _ (((s.enqueue e).committed.drop s.committed.length).map fun e => .stored e.id)
  rcases enqueue_cases e s with hs | ⟨_, hs⟩
  · rw [hs]
    exact .ofEq rfl (stored_nil rfl)
  · rw [stored_eq (congrArg committed hs), hs]
    exact .stored rfl [e]

theorem effect_proceed (j : Nat) (s : Site α) :
    Effect s (.proceed j) (s.proceed j).view (s.news (.proceed j)) := by
  show Effect s _ _ (((s.proceed j).committed.drop s.committed.length).map fun e => .stored e.id)
  rcases proceed_cases j s with ⟨world, pieces, ha, hs⟩ | ⟨a, staged, said, pieces, _, _, hs⟩
  · rw [hs]
    exact .ofEq (view_of_alike ha) (stored_nil rfl)
  · rw [stored_eq (congrArg committed hs), hs]
    exact .stored rfl staged.events

/-! ## relays -/

theorem effect_claim (i : Nat) (s : Site α) :
    Effect s (.claim i) (s.claim i).view (s.news (.claim i)) := by
  have hn : s.news (.claim i) = [] := stored_nil (act_same (a := .claim i) rfl s).2.1
  rw [hn]
  rcases claim_cases i s with hs | ⟨_, _, world, hr, ha, hs⟩ | ⟨config, time, world, hr, ha, hs⟩
  · rw [hs]
    exact .nothing
  · have hv : (s.claim i).view = s.view.setRelay i .idle := by
      rw [hs]
      exact congrArg (View.setRelay i .idle) (view_of_alike ha)
    rw [hv]
    exact .refused hr
  · have heffect := Effect.claimed (s := s) hr
    have ho : world.stores.outbox = (s.outbox.claim s.world.now s.world.lease config.batchSize).2 :=
      congrArg Stores.outbox ha.stores.symm
    have hd : world.broker.delivered = s.delivered := congrArg Broker.delivered ha.broker.symm
    rw [← ho] at heffect
    rw [hs]
    show Effect s (.claim i) ⟨world.stores.outbox, world.broker.delivered, _, s.committed⟩ []
    rw [hd]
    exact heffect

theorem move_of_busy {i c : Nat} {t : Batch} (hr : s.relays i = .busy c t) (m : Relay.Move) :
    ∃ t' world, Batch.Moved (World.backend s.world.lease) t s.world m t' world ∧
      s.move i m =
        { s with world, publishes := note i s.world.elapsed t t' s.publishes m }.setRelay i
          (.busy c t') := by
  refine ⟨_, _, Batch.moved _ t s.world m, ?_⟩
  unfold move
  rw [hr]

theorem move_of_not_busy {i : Nat} (hr : ∀ c t, s.relays i ≠ .busy c t) (m : Relay.Move) :
    s.move i m = s := by
  unfold move
  split
  · rename_i c t h
    exact absurd h (hr c t)
  · rfl

theorem landing?_of_not_busy {i k : Nat} {inTime : Bool} (hr : ∀ c t, s.relays i ≠ .busy c t) :
    s.landing? i k inTime = none := by
  unfold landing?
  split
  · rename_i c t h
    exact absurd h (hr c t)
  · rfl

theorem landing?_of_busy {i c k : Nat} {t : Batch} {f : Flight} {inTime : Bool}
    (hr : s.relays i = .busy c t) (hf : t.flights[k]? = some f) :
    s.landing? i k inTime =
      some ⟨f.record, (t.arrive (World.backend s.world.lease) f.record inTime s.world).1⟩ := by
  unfold landing?
  rw [hr]
  show t.flights[k]?.map _ = _
  rw [hf, Option.map_some]

theorem landing?_of_none {i c k : Nat} {t : Batch} {inTime : Bool} (hr : s.relays i = .busy c t)
    (hf : t.flights[k]? = none) : s.landing? i k inTime = none := by
  unfold landing?
  rw [hr]
  show t.flights[k]?.map _ = _
  rw [hf, Option.map_none]

theorem news_settle (i k : Nat) (s : Site α) : s.news (.move i (.settle k)) = [] :=
  stored_nil (act_same (a := .move i (.settle k)) rfl s).2.1

/-- Nothing but a publish that begins or ends is told of a move. -/
theorem news_move {i : Nat} {m : Relay.Move} (hs : m = .start → (s.move i m).publishes = s.publishes)
    (hl : ∀ k inTime, m = .land k inTime → s.landing? i k inTime = none) :
    s.news (.move i m) = [] := by
  cases m with
  | start =>
    show ((s.move i .start).publishes.drop s.publishes.length).map _ = _
    rw [hs rfl, List.drop_length, List.map_nil]
  | land k inTime =>
    show (s.landing? i k inTime).toList.map _ = _
    rw [hl k inTime rfl]
    rfl
  | settle k => exact news_settle i k s

theorem effect_move (i : Nat) (m : Relay.Move) (s : Site α) :
    Effect s (.move i m) (s.move i m).view (s.news (.move i m)) := by
  by_cases hb : ∃ c t, s.relays i = .busy c t
  case neg =>
    have hr : ∀ c t, s.relays i ≠ .busy c t := fun c t h => hb ⟨c, t, h⟩
    have hs := move_of_not_busy hr m
    exact .ofEq (by rw [hs]) (news_move (fun _ => by rw [hs]) fun _ _ _ => landing?_of_not_busy hr)
  obtain ⟨c, t, hr⟩ := hb
  obtain ⟨t', world, hm, hs⟩ := move_of_busy hr m
  have hp : (s.move i m).publishes = note i s.world.elapsed t t' s.publishes m := by rw [hs]; rfl
  cases hm with
  | nothing hland =>
    refine .ofEq ?_ (news_move (fun hst => ?_) fun k inTime hk => ?_)
    · have hsame : Function.update s.relays i (.busy c t) = s.relays := by
        rw [← hr]
        exact Function.update_eq_self i s.relays
      rw [hs, view_setRelay, hsame]
      rfl
    · rw [hp, hst, note_start_same rfl]
    · exact landing?_of_none hr (hland k inTime hk)
  | late hw hf =>
    rw [news_move (fun _ => hp.trans (note_start_same rfl)) nofun, hs]
    exact .late hr hw hf
  | @started r rest hw _ hf =>
    have hn : s.news (.move i .start) = [.called r.id] := by
      show ((s.move i .start).publishes.drop s.publishes.length).map _ = _
      rw [hp, note_start rfl, List.drop_left]
      rfl
    rw [hn, hs]
    exact .started hr hw hf
  | @landed k f inTime result w hf ha =>
    have hlog := World.logAll_alike s.world.lease (Relay.published f.record result) w
    obtain ⟨broker, rfl, hd⟩ := World.arrive_cases ha
    have hn : s.news (.move i (.land k inTime)) = [.ended f.record.id result] := by
      show (s.landing? i k inTime).toList.map _ = _
      rw [landing?_of_busy hr hf, ha]
      rfl
    have htime : result = .ok () → inTime = true := by
      intro hok
      rcases hd with ⟨⟨e, he⟩, _⟩ | ⟨_, htime, _⟩
      · exact absurd (he.symm.trans hok) nofun
      · exact htime
    have hdelivered : broker.delivered = s.delivered ++ deliveredBy f.record result := by
      rcases hd with ⟨⟨e, rfl⟩, hd⟩ | ⟨rfl, _, hd⟩
      · rw [hd]
        exact (List.append_nil _).symm
      · exact hd
    have heffect := Effect.landed hr hf htime
    rw [← hdelivered] at heffect
    rw [hn, hs, view_setRelay, ← hlog.stores, ← hlog.broker]
    exact heffect
  | @settled k o reply w ho hw =>
    have hlog := World.logAll_alike s.world.lease (Relay.written o.record o.result reply) w
    rw [news_settle, hs, view_setRelay, ← hlog.stores, ← hlog.broker]
    rcases World.write_cases hw with ⟨e, rfl, ha⟩ | ⟨_, delay, σ, hσ, ha⟩
    · rw [← ha.stores, ← ha.broker]
      exact .unsettled hr ho fun hf => World.write_error hw hf
    · rw [← ha.stores, ← ha.broker]
      exact .settled hr ho hσ

/-! ## everything -/

/-- The end of a publish and the write of its outcome, one after the other. -/
theorem act_conclude (i k : Nat) (inTime : Bool) (s : Site α) :
    s.act (.conclude i k inTime) =
        (s.act (.move i (.land k inTime))).act (.move i (.settle (s.unwritten i))) ∧
      s.news (.conclude i k inTime) =
        s.news (.move i (.land k inTime)) ++
          (s.act (.move i (.land k inTime))).news (.move i (.settle (s.unwritten i))) := by
  refine ⟨rfl, ?_⟩
  rw [news_settle, List.append_nil]
  rfl

theorem act_effect {a : Action α} (h : ∀ i k inTime, a ≠ .conclude i k inTime) (s : Site α) :
    Effect s a (s.act a).view (s.news a) := by
  cases a with
  | enqueue e => exact effect_enqueue e s
  | openUnit j work =>
    obtain ⟨pieces, hs⟩ := openUnit_cases j work s
    refine .ofEq ?_ (stored_nil ?_)
    all_goals rw [show s.act (.openUnit j work) = _ from hs]
    rfl
  | proceed j => exact effect_proceed j s
  | tick i config =>
    rcases tick_cases i config s with hs | ⟨hfree, hs⟩
    · refine .ofEq ?_ (stored_nil ?_)
      all_goals rw [show s.act (.tick i config) = _ from hs]
    · rw [show s.news (.tick i config) = [] from
        stored_nil (act_same (a := .tick i config) rfl s).2.1, show s.act (.tick i config) = _ from hs]
      exact .began hfree
  | claim i => exact effect_claim i s
  | move i m => exact effect_move i m s
  | conclude i k inTime => exact absurd rfl (h i k inTime)
  | requeue id =>
    show Effect s _ ({ s with world := (s.world.requeue id).2 } : Site α).view
      (match (s.world.requeue id).1 with | .ok _ => [.requeued id] | .error _ => [])
    unfold World.requeue
    rcases World.changed_cases s.world (s.world.stores.outbox.requeue s.world.now id) with
      ⟨e, _, hc⟩ | ⟨σ, hσ, hc⟩
    all_goals rw [hc]
    · exact .nothing
    · exact .requeued hσ
  | purge time =>
    rw [show s.news (.purge time) = [] from stored_nil rfl]
    rcases World.purge_cases time s.world with ha | ha
    · exact .ofEq (view_of_alike ha) rfl
    · show Effect s _ ⟨(s.world.purge time).2.stores.outbox, (s.world.purge time).2.broker.delivered, _, _⟩ _
      rw [← ha.stores, ← ha.broker]
      exact .purged
  | take limit =>
    rw [show s.news (.take limit) = [] from stored_nil rfl]
    rcases World.claim_cases limit s.world with ⟨e, w, hw, ha⟩ | ⟨w, hw, ha⟩
    all_goals rw [show s.act (.take limit) = { s with world := (s.world.claim limit).2 } from rfl, hw]
    · exact .ofEq (view_of_alike ha) rfl
    · show Effect s _ ⟨w.stores.outbox, w.broker.delivered, _, _⟩ _
      rw [← ha.stores, ← ha.broker]
      exact .taken
  | write wr =>
    rw [show s.news (.write wr) = [] from stored_nil rfl]
    rcases hw : s.world.write wr with ⟨reply, w⟩
    rw [show s.act (.write wr) = { s with world := (s.world.write wr).2 } from rfl, hw]
    rcases World.write_cases hw with ⟨e, _, ha⟩ | ⟨_, delay, σ, hσ, ha⟩
    · exact .ofEq (view_of_alike ha) rfl
    · show Effect s _ ⟨w.stores.outbox, w.broker.delivered, _, _⟩ _
      rw [← ha.stores, ← ha.broker]
      exact .overwritten hσ
  | script failures missing rollbackFailure faults => exact .ofEq rfl (stored_nil rfl)

/-! ## one record -/

/-- what a written outcome makes of its record -/
inductive Written (o : Outcome) : Option Record → Option Record → Prop where
  | delivered {r : Record} {now : Timestamp} (hok : o.result = .ok ()) (hr : r.status = .pending) :
      Written o (some r)
        (some
          { r with
            status := .processed, retryCount := o.record.retryCount, lastError := o.record.lastError
            processedAt := some now })
  | removed {r : Record} (hok : o.result = .ok ()) : Written o (some r) none
  | failed {r : Record} {e : PublishError} {now : Timestamp} {delay : Duration}
      (he : o.result = .error e) (hr : r.status = .pending) :
      Written o (some r)
        (some
          (Store.outcome now delay (if Relay.exhausted o.record then .failed else .pending)
            (Relay.oneMore o.record.retryCount) (some e.message) r))

theorem Written.ofWrite {now : Timestamp} {delay : Duration} {completion : Completion} {o : Outcome}
    {σ σ' : Store} (h : σ.write now delay (Relay.writeFor completion o.record o.result) = .ok σ') :
    Written o (σ.get? o.record.id) (σ'.get? o.record.id) := by
  rcases hres : o.result with e | ⟨⟩
  · rw [hres] at h
    obtain ⟨r, hg, hst, hs⟩ := Store.get?_update h
    rw [hg, hs, if_pos rfl]
    exact .failed hres hst
  · rw [hres] at h
    cases completion with
    | retain =>
      obtain ⟨r, hg, hst, hs⟩ := Store.get?_update h
      rw [hg, hs, if_pos rfl]
      exact .delivered hres hst
    | delete =>
      obtain ⟨r, hg⟩ := Store.get?_of_delete h
      rw [hg, Store.get?_delete h, if_pos rfl]
      exact .removed hres

/-- what becomes of the record with an id when an action stores `es` -/
inductive Fate (s : Site α) (a : Action α) (es : List Event) (id : Uuid) :
    Option Record → Option Record → Prop where
  | same {o : Option Record} : Fate s a es id o o
  | stored {o : Option Record} {e : Event} (he : e ∈ es) (hid : e.id = id) :
      Fate s a es id o (some e.record)
  | hidden {r : Record} {time : Timestamp} (hr : r.status = .pending) :
      Fate s a es id (some r) (some { r with availableAt := time })
  | written {i k : Nat} {o : Outcome} {r r' : Option Record} (ha : a = .move i (.settle k))
      (ho : .ended o ∈ (s.relays i).places) (hid : o.record.id = id) (h : Written o r r') :
      Fate s a es id r r'
  | requeued {r : Record} {time : Timestamp} (ha : a = .requeue id) (hr : r.status = .failed) :
      Fate s a es id (some r)
        (some { r with status := .pending, retryCount := 0, availableAt := time, processedAt := none })
  | purged {r : Record} (hr : r.status = .processed) : Fate s a es id (some r) none

/-- A record is new, or was there before with the same fixed part. -/
theorem Fate.origin {a : Action α} {es : List Event} {id : Uuid} {o : Option Record} {r' : Record}
    (h : Fate s a es id o (some r')) :
    (∃ e ∈ es, e.id = id ∧ r' = e.record) ∨ ∃ r, o = some r ∧ r'.fixed = r.fixed := by
  cases h with
  | same => exact Or.inr ⟨r', rfl, rfl⟩
  | stored he hid => exact Or.inl ⟨_, he, hid, rfl⟩
  | hidden hr => exact Or.inr ⟨_, rfl, rfl⟩
  | written ha ho hid h =>
    cases h with
    | delivered hok hr => exact Or.inr ⟨_, rfl, rfl⟩
    | failed he hr => exact Or.inr ⟨_, rfl, Store.fixed_outcome⟩
  | requeued ha hr => exact Or.inr ⟨_, rfl, rfl⟩

theorem fate_claim (s : Site α) (a : Action α) (limit : Nat) (id : Uuid) :
    Fate s a [] id (s.outbox.get? id) ((s.outbox.claim s.world.now s.world.lease limit).2.get? id) := by
  rcases Store.get?_claim_cases s.world.now s.world.lease limit s.outbox id with
    hsame | ⟨r, hr, hst, _, hhidden⟩
  · rw [hsame]
    exact .same
  · rw [hr, hhidden]
    exact .hidden hst

/-- An action commits some events, none as a rule, and every record meets its fate. -/
theorem Effect.fates {a : Action α} {v : View} {ns : List Happening} (h : Effect s a v ns)
    (ha : a.isByHand = false) :
    ∃ es, v.committed = s.committed ++ es ∧
      ∀ id, Fate s a es id (s.outbox.get? id) (v.outbox.get? id) := by
  cases h with
  | stored _ es =>
    refine ⟨es, rfl, fun id => ?_⟩
    rcases get?_putAll_cases es s.outbox id with hg | ⟨e, he, hid, hg⟩
    all_goals rw [show (es.foldl (fun o e => o.put e.record) s.outbox).get? id = _ from hg]
    · exact .same
    · exact .stored he hid
  | claimed hr => exact ⟨[], (List.append_nil _).symm, fate_claim s _ _⟩
  | @settled i _ k t o _ _ _ hr ho hw =>
    refine ⟨[], (List.append_nil _).symm, fun id => ?_⟩
    by_cases hid : id = o.record.id
    · subst hid
      have hplace : .ended o ∈ (s.relays i).places := by
        rw [hr]
        exact (Batch.places_settled ho t.report).mem_iff.2 List.mem_cons_self
      exact .written rfl hplace rfl (.ofWrite hw)
    · rw [Store.get?_write hw (by rwa [Relay.writeFor_id])]
      exact .same
  | requeued h =>
    obtain ⟨r, hg, hst, hs⟩ := Store.get?_requeue h
    refine ⟨[], (List.append_nil _).symm, fun id => ?_⟩
    rw [hs id]
    split
    · rename_i hid
      rw [hid, hg]
      exact .requeued rfl hst
    · exact .same
  | @purged time =>
    refine ⟨[], (List.append_nil _).symm, fun id => ?_⟩
    rcases Store.get?_purge_cases time s.outbox id with hg | ⟨r, hr, hst, hg⟩
    · exact hg.symm ▸ .same
    · exact hr.symm ▸ hg.symm ▸ .purged hst
  | taken => cases ha
  | overwritten h => cases ha
  | _ => exact ⟨[], (List.append_nil _).symm, fun _ => .same⟩

/-- Until it claims, a relay holds less and less. -/
theorem Effect.dwindles {a : Action α} {v : View} {ns : List Happening} (h : Effect s a v ns) :
    (∀ j, (s.relays j).Dwindles (v.relays j)) ∨
      ∃ i config time, s.relays i = .began config time ∧
        v =
          { s.view.setRelay i
              (.busy s.world.elapsed
                (.ofRecords config s.world.lease time
                  (s.outbox.claim s.world.now s.world.lease config.batchSize).1)) with
            outbox := (s.outbox.claim s.world.now s.world.lease config.batchSize).2 } := by
  have hset {i : Nat} {p q : Post} (hr : s.relays i = p) (hp : p.Dwindles q) (j : Nat) :
      (s.relays j).Dwindles ((s.view.setRelay i q).relays j) := by
    by_cases hji : j = i
    · subst hji
      rw [View.relays_setRelay_self, hr]
      exact hp
    · rw [View.relays_setRelay_ne hji]
      exact .refl _
  cases h with
  | @began i config hfree =>
    have hnone : (s.relays i).held = [] := congrArg _ (Post.places_eq_nil_of_isFree hfree)
    exact Or.inl (hset rfl (.free hnone rfl rfl))
  | refused hr => exact Or.inl (hset hr (.free rfl rfl rfl))
  | claimed hr => exact Or.inr ⟨_, _, _, hr, rfl⟩
  | late hr hw hf => exact Or.inl (hset hr (.dropped (.of_eq (Batch.places_late hw _))))
  | started hr hw hf =>
    obtain ⟨others, hx, hy⟩ := Batch.places_started hw s.world.elapsed
    exact Or.inl (hset hr (.moved (.of_eq hx) hy rfl))
  | landed hr hf ht =>
    obtain ⟨others, hx, hy⟩ := Batch.places_landed hf _
    exact Or.inl (hset hr (.moved hx hy rfl))
  | settled hr ho hw => exact Or.inl (hset hr (.dropped (Batch.places_settled ho _)))
  | unsettled hr ho hw => exact Or.inl (hset hr (.dropped (Batch.places_settled ho _)))
  | _ => exact Or.inl fun _ => .refl _

/-- A relay holds a record that it held before, or that was stored and pending and is claimed now. -/
theorem Effect.mem_held {a : Action α} {v : View} {ns : List Happening} (h : Effect s a v ns) {i : Nat}
    {q : Record} (hq : q ∈ (v.relays i).held) :
    q ∈ (s.relays i).held ∨ s.outbox.get? q.id = some q ∧ q.status = .pending := by
  rcases h.dwindles with hd | ⟨j, config, time, hr, rfl⟩
  · obtain ⟨gone, hp⟩ := (hd i).held
    exact Or.inl (hp.mem_iff.2 (List.mem_append_right gone hq))
  by_cases hij : i = j
  · subst hij
    have hq : q ∈ ((s.view.setRelay i _).relays i).held := hq
    rw [View.relays_setRelay_self, Post.held, Post.places, Batch.map_record_places,
      Batch.records_ofRecords] at hq
    obtain ⟨hg, hst, _⟩ := Store.mem_claim hq
    exact Or.inr ⟨hg, hst⟩
  · have hq : q ∈ ((s.view.setRelay j _).relays i).held := hq
    rw [View.relays_setRelay_ne hij] at hq
    exact Or.inl hq

/-! ## runs -/

theorem faults_land (i k : Nat) (inTime : Bool) (s : Site α) :
    (s.act (.move i (.land k inTime))).world.faults = s.world.faults := by
  rcases move_cases i (.land k inTime) s with hs | ⟨_, t, t', world, _, hm, hs⟩
  all_goals rw [show s.act (.move i (.land k inTime)) = _ from hs]
  show world.faults = s.world.faults
  cases hm with
  | nothing _ => rfl
  | @landed _ f _ result w hf ha =>
    obtain ⟨broker, rfl, _⟩ := World.arrive_cases ha
    cases Relay.published f.record result <;> rfl

section
variable {P : Site α → Action α → Prop}

/-- What every effect keeps, an action keeps.  An invariant may tell of what has happened so far. -/
theorem act_effects {I : Site α → List Happening → Prop}
    (hland : ∀ s i k inTime, P s (.conclude i k inTime) →
      P s (.move i (.land k inTime)) ∧
        P (s.act (.move i (.land k inTime))) (.move i (.settle (s.unwritten i))))
    (step : ∀ s a l, I s l → P s a → Effect s a (s.act a).view (s.news a) →
      ((s.act a).committed.map Event.id).Nodup → I (s.act a) (l ++ s.news a))
    {l : List Happening} (h : I s l) {a : Action α} (hok : P s a)
    (hids : ((s.act a).committed.map Event.id).Nodup) : I (s.act a) (l ++ s.news a) := by
  by_cases hc : ∃ i k inTime, a = .conclude i k inTime
  case neg => exact step s a l h hok (act_effect (fun i k b ha => hc ⟨i, k, b, ha⟩) s) hids
  obtain ⟨i, k, inTime, rfl⟩ := hc
  obtain ⟨hact, hnews⟩ := act_conclude i k inTime s
  obtain ⟨hokl, hoks⟩ := hland _ _ _ _ hok
  rw [hact] at hids ⊢
  rw [hnews, ← List.append_assoc]
  have hsame := (act_same (a := .move i (.settle (s.unwritten i))) rfl
    (s.act (.move i (.land k inTime)))).2.1
  have hidl : ((s.act (.move i (.land k inTime))).committed.map Event.id).Nodup := hsame ▸ hids
  have heffectl := act_effect (a := .move i (.land k inTime)) (fun _ _ _ ha => nomatch ha) s
  have heffects := act_effect (a := .move i (.settle (s.unwritten i))) (fun _ _ _ ha => nomatch ha)
    (s.act (.move i (.land k inTime)))
  exact step _ _ _ (step s _ l h hokl heffectl hidl) hoks heffects hids

/-- What every effect keeps, a run keeps. -/
theorem run_effects {I : View → List Happening → Prop}
    (hland : ∀ s i k inTime, P s (.conclude i k inTime) →
      P s (.move i (.land k inTime)) ∧
        P (s.act (.move i (.land k inTime))) (.move i (.settle (s.unwritten i))))
    (step : ∀ (s : Site α) a v ns l, I s.view l → P s a → Effect s a v ns →
      (v.committed.map Event.id).Nodup → I v (l ++ ns))
    {l : List Happening} (h : I s.view l) {xs : List (Step α)}
    (hxs : s.RunOk (fun s x => s.Fresh x ∧ P (s.atTime x.start x.elapsed) x.action) xs) :
    I (s.run xs).view (l ++ s.tale xs) := by
  induction xs generalizing s l with
  | nil => exact (List.append_nil l).symm ▸ h
  | cons x xs ih =>
    obtain ⟨⟨hfresh, hok⟩, hxs⟩ := hxs
    have hids : ((s.next x).committed.map Event.id).Nodup := (List.nodup_append.1 hfresh).2.1
    have hnext := act_effects (I := fun s l => I s.view l) hland (fun s a l => step s a _ _ l)
      (s := s.atTime x.start x.elapsed) h hok hids
    have hrun := ih hnext hxs
    rwa [List.append_assoc] at hrun

end

/-! ## the events that records are of -/

/-- whether it is the record of one of these events, with whatever was done to it since -/
def IsOf (c : List Event) (r : Record) : Prop := ∃ e ∈ c, r.fixed = e.record.fixed

theorem IsOf.fixed_eq {c : List Event} {a b : Record} (hc : (c.map Event.id).Nodup) (ha : IsOf c a)
    (hb : IsOf c b) (h : a.id = b.id) : a.fixed = b.fixed := by
  obtain ⟨d, hd, ha⟩ := ha
  obtain ⟨e, he, hb⟩ := hb
  have hid : d.id = e.id := (Record.id_eq_of_fixed ha).symm.trans (h.trans (Record.id_eq_of_fixed hb))
  rw [ha, hb, List.inj_on_of_nodup_map hc hd he hid]

/-- Whatever is stored, and whatever a relay holds, is the record of a committed event. -/
structure View.Sourced (v : View) : Prop where
  stored : ∀ id r, v.outbox.get? id = some r → IsOf v.committed r
  held : ∀ i, ∀ q ∈ (v.relays i).held, IsOf v.committed q

theorem View.Sourced.new (w : World) : (Site.new w : Site α).view.Sourced :=
  ⟨fun _ _ h => (nomatch h), fun _ _ h => absurd h List.not_mem_nil⟩

theorem View.Sourced.effect {a : Action α} {v : View} {ns : List Happening} (h : s.view.Sourced)
    (hv : Effect s a v ns) (ha : a.isByHand = false) : v.Sourced := by
  obtain ⟨es, hes, hfates⟩ := hv.fates ha
  have hmono {r : Record} (hr : IsOf s.committed r) : IsOf v.committed r := by
    obtain ⟨e, he, hf⟩ := hr
    exact ⟨e, hes ▸ List.mem_append_left es he, hf⟩
  have hold (id : Uuid) (r : Record) (hg : s.outbox.get? id = some r) : IsOf v.committed r :=
    hmono (h.stored id r hg)
  constructor
  · intro id r' hr'
    have hfate := hfates id
    rw [hr'] at hfate
    rcases hfate.origin with ⟨e, he, _, rfl⟩ | ⟨r, hr, hf⟩
    · exact ⟨e, hes ▸ List.mem_append_right s.committed he, rfl⟩
    · obtain ⟨e, he, hf'⟩ := hold id r hr
      exact ⟨e, he, hf.trans hf'⟩
  · intro i q hq
    rcases hv.mem_held hq with hq | ⟨hg, _⟩
    · exact hmono (h.held i q hq)
    · exact hold _ q hg

end Site
end Outbox
