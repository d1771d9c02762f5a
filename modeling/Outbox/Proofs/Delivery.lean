import Outbox.Proofs.Site
import Outbox.Proofs.UuidText

/-!
# What is delivered is what was committed

Any number of relays and units of work share an outbox (`Site`).  A record counts as delivered once
the message of its event has been delivered.

* `Kept`            the store accounts for every committed event, and holds nothing else: an event that
                    is gone was delivered, and so was every processed record;
* `Turn`            what may become of a record under `Kept`;
* `Accounted`       `Kept`, together with what the relays hold: their records are those of committed
                    events, and a publish that succeeded has delivered its message;
* `nothing_lost_nothing_invented`   in every run all of this holds.
-/

namespace Outbox

open Relay (Batch Backend)
open Scenario (World)

/-- the id of the record that a message was made from, as its consumers see it -/
def Message.outboxId? (m : Message) : Option String :=
  (m.attributes.find? (·.1 = "outbox_id")).map Prod.snd

theorem Message.outboxId?_message (r : Record) : r.message.outboxId? = some r.id.text := rfl

namespace Site

variable {α : Type}

/-! ## the store -/

structure Kept (committed : List Event) (delivered : List Message) (s : Store) : Prop where
  gone : ∀ e ∈ committed, s.get? e.id = none → e.record.message ∈ delivered
  stored : ∀ id r, s.get? id = some r →
    ∃ e ∈ committed, r.fixed = e.record.fixed ∧ (r.status = .processed → r.message ∈ delivered)

/-- what may become of a record: it stays the record of its event, and is processed or removed only if
it was processed before or is delivered -/
inductive Turn (delivered : List Message) : Option Record → Option Record → Prop where
  | absent : Turn delivered none none
  | kept {r r' : Record} (hf : r'.fixed = r.fixed)
      (hp : r'.status = .processed → r.status = .processed ∨ r.message ∈ delivered) :
      Turn delivered (some r) (some r')
  | removed {r : Record} (h : r.status = .processed ∨ r.message ∈ delivered) :
      Turn delivered (some r) none

theorem Turn.refl (delivered : List Message) (r : Option Record) : Turn delivered r r := by
  cases r with
  | none => exact .absent
  | some r => exact .kept rfl Or.inl

namespace Kept

variable {c : List Event} {d : List Message} {s s' : Store}

/-- the event of a stored record -/
theorem event (h : Kept c d s) {e : Event} (hc : (c.map Event.id).Nodup) (he : e ∈ c) {r : Record}
    (hr : s.get? e.id = some r) : r.fixed = e.record.fixed := by
  obtain ⟨e', he', hf, _⟩ := h.stored _ r hr
  have hid : e'.id = e.id := (Record.id_eq_of_fixed hf).symm.trans (Store.get?_id hr)
  rw [hf, List.inj_on_of_nodup_map hc he' he hid]

theorem turn (h : Kept c d s) (hc : (c.map Event.id).Nodup)
    (ht : ∀ id, Turn d (s.get? id) (s'.get? id)) : Kept c d s' := by
  constructor
  · intro e he hn
    have hid := ht e.id
    rw [hn] at hid
    cases hg : s.get? e.id with
    | none => exact h.gone e he hg
    | some r =>
      rw [hg] at hid
      have hm : r.message = e.record.message := Record.message_eq_of_fixed (h.event hc he hg)
      cases hid with
      | removed hr =>
        rw [← hm]
        rcases hr with hp | hr
        · obtain ⟨_, _, _, hd⟩ := h.stored _ r hg
          exact hd hp
        · exact hr
  · intro id r' hr'
    have hid := ht id
    rw [hr'] at hid
    cases hg : s.get? id with
    | none =>
      rw [hg] at hid
      cases hid
    | some r =>
      rw [hg] at hid
      obtain ⟨e, he, hf, hd⟩ := h.stored id r hg
      cases hid with
      | kept hf' hp =>
        refine ⟨e, he, hf'.trans hf, fun hst => ?_⟩
        rw [Record.message_eq_of_fixed hf']
        exact (hp hst).elim hd fun hm => hm

theorem put (h : Kept c d s) (e : Event) : Kept (c ++ [e]) d (s.put e.record) := by
  constructor
  · intro a ha hn
    rw [Store.get?_put] at hn
    split at hn
    · cases hn
    · rename_i hne
      rcases List.mem_append.1 ha with ha | ha
      · exact h.gone a ha hn
      · exact absurd (congrArg Event.id (List.mem_singleton.1 ha)) hne
  · intro id r hr
    rw [Store.get?_put] at hr
    split at hr
    · injection hr with hr
      subst hr
      exact ⟨e, List.mem_append_right c List.mem_cons_self, rfl, fun hp => nomatch hp⟩
    · obtain ⟨a, ha, hf⟩ := h.stored id r hr
      exact ⟨a, List.mem_append_left [e] ha, hf⟩

theorem putAll (h : Kept c d s) (es : List Event) :
    Kept (c ++ es) d (es.foldl (fun o e => o.put e.record) s) := by
  induction es generalizing c s with
  | nil => simpa using h
  | cons e es ih =>
    have hput := ih (h.put e)
    rwa [List.append_assoc, List.singleton_append] at hput

theorem mono {d' : List Message} (h : Kept c d s) (hd : ∀ m ∈ d, m ∈ d') : Kept c d' s := by
  constructor
  · intro e he hn
    exact hd _ (h.gone e he hn)
  · intro id r hr
    obtain ⟨e, he, hf, hp⟩ := h.stored id r hr
    exact ⟨e, he, hf, fun hst => hd _ (hp hst)⟩

end Kept

/-! ## operations of the store -/

section
variable {d : List Message} {s s' : Store}

theorem turn_claim (now : Timestamp) (lease : Duration) (limit : Nat) (id : Uuid) :
    Turn d (s.get? id) ((s.claim now lease limit).2.get? id) := by
  rcases Store.get?_claim_cases now lease limit s id with hsame | ⟨r, hr, _, _, hhidden⟩
  · rw [hsame]
    exact .refl d _
  · rw [hr, hhidden]
    exact .kept rfl Or.inl

theorem turn_requeue {now : Timestamp} {i : Uuid} (h : s.requeue now i = .ok s') (id : Uuid) :
    Turn d (s.get? id) (s'.get? id) := by
  obtain ⟨r, hg, _, hs⟩ := Store.get?_requeue h
  rw [hs id]
  split
  · rename_i hid
    rw [hid, hg]
    exact .kept rfl fun hp => nomatch hp
  · exact .refl d _

theorem turn_purge (t : Timestamp) (id : Uuid) : Turn d (s.get? id) ((s.purge t).2.get? id) := by
  rw [Store.get?_purge]
  cases hg : s.get? id with
  | none => exact .absent
  | some r =>
    rw [Option.filter_some]
    split
    · exact .kept rfl Or.inl
    · rename_i hp
      refine .removed (Or.inl ?_)
      simp only [Store.isProcessedBefore, Bool.not_eq_true', Bool.not_eq_false,
        Bool.and_eq_true, decide_eq_true_eq] at hp
      exact hp.1

/-- An update says that a record is processed only if it is delivered. -/
theorem turn_update {now : Timestamp} {delay : Duration} {i : Uuid} {st : Status} {n : UInt32}
    {err : Option String} (h : s.update now delay i st n err = .ok s')
    (hd : st = .processed → ∀ r, s.get? i = some r → r.message ∈ d) (id : Uuid) :
    Turn d (s.get? id) (s'.get? id) := by
  obtain ⟨r, hg, _, hs⟩ := Store.get?_update h
  rw [hs id]
  split
  · rename_i hid
    rw [hid, hg]
    refine .kept (by cases st <;> rfl) fun hp => Or.inr (hd ?_ r hg)
    cases st <;> first | rfl | exact hp
  · exact .refl d _

/-- What is deleted is delivered. -/
theorem turn_delete {i : Uuid} (h : s.delete i = .ok s')
    (hd : ∀ r, s.get? i = some r → r.message ∈ d) (id : Uuid) :
    Turn d (s.get? id) (s'.get? id) := by
  rw [Store.get?_delete h id]
  split
  · rename_i hid
    rw [hid]
    cases hg : s.get? i with
    | none => exact .absent
    | some r => exact .removed (Or.inr (hd r hg))
  · exact .refl d _

/-- The write for a publish is made to the record of the same event, and says that it is processed only
if it is delivered. -/
theorem turn_write {now : Timestamp} {delay : Duration} {completion : Completion} {o : Record}
    {result : Except PublishError Unit}
    (h : s.write now delay (Relay.writeFor completion o result) = .ok s')
    (ho : ∀ r, s.get? o.id = some r → r.message = o.message)
    (hd : result = .ok () → o.message ∈ d) (id : Uuid) : Turn d (s.get? id) (s'.get? id) := by
  cases result with
  | error e =>
    refine turn_update h (fun hst => ?_) id
    split at hst <;> cases hst
  | ok =>
    have hdelivered : ∀ r, s.get? o.id = some r → r.message ∈ d := by
      intro r hr
      rw [ho r hr]
      exact hd rfl
    cases completion with
    | retain => exact turn_update h (fun _ => hdelivered) id
    | delete => exact turn_delete h hdelivered id

end

/-! ## batches -/

/-- what is known of a batch: its records are those of committed events, and outcomes tell of
deliveries -/
structure Known (committed : List Event) (delivered : List Message) (t : Batch) : Prop where
  held : ∀ r ∈ t.records, ∃ e ∈ committed, r.fixed = e.record.fixed
  ended : ∀ o ∈ t.outcomes, o.result = .ok () → o.record.message ∈ delivered

namespace Known

variable {c : List Event} {d d' : List Message} {t t' : Batch}

theorem mono {c' : List Event} (h : Known c d t) (hc : ∀ e ∈ c, e ∈ c') (hd : ∀ m ∈ d, m ∈ d') :
    Known c' d' t := by
  constructor
  · intro r hr
    obtain ⟨e, he, hf⟩ := h.held r hr
    exact ⟨e, hc e he, hf⟩
  · intro o ho hok
    exact hd _ (h.ended o ho hok)

/-- A move delivers nothing, or the message of a held record. -/
theorem delivered {lease : Duration} {w w' : World} {m : Relay.Move}
    (hm : Batch.Moved (World.backend lease) t w m t' w') :
    w'.broker.delivered = w.broker.delivered ∨
      ∃ r ∈ t.records, w'.broker.delivered = w.broker.delivered ++ [r.message] := by
  rcases (World.moved_cases hm).2 with ⟨_, hd⟩ | ⟨_, f, hf, _, hd⟩ | ⟨hd, _⟩
  · exact Or.inl hd
  · exact Or.inr ⟨f.record, Batch.mem_records_of_flight hf, hd⟩
  · exact Or.inl hd

theorem moved {lease : Duration} {w w' : World} {m : Relay.Move} (h : Known c w.broker.delivered t)
    (hm : Batch.Moved (World.backend lease) t w m t' w') : Known c w'.broker.delivered t' := by
  have hgrows : ∀ m ∈ w.broker.delivered, m ∈ w'.broker.delivered := by
    intro m hmem
    rcases delivered hm with hd | ⟨r, _, hd⟩
    · rw [hd]
      exact hmem
    · rw [hd]
      exact List.mem_append_left _ hmem
  refine ⟨fun r hr => h.held r (hm.mem_records hr), fun o ho hok => ?_⟩
  cases hm with
  | nothing => exact h.ended o ho hok
  | late hw hf => exact h.ended o ho hok
  | started hw hr hf => exact h.ended o ho hok
  | @landed i f inTime result v hf ha =>
    rcases List.mem_append.1 ho with ho | ho
    · exact hgrows _ (h.ended o ho hok)
    · rw [List.mem_singleton.1 ho] at hok ⊢
      obtain ⟨b, rfl, ⟨⟨e, he⟩, _⟩ | ⟨_, _, hd⟩⟩ := World.arrive_cases ha
      · exact absurd (he.symm.trans hok) nofun
      · rw [← (World.logAll_alike lease (Relay.published f.record result) _).broker, hd]
        exact List.mem_append_right _ List.mem_cons_self
  | settled hi hw => exact hgrows _ (h.ended o (List.mem_of_mem_eraseIdx ho) hok)

end Known

/-! ## sites -/

structure Accounted (s : Site α) : Prop where
  ids : (s.committed.map Event.id).Nodup
  kept : Kept s.committed s.delivered s.outbox
  known : ∀ i t, (s.relays i).batch? = some t → Known s.committed s.delivered t
  sent : ∀ m ∈ s.delivered, ∃ e ∈ s.committed, m = e.record.message

namespace Accounted

variable {s : Site α}

theorem ofUsed {s : Site α} (h : s.used.Nodup) : (s.committed.map Event.id).Nodup :=
  (List.nodup_append.1 h).2.1

theorem new (w : World) : Accounted (Site.new w : Site α) where
  ids := List.nodup_nil
  kept := ⟨fun _ he => absurd he List.not_mem_nil, fun _ r hr =>
    absurd (hr.symm.trans Store.get?_empty) (Option.some_ne_none r)⟩
  known := fun _ t ht => absurd ht.symm (Option.some_ne_none t)
  sent := fun _ hm => absurd hm List.not_mem_nil

/-- a change of the outbox alone, by which every record has its turn -/
theorem turn (h : Accounted s) {world : World} (publishes : List Publish)
    (hd : world.broker.delivered = s.delivered)
    (ht : ∀ id, Turn s.delivered (s.outbox.get? id) (world.stores.outbox.get? id)) :
    Accounted { s with world, publishes } where
  ids := h.ids
  kept := by
    show Kept s.committed world.broker.delivered world.stores.outbox
    rw [hd]
    exact h.kept.turn h.ids ht
  known := fun i t hi => by
    show Known s.committed world.broker.delivered t
    rw [hd]
    exact h.known i t hi
  sent := fun m hm => by
    have hm : m ∈ world.broker.delivered := hm
    rw [hd] at hm
    exact h.sent m hm

/-- a relay goes on to something of which enough is known -/
theorem setRelay (h : Accounted s) (i : Nat) (p : Post)
    (hp : ∀ t, p.batch? = some t → Known s.committed s.delivered t) : Accounted (s.setRelay i p) where
  ids := h.ids
  kept := h.kept
  known := fun k t hk => by
    by_cases hki : k = i
    · subst hki
      refine hp t ?_
      simpa [Site.setRelay] using hk
    · refine h.known k t ?_
      simpa [Site.setRelay, hki] using hk
  sent := h.sent

/-- The message of a committed event is delivered, and the stores stay as they are. -/
theorem deliver (h : Accounted s) {world : World} (publishes : List Publish) {r : Record} {e : Event}
    (hd : world.broker.delivered = s.delivered ++ [r.message])
    (hst : world.stores = s.world.stores) (he : e ∈ s.committed)
    (hr : r.message = e.record.message) : Accounted { s with world, publishes } where
  ids := h.ids
  kept := by
    show Kept s.committed world.broker.delivered world.stores.outbox
    rw [hd, hst]
    exact h.kept.mono fun m hm => List.mem_append_left _ hm
  known := fun i t hi => by
    show Known s.committed world.broker.delivered t
    rw [hd]
    exact (h.known i t hi).mono (fun e he => he) fun m hm => List.mem_append_left _ hm
  sent := fun m hm => by
    have hm : m ∈ world.broker.delivered := hm
    rw [hd] at hm
    rcases List.mem_append.1 hm with hm | hm
    · exact h.sent m hm
    · exact ⟨e, he, (List.mem_singleton.1 hm).trans hr⟩

/-- Events are stored, and committed by that. -/
theorem store (h : Accounted s) (es : List Event) {world : World}
    {pieces : Nat → Option (Piece α)} (hw : world.broker = s.world.broker)
    (ho : world.stores.outbox = es.foldl (fun o e => o.put e.record) s.outbox)
    (hids : ((s.committed ++ es).map Event.id).Nodup) :
    Accounted { s with world, pieces, committed := s.committed ++ es } where
  ids := hids
  kept := by
    show Kept (s.committed ++ es) world.broker.delivered world.stores.outbox
    rw [hw, ho]
    exact h.kept.putAll es
  known := fun i t hi => by
    show Known (s.committed ++ es) world.broker.delivered t
    rw [hw]
    exact (h.known i t hi).mono (fun e he => List.mem_append_left es he) fun m hm => hm
  sent := fun m hm => by
    have hm : m ∈ world.broker.delivered := hm
    rw [hw] at hm
    obtain ⟨e, he, hme⟩ := h.sent m hm
    exact ⟨e, List.mem_append_left es he, hme⟩

/-! ## actions -/

theorem enqueue (h : Accounted s) (e : Event) (hids : ((s.enqueue e).committed.map Event.id).Nodup) :
    Accounted (s.enqueue e) := by
  rcases enqueue_cases e s with hs | ⟨_, hs⟩
  · rw [hs]
    exact h
  · rw [hs] at hids ⊢
    exact h.store [e] rfl rfl hids

theorem proceed (h : Accounted s) (j : Nat) (hids : ((s.proceed j).committed.map Event.id).Nodup) :
    Accounted (s.proceed j) := by
  rcases proceed_cases j s with ⟨world, pieces, ha, hs⟩ | ⟨a, staged, said, pieces, _, _, hs⟩
  · rw [hs] at hids ⊢
    have hstore : Accounted { s with world, pieces, committed := s.committed ++ [] } :=
      h.store [] ha.broker.symm (congrArg Stores.outbox ha.stores.symm) (by rwa [List.append_nil])
    rwa [List.append_nil] at hstore
  · rw [hs] at hids ⊢
    exact h.store staged.events rfl rfl hids

theorem claim (h : Accounted s) (i : Nat) : Accounted (s.claim i) := by
  rcases claim_cases i s with hs | ⟨_, _, world, _, ha, hs⟩ | ⟨config, time, world, _, ha, hs⟩
  · rw [hs]
    exact h
  · rw [hs]
    have hw : Accounted { s with world } := by
      refine h.turn s.publishes (congrArg Broker.delivered ha.broker.symm) fun id => ?_
      rw [← ha.stores]
      exact .refl _ _
    exact hw.setRelay i .idle nofun
  · rw [hs]
    have hw : Accounted { s with world } := by
      refine h.turn s.publishes (congrArg Broker.delivered ha.broker.symm) fun id => ?_
      rw [← ha.stores]
      exact turn_claim _ _ _ id
    refine hw.setRelay i _ fun t ht => ?_
    injection ht with ht
    subst ht
    constructor
    · intro r hr
      rw [Batch.records_ofRecords] at hr
      obtain ⟨e, he, hf, _⟩ := h.kept.stored _ r (Store.mem_claim hr).1
      exact ⟨e, he, hf⟩
    · exact fun o ho => absurd ho List.not_mem_nil

theorem move (h : Accounted s) (i : Nat) (m : Relay.Move) : Accounted (s.move i m) := by
  rcases move_cases i m s with hs | ⟨claimed, t, t', world, hi, hm, hs⟩
  · rw [hs]
    exact h
  rw [hs]
  have ht : Known s.committed s.delivered t := h.known i t (by rw [hi]; rfl)
  have ht' : Known s.committed world.broker.delivered t' := ht.moved hm
  refine Accounted.setRelay (s := { s with world, publishes := _ }) ?_ i _ fun u hu => ?_
  · rcases (World.moved_cases hm).2 with
      ⟨hst, hd⟩ | ⟨hst, f, hf, _, hd⟩ | ⟨hd, _, o, _, ho, delay, σ, hσ, hst⟩
    · refine h.turn _ hd fun id => ?_
      rw [hst]
      exact .refl _ _
    · obtain ⟨e, he, hfix⟩ := ht.held f.record (Batch.mem_records_of_flight hf)
      exact h.deliver _ hd hst he (Record.message_eq_of_fixed hfix)
    · have ho : o ∈ t.outcomes := List.mem_of_getElem? ho
      obtain ⟨e, he, hfix⟩ := ht.held o.record (Batch.mem_records_of_outcome ho)
      refine h.turn _ hd fun id => ?_
      rw [hst]
      refine turn_write hσ (fun r hr => ?_) (ht.ended o ho) id
      rw [Record.id_eq_of_fixed hfix] at hr
      rw [Record.message_eq_of_fixed (h.kept.event h.ids he hr), Record.message_eq_of_fixed hfix]
  · injection hu with hu
    subst hu
    exact ht'

theorem act (h : Accounted s) {a : Action α} (hids : ((s.act a).committed.map Event.id).Nodup)
    (hhand : a.isByHand = false) : Accounted (s.act a) := by
  cases a with
  | enqueue e => exact h.enqueue e hids
  | openUnit j work =>
    obtain ⟨pieces, hs⟩ := openUnit_cases j work s
    rw [show s.act (.openUnit j work) = _ from hs]
    exact ⟨h.ids, h.kept, h.known, h.sent⟩
  | proceed j => exact h.proceed j hids
  | tick i config =>
    rcases tick_cases i config s with hs | ⟨_, hs⟩
    · rw [show s.act (.tick i config) = _ from hs]
      exact h
    · rw [show s.act (.tick i config) = _ from hs]
      exact h.setRelay i _ fun t ht => absurd ht.symm (Option.some_ne_none t)
  | claim i => exact h.claim i
  | move i m => exact h.move i m
  | conclude i k inTime => exact (h.move i (.land k inTime)).move i (.settle (s.unwritten i))
  | requeue id =>
    refine h.turn s.publishes ?_ fun i => ?_
    all_goals rcases World.requeue_cases id s.world with hw | ⟨σ, hσ, hw⟩
    all_goals rw [hw]
    · rfl
    · rfl
    · exact .refl _ _
    · exact turn_requeue hσ i
  | purge t =>
    rcases World.purge_cases t s.world with ha | ha
    · refine h.turn s.publishes (congrArg Broker.delivered ha.broker.symm) fun i => ?_
      rw [← ha.stores]
      exact .refl _ _
    · refine h.turn s.publishes (congrArg Broker.delivered ha.broker.symm) fun i => ?_
      rw [← ha.stores]
      exact turn_purge t i
  | take limit => cases hhand
  | write wr => cases hhand
  | script failures missing rollbackFailure faults => exact ⟨h.ids, h.kept, h.known, h.sent⟩

theorem step (h : Accounted s) {x : Step α} (hx : Ordinary s x) : Accounted (s.next x) := by
  have hat : Accounted (s.atTime x.start x.elapsed) := ⟨h.ids, h.kept, h.known, h.sent⟩
  exact hat.act (ofUsed hx.1) hx.2

end Accounted

end Site
end Outbox
