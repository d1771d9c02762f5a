import Outbox.Proofs.Delivery
import Outbox.Proofs.Effect
import Outbox.Proofs.RecordText
import Outbox.Proofs.TodoRetry

/-!
# What is delivered for a todo is the todo

* `Todo.read?_payload`       a todo is read back from the text of its event's payload;
* `Message.Says`             a message tells this of a todo;
* `Effect.origin`, `Effect.delivers`   what an effect stores and delivers is what was there before;
* `Carried`                  wherever the record of an event is, in the outbox, with a relay or in a
                             message, it has what the event has, in every run;
* `World.tellTodo`           the command that creates or deletes a todo;
* `todo_delivered`           what its publish delivers is read as this todo.
-/

namespace Outbox

open Scenario (World)

/-! ## the text of a todo -/

namespace Todo

/-- the members of a payload, their keys in order -/
def sorted (t : Todo) : List (String × Json) :=
  [("completed", .bool t.completed), ("created_at", Record.timeJson t.createdAt),
    ("id", Record.uuidJson t.id), ("title", .text t.title)]

theorem ofMembers_members (t : Todo) : Json.ofMembers t.members = .object t.sorted := rfl

theorem keyed_sorted (t : Todo) : Json.Keyed t.sorted := by
  have hkeys : ["completed", "created_at", "id", "title"].Pairwise (· < ·) := by decide
  exact List.pairwise_map.1 hkeys

theorem within_payload (t : Todo) :
    ∀ u ∈ (Json.object t.sorted).within, u.Legible ∧ u.Ascending := by
  have htext (s : String) : ∀ u ∈ (Json.text s).within, u.Legible ∧ u.Ascending :=
    List.forall_mem_singleton.2 ⟨trivial, trivial⟩
  have htime (t : Timestamp) : ∀ u ∈ (Record.timeJson t).within, u.Legible ∧ u.Ascending := htext t.text
  have huuid (id : Uuid) : ∀ u ∈ (Record.uuidJson id).within, u.Legible ∧ u.Ascending := htext id.text
  have hbool (b : Bool) : ∀ u ∈ (Json.bool b).within, u.Legible ∧ u.Ascending :=
    List.forall_mem_singleton.2 ⟨trivial, trivial⟩
  refine Json.forall_within_object ⟨trivial, t.keyed_sorted⟩ ?_
  unfold sorted
  simp only [List.forall_mem_cons]
  exact ⟨hbool _, htime _, huuid _, htext _, List.forall_mem_nil _⟩

/-- A todo is read back, whatever its id, its title and its time are. -/
theorem read?_payload (t : Todo) : read? (Json.ofMembers t.members).compact = some t := by
  have hdistinct : (t.sorted.map Prod.fst).Nodup := by
    show ["completed", "created_at", "id", "title"].Nodup
    decide
  have hfields : List.Forall₂ (fun name v => (name, v) ∈ t.sorted) fieldNames
      [Record.uuidJson t.id, .text t.title, .bool t.completed, Record.timeJson t.createdAt] := by
    simp [fieldNames, sorted]
  have hparts := Doc.parts?_doc hdistinct hfields
  have htext (s : String) : (Json.text s).doc.text? = some s := rfl
  have hbool (b : Bool) : (Json.bool b).doc.bool? = some b := rfl
  unfold read? Json.compact
  rw [ofMembers_members, String.toList_ofList, Doc.read?_write fun u hu => (t.within_payload u hu).1,
    Option.bind_some, ofDoc?, hparts]
  simp only [Option.bind_eq_bind, Option.bind_some, List.map_cons, List.map_nil,
    Record.readUuid?_doc, htext, hbool, Record.readTime?_doc]

/-- The payload is JSON. -/
theorem read?_compact_payload (t : Todo) :
    Json.read? (Json.ofMembers t.members).compact = some (Json.ofMembers t.members) := by
  have hdepth : (Json.object t.sorted).depth = 1 := rfl
  rw [ofMembers_members]
  exact Json.read?_compact (hdepth ▸ by decide) t.within_payload

end Todo

/-- The message tells this of the todo: its text is the todo, and nothing but the todo. -/
structure Message.Says (m : Message) (t : Todo) (news : Todo.News) : Prop where
  topic : m.topic = Todo.topic
  news : ("event_type", news.eventType) ∈ m.attributes
  json : Json.read? m.body = some (Json.ofMembers t.members)
  todo : Todo.read? m.body = some t

theorem Record.IsOf.says {r : Record} {t : Todo} {news : Todo.News} (h : r.IsOf t news) :
    r.message.Says t news := by
  rw [Record.message_eq_of_fixed h]
  exact ⟨rfl, by simp [Record.message, Event.record, Todo.event, Event.create], t.read?_compact_payload,
    t.read?_payload⟩

namespace Site

variable {α : Type} {s : Site α} {a : Action α} {v : View} {ns : List Happening}

/-! ## one event on its way -/

/-- A stored record is that of an event which is stored now, or was stored before. -/
theorem Effect.origin (h : Effect s a v ns) :
    ∃ es, v.committed = s.committed ++ es ∧ ∀ id r', v.outbox.get? id = some r' →
      (∃ e ∈ es, e.id = id ∧ r' = e.record) ∨ ∃ r, s.outbox.get? id = some r ∧ r'.fixed = r.fixed := by
  have hfrom {outbox : Store} (hs : s.outbox.From outbox) :
      ∃ es, s.committed = s.committed ++ es ∧ ∀ id r', outbox.get? id = some r' →
        (∃ e ∈ es, e.id = id ∧ r' = e.record) ∨ ∃ r, s.outbox.get? id = some r ∧ r'.fixed = r.fixed :=
    ⟨[], (List.append_nil _).symm, fun id r' hr' => Or.inr (hs id r' hr')⟩
  cases h with
  | stored _ es =>
    refine ⟨es, rfl, fun id r' hr' => ?_⟩
    rcases get?_putAll_cases es s.outbox id with hg | ⟨e, he, hid, hg⟩
    · exact Or.inr ⟨r', hg.symm.trans hr', rfl⟩
    · exact Or.inl ⟨e, he, hid, Option.some.inj (hr'.symm.trans hg)⟩
  | claimed _ => exact hfrom (.claim _ _ _ _)
  | settled _ _ hw => exact hfrom (.write hw)
  | requeued h => exact hfrom (.requeue h)
  | purged => exact hfrom (.purge _ _)
  | taken => exact hfrom (.claim _ _ _ _)
  | overwritten h => exact hfrom (.write h)
  | _ => exact hfrom (.refl _)

/-- An effect delivers nothing and no publish ends well, or it delivers the message of a record that a
relay held. -/
theorem Effect.delivers (h : Effect s a v ns) :
    (v.delivered = s.delivered ∧ ∀ id, .ended id (.ok ()) ∉ ns) ∨
      ∃ i, ∃ q ∈ (s.relays i).held, v.delivered = s.delivered ++ [q.message] ∧
        ns = [.ended q.id (.ok ())] := by
  cases h with
  | stored _ es =>
    refine Or.inl ⟨rfl, fun id hid => ?_⟩
    obtain ⟨e, _, he⟩ := List.mem_map.1 hid
    cases he
  | @landed i c k t f inTime result hr hf _ =>
    cases result with
    | error e =>
      refine Or.inl ⟨List.append_nil _, fun id hid => ?_⟩
      cases List.mem_singleton.1 hid
    | ok =>
      have hheld : f.record ∈ (s.relays i).held := by
        rw [hr, Post.held, Post.places, Relay.Batch.map_record_places]
        exact Relay.Batch.mem_records_of_flight (List.mem_of_getElem? hf)
      exact Or.inr ⟨i, f.record, hheld, rfl, rfl⟩
  | _ => exact Or.inl ⟨rfl, fun id hid => by simp at hid⟩

theorem act_first (a : Action α) (s : Site α) : (s.act a).first = s.first := by
  cases hprod : a.isProducing with
  | false => exact (act_same hprod s).1
  | true =>
    cases a with
    | enqueue e => rcases enqueue_cases e s with hs | ⟨_, hs⟩ <;> rw [show s.act (.enqueue e) = _ from hs]
    | openUnit j work =>
      obtain ⟨pieces, hs⟩ := openUnit_cases j work s
      rw [show s.act (.openUnit j work) = _ from hs]
    | proceed j =>
      rcases proceed_cases j s with ⟨_, _, _, hs⟩ | ⟨_, _, _, _, _, _, hs⟩ <;>
        rw [show s.act (.proceed j) = _ from hs]
    | _ => cases hprod

theorem used_of_committed {es : List Event} (h : (s.act a).committed = s.committed ++ es) :
    (s.act a).used = s.used ++ es.map Event.id := by
  unfold used
  rw [act_first, h, List.map_append, List.append_assoc]

theorem used_act (h : a.isProducing = false) (s : Site α) : (s.act a).used = s.used := by
  unfold used
  rw [act_first, (act_same h s).2.1]

/-- Wherever the record of `e` is, it has what the event has: in the outbox, with a relay, and in the
messages that were delivered after the first `n`; and such a message is there once a publish has ended
well. -/
structure Carried (e : Event) (n : Nat) (v : View) (ns : List Happening) : Prop where
  stored : ∀ r, v.outbox.get? e.id = some r → r.fixed = e.record.fixed
  held : ∀ i, ∀ q ∈ (v.relays i).held, q.id = e.id → q.fixed = e.record.fixed
  length : n ≤ v.delivered.length
  sent : ∀ m ∈ v.delivered.drop n, m.outboxId? = some e.id.text → m = e.record.message
  ended : .ended e.id (.ok ()) ∈ ns → e.record.message ∈ v.delivered.drop n

namespace Carried

variable {e : Event} {n : Nat} {l : List Happening}

theorem message (h : Carried e n v l) {i : Nat} {q : Record} (hq : q ∈ (v.relays i).held)
    (hid : q.id = e.id) : q.message = e.record.message :=
  Record.message_eq_of_fixed (h.held i q hq hid)

theorem effect (h : Carried e n s.view l) (hv : Effect s a v ns)
    (hnew : ∀ es, v.committed = s.committed ++ es → e.id ∉ es.map Event.id) :
    Carried e n v (l ++ ns) := by
  have hstored : ∀ r, v.outbox.get? e.id = some r → r.fixed = e.record.fixed := by
    intro r hr
    obtain ⟨es, hes, horigin⟩ := hv.origin
    rcases horigin e.id r hr with ⟨e', he', hid, _⟩ | ⟨r₀, hr₀, hf⟩
    · exact absurd (hid ▸ List.mem_map_of_mem he') (hnew es hes)
    · exact hf.trans (h.stored r₀ hr₀)
  have hheld : ∀ i, ∀ q ∈ (v.relays i).held, q.id = e.id → q.fixed = e.record.fixed := by
    intro i q hq hid
    rcases hv.mem_held hq with hq | ⟨hg, _⟩
    · exact h.held i q hq hid
    · exact h.stored q (hid ▸ hg)
  have hlength : n ≤ s.delivered.length := h.length
  rcases hv.delivers with ⟨hd, hnone⟩ | ⟨i, q, hq, hd, hns⟩
  · refine ⟨hstored, hheld, ?_, ?_, fun hended => ?_⟩
    all_goals rw [hd]
    · exact hlength
    · exact h.sent
    · exact h.ended ((List.mem_append.1 hended).resolve_right (hnone e.id))
  · have hdrop : v.delivered.drop n = s.delivered.drop n ++ [q.message] := by
      rw [hd, List.drop_append_of_le_length hlength]
    refine ⟨hstored, hheld, ?_, fun m hm hid => ?_, fun hended => ?_⟩
    · rw [hd, List.length_append]
      exact Nat.le_add_right_of_le hlength
    · rw [hdrop] at hm
      rcases List.mem_append.1 hm with hm | hm
      · exact h.sent m hm hid
      · obtain rfl := List.mem_singleton.1 hm
        exact h.message hq (Uuid.text_inj (Option.some.inj hid))
    · rw [hdrop]
      rcases List.mem_append.1 hended with hended | hended
      · exact List.mem_append_left _ (h.ended hended)
      · rw [hns] at hended
        have hid : e.id = q.id := (Happening.ended.inj (List.mem_singleton.1 hended)).1
        rw [← h.message hq hid.symm]
        exact List.mem_append_right _ List.mem_cons_self

theorem act (h : Carried e n s.view l) (hused : e.id ∈ s.used) (hfresh : (s.act a).used.Nodup) :
    Carried e n (s.act a).view (l ++ s.news a) ∧ e.id ∈ (s.act a).used := by
  refine act_effects (I := fun s l => Carried e n s.view l ∧ e.id ∈ s.used)
    (P := fun s a => (s.act a).used.Nodup) (fun s i k inTime hfresh => ?_)
    (fun s a l h hfresh hv _ => ?_) ⟨h, hused⟩ hfresh (List.nodup_append.1 hfresh).2.1
  · have hl := used_act (a := .move i (.land k inTime)) rfl s
    have hs := used_act (a := .move i (.settle (s.unwritten i))) rfl (s.act (.move i (.land k inTime)))
    rw [used_act rfl] at hfresh
    rw [hs, hl]
    exact ⟨hfresh, hfresh⟩
  · obtain ⟨h, hused⟩ := h
    obtain ⟨es, hes, _⟩ := hv.origin
    have hact : (s.act a).used = s.used ++ es.map Event.id := used_of_committed hes
    refine ⟨h.effect hv fun es' hes' hid => ?_, by rw [hact]; exact List.mem_append_left _ hused⟩
    rw [used_of_committed hes'] at hfresh
    exact (List.nodup_append.1 hfresh).2.2 _ hused _ hid rfl

theorem run (h : Carried e n s.view l) (hused : e.id ∈ s.used) {xs : List (Step α)}
    (hxs : s.RunOk Fresh xs) : Carried e n (s.run xs).view (l ++ s.tale xs) := by
  induction xs generalizing s l with
  | nil => exact (List.append_nil l).symm ▸ h
  | cons x xs ih =>
    obtain ⟨hnext, hused'⟩ := Carried.act (s := s.atTime x.start x.elapsed) h hused hxs.1
    have hrun := ih hnext hused' hxs.2
    rwa [List.append_assoc] at hrun

end Carried

end Site

/-! ## commands -/

namespace Scenario.World

/-- the command that has this told of a todo -/
def tellTodo (news : Todo.News) (eventId : Uuid) (t : Todo) (w : World) : Except StoreError Todo × World :=
  match news with
  | .created => w.createTodo eventId t
  | .deleted => w.deleteTodo eventId t.id

/-- The command succeeds, and stores the record of its event. -/
theorem tellTodo_eq {w : World} {t : Todo} {news : Todo.News} (eventId : Uuid)
    (hstored : news = .deleted → w.stores.todos.get? t.id = some t)
    (hfree : w.stores.outbox.hasKey (t.dedupeKey news) = false) :
    (w.tellTodo news eventId t).1 = .ok t ∧
      (w.tellTodo news eventId t).2.stores.outbox =
        w.stores.outbox.put (t.event news eventId w.now).record := by
  have hkey : ¬ w.stores.outbox.keyTaken (t.event news eventId w.now).dedupeKey = true :=
    ne_true_of_eq_false hfree
  cases news with
  | created =>
    obtain ⟨hok, hstores⟩ := w.createTodo_eq eventId t
    refine ⟨hok, (congrArg Stores.outbox hstores).trans ?_⟩
    rw [Store.enqueue_free hkey]
  | deleted =>
    obtain ⟨hresult, hstores⟩ := w.command_eq .deleted (Todo.deletion t.id eventId)
    rw [Stores.execute_deletion, hstored rfl] at hresult hstores
    refine ⟨hresult, (congrArg Stores.outbox hstores).trans ?_⟩
    show (w.stores.outbox.enqueue (t.event .deleted eventId w.now)).2 = _
    rw [Store.enqueue_free hkey]

end Scenario.World

namespace Site

variable {α : Type}

theorem Carried.ofWorld {e : Event} {w : World} (h : w.stores.outbox.get? e.id = some e.record) :
    Carried e w.broker.delivered.length (Site.ofWorld w : Site α).view [] where
  stored := fun _ hr => congrArg Record.fixed (Option.some.inj (hr.symm.trans h))
  held := fun _ _ hq => absurd hq List.not_mem_nil
  length := Nat.le_refl _
  sent := fun _ hm => absurd (List.drop_length (l := w.broker.delivered) ▸ hm) List.not_mem_nil
  ended := fun hended => absurd hended List.not_mem_nil

/-- **What is delivered for a todo is the todo.**  A todo is created or deleted, whatever its id, its title
and its time are, under any event id, and nobody was told that before; then relays work on the outbox,
beside anything else.  Every message that is delivered for the event of the command has a JSON text that is
read as this todo, and a publish of the event that ends well has delivered such a message. -/
theorem todo_delivered (w : World) (id : Uuid) (t : Todo) (news : Todo.News)
    (hstored : news = .deleted → w.stores.todos.get? t.id = some t)
    (hfree : w.stores.outbox.hasKey (t.dedupeKey news) = false) :
    let s : Site α := .ofWorld (w.tellTodo news id t).2
    ((w.tellTodo news id t).1 = .ok t ∧
        ∃ r, s.outbox.get? id = some r ∧ r.status = .pending ∧ r.IsOf t news) ∧
      ∀ xs : List (Step α), s.RunOk Fresh xs →
        (∀ m ∈ (s.run xs).delivered.drop s.delivered.length,
            m.outboxId? = some id.text → m.Says t news) ∧
          (.ended id (.ok ()) ∈ s.tale xs →
            ∃ m ∈ (s.run xs).delivered.drop s.delivered.length,
              m.outboxId? = some id.text ∧ m.Says t news) := by
  intro s
  obtain ⟨hok, houtbox⟩ := World.tellTodo_eq id hstored hfree
  have hof := Record.IsOf.event t news id w.now
  have hget : s.outbox.get? id = some (t.event news id w.now).record := by
    show (w.tellTodo news id t).2.stores.outbox.get? id = _
    rw [houtbox, Store.get?_put]
    exact if_pos rfl
  refine ⟨⟨hok, _, hget, rfl, hof⟩, fun xs hxs => ?_⟩
  have hused : id ∈ s.used := Stocked.ofWorld _ id _ hget
  have hstart : Carried (t.event news id w.now) _ s.view [] := .ofWorld hget
  have hrun := hstart.run hused hxs
  refine ⟨fun m hm hid => ?_, fun hended => ⟨_, hrun.ended hended, rfl, hof.says⟩⟩
  rw [hrun.sent m hm hid]
  exact hof.says

/-- A todo of a leap second long ago, with a quote, a line end and a letter from beyond the first plane in
its title, is created and delivered. -/
theorem todo_delivered_odd :
    let w : World := { (default : World) with lease := .ofSecs 60 }
    let t : Todo :=
      ⟨.ofNat 7, "\"ship\"\n\\it 🚀", true, ⟨-8334601228741, 1500000000, by decide, by decide, by decide⟩⟩
    let id := Uuid.ofNat 0x0190a5b2c3d47e5f8a6b9c0d1e2f3a4b
    let s : Site Unit := .ofWorld (w.tellTodo .created id t).2
    let xs : List (Step Unit) :=
      [.tick 0 .standard, .claim 0, .move 0 .start, .conclude 0 0 true].map fun a => ⟨.epoch, 0, a⟩
    (w.stores.outbox.hasKey (t.dedupeKey .created) = false ∧ s.RunOk Fresh xs ∧
        (s.run xs).delivered.map Message.outboxId? = [some id.text]) ∧
      ∃ m ∈ (s.run xs).delivered, m.outboxId? = some id.text ∧ m.Says t .created := by
  intro w t id s xs
  have hfree : w.stores.outbox.hasKey (t.dedupeKey .created) = false := by decide +kernel
  have hxs : s.RunOk Fresh xs := by decide +kernel
  have hids : (s.run xs).delivered.map Message.outboxId? = [some id.text] := by decide +kernel
  obtain ⟨_, hrun⟩ := @todo_delivered Unit w id t .created nofun hfree
  obtain ⟨m, hm, hid⟩ := List.mem_map.1 (hids ▸ List.mem_cons_self)
  exact ⟨⟨hfree, hxs, hids⟩, m, hm, hid, (hrun xs hxs).1 m hm hid⟩

end Site

end Outbox
