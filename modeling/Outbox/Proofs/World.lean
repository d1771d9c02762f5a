import Outbox.Proofs.Batch
import Outbox.Proofs.Lookup
import Outbox.Scenario.World

/-!
# What the operations of a world do

A world holds more than its stores, its broker and its clock: scripted faults, chance and a log, which
nothing below depends on.

* `World.Alike`     two worlds that differ in nothing else;
* `claim_cases`, `write_cases`, `requeue_cases`, `purge_cases`   an operation on the outbox fails and
                    leaves everything as it was, or does what the store does;
* `write_error`     without faults only the store itself refuses a write;
* `arrive_cases`    a publish fails, or its message is delivered;
* `moved_cases`     what a move of a batch does to the world around it.
-/

namespace Outbox

/-- A publish fails and delivers nothing, or delivers the message of its record. -/
theorem Broker.answer_cases (r : Record) (b : Broker) :
    (∃ e, (b.answer r).1 = .error e) ∧ (b.answer r).2.delivered = b.delivered ∨
      (b.answer r).1 = .ok () ∧ (b.answer r).2.delivered = b.delivered ++ [r.message] := by
  unfold answer
  cases b.missing.contains r.topic with
  | true => exact Or.inl ⟨⟨_, rfl⟩, rfl⟩
  | false =>
    cases b.failures with
    | nil => exact Or.inr ⟨rfl, rfl⟩
    | cons e rest => exact Or.inl ⟨⟨e, rfl⟩, rfl⟩

theorem Relay.writeFor_id (completion : Completion) (r : Record) (result : Except PublishError Unit) :
    (writeFor completion r result).id = r.id := by
  cases result with
  | error e => rfl
  | ok => cases completion <;> rfl

namespace Scenario

namespace World

structure Alike (v w : World) : Prop where
  start : v.start = w.start
  elapsed : v.elapsed = w.elapsed
  stores : v.stores = w.stores
  broker : v.broker = w.broker
  lease : v.lease = w.lease

namespace Alike

variable {u v w : World}

theorem refl (w : World) : Alike w w := ⟨rfl, rfl, rfl, rfl, rfl⟩

theorem trans (h : Alike u v) (k : Alike v w) : Alike u w :=
  ⟨h.start.trans k.start, h.elapsed.trans k.elapsed, h.stores.trans k.stores,
    h.broker.trans k.broker, h.lease.trans k.lease⟩

theorem now (h : Alike v w) : v.now = w.now := by
  unfold World.now
  rw [h.start, h.elapsed]

theorem withOutbox (h : Alike v w) (s : Store) : Alike (v.withOutbox s) (w.withOutbox s) := by
  refine ⟨h.start, h.elapsed, ?_, h.broker, h.lease⟩
  show ({ v.stores with outbox := s } : Stores) = { w.stores with outbox := s }
  rw [h.stores]

end Alike

theorem addLog_alike (e : Log.Entry) (w : World) : Alike w (w.addLog e) := ⟨rfl, rfl, rfl, rfl, rfl⟩

theorem logAll_alike (lease : Duration) (e : Option Log.Entry) (w : World) :
    Alike w ((backend lease).logAll e w) := by
  cases e with
  | none => exact Alike.refl w
  | some e => exact addLog_alike e w

theorem takeFault_alike (m : Method) (w : World) : Alike w (w.takeFault m).2 := by
  unfold takeFault
  split
  · exact Alike.refl w
  · exact ⟨rfl, rfl, rfl, rfl, rfl⟩

/-- A method fails and leaves everything as it was, or is what it is in a world like this one. -/
theorem method_cases {β : Type} (m : Method) (f : World → Except StoreError β × World) (w : World) :
    (∃ e v, method m f w = (.error e, v) ∧ Alike w v) ∨ ∃ v, method m f w = f v ∧ Alike w v := by
  have ha := takeFault_alike m w
  unfold method
  rcases hf : w.takeFault m with ⟨fault, v⟩
  rw [hf] at ha
  cases fault with
  | none => exact Or.inr ⟨v, rfl, ha⟩
  | some e => exact Or.inl ⟨e, v, rfl, ha⟩

/-- Faults of other methods make no difference. -/
theorem method_of_unscripted {β : Type} {m : Method} (f : World → Except StoreError β × World)
    {w : World} (h : ∀ e, (m, e) ∉ w.faults) : method m f w = f w := by
  have hnone : w.faults.find? (·.1 = m) = none :=
    List.find?_eq_none.2 fun ⟨m', e⟩ hx hm => h e (of_decide_eq_true hm ▸ hx)
  unfold method takeFault
  rw [hnone]

theorem method_of_steady {β : Type} (m : Method) (f : World → Except StoreError β × World) {w : World}
    (h : w.faults = []) : method m f w = f w :=
  method_of_unscripted f fun _ => h ▸ List.not_mem_nil

theorem claim_cases (limit : Nat) (w : World) :
    (∃ e v, w.claim limit = (.error e, v) ∧ Alike w v) ∨
      ∃ v, w.claim limit = (.ok (w.stores.outbox.claim w.now w.lease limit).1, v) ∧
        Alike (w.withOutbox (w.stores.outbox.claim w.now w.lease limit).2) v := by
  rcases method_cases .fetch _ w with h | ⟨v, hv, ha⟩
  · exact Or.inl h
  · refine Or.inr ⟨v.withOutbox (w.stores.outbox.claim w.now w.lease limit).2, ?_, ha.withOutbox _⟩
    rw [ha.stores, ha.now, ha.lease]
    exact hv

/-- A change of the outbox goes through, or fails and changes nothing. -/
theorem changed_cases (w : World) (r : Except StoreError Store) :
    (∃ e, r = .error e ∧ w.changed r = (.error e, w)) ∨
      ∃ s, r = .ok s ∧ w.changed r = (.ok (), w.withOutbox s) := by
  cases r with
  | error e => exact Or.inl ⟨e, rfl, rfl⟩
  | ok s => exact Or.inr ⟨s, rfl, rfl⟩

theorem delay_alike (n : UInt32) (w : World) : Alike w (w.delay n).2 := by
  unfold delay
  rcases w.chance.next with ⟨sway, chance⟩
  exact ⟨rfl, rfl, rfl, rfl, rfl⟩

theorem write_update (id : Uuid) (status : Status) (n : UInt32) (err : Option String) (w : World) :
    w.write (.update id status n err) =
      method .update (fun v => (v.delay n).2.changed
        ((v.delay n).2.stores.outbox.update (v.delay n).2.now (v.delay n).1 id status n err)) w := by
  unfold write World.update
  congr 1

theorem write_delete (id : Uuid) (w : World) :
    w.write (.delete id) = method .delete (fun v => v.changed (v.stores.outbox.delete id)) w := by
  unfold write World.delete
  rfl

theorem write_cases {wr : Write} {w v : World} {reply : Except StoreError Unit}
    (h : w.write wr = (reply, v)) :
    (∃ e, reply = .error e ∧ Alike w v) ∨
      reply = .ok () ∧ ∃ delay s, w.stores.outbox.write w.now delay wr = .ok s ∧
        Alike (w.withOutbox s) v := by
  cases wr with
  | update id status n err =>
    rw [write_update] at h
    rcases method_cases .update (fun w => (w.delay n).2.changed
      ((w.delay n).2.stores.outbox.update (w.delay n).2.now (w.delay n).1 id status n err)) w with
      ⟨e, u, hu, ha⟩ | ⟨u, hu, ha⟩
    · obtain ⟨rfl, rfl⟩ := Prod.mk.inj (h.symm.trans hu)
      exact Or.inl ⟨e, rfl, ha⟩
    have ha := ha.trans (delay_alike n u)
    rcases changed_cases (u.delay n).2
      ((u.delay n).2.stores.outbox.update (u.delay n).2.now (u.delay n).1 id status n err) with
      ⟨e, _, hc⟩ | ⟨s, hs, hc⟩
    · obtain ⟨rfl, rfl⟩ := Prod.mk.inj (h.symm.trans (hu.trans hc))
      exact Or.inl ⟨e, rfl, ha⟩
    · obtain ⟨rfl, rfl⟩ := Prod.mk.inj (h.symm.trans (hu.trans hc))
      rw [← ha.stores, ← ha.now] at hs
      exact Or.inr ⟨rfl, (u.delay n).1, s, hs, ha.withOutbox s⟩
  | delete id =>
    rw [write_delete] at h
    rcases method_cases .delete (fun w => w.changed (w.stores.outbox.delete id)) w with
      ⟨e, u, hu, ha⟩ | ⟨u, hu, ha⟩
    · obtain ⟨rfl, rfl⟩ := Prod.mk.inj (h.symm.trans hu)
      exact Or.inl ⟨e, rfl, ha⟩
    rcases changed_cases u (u.stores.outbox.delete id) with ⟨e, _, hc⟩ | ⟨s, hs, hc⟩
    · obtain ⟨rfl, rfl⟩ := Prod.mk.inj (h.symm.trans (hu.trans hc))
      exact Or.inl ⟨e, rfl, ha⟩
    · obtain ⟨rfl, rfl⟩ := Prod.mk.inj (h.symm.trans (hu.trans hc))
      rw [← ha.stores] at hs
      exact Or.inr ⟨rfl, .ofNanos 0, s, hs, ha.withOutbox s⟩

/-- Without faults a write fails only where the store refuses it. -/
theorem write_error {wr : Write} {w v : World} {e : StoreError} (h : w.write wr = (.error e, v))
    (hf : w.faults = []) : ∃ delay e', w.stores.outbox.write w.now delay wr = .error e' := by
  cases wr with
  | update id status n err =>
    rw [write_update, method_of_steady _ _ hf] at h
    have ha := delay_alike n w
    rcases changed_cases (w.delay n).2
      ((w.delay n).2.stores.outbox.update (w.delay n).2.now (w.delay n).1 id status n err) with
      ⟨e', he, _⟩ | ⟨s, _, hc⟩
    · rw [← ha.stores, ← ha.now] at he
      exact ⟨(w.delay n).1, e', he⟩
    · cases (Prod.mk.inj (h.symm.trans hc)).1
  | delete id =>
    rw [write_delete, method_of_steady _ _ hf] at h
    rcases changed_cases w (w.stores.outbox.delete id) with ⟨e', he, _⟩ | ⟨s, _, hc⟩
    · exact ⟨.ofNanos 0, e', he⟩
    · cases (Prod.mk.inj (h.symm.trans hc)).1

theorem requeue_cases (id : Uuid) (w : World) :
    (w.requeue id).2 = w ∨
      ∃ s, w.stores.outbox.requeue w.now id = .ok s ∧ (w.requeue id).2 = w.withOutbox s := by
  rcases changed_cases w (w.stores.outbox.requeue w.now id) with ⟨e, _, hc⟩ | ⟨s, hs, hc⟩
  · exact Or.inl (congrArg Prod.snd hc)
  · exact Or.inr ⟨s, hs, congrArg Prod.snd hc⟩

theorem purge_cases (t : Timestamp) (w : World) :
    Alike w (w.purge t).2 ∨ Alike (w.withOutbox (w.stores.outbox.purge t).2) (w.purge t).2 := by
  rcases method_cases .purge (fun w => (.ok (w.stores.outbox.purge t).1,
      w.withOutbox (w.stores.outbox.purge t).2)) w with ⟨e, v, hv, ha⟩ | ⟨v, hv, ha⟩
  · have hp : w.purge t = (.error e, v) := hv
    rw [hp]
    exact Or.inl ha
  · have hp : w.purge t = (.ok (v.stores.outbox.purge t).1,
      v.withOutbox (v.stores.outbox.purge t).2) := hv
    rw [hp, ha.stores]
    exact Or.inr (ha.withOutbox _)

/-! ## moves of a batch -/

open Relay (Batch)

variable {lease : Duration} {t t' : Batch} {w w' : World}

/-- A publish fails and delivers nothing, or succeeds in time and delivers the message of its record. -/
theorem arrive_cases {r : Record} {inTime : Bool} {result : Except PublishError Unit}
    (h : t.arrive (backend lease) r inTime w = (result, w')) :
    ∃ b, w' = { w with broker := b } ∧
      ((∃ e, result = .error e) ∧ b.delivered = w.broker.delivered ∨
        result = .ok () ∧ inTime = true ∧ b.delivered = w.broker.delivered ++ [r.message]) := by
  unfold Batch.arrive at h
  split at h
  · rename_i htime
    obtain ⟨rfl, rfl⟩ := Prod.mk.inj h
    refine ⟨(w.broker.answer r).2, rfl, ?_⟩
    rcases w.broker.answer_cases r with h | ⟨hok, hd⟩
    · exact Or.inl h
    · exact Or.inr ⟨hok, htime, hd⟩
  · obtain ⟨rfl, rfl⟩ := Prod.mk.inj h
    exact ⟨w.broker, rfl, Or.inl ⟨⟨_, rfl⟩, rfl⟩⟩

/-- What a move does to a world: it lets the clocks be, delivers at most the message of a publish that
succeeds, and writes at most an outcome into the outbox. -/
theorem moved_cases {m : Relay.Move} (h : Batch.Moved (backend lease) t w m t' w') :
    (w'.start = w.start ∧ w'.elapsed = w.elapsed ∧ w'.lease = w.lease) ∧
      (w'.stores = w.stores ∧ w'.broker.delivered = w.broker.delivered ∨
        w'.stores = w.stores ∧
          (∃ f ∈ t.flights, t'.outcomes = t.outcomes ++ [⟨f.record, .ok ()⟩] ∧
            w'.broker.delivered = w.broker.delivered ++ [f.record.message]) ∨
        w'.broker.delivered = w.broker.delivered ∧
          ∃ i o, m = .settle i ∧ t.outcomes[i]? = some o ∧ ∃ delay s,
            w.stores.outbox.write w.now delay (Relay.writeFor t.config.completion o.record o.result) =
                .ok s ∧
              w'.stores = { w.stores with outbox := s }) := by
  cases h with
  | nothing _ => exact ⟨⟨rfl, rfl, rfl⟩, Or.inl ⟨rfl, rfl⟩⟩
  | late hw hf => exact ⟨⟨rfl, rfl, rfl⟩, Or.inl ⟨rfl, rfl⟩⟩
  | started hw hr hf => exact ⟨⟨rfl, rfl, rfl⟩, Or.inl ⟨rfl, rfl⟩⟩
  | @landed i f inTime result v hf ha =>
    have hlog := logAll_alike lease (Relay.published f.record result) v
    rw [← hlog.start, ← hlog.elapsed, ← hlog.lease, ← hlog.stores, ← hlog.broker]
    obtain ⟨b, rfl, ⟨_, hd⟩ | ⟨rfl, _, hd⟩⟩ := arrive_cases ha
    · exact ⟨⟨rfl, rfl, rfl⟩, Or.inl ⟨rfl, hd⟩⟩
    · exact ⟨⟨rfl, rfl, rfl⟩, Or.inr (Or.inl ⟨rfl, f, List.mem_of_getElem? hf, rfl, hd⟩)⟩
  | @settled i o reply v ho hw =>
    have hlog := logAll_alike lease (Relay.written o.record o.result reply) v
    rw [← hlog.start, ← hlog.elapsed, ← hlog.lease, ← hlog.stores, ← hlog.broker]
    rcases write_cases hw with ⟨e, _, ha⟩ | ⟨_, delay, s, hs, ha⟩
    · rw [← ha.start, ← ha.elapsed, ← ha.lease, ← ha.stores, ← ha.broker]
      exact ⟨⟨rfl, rfl, rfl⟩, Or.inl ⟨rfl, rfl⟩⟩
    · rw [← ha.start, ← ha.elapsed, ← ha.lease, ← ha.stores, ← ha.broker]
      exact ⟨⟨rfl, rfl, rfl⟩,
        Or.inr (Or.inr ⟨rfl, i, o, rfl, ho, delay, s, hs, rfl⟩)⟩

end World

end Scenario

end Outbox
