import Outbox.Proofs.Alone
import Outbox.Proofs.Delivery

/-!
# A relay that is alone delivers exactly once

The broker has one message for every publish that succeeded (`count_delivered`), and where a relay is
alone its spot tells how many these were (`Spot.sent`): none until a publish has succeeded, then one for
ever, be its record processed, removed or purged.

* `count_delivered`   the messages of an id are the publishes of it that succeeded;
* `Spot.Goes.sent`    a spot goes on telling how many they are;
* `delivered_once`    between two ticks a processed record and one that is gone have been delivered
                      exactly once, a pending and a failed one never.
-/

namespace Outbox

open Relay (Batch)
open Scenario (World)

/-- A publish succeeds. -/
def Happening.isDelivery : Happening → Bool
  | .ended _ (.ok _) => true
  | _ => false

/-! ## spots -/

namespace Spot

/-- how many publishes succeeded whose outcome is not written yet -/
def arrived : Option Batch.Place → Nat
  | some (.ended ⟨_, .ok _⟩) => 1
  | _ => 0

/-- how many publishes succeeded so far -/
def sent : Spot → Nat
  | ⟨none, _, _⟩ => 0
  | ⟨some _, none, _⟩ => 1
  | ⟨some _, some r, x⟩ => if r.status = .processed then 1 else arrived x

theorem sent_of_pending {e : Event} {r : Record} {x : Option Batch.Place} (hr : r.status = .pending) :
    sent ⟨some e, some r, x⟩ = arrived x := if_neg (by rw [hr]; decide)

theorem Goes.sent {u : Uuid} {p p' : Spot} {ns : List Happening} (h : p.Goes u ns p') (hp : p.Tidy) :
    p'.sent = p.sent + ns.countP Happening.isDelivery := by
  cases h with
  | stays => rfl
  | stored hid => rfl
  | claimed hr =>
    obtain ⟨e, rfl⟩ := hp.known rfl
    rw [sent_of_pending hr]
    exact sent_of_pending hr
  | @spared e o q => cases e <;> cases o <;> rfl
  | @called e o q => cases e <;> cases o <;> rfl
  | @ended _ _ q result =>
    obtain ⟨e, r, heq, hst, _⟩ := hp.stored (x := .flying q) rfl
    cases heq
    rw [sent_of_pending hst, sent_of_pending hst]
    cases result <;> rfl
  | @written _ o _ r' h =>
    obtain ⟨e, r, heq, hst, _⟩ := hp.stored (x := .ended o) rfl
    cases heq
    rw [sent_of_pending hst]
    obtain ⟨q, result⟩ := o
    cases h with
    | delivered hok hr =>
      cases hok
      rfl
    | removed hok =>
      cases hok
      rfl
    | failed he hr =>
      cases he
      refine if_neg ?_
      rw [Store.status_outcome]
      split <;> decide
  | requeued hr =>
    obtain ⟨e, rfl⟩ := hp.known rfl
    exact (if_neg (by rw [hr]; decide)).symm
  | purged hr =>
    obtain ⟨e, rfl⟩ := hp.known rfl
    exact (if_pos hr).symm

end Spot

namespace Site

variable {α : Type}

/-! ## messages -/

/-- the number of messages under an id -/
def deliveriesOf (u : Uuid) (ms : List Message) : Nat := ms.countP fun m => m.outboxId? = some u.text

theorem deliveriesOf_deliveredBy (u : Uuid) (r : Record) (result : Except PublishError Unit) :
    deliveriesOf u (deliveredBy r result) =
      ([Happening.ended r.id result].filter (·.id = u)).countP Happening.isDelivery := by
  cases result with
  | error e =>
    by_cases hu : r.id = u
    all_goals simp [deliveriesOf, deliveredBy, Happening.id, Happening.isDelivery, hu]
  | ok =>
    by_cases hu : r.id = u
    · simp [deliveriesOf, deliveredBy, Happening.id, Happening.isDelivery, Message.outboxId?_message, hu]
    · have htext : r.id.text ≠ u.text := fun h => hu (Uuid.text_inj h)
      simp [deliveriesOf, deliveredBy, Happening.id, Message.outboxId?_message, hu, htext]

theorem countP_isDelivery_of_none {ns : List Happening} (h : ∀ n ∈ ns, n.isDelivery = false) (u : Uuid) :
    (ns.filter (·.id = u)).countP Happening.isDelivery = 0 := by
  rw [List.countP_eq_zero]
  intro n hn
  rw [h n (List.mem_filter.1 hn).1]
  exact Bool.false_ne_true

theorem Effect.deliveries {s : Site α} {a : Action α} {v : View} {ns : List Happening}
    (h : Effect s a v ns) (u : Uuid) :
    deliveriesOf u v.delivered =
      deliveriesOf u s.delivered + (ns.filter (·.id = u)).countP Happening.isDelivery := by
  cases h with
  | stored _ es =>
    have hnone : ∀ n ∈ es.map fun e => Happening.stored e.id, n.isDelivery = false := by
      intro n hn
      obtain ⟨e, _, rfl⟩ := List.mem_map.1 hn
      rfl
    rw [countP_isDelivery_of_none hnone]
    rfl
  | started hr hw hf =>
    rw [countP_isDelivery_of_none fun n hn => by rw [List.mem_singleton.1 hn]; rfl]
    rfl
  | landed hr hf ht =>
    rw [← deliveriesOf_deliveredBy]
    exact List.countP_append
  | requeued h =>
    rw [countP_isDelivery_of_none fun n hn => by rw [List.mem_singleton.1 hn]; rfl]
    rfl
  | _ => rfl

theorem count_delivered {i : Nat} {w : World} {xs : List (Step α)}
    (hxs : (Site.new w).RunOk (Alone i) xs) (u : Uuid) :
    deliveriesOf u ((Site.new w).run xs).delivered =
      (((Site.new w).tale xs).filter (·.id = u)).countP Happening.isDelivery :=
  run_effects (s := Site.new w) (l := [])
    (I := fun v hs => deliveriesOf u v.delivered = (hs.filter (·.id = u)).countP Happening.isDelivery)
    (P := fun s a => s.world.faults = [] ∧ a.isOnly i = true) only_land
    (fun _ _ _ _ _ h _ hv _ => by rw [hv.deliveries, List.filter_append, List.countP_append, ← h]; rfl)
    rfl hxs

/-- **A relay that is alone delivers exactly once.**  One relay ticks again and again on an outbox that
was empty at first and does not fail, while events are enqueued, units of work come and go, dead letters
are requeued, old records are purged, and the broker fails as it likes.  Whenever it is between two
ticks, a committed event has been delivered exactly once if its record is processed or gone, and not at
all if it is pending or failed. -/
theorem delivered_once (i : Nat) (w : World) (xs : List (Step α))
    (hxs : (Site.new w).RunOk (Alone i) xs) (hfree : (((Site.new w).run xs).relays i).isFree = true)
    (u : Uuid) (hu : u ∈ ((Site.new w).run xs).committed.map Event.id) :
    deliveriesOf u ((Site.new w).run xs).delivered =
      match ((Site.new w).run xs).outbox.get? u with
      | none => 1
      | some r => if r.status = .processed then 1 else 0 := by
  obtain ⟨e, he, rfl⟩ := List.mem_map.1 hu
  obtain ⟨_, hsent⟩ := run_spots (J := fun _ p hs => hs.countP Happening.isDelivery = p.sent) w
    (fun _ => rfl) (fun u p ns p' hs h ht hg => by rw [List.countP_append, h, hg.sent ht]) hxs e.id
  rw [count_delivered hxs, hsent, spot_of_isFree hfree, find?_of_committed (committed_nodup hxs) he]
  cases ((Site.new w).run xs).outbox.get? e.id with
  | none => rfl
  | some r => rfl

/-- One event fails, is requeued and delivered; another is delivered and removed; a third waits. -/
theorem delivered_once_requeued :
    let w : World := { (default : World) with lease := .ofSecs 60 }
    let event (n : Nat) :=
      { Event.create (.ofNat n) "Todo" (.ofNat 7) "todos" "TODO_CREATED" .null .epoch with
        maxRetries := 0 }
    let deleting := { Relay.Config.standard with completion := .delete }
    let xs : List (Step Unit) :=
      [.script [.unavailable "no"] [] none [], .enqueue (event 1),
        .tick 0 .standard, .claim 0, .move 0 .start, .conclude 0 0 true, .requeue (.ofNat 1),
        .tick 0 .standard, .claim 0, .move 0 .start, .move 0 (.land 0 true), .move 0 (.settle 0),
        .enqueue (event 2), .tick 0 deleting, .claim 0, .move 0 .start, .conclude 0 0 true,
        .enqueue (event 3)].map fun a => ⟨.epoch, 0, a⟩
    ((Site.new w).RunOk (Alone 0) xs ∧ (((Site.new w).run xs).relays 0).isFree = true ∧
        ((Site.new w).run xs).committed.map Event.id = [.ofNat 1, .ofNat 2, .ofNat 3] ∧
        ((Site.new w).run xs).outbox.records.map (fun r => (r.id, r.status)) =
          [(.ofNat 1, .processed), (.ofNat 3, .pending)]) ∧
      deliveriesOf (.ofNat 2) ((Site.new w).run xs).delivered =
        match ((Site.new w).run xs).outbox.get? (.ofNat 2) with
        | none => 1
        | some r => if r.status = .processed then 1 else 0 :=
  have h := by decide +kernel
  have hfree := by decide +kernel
  ⟨⟨h, hfree, by decide +kernel, by decide +kernel⟩,
    delivered_once 0 _ _ h hfree _ (by decide +kernel)⟩

end Site
end Outbox
