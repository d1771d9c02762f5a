import Outbox.Proofs.Effect

/-!
# A relay that is alone

Where only one relay delivers and the store does not fail, every record goes its own way, no matter what
else is stored, claimed or delivered.

* `Site.Alone`     a step in which only the relay `i` delivers;
* `Spot`           all that concerns one id: its event, its record and where the relay has it;
* `Spot.Goes`      what can become of a spot in one step, and what is told of it;
* `Solo`           what the relay holds is pending, distinct, and as it was when it was claimed;
* `Along`          what a step does to all spots;
* `Effect.goes`    whatever happens at the site, every spot goes;
* `run_spots`      a run keeps of every spot what its going keeps.
-/

namespace Outbox

open Relay (Batch Flight Outcome)
open Scenario (World Method)

/-! ## lists with distinct keys -/

section
variable {β : Type} {k : β → Uuid} {l l' : List β} {u : Uuid}

theorem find?_key_eq_some (h : (l.map k).Nodup) {a : β} :
    l.find? (fun b => k b = u) = some a ↔ a ∈ l ∧ k a = u := by
  constructor
  · intro ha
    exact ⟨List.mem_of_find?_eq_some ha, by simpa using List.find?_some ha⟩
  · rintro ⟨ha, rfl⟩
    cases hf : l.find? (fun b => k b = k a) with
    | none => exact absurd (decide_eq_true rfl) (List.find?_eq_none.1 hf a ha)
    | some b =>
      have hb : k b = k a := by simpa using List.find?_some hf
      rw [List.inj_on_of_nodup_map h (List.mem_of_find?_eq_some hf) ha hb]

theorem find?_key_eq_none : l.find? (fun b => k b = u) = none ↔ u ∉ l.map k := by
  rw [List.find?_eq_none, List.mem_map]
  simp

theorem find?_key_perm (h : (l.map k).Nodup) (hp : l.Perm l') :
    l.find? (fun b => k b = u) = l'.find? (fun b => k b = u) := by
  have h' : (l'.map k).Nodup := (hp.map k).nodup_iff.1 h
  ext a
  rw [find?_key_eq_some h, find?_key_eq_some h', hp.mem_iff]

/-- What is found under the key of `x`, and under another key, with `x` and without it. -/
theorem find?_key_perm_cons (h : (l.map k).Nodup) {x : β} (hp : l.Perm (x :: l')) :
    l.find? (fun b => k b = k x) = some x ∧ l'.find? (fun b => k b = k x) = none ∧
      ∀ u, k x ≠ u → l.find? (fun b => k b = u) = l'.find? fun b => k b = u := by
  refine ⟨(find?_key_eq_some h).2 ⟨hp.mem_iff.2 List.mem_cons_self, rfl⟩, ?_, fun u hu => ?_⟩
  · have hn := (hp.map k).nodup_iff.1 h
    rw [List.map_cons, List.nodup_cons] at hn
    exact find?_key_eq_none.2 hn.1
  · rw [find?_key_perm h hp]
    exact List.find?_cons_of_neg (by simpa using hu)

end

/-! ## steps -/

namespace Action

variable {α : Type}

/-- whether nobody delivers but the relay `i` -/
def isOnly (i : Nat) : Action α → Bool
  | .tick j _ => j = i
  | .claim j => j = i
  | .move j _ => j = i
  | .conclude j _ _ => j = i
  | .take _ => false
  | .write _ => false
  | _ => true

end Action

/-! ## spots -/

structure Spot where
  event : Option Event
  record : Option Record
  place : Option Batch.Place

namespace Spot

open Site (Written)

/-- One step, as seen from the id `u`. -/
inductive Goes (u : Uuid) : Spot → List Happening → Spot → Prop where
  | stays {p : Spot} : Goes u p [] p
  | stored {e : Event} (hid : e.id = u) :
      Goes u ⟨none, none, none⟩ [.stored u] ⟨some e, some e.record, none⟩
  | claimed {e : Option Event} {r : Record} {time : Timestamp} (hr : r.status = .pending) :
      Goes u ⟨e, some r, none⟩ [] ⟨e, some { r with availableAt := time }, some (.waiting r)⟩
  /-- The lease is too short. -/
  | spared {e : Option Event} {o : Option Record} {q : Record} :
      Goes u ⟨e, o, some (.waiting q)⟩ [] ⟨e, o, none⟩
  | called {e : Option Event} {o : Option Record} {q : Record} :
      Goes u ⟨e, o, some (.waiting q)⟩ [.called u] ⟨e, o, some (.flying q)⟩
  | ended {e : Option Event} {o : Option Record} {q : Record} {result : Except PublishError Unit} :
      Goes u ⟨e, o, some (.flying q)⟩ [.ended u result] ⟨e, o, some (.ended ⟨q, result⟩)⟩
  | written {e : Option Event} {o : Outcome} {r r' : Option Record} (h : Written o r r') :
      Goes u ⟨e, r, some (.ended o)⟩ [] ⟨e, r', none⟩
  | requeued {e : Option Event} {r : Record} {time : Timestamp} (hr : r.status = .failed) :
      Goes u ⟨e, some r, none⟩ [.requeued u]
        ⟨e, some { r with status := .pending, retryCount := 0, availableAt := time, processedAt := none },
          none⟩
  | purged {e : Option Event} {r : Record} (hr : r.status = .processed) :
      Goes u ⟨e, some r, none⟩ [] ⟨e, none, none⟩

/-- What the relay has is pending, and stored as it was when it was claimed, but hidden. -/
structure Tidy (p : Spot) : Prop where
  absent : p.event = none → p.record = none
  held : ∀ x, p.place = some x →
    x.record.status = .pending ∧ ∃ time, p.record = some { x.record with availableAt := time }

theorem Goes.tidy {u : Uuid} {p p' : Spot} {ns : List Happening} (h : p.Goes u ns p')
    (hp : p.Tidy) : p'.Tidy := by
  obtain ⟨habsent, hheld⟩ := hp
  have hnone {q : Option Record} (x : Batch.Place) (hx : none = some x) :
      x.record.status = .pending ∧ ∃ time, q = some { x.record with availableAt := time } := by
    cases hx
  cases h with
  | stays => exact ⟨habsent, hheld⟩
  | stored hid => exact ⟨fun he => absurd he (Option.some_ne_none _), hnone⟩
  | @claimed e r time hr =>
    refine ⟨fun he => absurd (habsent he) (Option.some_ne_none r), fun x hx => ?_⟩
    cases hx
    exact ⟨hr, time, rfl⟩
  | spared => exact ⟨habsent, hnone⟩
  | @called e o q =>
    refine ⟨habsent, fun x hx => ?_⟩
    cases hx
    exact hheld (.waiting q) rfl
  | @ended e o q =>
    refine ⟨habsent, fun x hx => ?_⟩
    cases hx
    exact hheld (.flying q) rfl
  | written h =>
    refine ⟨fun he => ?_, hnone⟩
    have hr := habsent he
    cases h with
    | delivered hok hst => cases hr
    | removed hok => rfl
    | failed herr hst => cases hr
  | @requeued e r time hr =>
    exact ⟨fun he => absurd (habsent he) (Option.some_ne_none r), hnone⟩
  | purged hr => exact ⟨fun _ => rfl, hnone⟩

theorem Tidy.known {p : Spot} (h : p.Tidy) {r : Record} (hr : p.record = some r) :
    ∃ e, p.event = some e := by
  cases he : p.event with
  | none =>
    rw [h.absent he] at hr
    cases hr
  | some e => exact ⟨e, rfl⟩

/-- What is in a batch is stored, and differs from the batch in nothing but the time it is hidden until. -/
theorem Tidy.stored {p : Spot} (h : p.Tidy) {x : Batch.Place} (hx : p.place = some x) :
    ∃ e r, p = ⟨some e, some r, some x⟩ ∧ r.status = .pending ∧
      r = { x.record with availableAt := r.availableAt } := by
  obtain ⟨hst, time, hr⟩ := h.held x hx
  obtain ⟨e, he⟩ := h.known hr
  refine ⟨e, { x.record with availableAt := time }, ?_, hst, rfl⟩
  obtain ⟨event, record, place⟩ := p
  cases he
  cases hr
  cases hx
  rfl

/-- A record that is not pending is nowhere in a batch. -/
theorem Tidy.place_eq_none {p : Spot} (h : p.Tidy) {r : Record} (hr : p.record = some r)
    (hst : r.status ≠ .pending) : p.place = none := by
  cases hx : p.place with
  | none => rfl
  | some x =>
    obtain ⟨e, r', rfl, hp, _⟩ := h.stored hx
    injection hr with hr
    rw [hr] at hp
    exact absurd hp hst

end Spot

namespace Site

variable {α : Type}

/-- what a step is like while only the relay `i` delivers and the store does not fail -/
def Alone (i : Nat) (s : Site α) (x : Step α) : Prop :=
  s.Fresh x ∧ s.world.faults = [] ∧ x.action.isOnly i = true

instance (i : Nat) (s : Site α) (x : Step α) : Decidable (s.Alone i x) :=
  inferInstanceAs (Decidable (_ ∧ _))

def View.spot (i : Nat) (u : Uuid) (v : View) : Spot where
  event := v.committed.find? fun e => e.id = u
  record := v.outbox.get? u
  place := (v.relays i).places.find? fun x => x.record.id = u

theorem View.spot_setRelay (i : Nat) (u : Uuid) (v : View) (p : Post) (outbox : Store)
    (delivered : List Message) :
    View.spot i u { v.setRelay i p with outbox, delivered } =
      ⟨v.committed.find? fun e => e.id = u, outbox.get? u, p.places.find? fun x => x.record.id = u⟩ := by
  unfold View.spot
  rw [show View.relays { v.setRelay i p with outbox, delivered } = (v.setRelay i p).relays from rfl,
    View.relays_setRelay_self]
  rfl

structure Solo (i : Nat) (v : View) : Prop where
  apart : ((v.relays i).places.map fun x => x.record.id).Nodup
  tidy : ∀ u, (v.spot i u).Tidy

namespace Solo

variable {i : Nat} {s : Site α} {v : View} {ns : List Happening} {a : Action α}

theorem new (i : Nat) (w : World) : Solo i (Site.new w : Site α).view where
  apart := List.nodup_nil
  tidy := fun _ => ⟨fun _ => rfl, fun x hx => by cases hx⟩

/-- An id that is not committed is nowhere. -/
theorem spot_of_new (h : Solo i s.view) {u : Uuid} (hu : u ∉ s.committed.map Event.id) :
    s.view.spot i u = ⟨none, none, none⟩ := by
  have hev : (s.view.spot i u).event = none := find?_key_eq_none.2 hu
  have hrec := (h.tidy u).absent hev
  have hpl : (s.view.spot i u).place = none := by
    cases hx : (s.view.spot i u).place with
    | none => rfl
    | some x =>
      obtain ⟨_, _, hr⟩ := (h.tidy u).held x hx
      rw [hrec] at hr
      cases hr
  cases hp : s.view.spot i u
  rw [hp] at hev hrec hpl
  cases hev
  cases hrec
  cases hpl
  rfl

end Solo

/-- what a step does to the spots, and what is told of it -/
structure Along (i : Nat) (s : Site α) (ns : List Happening) (v : View) : Prop where
  apart : ((v.relays i).places.map fun x => x.record.id).Nodup
  goes : ∀ u, (s.view.spot i u).Goes u (ns.filter (·.id = u)) (v.spot i u)

section
variable {i : Nat} {s : Site α} {u : Uuid}

theorem filter_stored (es : List Event) (hu : u ∉ es.map Event.id) :
    (es.map fun e => Happening.stored e.id).filter (·.id = u) = [] := by
  rw [List.filter_eq_nil_iff]
  intro n hn
  obtain ⟨e, he, rfl⟩ := List.mem_map.1 hn
  have hne : e.id ≠ u := fun hid => hu (List.mem_map.2 ⟨e, he, hid⟩)
  exact fun hn => hne (of_decide_eq_true hn)

theorem goes_stored (h : Solo i s.view) (es : List Event)
    (hids : ((s.committed ++ es).map Event.id).Nodup) (u : Uuid) :
    (s.view.spot i u).Goes u ((es.map fun e => Happening.stored e.id).filter (·.id = u))
      (View.spot i u
        { s.view with
          outbox := es.foldl (fun o e => o.put e.record) s.outbox, committed := s.committed ++ es }) := by
  by_cases hu : u ∈ es.map Event.id
  case neg =>
    have hev : (s.committed ++ es).find? (fun e => e.id = u) = s.committed.find? fun e => e.id = u := by
      rw [List.find?_append, find?_key_eq_none.2 hu, Option.or_none]
    rw [filter_stored es hu]
    unfold View.spot
    rw [hev, get?_putAll hu]
    exact .stays
  obtain ⟨e, he, rfl⟩ := List.mem_map.1 hu
  obtain ⟨l, l', rfl⟩ := List.append_of_mem he
  have hold : e.id ∉ s.committed.map Event.id := by
    rw [List.map_append, List.nodup_append] at hids
    exact fun hmem => hids.2.2 _ hmem _ hu rfl
  have hnew := h.spot_of_new hold
  have hplace : (s.relays i).places.find? (fun x => x.record.id = e.id) = none :=
    congrArg Spot.place hnew
  have hev := (find?_key_eq_some hids).2 ⟨List.mem_append_right s.committed he, rfl⟩
  rw [List.map_append, List.nodup_append, List.map_append, List.map_cons, List.nodup_append,
    List.nodup_cons] at hids
  obtain ⟨_, ⟨_, ⟨hl', _⟩, hl⟩, _⟩ := hids
  have hl : e.id ∉ l.map Event.id := fun hmem => hl _ hmem _ List.mem_cons_self rfl
  have hrec : ((l ++ e :: l').foldl (fun o e => o.put e.record) s.outbox).get? e.id =
      some e.record := by
    rw [List.foldl_append, List.foldl_cons, get?_putAll hl', Store.get?_put]
    exact if_pos rfl
  have hnews : ((l ++ e :: l').map fun e => Happening.stored e.id).filter (·.id = e.id) =
      [.stored e.id] := by
    rw [List.map_append, List.map_cons, List.filter_append, filter_stored l hl,
      List.filter_cons_of_pos (by simp [Happening.id]), filter_stored l' hl']
    rfl
  rw [hnew, hnews]
  unfold View.spot
  rw [hev, hrec, show View.relays { s.view with .. } i = s.relays i from rfl, hplace]
  exact .stored rfl

/-- A record goes from one place to another, or leaves the batch, and the others stay where they are. -/
theorem goes_shift (h : Solo i s.view) {x : Batch.Place} {y : Option Batch.Place}
    {others : List Batch.Place} {p : Post} (hx : (s.relays i).places.Perm (x :: others))
    (hy : p.places.Perm (y.toList ++ others)) (hxy : ∀ z ∈ y, z.record.id = x.record.id)
    {outbox : Store} (hout : ∀ u, u ≠ x.record.id → outbox.get? u = s.outbox.get? u)
    {ns : List Happening} (hns : ∀ n ∈ ns, n.id = x.record.id) (delivered : List Message)
    (hgo : Spot.Goes x.record.id
      ⟨s.committed.find? fun e => e.id = x.record.id, s.outbox.get? x.record.id, some x⟩ ns
      ⟨s.committed.find? fun e => e.id = x.record.id, outbox.get? x.record.id, y⟩) :
    Along i s ns { s.view.setRelay i p with outbox, delivered } := by
  obtain ⟨hself, hnone, hne⟩ := find?_key_perm_cons h.apart hx
  have hothers := (hx.map fun x => x.record.id).nodup_iff.1 h.apart
  have hp : (p.places.map fun x => x.record.id).Nodup := by
    rw [(hy.map fun x => x.record.id).nodup_iff]
    cases y with
    | none => exact (List.nodup_cons.1 hothers).2
    | some z =>
      rw [List.map_cons, ← hxy z rfl] at hothers
      exact hothers
  refine ⟨?_, fun u => ?_⟩
  · show (((s.view.setRelay i p).relays i).places.map _).Nodup
    rwa [View.relays_setRelay_self]
  rw [View.spot_setRelay]
  unfold View.spot
  rw [find?_key_perm hp hy]
  by_cases hu : u = x.record.id
  · subst hu
    have hfound : (y.toList ++ others).find? (fun z => z.record.id = x.record.id) = y := by
      cases y with
      | none => exact hnone
      | some z => exact List.find?_cons_of_pos (decide_eq_true (hxy z rfl))
    have hself : (s.view.relays i).places.find? (fun z => z.record.id = x.record.id) = some x := hself
    have hall : ns.filter (·.id = x.record.id) = ns :=
      List.filter_eq_self.2 fun n hn => decide_eq_true (hns n hn)
    rw [hself, hfound, hall]
    exact hgo
  · have hsame : (y.toList ++ others).find? (fun z => z.record.id = u) =
        others.find? fun z => z.record.id = u := by
      cases y with
      | none => rfl
      | some z => exact List.find?_cons_of_neg (by simpa [hxy z rfl] using Ne.symm hu)
    have hnone : ns.filter (·.id = u) = [] := by
      rw [List.filter_eq_nil_iff]
      exact fun n hn hnu => hu ((of_decide_eq_true hnu).symm.trans (hns n hn))
    rw [hsame, ← hne u (Ne.symm hu), hout u hu, hnone]
    exact .stays

/-- What a claim brings is waiting, and hidden from now on. -/
theorem goes_claim {c : Nat} {t : Batch} {now : Timestamp} {lease : Duration} {limit : Nat}
    (hp : (s.relays i).places = [])
    (ht : t.places = (s.outbox.claim now lease limit).1.map .waiting) :
    Along i s []
      { s.view.setRelay i (.busy c t) with outbox := (s.outbox.claim now lease limit).2 } := by
  have hids : (t.places.map fun x => x.record.id).Nodup := by
    rw [ht, List.map_map]
    exact Store.claim_nodup s.outbox now lease limit
  refine ⟨?_, fun u => ?_⟩
  · show (((s.view.setRelay i (.busy c t)).relays i).places.map _).Nodup
    rwa [View.relays_setRelay_self]
  rw [View.spot_setRelay]
  unfold View.spot
  rw [show (s.view.relays i).places = [] from hp, show (Post.busy c t).places = t.places from rfl]
  by_cases hu : ∃ r ∈ (s.outbox.claim now lease limit).1, r.id = u
  · obtain ⟨r, hr, rfl⟩ := hu
    obtain ⟨hg, hst, _⟩ := Store.mem_claim hr
    have hmem : Batch.Place.waiting r ∈ t.places := ht ▸ List.mem_map_of_mem hr
    have hfind := (find?_key_eq_some (u := r.id) hids).2 ⟨hmem, rfl⟩
    rw [hfind, Store.get?_claim_of_mem hr, show s.view.outbox.get? r.id = _ from hg]
    exact .claimed hst
  · have hnot : u ∉ t.places.map fun x => x.record.id := by
      rw [ht, List.map_map, List.mem_map]
      exact hu
    rw [find?_key_eq_none.2 hnot, Store.get?_claim_of_notMem fun r hr hru => hu ⟨r, hr, hru⟩]
    exact .stays

/-- A relay that holds nothing goes on holding nothing. -/
theorem goes_empty {p : Post} (hp : (s.relays i).places = []) (hp' : p.places = []) :
    Along i s [] (s.view.setRelay i p) := by
  refine ⟨?_, fun u => ?_⟩
  · rw [View.relays_setRelay_self, hp']
    exact List.nodup_nil
  rw [show s.view.setRelay i p = { s.view.setRelay i p with outbox := s.outbox, delivered := s.delivered }
    from rfl, View.spot_setRelay]
  unfold View.spot
  rw [hp', show (s.view.relays i).places = [] from hp]
  exact .stays

theorem goes_requeue (h : Solo i s.view) {now : Timestamp} {id : Uuid} {outbox : Store}
    (hq : s.outbox.requeue now id = .ok outbox) :
    Along i s [.requeued id] { s.view with outbox } := by
  obtain ⟨r, hg, hst, hs⟩ := Store.get?_requeue hq
  refine ⟨h.apart, fun u => ?_⟩
  unfold View.spot
  rw [hs u]
  by_cases hu : u = id
  · subst hu
    have hplace : (s.view.relays i).places.find? (fun x => x.record.id = u) = none :=
      (h.tidy u).place_eq_none hg (by rw [hst]; decide)
    have hnews : [Happening.requeued u].filter (·.id = u) = [.requeued u] := by simp [Happening.id]
    rw [if_pos rfl, show s.view.outbox.get? u = _ from hg, hplace, hnews]
    exact .requeued hst
  · have hnews : [Happening.requeued id].filter (·.id = u) = [] := by
      simp [Happening.id, Ne.symm hu]
    rw [if_neg hu, hnews]
    exact .stays

theorem goes_purge (h : Solo i s.view) (time : Timestamp) :
    Along i s [] { s.view with outbox := (s.outbox.purge time).2 } := by
  refine ⟨h.apart, fun u => ?_⟩
  unfold View.spot
  rcases Store.get?_purge_cases time s.outbox u with hg | ⟨r, hr, hst, hg⟩
  · rw [hg]
    exact .stays
  · have hplace : (s.view.relays i).places.find? (fun x => x.record.id = u) = none :=
      (h.tidy u).place_eq_none hr (by rw [hst]; decide)
    rw [hg, show s.view.outbox.get? u = _ from hr, hplace]
    exact .purged hst

/-- A pending record takes any outcome. -/
theorem write_ne_error {σ : Store} {q r : Record} (hg : σ.get? q.id = some r) (hst : r.status = .pending)
    {now : Timestamp} {delay : Duration} {completion : Completion} {result : Except PublishError Unit}
    {e : StoreError} : σ.write now delay (Relay.writeFor completion q result) ≠ .error e := by
  have hhas : σ.has q.id .pending = true := Store.has_eq_true.2 ⟨r, hg, hst⟩
  have hany : σ.records.any (·.id = q.id) = true := by
    obtain ⟨hr, hid⟩ := Store.get?_eq_some.1 hg
    exact List.any_eq_true.2 ⟨r, hr, decide_eq_true hid⟩
  intro hw
  cases result with
  | error err =>
    rw [show σ.write now delay (Relay.writeFor completion q (.error err)) = _ from if_pos hhas] at hw
    cases hw
  | ok =>
    cases completion with
    | retain =>
      rw [show σ.write now delay (Relay.writeFor .retain q (.ok ())) = _ from if_pos hhas] at hw
      cases hw
    | delete =>
      rw [show σ.write now delay (Relay.writeFor .delete q (.ok ())) = _ from if_pos hany] at hw
      cases hw

end

/-- **Every spot goes its own way.** -/
theorem Effect.goes {i : Nat} {s : Site α} {a : Action α} {v : View} {ns : List Happening}
    (hv : Effect s a v ns) (h : Solo i s.view) (hf : s.world.faults = []) (ha : a.isOnly i = true)
    (hids : (v.committed.map Event.id).Nodup) : Along i s ns v := by
  cases hv with
  | nothing => exact ⟨h.apart, fun u => .stays⟩
  | stored _ es => exact ⟨h.apart, fun u => goes_stored h es hids u⟩
  | @began j _ hr =>
    obtain rfl : j = i := of_decide_eq_true ha
    exact goes_empty (Post.places_eq_nil_of_isFree hr) rfl
  | @refused j _ _ hr =>
    obtain rfl : j = i := of_decide_eq_true ha
    exact goes_empty (by rw [hr]; rfl) rfl
  | @claimed j _ _ hr =>
    obtain rfl : j = i := of_decide_eq_true ha
    exact goes_claim (by rw [hr]; rfl) (Batch.places_ofRecords _ _ _ _)
  | @late j c t r rest report hr hw hfit =>
    obtain rfl : j = i := of_decide_eq_true ha
    have hx := List.Perm.of_eq (Batch.places_late hw report)
    rw [show t.places = (s.relays j).places by rw [hr]; rfl] at hx
    exact goes_shift (y := none) h hx (.refl _) (fun z hz => by cases hz) (fun _ _ => rfl)
      (fun n hn => by cases hn) s.delivered .spared
  | @started j c t r rest hr hw hfit =>
    obtain rfl : j = i := of_decide_eq_true ha
    obtain ⟨others, hx, hy⟩ := Batch.places_started hw s.world.elapsed
    rw [show t.places = (s.relays j).places by rw [hr]; rfl] at hx
    refine goes_shift (y := some (.flying r)) (p := .busy c _) h (.of_eq hx) hy (fun z hz => ?_)
      (fun _ _ => rfl) (fun n hn => ?_) s.delivered .called
    · cases hz
      rfl
    · cases List.mem_singleton.1 hn
      rfl
  | @landed j c k t f inTime result hr hfl ht =>
    obtain rfl : j = i := of_decide_eq_true ha
    obtain ⟨others, hx, hy⟩ := Batch.places_landed hfl result
    rw [show t.places = (s.relays j).places by rw [hr]; rfl] at hx
    refine goes_shift (y := some (.ended ⟨f.record, result⟩)) (p := .busy c _) h hx hy (fun z hz => ?_)
      (fun _ _ => rfl) (fun n hn => ?_) _ .ended
    · cases hz
      rfl
    · cases List.mem_singleton.1 hn
      rfl
  | @settled j c k t o report delay outbox hr ho hw =>
    obtain rfl : j = i := of_decide_eq_true ha
    have hx := Batch.places_settled ho report
    rw [show t.places = (s.relays j).places by rw [hr]; rfl] at hx
    refine goes_shift (y := none) h hx (.refl _) (fun z hz => by cases hz) (fun u hu => ?_)
      (fun n hn => by cases hn) s.delivered (.written (.ofWrite hw))
    exact Store.get?_write hw (by rwa [Relay.writeFor_id])
  | @unsettled j c k t o report hr ho hw =>
    obtain rfl : j = i := of_decide_eq_true ha
    have hx := Batch.places_settled ho report
    rw [show t.places = (s.relays j).places by rw [hr]; rfl] at hx
    obtain ⟨hst, time, hg⟩ := (h.tidy o.record.id).held _ (find?_key_perm_cons h.apart hx).1
    obtain ⟨delay, e, he⟩ := hw hf
    exact absurd he (write_ne_error hg hst)
  | requeued hq => exact goes_requeue h hq
  | purged => exact goes_purge h _
  | taken => cases ha
  | overwritten hw => cases ha

/-! ## runs -/

theorem Along.solo {i : Nat} {s : Site α} {v : View} {ns : List Happening} (hv : Along i s ns v)
    (h : Solo i s.view) : Solo i v :=
  ⟨hv.apart, fun u => (hv.goes u).tidy (h.tidy u)⟩

theorem only_land {i : Nat} (s : Site α) (j k : Nat) (inTime : Bool)
    (h : s.world.faults = [] ∧ (Action.conclude j k inTime : Action α).isOnly i = true) :
    (s.world.faults = [] ∧ (Action.move j (.land k inTime) : Action α).isOnly i = true) ∧
      (s.act (.move j (.land k inTime))).world.faults = [] ∧
        (Action.move j (.settle (s.unwritten j)) : Action α).isOnly i = true :=
  ⟨h, (faults_land j k inTime s).trans h.1, h.2⟩

/-- What every going of a spot keeps, a run keeps of all spots. -/
theorem run_spots {J : Uuid → Spot → List Happening → Prop} {i : Nat} (w : World)
    (start : ∀ u, J u ⟨none, none, none⟩ [])
    (step : ∀ u p ns p' hs, J u p hs → p.Tidy → p.Goes u ns p' → J u p' (hs ++ ns))
    {xs : List (Step α)} (hxs : (Site.new w).RunOk (Alone i) xs) (u : Uuid) :
    (((Site.new w).run xs).view.spot i u).Tidy ∧
      J u (((Site.new w).run xs).view.spot i u) (((Site.new w).tale xs).filter (·.id = u)) := by
  have hrun := run_effects (s := Site.new w) (l := [])
    (I := fun v hs => Solo i v ∧ ∀ u, J u (v.spot i u) (hs.filter (·.id = u)))
    (P := fun s a => s.world.faults = [] ∧ a.isOnly i = true) only_land ?_ ⟨Solo.new i w, start⟩ hxs
  · exact ⟨hrun.1.tidy u, hrun.2 u⟩
  · rintro s a v ns hs ⟨hsolo, hJ⟩ ⟨hf, ha⟩ hv hids
    have halong := hv.goes hsolo hf ha hids
    refine ⟨halong.solo hsolo, fun u => ?_⟩
    rw [List.filter_append]
    exact step u _ _ _ _ (hJ u) (hsolo.tidy u) (halong.goes u)

theorem committed_nodup {i : Nat} {w : World} {xs : List (Step α)}
    (hxs : (Site.new w).RunOk (Alone i) xs) :
    (((Site.new w).run xs).committed.map Event.id).Nodup :=
  run_keeps (I := fun s => (s.committed.map Event.id).Nodup)
    (fun _ _ _ hx => (List.nodup_append.1 hx.1).2.1) List.nodup_nil hxs

/-- Between two ticks no record is anywhere in a batch. -/
theorem spot_of_isFree {i : Nat} {s : Site α} (h : (s.relays i).isFree = true) (u : Uuid) :
    s.view.spot i u = ⟨s.committed.find? fun e => e.id = u, s.outbox.get? u, none⟩ := by
  unfold View.spot
  rw [show (s.view.relays i).places = [] from Post.places_eq_nil_of_isFree h]
  rfl

theorem find?_of_committed {cs : List Event} (hids : (cs.map Event.id).Nodup) {e : Event}
    (he : e ∈ cs) : cs.find? (fun b => b.id = e.id) = some e :=
  (find?_key_eq_some hids).2 ⟨he, rfl⟩

end Site
end Outbox
