import Outbox.Proofs.Effect

/-!
# The life of a record

The store takes any status and any count.  What keeps them in step is what the relays write, however
long ago they claimed.

* `Record.Sound`   what the status of a record says about its other fields;
* `Lawful`         every stored record is sound, and whatever a relay holds had retries left;
* `records_sound`  in every run of any number of relays all stored records are sound.
-/

namespace Outbox

open Scenario (World)

namespace Relay

theorem toNat_oneMore (n : UInt32) : (oneMore n).toNat = min (n.toNat + 1) 0xffffffff := by
  have hlt := n.toNat_lt
  unfold oneMore
  split
  · rename_i h
    rw [h]
    rfl
  · rename_i h
    have hne : n.toNat ≠ 0xffffffff := fun hn => h (UInt32.toNat_inj.1 hn)
    rw [UInt32.toNat_add, show (1 : UInt32).toNat = 1 from rfl]
    omega

theorem le_oneMore (n : UInt32) : n ≤ oneMore n := by
  have hlt := n.toNat_lt
  rw [UInt32.le_iff_toNat_le, toNat_oneMore]
  omega

theorem exhausted_iff {r : Record} :
    exhausted r = true ↔ r.maxRetries.toNat < (oneMore r.retryCount).toNat := by
  unfold exhausted
  rw [decide_eq_true_iff, UInt32.lt_iff_toNat_lt]

/-- The count of a record with retries left exceeds them by one when the last is used up; it does not
wrap. -/
theorem toNat_oneMore_of_exhausted {r : Record} (h : exhausted r = true)
    (hr : r.retryCount ≤ r.maxRetries) : (oneMore r.retryCount).toNat = r.maxRetries.toNat + 1 := by
  have hlt := exhausted_iff.1 h
  rw [UInt32.le_iff_toNat_le] at hr
  rw [toNat_oneMore] at hlt ⊢
  omega

theorem oneMore_le_of_not_exhausted {r : Record} (h : exhausted r = false) :
    oneMore r.retryCount ≤ r.maxRetries := by
  rw [UInt32.le_iff_toNat_le]
  refine Nat.not_lt.1 fun hlt => ?_
  rw [exhausted_iff.2 hlt] at h
  cases h

end Relay

/-! ## records -/

structure Record.Sound (r : Record) : Prop where
  processed : r.processedAt.isSome = true ↔ r.status = .processed
  within : r.status ≠ .failed → r.retryCount ≤ r.maxRetries
  exceeded : r.status = .failed → r.retryCount.toNat = r.maxRetries.toNat + 1

instance (r : Record) : Decidable r.Sound :=
  decidable_of_iff
    ((r.processedAt.isSome = true ↔ r.status = .processed) ∧
      (r.status ≠ .failed → r.retryCount ≤ r.maxRetries) ∧
      (r.status = .failed → r.retryCount.toNat = r.maxRetries.toNat + 1))
    ⟨fun ⟨hp, hw, he⟩ => ⟨hp, hw, he⟩, fun ⟨hp, hw, he⟩ => ⟨hp, hw, he⟩⟩

namespace Record.Sound

/-- Pending records are sound up to any count that leaves a retry. -/
theorem pending {r : Record} (hst : r.status = .pending) (hp : r.processedAt = none)
    (hle : r.retryCount ≤ r.maxRetries) : r.Sound where
  processed := by rw [hst, hp]; decide
  within := fun _ => hle
  exceeded := fun h => nomatch hst.symm.trans h

theorem event (e : Event) : e.record.Sound :=
  pending rfl rfl UInt32.zero_le

theorem none_of_pending {r : Record} (h : r.Sound) (hst : r.status = .pending) :
    r.processedAt = none := by
  rw [← Option.not_isSome_iff_eq_none]
  intro hp
  cases hst.symm.trans (h.processed.1 hp)

/-- A failure is written soundly, whatever the record went through since it was claimed as `q`. -/
theorem failed {q r : Record} {now : Timestamp} {delay : Duration} {err : Option String}
    (hle : q.retryCount ≤ q.maxRetries) (hmax : q.maxRetries = r.maxRetries) :
    (Store.outcome now delay (if Relay.exhausted q then .failed else .pending)
      (Relay.oneMore q.retryCount) err r).Sound := by
  cases hex : Relay.exhausted q with
  | false =>
    refine pending rfl rfl ?_
    show Relay.oneMore q.retryCount ≤ r.maxRetries
    rw [← hmax]
    exact Relay.oneMore_le_of_not_exhausted hex
  | true =>
    refine ⟨⟨nofun, nofun⟩, fun hne => absurd rfl hne, fun _ => ?_⟩
    show (Relay.oneMore q.retryCount).toNat = r.maxRetries.toNat + 1
    rw [← hmax]
    exact Relay.toNat_oneMore_of_exhausted hex hle

end Record.Sound

namespace Site

variable {α : Type} {s : Site α}

/-- What a relay writes is computed from what it claimed, which may long be out of date. -/
theorem Fate.sound {a : Action α} {es : List Event} {id : Uuid} {o : Option Record} {r' : Record}
    (h : Fate s a es id o (some r')) (ho : ∀ r, o = some r → r.Sound)
    (hheld : ∀ r, o = some r → ∀ i, ∀ q ∈ (s.relays i).held, q.id = id →
      q.retryCount ≤ q.maxRetries ∧ q.maxRetries = r.maxRetries) : r'.Sound := by
  cases h with
  | same => exact ho r' rfl
  | stored he hid => exact .event _
  | @hidden r time hst =>
    have hr := ho r rfl
    exact .pending hst (hr.none_of_pending hst) (hr.within (by rw [hst]; decide))
  | @written i _ q r _ _ hq hid h =>
    have hq := Post.record_mem_held hq
    cases h with
    | delivered hok hst =>
      obtain ⟨hle, hmax⟩ := hheld _ rfl i _ hq hid
      exact ⟨⟨fun _ => rfl, fun _ => rfl⟩, fun _ => hmax ▸ hle, nofun⟩
    | @failed r e now delay he hst =>
      obtain ⟨hle, hmax⟩ := hheld r rfl i _ hq hid
      exact .failed hle hmax
  | requeued _ hst => exact .pending rfl rfl UInt32.zero_le

/-! ## runs -/

structure Lawful (v : View) : Prop extends v.Sourced where
  sound : ∀ id r, v.outbox.get? id = some r → r.Sound
  within : ∀ i, ∀ q ∈ (v.relays i).held, q.retryCount ≤ q.maxRetries

namespace Lawful

theorem new (w : World) : Lawful (Site.new w : Site α).view :=
  ⟨.new w, fun _ _ h => (nomatch h), fun _ _ h => absurd h List.not_mem_nil⟩

theorem effect (h : Lawful s.view) {a : Action α} {v : View} {ns : List Happening}
    (hv : Effect s a v ns) (ha : a.isByHand = false) (hids : (v.committed.map Event.id).Nodup) :
    Lawful v := by
  have hs := h.toSourced.effect hv ha
  obtain ⟨es, hes, hfates⟩ := hv.fates ha
  have hids : (s.committed.map Event.id).Nodup := by
    rw [hes, List.map_append] at hids
    exact (List.nodup_append.1 hids).1
  refine ⟨hs, fun id r' hr' => ?_, fun i q hq => ?_⟩
  · have hfate := hfates id
    rw [hr'] at hfate
    refine hfate.sound (h.sound id) fun r hr i q hq hid => ⟨h.within i q hq, ?_⟩
    have hsame : q.id = r.id := hid.trans (Store.get?_id hr).symm
    exact Record.maxRetries_eq_of_fixed ((h.held i q hq).fixed_eq hids (h.stored id r hr) hsame)
  · rcases hv.mem_held hq with hq | ⟨hg, hst⟩
    · exact h.within i q hq
    · exact (h.sound _ q hg).within (by rw [hst]; decide)

end Lawful

/-- **The life of a record.**  Any number of relays work on an outbox that was empty at first, and write
outcomes at any time after their claims, while events are enqueued, units of work come and go, dead
letters are requeued and old records are purged.  Every stored record is sound. -/
theorem records_sound (w : World) (xs : List (Step α)) (hxs : (Site.new w).RunOk Ordinary xs)
    (id : Uuid) (r : Record) (hr : ((Site.new w).run xs).outbox.get? id = some r) :
    r.id = id ∧ r.Sound := by
  have hlawful := run_effects (I := fun v _ => Lawful v) (P := fun _ a => a.isByHand = false)
    (fun _ _ _ _ _ => ⟨rfl, rfl⟩) (fun _ _ _ _ _ h ha hv hids => h.effect hv ha hids)
    (l := []) (Lawful.new w) hxs
  exact ⟨Store.get?_id hr, hlawful.sound id r hr⟩

/-- One relay fails to publish two events.  The first becomes a dead letter.  The second is delivered by
another relay, and what the first relay writes about it afterwards comes too late. -/
theorem records_sound_late :
    let w : World := { (default : World) with lease := .ofSecs 60 }
    let event (n : Nat) (retries : UInt32) :=
      { Event.create (.ofNat n) "Todo" (.ofNat 7) "todos" "TODO_CREATED" .null .epoch with
        maxRetries := retries }
    let minute := 60 * 1000000000
    let xs : List (Step Unit) :=
      [⟨.epoch, 0, .script [.unavailable "no", .unavailable "no"] [] none []⟩,
        ⟨.epoch, 0, .enqueue (event 1 0)⟩, ⟨.epoch, 0, .tick 0 .standard⟩, ⟨.epoch, 0, .claim 0⟩,
        ⟨.epoch, 0, .move 0 .start⟩, ⟨.epoch, 1, .conclude 0 0 true⟩,
        ⟨.epoch, 1, .enqueue (event 2 5)⟩, ⟨.epoch, 1, .tick 0 .standard⟩, ⟨.epoch, 1, .claim 0⟩,
        ⟨.epoch, 1, .move 0 .start⟩, ⟨.epoch, 2, .move 0 (.land 0 true)⟩,
        ⟨.epoch, 1 + minute, .tick 1 .standard⟩, ⟨.epoch, 1 + minute, .claim 1⟩,
        ⟨.epoch, 1 + minute, .move 1 .start⟩, ⟨.epoch, 2 + minute, .conclude 1 0 true⟩,
        ⟨.epoch, 3 + minute, .move 0 (.settle 0)⟩]
    ((Site.new w).RunOk Ordinary xs ∧
        ((Site.new w).run xs).outbox.records.map (fun r => (r.id, r.status, r.retryCount)) =
          [(.ofNat 1, .failed, 1), (.ofNat 2, .processed, 0)]) ∧
      ∃ r, ((Site.new w).run xs).outbox.get? (.ofNat 1) = some r ∧ r.id = .ofNat 1 ∧ r.Sound := by
  intro w event minute xs
  have h : (Site.new w).RunOk Ordinary xs := by decide +kernel
  have hsome : (((Site.new w).run xs).outbox.get? (.ofNat 1)).isSome = true := by decide +kernel
  obtain ⟨r, hr⟩ := Option.isSome_iff_exists.1 hsome
  exact ⟨⟨h, by decide +kernel⟩, r, hr, records_sound w xs h _ r hr⟩

end Site
end Outbox
