import Outbox.Proofs.Origin
import Outbox.Proofs.Staging

/-!
# Dedupe keys are unique

A key is looked for when an event is enqueued, when a unit of work stages one, and when the unit of work
ends.

* `Store.KeysUnique`    no two records of a store have one key;
* `Staged.KeysApart`    no two events of an open unit of work have one key;
* `Staged.KeysApart.answer`   staging looks at the own events, and so keeps them apart;
* `Store.KeysUnique.putAll`   events with keys apart, none of which is taken, can be stored;
* `Site.Keyed`          both together, which every action keeps;
* `dedupe_keys_unique`  no two stored records ever have one key.
-/

namespace Outbox

open Scenario (World)

/-! ## stores -/

def Store.KeysUnique (s : Store) : Prop :=
  ∀ i j a b key, s.get? i = some a → s.get? j = some b → a.dedupeKey = some key →
    b.dedupeKey = some key → i = j

/-- No two events have one key. -/
def Staged.KeysApart (t : Staged) : Prop := (t.events.filterMap Event.dedupeKey).Nodup

theorem Record.dedupeKey_eq_of_fixed {a b : Record} (h : a.fixed = b.fixed) :
    a.dedupeKey = b.dedupeKey := by
  have hk (r : Record) : r.fixed.dedupeKey = r.dedupeKey := rfl
  rw [← hk a, ← hk b, h]

namespace Store.KeysUnique

variable {s s' : Store}

theorem ofFrom (h : KeysUnique s) (hs : s.From s') : KeysUnique s' := by
  intro i j a b key ha hb hka hkb
  obtain ⟨a₀, ha₀, hfa⟩ := hs i a ha
  obtain ⟨b₀, hb₀, hfb⟩ := hs j b hb
  rw [Record.dedupeKey_eq_of_fixed hfa] at hka
  rw [Record.dedupeKey_eq_of_fixed hfb] at hkb
  exact h i j a₀ b₀ key ha₀ hb₀ hka hkb

/-- An event whose key is not taken can be stored, whatever its id. -/
theorem put (h : KeysUnique s) {e : Event} (he : ¬ s.keyTaken e.dedupeKey = true) :
    KeysUnique (s.put e.record) := by
  have hfree {i : Uuid} {a : Record} {key : String} (ha : s.get? i = some a)
      (hka : a.dedupeKey = some key) : e.dedupeKey ≠ some key := fun hke =>
    he (keyTaken_eq_true.2 ⟨key, a, hke, mem_of_get? ha, hka⟩)
  intro i j a b key ha hb hka hkb
  rw [get?_put] at ha hb
  split at ha <;> split at hb
  · rename_i hi hj
    exact hi.trans hj.symm
  · injection ha with ha
    subst ha
    exact absurd hka (hfree hb hkb)
  · injection hb with hb
    subst hb
    exact absurd hkb (hfree ha hka)
  · exact h i j a b key ha hb hka hkb

theorem putAll (h : KeysUnique s) {es : List Event} (hes : (es.filterMap Event.dedupeKey).Nodup)
    (hfree : ∀ e ∈ es, ¬ s.keyTaken e.dedupeKey = true) :
    KeysUnique (es.foldl (fun o e => o.put e.record) s) := by
  induction es generalizing s with
  | nil => exact h
  | cons e es ih =>
    have htail : (es.filterMap Event.dedupeKey).Nodup :=
      ((List.sublist_cons_self e es).filterMap _).nodup hes
    refine ih (h.put (hfree e List.mem_cons_self)) htail fun e' he' htaken => ?_
    obtain ⟨key, r, hke', hr, hkr⟩ := keyTaken_eq_true.1 htaken
    rcases mem_put.1 hr with rfl | ⟨hr, _⟩
    · -- the event that was just stored would have the same key
      have hke : e.dedupeKey = some key := hkr
      rw [List.filterMap_cons_some hke, List.nodup_cons] at hes
      exact hes.1 (List.mem_filterMap.2 ⟨e', he', hke'⟩)
    · exact hfree e' (List.mem_cons_of_mem e he') (keyTaken_eq_true.2 ⟨key, r, hke', hr, hkr⟩)

end Store.KeysUnique

/-! ## units of work -/

/-- A unit of work that stages an event looks at its own events, too. -/
theorem Staged.KeysApart.answer {t : Staged} (h : t.KeysApart) (s : Stores) (c : Call) :
    (Staged.answer s c t).2.KeysApart := by
  unfold KeysApart
  cases c with
  | enqueue e =>
    show ((t.enqueue s e).2.events.filterMap Event.dedupeKey).Nodup
    rcases enqueue_cases s t e with he | ⟨⟨hfree, _⟩, he⟩
    all_goals rw [he]
    · exact h
    · show ((t.events ++ [e]).filterMap Event.dedupeKey).Nodup
      cases hk : e.dedupeKey with
      | none =>
        rwa [List.filterMap_append, List.filterMap_cons_none hk, List.filterMap_nil, List.append_nil]
      | some key =>
        rw [List.filterMap_append, List.filterMap_cons_some hk, List.filterMap_nil]
        refine List.nodup_append.2 ⟨h, List.nodup_singleton key, fun a ha b hb hab => ?_⟩
        obtain ⟨e₀, he₀, hk₀⟩ := List.mem_filterMap.1 ha
        rw [hab, List.mem_singleton.1 hb] at hk₀
        exact hfree (keyTaken_eq_true.2 ⟨key, e₀, hk, he₀, hk₀⟩)
  | insertTodo todo =>
    rw [answer_events]
    exact (List.append_nil t.events).symm ▸ h
  | deleteTodo id =>
    rw [answer_events]
    exact (List.append_nil t.events).symm ▸ h
  | getTodo id => exact h

/-! ## sites -/

namespace Site

variable {α : Type}

structure Keyed (s : Site α) : Prop where
  stored : s.outbox.KeysUnique
  staged : ∀ j p, s.pieces j = some p → p.staged.KeysApart

namespace Keyed

variable {s : Site α}

theorem new (w : World) : Keyed (Site.new w : Site α) where
  stored := fun _ _ a _ _ ha => absurd (ha.symm.trans Store.get?_empty) (Option.some_ne_none a)
  staged := fun _ p hp => absurd hp.symm (Option.some_ne_none p)

/-- a unit of work before and after its turn -/
theorem staged_proceed (h : Keyed s) (j : Nat) :
    ∀ k p, (s.proceed j).pieces k = some p → p.staged.KeysApart := by
  intro k p hp
  by_cases hkj : k = j
  · subst hkj
    cases hold : s.pieces k with
    | none =>
      rw [proceed_none hold] at hp
      exact h.staged k p hp
    | some q =>
      obtain ⟨work, staged, said, result⟩ := q
      have hq : staged.KeysApart := h.staged k _ hold
      cases result with
      | some r =>
        rw [proceed_over hold rfl] at hp
        exact h.staged k p hp
      | none =>
        cases work with
        | ask c next =>
          rw [pieces_proceed_ask hold] at hp
          obtain rfl := Option.some.inj hp
          exact hq.answer _ c
        | done outcome =>
          rw [pieces_proceed_done hold] at hp
          obtain rfl := Option.some.inj hp
          exact hq
  · rw [pieces_proceed_ne hkj] at hp
    exact h.staged k p hp

theorem proceed (h : Keyed s) (j : Nat) : Keyed (s.proceed j) := by
  refine ⟨?_, h.staged_proceed j⟩
  rcases proceed_cases j s with ⟨world, pieces, ha, hs⟩ | ⟨a, staged, said, pieces, hp, hc, hs⟩
  all_goals rw [hs]
  · show world.stores.outbox.KeysUnique
    rw [← ha.stores]
    exact h.stored
  · exact h.stored.putAll (h.staged j _ hp) (Staged.conflict?_eq_none.1 hc)

theorem act (h : Keyed s) (a : Action α) : Keyed (s.act a) := by
  cases hprod : a.isProducing with
  | false =>
    obtain ⟨_, _, hp⟩ := act_same hprod s
    refine ⟨h.stored.ofFrom (act_from hprod s), ?_⟩
    rw [hp]
    exact h.staged
  | true =>
    cases a with
    | enqueue e =>
      rcases enqueue_cases e s with hs | ⟨hfree, hs⟩
      all_goals rw [show s.act (.enqueue e) = _ from hs]
      · exact h
      · exact ⟨h.stored.put hfree, h.staged⟩
    | openUnit j work =>
      refine ⟨?_, fun k p hp => ?_⟩
      · obtain ⟨pieces, hs⟩ := openUnit_cases j work s
        rw [show s.act (.openUnit j work) = _ from hs]
        exact h.stored
      · rw [pieces_act rfl s, Option.or_eq_some_iff] at hp
        rcases hp with hp | ⟨_, hp⟩
        · exact h.staged k p hp
        · obtain ⟨_, _, rfl⟩ := Option.map_eq_some_iff.1 hp
          exact List.nodup_nil
    | proceed j => exact h.proceed j
    | _ => cases hprod

theorem run (h : Keyed s) (xs : List (Step α)) : Keyed (s.run xs) := by
  induction xs generalizing s with
  | nil => exact h
  | cons x xs ih =>
    have hat : Keyed (s.atTime x.start x.elapsed) := ⟨h.stored, h.staged⟩
    exact ih (hat.act x.action)

end Keyed

/-- **Dedupe keys stay unique.**  Whatever happens to an outbox that was empty at first, in whatever
order and under whatever ids: no two of its records have one dedupe key. -/
theorem dedupe_keys_unique (w : World) (xs : List (Step α)) :
    ((Site.new w).run xs).outbox.records.Pairwise fun a b =>
      ∀ key, a.dedupeKey = some key → b.dedupeKey ≠ some key := by
  have h := ((Keyed.new w).run xs).stored
  have hids := List.pairwise_map.1 ((Site.new w).run xs).outbox.distinct
  refine hids.imp_of_mem fun {a b} ha hb hne key hka hkb => ?_
  exact hne (h a.id b.id a b key (Store.get?_of_mem ha) (Store.get?_of_mem hb) hka hkb)

end Site
end Outbox
