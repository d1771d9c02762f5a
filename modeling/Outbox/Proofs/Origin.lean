import Outbox.Proofs.Site

/-!
# Where records come from

Only an enqueue or the end of a unit of work stores a record.  Whatever else is done, every record stays
what it was in the part that no operation changes (`Record.fixed`), or is removed.

* `Store.From`         every record of a store comes from another store;
* `Site.act_from`      what an action does to the outbox, unless it stores something;
* `Site.act_same`, `act_todos`   it does not touch what was committed either, and not the todos;
* `Site.act_clock`     no action moves the clock;
* `Site.Stocked`       every stored record has an id that was used, in every run.
-/

namespace Outbox

open Scenario (World)

/-! ## stores -/

/-- Every record of `s'` is one of `s`, as far as the part shows that no operation changes. -/
def Store.From (s s' : Store) : Prop :=
  ∀ id r', s'.get? id = some r' → ∃ r, s.get? id = some r ∧ r'.fixed = r.fixed

namespace Store.From

variable {s s' t : Store}

theorem refl (s : Store) : From s s := fun _ r h => ⟨r, h, rfl⟩

theorem trans (h : From s s') (k : From s' t) : From s t := by
  intro id r'' hr''
  obtain ⟨r', hr', hf'⟩ := k id r'' hr''
  obtain ⟨r, hr, hf⟩ := h id r' hr'
  exact ⟨r, hr, hf'.trans hf⟩

theorem claim (now : Timestamp) (lease : Duration) (limit : Nat) (s : Store) :
    From s (s.claim now lease limit).2 := by
  intro id r' hr'
  rcases get?_claim_cases now lease limit s id with hsame | ⟨r, hr, _, _, hhidden⟩
  · exact ⟨r', hsame.symm.trans hr', rfl⟩
  · cases hhidden.symm.trans hr'
    exact ⟨r, hr, rfl⟩

/-- One record is replaced by one with the same fixed part. -/
theorem replaced {id : Uuid} {r a : Record} (hr : s.get? id = some r) (hf : a.fixed = r.fixed)
    (h : ∀ i, s'.get? i = if i = id then some a else s.get? i) : From s s' := by
  intro i r' hr'
  rw [h i] at hr'
  split at hr'
  · rename_i hi
    injection hr' with hr'
    exact ⟨r, hi ▸ hr, hr' ▸ hf⟩
  · exact ⟨r', hr', rfl⟩

theorem write {now : Timestamp} {delay : Duration} {wr : Write}
    (h : s.write now delay wr = .ok s') : From s s' := by
  cases wr with
  | update id st n err =>
    obtain ⟨r, hr, _, hs⟩ := get?_update h
    exact replaced hr (by cases st <;> rfl) hs
  | delete id =>
    intro i r' hr'
    rw [get?_delete h] at hr'
    split at hr'
    · cases hr'
    · exact ⟨r', hr', rfl⟩

theorem requeue {now : Timestamp} {id : Uuid} (h : s.requeue now id = .ok s') : From s s' := by
  obtain ⟨r, hr, _, hs⟩ := get?_requeue h
  refine replaced hr ?_ hs
  rfl

theorem purge (t : Timestamp) (s : Store) : From s (s.purge t).2 := by
  intro id r' hr'
  rw [get?_purge, Option.filter_eq_some_iff] at hr'
  exact ⟨r', hr'.1, rfl⟩

end Store.From

/-! ## actions -/

/-- whether it belongs to those who store events -/
def Action.isProducing {α : Type} : Action α → Bool
  | .enqueue _ => true
  | .openUnit _ _ => true
  | .proceed _ => true
  | _ => false

namespace Site

variable {α : Type}

theorem move_from (i : Nat) (m : Relay.Move) (s : Site α) : s.outbox.From (s.move i m).outbox := by
  rcases move_cases i m s with hs | ⟨c, t, t', world, hr, hm, hs⟩
  · rw [hs]
    exact .refl _
  rw [hs]
  show s.outbox.From world.stores.outbox
  rcases (World.moved_cases hm).2 with ⟨hst, _⟩ | ⟨hst, _⟩ | ⟨_, _, o, _, _, delay, σ, hσ, hst⟩
  · rw [hst]
    exact .refl _
  · rw [hst]
    exact .refl _
  · rw [hst]
    exact .write hσ

theorem act_from {a : Action α} (h : a.isProducing = false) (s : Site α) :
    s.outbox.From (s.act a).outbox := by
  cases a with
  | enqueue e => cases h
  | openUnit j work => cases h
  | proceed j => cases h
  | tick i config =>
    rcases tick_cases i config s with hs | ⟨_, hs⟩
    · rw [show s.act (.tick i config) = _ from hs]
      exact .refl _
    · rw [show s.act (.tick i config) = _ from hs]
      exact .refl _
  | claim i =>
    rcases claim_cases i s with hs | ⟨_, _, world, _, ha, hs⟩ | ⟨config, _, world, _, ha, hs⟩
    all_goals rw [show s.act (.claim i) = _ from hs]
    · exact .refl _
    · show s.outbox.From world.stores.outbox
      rw [← ha.stores]
      exact .refl _
    · show s.outbox.From world.stores.outbox
      rw [← ha.stores]
      exact .claim _ _ _ _
  | move i m => exact move_from i m s
  | conclude i k inTime => exact (move_from i _ s).trans (move_from i _ _)
  | requeue id =>
    show s.outbox.From (s.world.requeue id).2.stores.outbox
    rcases World.requeue_cases id s.world with hw | ⟨σ, hσ, hw⟩
    · rw [hw]
      exact .refl _
    · rw [hw]
      exact .requeue hσ
  | purge t =>
    show s.outbox.From (s.world.purge t).2.stores.outbox
    rcases World.purge_cases t s.world with ha | ha
    · rw [← ha.stores]
      exact .refl _
    · rw [← ha.stores]
      exact .purge t _
  | take limit =>
    show s.outbox.From (s.world.claim limit).2.stores.outbox
    rcases World.claim_cases limit s.world with ⟨e, v, hv, ha⟩ | ⟨v, hv, ha⟩
    · rw [hv, ← ha.stores]
      exact .refl _
    · rw [hv, ← ha.stores]
      exact .claim _ _ _ _
  | write wr =>
    show s.outbox.From (s.world.write wr).2.stores.outbox
    rcases World.write_cases (Prod.eta (s.world.write wr)).symm with ⟨e, _, ha⟩ | ⟨_, delay, σ, hσ, ha⟩
    · rw [← ha.stores]
      exact .refl _
    · rw [← ha.stores]
      exact .write hσ
  | script failures missing rollbackFailure faults => exact .refl _

theorem move_same (i : Nat) (m : Relay.Move) (s : Site α) :
    (s.move i m).first = s.first ∧ (s.move i m).committed = s.committed ∧
      (s.move i m).pieces = s.pieces := by
  rcases move_cases i m s with hs | ⟨c, t, t', world, hr, hm, hs⟩
  · rw [hs]
    exact ⟨rfl, rfl, rfl⟩
  · rw [hs]
    exact ⟨rfl, rfl, rfl⟩

theorem act_same {a : Action α} (h : a.isProducing = false) (s : Site α) :
    (s.act a).first = s.first ∧ (s.act a).committed = s.committed ∧ (s.act a).pieces = s.pieces := by
  cases a with
  | enqueue e => cases h
  | openUnit j work => cases h
  | proceed j => cases h
  | tick i config =>
    rcases tick_cases i config s with hs | ⟨_, hs⟩
    all_goals rw [show s.act (.tick i config) = _ from hs]
    all_goals exact ⟨rfl, rfl, rfl⟩
  | claim i =>
    rcases claim_cases i s with hs | ⟨_, _, world, _, ha, hs⟩ | ⟨config, _, world, _, ha, hs⟩
    all_goals rw [show s.act (.claim i) = _ from hs]
    all_goals exact ⟨rfl, rfl, rfl⟩
  | move i m => exact move_same i m s
  | conclude i k inTime =>
    obtain ⟨hf, hc, hp⟩ := move_same i (.land k inTime) s
    obtain ⟨hf', hc', hp'⟩ := move_same i (.settle (s.unwritten i)) (s.move i (.land k inTime))
    exact ⟨hf'.trans hf, hc'.trans hc, hp'.trans hp⟩
  | requeue id => exact ⟨rfl, rfl, rfl⟩
  | purge t => exact ⟨rfl, rfl, rfl⟩
  | take limit => exact ⟨rfl, rfl, rfl⟩
  | write wr => exact ⟨rfl, rfl, rfl⟩
  | script failures missing rollbackFailure faults => exact ⟨rfl, rfl, rfl⟩

theorem move_todos (i : Nat) (m : Relay.Move) (s : Site α) :
    (s.move i m).world.stores.todos = s.world.stores.todos := by
  rcases move_cases i m s with hs | ⟨c, t, t', world, hr, hm, hs⟩
  · rw [hs]
  · rw [hs]
    show world.stores.todos = _
    rcases (World.moved_cases hm).2 with ⟨hst, _⟩ | ⟨hst, _⟩ | ⟨_, _, o, _, _, delay, σ, hσ, hst⟩
    all_goals rw [hst]

/-- Whoever stores no events leaves the todos alone. -/
theorem act_todos {a : Action α} (h : a.isProducing = false) (s : Site α) :
    (s.act a).world.stores.todos = s.world.stores.todos := by
  have hsame {w : World} (ha : World.Alike s.world w) : w.stores.todos = s.world.stores.todos := by
    rw [ha.stores]
  have halike {w : World} {σ : Store} (ha : World.Alike (s.world.withOutbox σ) w) :
      w.stores.todos = s.world.stores.todos := by
    rw [← ha.stores]
    rfl
  cases a with
  | enqueue e => cases h
  | openUnit j work => cases h
  | proceed j => cases h
  | tick i config =>
    rcases tick_cases i config s with hs | ⟨_, hs⟩
    all_goals rw [show s.act (.tick i config) = _ from hs]
    rfl
  | claim i =>
    rcases claim_cases i s with hs | ⟨_, _, world, _, ha, hs⟩ | ⟨config, _, world, _, ha, hs⟩
    all_goals rw [show s.act (.claim i) = _ from hs]
    · exact hsame ha
    · exact halike ha
  | move i m => exact move_todos i m s
  | conclude i k inTime => exact (move_todos i _ _).trans (move_todos i _ s)
  | requeue id =>
    show (s.world.requeue id).2.stores.todos = _
    rcases World.requeue_cases id s.world with hw | ⟨σ, hσ, hw⟩
    all_goals rw [hw]
    rfl
  | purge t =>
    show (s.world.purge t).2.stores.todos = _
    rcases World.purge_cases t s.world with ha | ha
    · exact hsame ha
    · exact halike ha
  | take limit =>
    show (s.world.claim limit).2.stores.todos = _
    rcases World.claim_cases limit s.world with ⟨e, v, hv, ha⟩ | ⟨v, hv, ha⟩
    all_goals rw [hv]
    · exact hsame ha
    · exact halike ha
  | write wr =>
    show (s.world.write wr).2.stores.todos = _
    rcases World.write_cases (Prod.eta (s.world.write wr)).symm with ⟨e, _, ha⟩ | ⟨_, delay, σ, hσ, ha⟩
    · exact hsame ha
    · exact halike ha
  | script failures missing rollbackFailure faults => rfl

theorem move_clock (i : Nat) (m : Relay.Move) (s : Site α) :
    (s.move i m).world.start = s.world.start ∧ (s.move i m).world.elapsed = s.world.elapsed ∧
      (s.move i m).world.lease = s.world.lease := by
  rcases move_cases i m s with hs | ⟨c, t, t', world, hr, hm, hs⟩
  · rw [hs]
    exact ⟨rfl, rfl, rfl⟩
  · rw [hs]
    exact (World.moved_cases hm).1

/-- The clock stands still while something happens. -/
theorem act_clock (a : Action α) (s : Site α) :
    (s.act a).world.start = s.world.start ∧ (s.act a).world.elapsed = s.world.elapsed ∧
      (s.act a).world.lease = s.world.lease := by
  have halike {w : World} (ha : World.Alike s.world w) :
      w.start = s.world.start ∧ w.elapsed = s.world.elapsed ∧ w.lease = s.world.lease :=
    ⟨ha.start.symm, ha.elapsed.symm, ha.lease.symm⟩
  cases a with
  | enqueue e =>
    rcases enqueue_cases e s with hs | ⟨_, hs⟩
    all_goals rw [show s.act (.enqueue e) = _ from hs]
    all_goals exact ⟨rfl, rfl, rfl⟩
  | openUnit j work =>
    obtain ⟨pieces, hs⟩ := openUnit_cases j work s
    rw [show s.act (.openUnit j work) = _ from hs]
    exact ⟨rfl, rfl, rfl⟩
  | proceed j =>
    rcases proceed_cases j s with ⟨world, pieces, ha, hs⟩ | ⟨a, staged, said, pieces, _, _, hs⟩
    all_goals rw [show s.act (.proceed j) = _ from hs]
    · exact halike ha
    · exact ⟨rfl, rfl, rfl⟩
  | tick i config =>
    rcases tick_cases i config s with hs | ⟨_, hs⟩
    all_goals rw [show s.act (.tick i config) = _ from hs]
    all_goals exact ⟨rfl, rfl, rfl⟩
  | claim i =>
    rcases claim_cases i s with hs | ⟨_, _, world, _, ha, hs⟩ | ⟨config, _, world, _, ha, hs⟩
    all_goals rw [show s.act (.claim i) = _ from hs]
    · exact ⟨rfl, rfl, rfl⟩
    · exact halike ha
    · exact ⟨ha.start.symm, ha.elapsed.symm, ha.lease.symm⟩
  | move i m => exact move_clock i m s
  | conclude i k inTime =>
    obtain ⟨hs, he, hl⟩ := move_clock i (.land k inTime) s
    obtain ⟨hs', he', hl'⟩ := move_clock i (.settle (s.unwritten i)) (s.move i (.land k inTime))
    exact ⟨hs'.trans hs, he'.trans he, hl'.trans hl⟩
  | requeue id =>
    show (s.world.requeue id).2.start = _ ∧ (s.world.requeue id).2.elapsed = _ ∧
      (s.world.requeue id).2.lease = _
    rcases World.requeue_cases id s.world with hw | ⟨σ, _, hw⟩
    all_goals rw [hw]
    all_goals exact ⟨rfl, rfl, rfl⟩
  | purge t =>
    rcases World.purge_cases t s.world with ha | ha
    all_goals exact ⟨ha.start.symm, ha.elapsed.symm, ha.lease.symm⟩
  | take limit =>
    show (s.world.claim limit).2.start = _ ∧ (s.world.claim limit).2.elapsed = _ ∧
      (s.world.claim limit).2.lease = _
    rcases World.claim_cases limit s.world with ⟨e, v, hv, ha⟩ | ⟨v, hv, ha⟩
    all_goals rw [hv]
    all_goals exact ⟨ha.start.symm, ha.elapsed.symm, ha.lease.symm⟩
  | write wr =>
    rcases World.write_cases (Prod.eta (s.world.write wr)).symm with ⟨e, _, ha⟩ | ⟨_, _, _, _, ha⟩
    all_goals exact ⟨ha.start.symm, ha.elapsed.symm, ha.lease.symm⟩
  | script failures missing rollbackFailure faults => exact ⟨rfl, rfl, rfl⟩

/-- Until its own turn a unit of work stays as it is, once it is open. -/
theorem pieces_act {a : Action α} {j : Nat} (h : a.isTurnOf j = false) (s : Site α) :
    (s.act a).pieces j = (s.pieces j).or ((a.opens? j).map .ofWork) := by
  cases hprod : a.isProducing with
  | false =>
    rw [(act_same hprod s).2.2, show a.opens? j = none by cases a <;> first | rfl | cases hprod]
    exact Option.or_none.symm
  | true =>
    cases a with
    | enqueue e =>
      rw [show (Action.enqueue e : Action α).opens? j = none from rfl, Option.map_none, Option.or_none]
      rcases enqueue_cases e s with hs | ⟨_, hs⟩
      all_goals rw [show s.act (.enqueue e) = _ from hs]
    | openUnit i work =>
      rw [show s.act (.openUnit i work) = s.openUnit i work from rfl]
      unfold openUnit Action.opens?
      by_cases hij : i = j
      · subst hij
        split
        · rename_i hn
          simp [hn]
        · rename_i p hp
          simp [hp]
      · split <;> simp [hij, Ne.symm hij]
    | proceed i =>
      have hij : j ≠ i := by
        rintro rfl
        exact absurd h (by simp [Action.isTurnOf])
      rw [show (Action.proceed i : Action α).opens? j = none from rfl, Option.map_none, Option.or_none]
      exact pieces_proceed_ne hij s
    | _ => cases hprod

/-! ## ids -/

theorem get?_putAll {es : List Event} {σ : Store} {id : Uuid} (h : id ∉ es.map Event.id) :
    (es.foldl (fun o e => o.put e.record) σ).get? id = σ.get? id := by
  induction es generalizing σ with
  | nil => rfl
  | cons e es ih =>
    rw [List.map_cons, List.mem_cons, not_or] at h
    rw [List.foldl_cons, ih h.2, Store.get?_put, if_neg (show id ≠ e.record.id from h.1)]

theorem get?_putAll_cases (es : List Event) (σ : Store) (id : Uuid) :
    (es.foldl (fun o e => o.put e.record) σ).get? id = σ.get? id ∨
      ∃ e ∈ es, e.id = id ∧
        (es.foldl (fun o e => o.put e.record) σ).get? id = some e.record := by
  induction es generalizing σ with
  | nil => exact Or.inl rfl
  | cons e es ih =>
    rw [List.foldl_cons]
    rcases ih (σ.put e.record) with hg | ⟨e', he', hid, hg⟩
    · rw [hg, Store.get?_put]
      split
      · rename_i hid
        exact Or.inr ⟨e, List.mem_cons_self, hid.symm, rfl⟩
      · exact Or.inl rfl
    · exact Or.inr ⟨e', List.mem_cons_of_mem e he', hid, hg⟩

/-- Every stored record has an id that was used. -/
def Stocked (s : Site α) : Prop := ∀ id r, s.outbox.get? id = some r → id ∈ s.used

namespace Stocked

variable {s : Site α}

theorem ofWorld (w : World) : Stocked (Site.ofWorld w : Site α) := by
  intro id r hr
  have hm := Store.mem_of_get? hr
  rw [← Store.get?_id hr]
  exact List.mem_append_left _ (List.mem_map_of_mem hm)

theorem store (h : Stocked s) (es : List Event) {world : World} {pieces : Nat → Option (Piece α)}
    (ho : world.stores.outbox = es.foldl (fun o e => o.put e.record) s.outbox) :
    Stocked { s with world, pieces, committed := s.committed ++ es } := by
  intro id r hr
  have hr : world.stores.outbox.get? id = some r := hr
  show id ∈ s.first ++ (s.committed ++ es).map Event.id
  rw [List.map_append, ← List.append_assoc]
  by_cases hid : id ∈ es.map Event.id
  · exact List.mem_append_right _ hid
  · rw [ho, get?_putAll hid] at hr
    exact List.mem_append_left _ (h id r hr)

theorem act (h : Stocked s) (a : Action α) : Stocked (s.act a) := by
  cases hprod : a.isProducing with
  | false =>
    obtain ⟨hf, hc, _⟩ := act_same hprod s
    intro id r hr
    obtain ⟨r₀, hr₀, _⟩ := act_from hprod s id r hr
    unfold used
    rw [hf, hc]
    exact h id r₀ hr₀
  | true =>
    cases a with
    | enqueue e =>
      rcases enqueue_cases e s with hs | ⟨_, hs⟩
      all_goals rw [show s.act (.enqueue e) = _ from hs]
      · exact h
      · exact h.store [e] rfl
    | openUnit j work =>
      obtain ⟨pieces, hs⟩ := openUnit_cases j work s
      rw [show s.act (.openUnit j work) = _ from hs]
      exact h
    | proceed j =>
      rcases proceed_cases j s with ⟨world, pieces, ha, hs⟩ | ⟨a, staged, said, pieces, _, _, hs⟩
      all_goals rw [show s.act (.proceed j) = _ from hs]
      · have hw : Stocked { s with world, pieces, committed := s.committed ++ [] } :=
          h.store [] (congrArg Stores.outbox ha.stores.symm)
        rwa [List.append_nil] at hw
      · exact h.store staged.events rfl
    | _ => cases hprod

theorem next (h : Stocked s) (x : Step α) : Stocked (s.next x) :=
  Stocked.act (s := s.atTime x.start x.elapsed) h x.action

theorem run (h : Stocked s) (xs : List (Step α)) : Stocked (s.run xs) := by
  induction xs generalizing s with
  | nil => exact h
  | cons x xs ih => exact ih (h.next x)

end Stocked

end Site
end Outbox
