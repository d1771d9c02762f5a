import Mathlib.Data.List.Nodup
import Outbox.Message
import Outbox.Store

/-!
# The store as a map from ids

What every operation of a `Store` does is told by what `get?` finds afterwards, one lemma for each.

* `get?_eq_some`, `get?_eq_none`     between looking up and being a member;
* `get?_put`, `get?_filter`, `get?_adjust`   the three ways in which a store changes;
* `mem_claim`, `get?_claim_cases`    a claim returns due records and moves just these;
* `get?_update`, `get?_delete`, `get?_requeue`, `get?_purge`   what a successful operation did;
* `get?_write`                       a write changes one record, `Write.id`;
* `Record.fixed`                     the part of a record that no operation changes.
-/

namespace Outbox

namespace Record

/-- the record with everything that a delivery may change put back to its beginning -/
def fixed (r : Record) : Record :=
  { r with
    status := .pending, retryCount := 0, lastError := none, availableAt := r.createdAt
    processedAt := none }

theorem message_eq_of_fixed {a b : Record} (h : a.fixed = b.fixed) : a.message = b.message := by
  have hm (r : Record) : r.fixed.message = r.message := rfl
  rw [← hm a, ← hm b, h]

theorem id_eq_of_fixed {a b : Record} (h : a.fixed = b.fixed) : a.id = b.id := by
  have hi (r : Record) : r.fixed.id = r.id := rfl
  rw [← hi a, ← hi b, h]

theorem maxRetries_eq_of_fixed {a b : Record} (h : a.fixed = b.fixed) :
    a.maxRetries = b.maxRetries := by
  have hm (r : Record) : r.fixed.maxRetries = r.maxRetries := rfl
  rw [← hm a, ← hm b, h]

end Record

/-- the record that a write is about -/
def Write.id : Write → Uuid
  | .update id _ _ _ => id
  | .delete id => id

namespace Store

variable {s s' : Store} {id : Uuid} {r : Record}

/-! ## looking up -/

theorem eq_of_id_eq {a b : Record} (ha : a ∈ s.records) (hb : b ∈ s.records) (h : a.id = b.id) :
    a = b :=
  List.inj_on_of_nodup_map s.distinct ha hb h

theorem get?_eq_some : s.get? id = some r ↔ r ∈ s.records ∧ r.id = id := by
  unfold get?
  constructor
  · intro h
    exact ⟨List.mem_of_find?_eq_some h, by simpa using List.find?_some h⟩
  · rintro ⟨hr, rfl⟩
    cases hf : s.records.find? (·.id = r.id) with
    | none => exact absurd (List.find?_eq_none.1 hf r hr) (by simp)
    | some a =>
      have ha : a.id = r.id := by simpa using List.find?_some hf
      rw [eq_of_id_eq (List.mem_of_find?_eq_some hf) hr ha]

theorem get?_eq_none : s.get? id = none ↔ ∀ r ∈ s.records, r.id ≠ id := by
  unfold get?
  rw [List.find?_eq_none]
  simp

theorem get?_id (h : s.get? id = some r) : r.id = id := (get?_eq_some.1 h).2

theorem get?_of_mem (h : r ∈ s.records) : s.get? r.id = some r := get?_eq_some.2 ⟨h, rfl⟩

theorem mem_of_get? (h : s.get? id = some r) : r ∈ s.records := (get?_eq_some.1 h).1

theorem get?_empty : Store.empty.get? id = none := rfl

/-! ## the three ways of changing -/

theorem mem_put {a : Record} : a ∈ (s.put r).records ↔ a = r ∨ a ∈ s.records ∧ a.id ≠ r.id := by
  simp only [put, List.mem_append, List.mem_filter, List.mem_singleton, decide_eq_true_eq]
  exact or_comm

theorem get?_put (s : Store) (r : Record) (id : Uuid) :
    (s.put r).get? id = if id = r.id then some r else s.get? id := by
  by_cases h : id = r.id
  · rw [if_pos h, get?_eq_some]
    exact ⟨mem_put.2 (Or.inl rfl), h.symm⟩
  rw [if_neg h]
  cases hg : s.get? id with
  | none =>
    rw [get?_eq_none]
    intro a ha
    rcases mem_put.1 ha with rfl | ⟨ha, _⟩
    · exact fun e => h e.symm
    · exact get?_eq_none.1 hg a ha
  | some a =>
    obtain ⟨ha, rfl⟩ := get?_eq_some.1 hg
    exact get?_of_mem (mem_put.2 (Or.inr ⟨ha, h⟩))

theorem get?_filter (p : Record → Bool) (s : Store) (id : Uuid) :
    (s.filter p).get? id = (s.get? id).filter p := by
  cases h : s.get? id with
  | none =>
    rw [Option.filter_none, get?_eq_none]
    intro a ha
    exact get?_eq_none.1 h a (List.mem_filter.1 ha).1
  | some a =>
    obtain ⟨ha, hid⟩ := get?_eq_some.1 h
    by_cases hp : p a
    · rw [Option.filter_some, if_pos hp]
      exact get?_eq_some.2 ⟨List.mem_filter.2 ⟨ha, hp⟩, hid⟩
    · rw [Option.filter_some, if_neg hp, get?_eq_none]
      intro b hb hbid
      obtain ⟨hb, hpb⟩ := List.mem_filter.1 hb
      rw [eq_of_id_eq hb ha (hbid.trans hid.symm)] at hpb
      exact hp hpb

theorem get?_adjust (p : Record → Bool) (f : Record → Record) (s : Store) (id : Uuid) :
    (s.adjust p f).get? id =
      (s.get? id).map fun r => if p r then { f r with id := r.id } else r := by
  cases h : s.get? id with
  | none =>
    rw [Option.map_none, get?_eq_none]
    intro a ha
    obtain ⟨b, hb, rfl⟩ := List.mem_map.1 ha
    have hne := get?_eq_none.1 h b hb
    split <;> exact hne
  | some a =>
    obtain ⟨ha, hid⟩ := get?_eq_some.1 h
    rw [Option.map_some, get?_eq_some]
    refine ⟨List.mem_map.2 ⟨a, ha, rfl⟩, ?_⟩
    split <;> exact hid

theorem get?_adjust_id (id : Uuid) (f : Record → Record) (s : Store) (i : Uuid) :
    (s.adjust (·.id = id) f).get? i =
      if i = id then (s.get? i).map fun r => { f r with id := r.id } else s.get? i := by
  rw [get?_adjust]
  cases hg : s.get? i with
  | none => split <;> rfl
  | some a =>
    have hai := get?_id hg
    subst hai
    by_cases hi : a.id = id <;> simp [hi]

/-! ## producers -/

theorem keyTaken_eq_true {key : Option String} :
    s.keyTaken key = true ↔ ∃ k r, key = some k ∧ r ∈ s.records ∧ r.dedupeKey = some k := by
  cases key with
  | none => simp [keyTaken]
  | some k => simp [keyTaken, hasKey]

theorem enqueue_taken {e : Event} (h : s.keyTaken e.dedupeKey = true) :
    s.enqueue e = (.duplicate, s) := if_pos h

theorem enqueue_free {e : Event} (h : ¬ s.keyTaken e.dedupeKey = true) :
    s.enqueue e = (.inserted e.id, s.put e.record) := if_neg h

/-! ## consumers -/

theorem has_eq_true {st : Status} : s.has id st = true ↔ ∃ r, s.get? id = some r ∧ r.status = st := by
  unfold has
  rw [List.any_eq_true]
  constructor
  · rintro ⟨r, hr, h⟩
    simp only [Bool.and_eq_true, decide_eq_true_eq] at h
    exact ⟨r, get?_eq_some.2 ⟨hr, h.1⟩, h.2⟩
  · rintro ⟨r, hg, h⟩
    obtain ⟨hr, hid⟩ := get?_eq_some.1 hg
    exact ⟨r, hr, by simp [hid, h]⟩

/-- A claim returns stored records that are pending and due. -/
theorem mem_claim {now : Timestamp} {lease : Duration} {limit : Nat}
    (h : r ∈ (s.claim now lease limit).1) :
    s.get? r.id = some r ∧ r.status = .pending ∧ r.availableAt ≤ now := by
  have hd : r ∈ s.due now := List.mem_of_mem_take h
  unfold due at hd
  rw [List.mem_mergeSort] at hd
  obtain ⟨hr, hdue⟩ := List.mem_filter.1 hd
  simp only [isDue, Bool.and_eq_true, decide_eq_true_eq] at hdue
  exact ⟨get?_of_mem hr, hdue.1, hdue.2⟩

theorem claim_nodup (s : Store) (now : Timestamp) (lease : Duration) (limit : Nat) :
    ((s.claim now lease limit).1.map Record.id).Nodup := by
  have h1 : ((s.records.filter (isDue now)).map Record.id).Nodup :=
    (List.filter_sublist.map Record.id).nodup s.distinct
  have h2 : ((s.due now).map Record.id).Nodup :=
    ((List.mergeSort_perm _ _).map Record.id).nodup_iff.2 h1
  exact ((List.take_sublist limit (s.due now)).map Record.id).nodup h2

theorem get?_claim_of_mem {now : Timestamp} {lease : Duration} {limit : Nat}
    (h : r ∈ (s.claim now lease limit).1) :
    (s.claim now lease limit).2.get? r.id = some { r with availableAt := now.addOrMax lease } := by
  have hg := (mem_claim h).1
  unfold claim at h ⊢
  rw [get?_adjust, hg, Option.map_some, if_pos]
  exact List.any_eq_true.2 ⟨r, h, by simp⟩

theorem get?_claim_of_notMem {now : Timestamp} {lease : Duration} {limit : Nat}
    (h : ∀ r ∈ (s.claim now lease limit).1, r.id ≠ id) :
    (s.claim now lease limit).2.get? id = s.get? id := by
  unfold claim at h ⊢
  rw [get?_adjust]
  cases hg : s.get? id with
  | none => rfl
  | some a =>
    rw [Option.map_some, if_neg]
    rw [List.any_eq_true]
    rintro ⟨b, hb, hid⟩
    exact h b hb (by simpa [get?_id hg] using hid)

/-- A claim leaves a record as it is, or hides one that is pending and due. -/
theorem get?_claim_cases (now : Timestamp) (lease : Duration) (limit : Nat) (s : Store) (id : Uuid) :
    (s.claim now lease limit).2.get? id = s.get? id ∨
      ∃ r, s.get? id = some r ∧ r.status = .pending ∧ r.availableAt ≤ now ∧
        (s.claim now lease limit).2.get? id = some { r with availableAt := now.addOrMax lease } := by
  by_cases hid : ∃ r ∈ (s.claim now lease limit).1, r.id = id
  · obtain ⟨r, hr, rfl⟩ := hid
    obtain ⟨hget, hst, hdue⟩ := mem_claim hr
    exact Or.inr ⟨r, hget, hst, hdue, get?_claim_of_mem hr⟩
  · exact Or.inl (get?_claim_of_notMem fun r hr hri => hid ⟨r, hr, hri⟩)

/-- What an update does: it takes a pending record to its `outcome`. -/
theorem get?_update {now : Timestamp} {delay : Duration} {st : Status} {n : UInt32}
    {err : Option String} (h : s.update now delay id st n err = .ok s') :
    ∃ r, s.get? id = some r ∧ r.status = .pending ∧
      ∀ i, s'.get? i = if i = id then some (outcome now delay st n err r) else s.get? i := by
  unfold update at h
  split at h
  · rename_i hp
    obtain ⟨r, hg, hst⟩ := has_eq_true.1 hp
    injection h with h
    subst h
    refine ⟨r, hg, hst, fun i => ?_⟩
    rw [get?_adjust_id]
    by_cases hi : i = id
    · rw [if_pos hi, if_pos hi, hi, hg, Option.map_some]
      cases st <;> rfl
    · rw [if_neg hi, if_neg hi]
  · cases h

theorem get?_delete (h : s.delete id = .ok s') (i : Uuid) :
    s'.get? i = if i = id then none else s.get? i := by
  unfold delete at h
  split at h
  · injection h with h
    subst h
    rw [get?_filter]
    cases ha : s.get? i with
    | none => split <;> rfl
    | some a =>
      have hai := get?_id ha
      subst hai
      by_cases hi : a.id = id <;> simp [hi]
  · cases h

theorem get?_of_delete (h : s.delete id = .ok s') : ∃ r, s.get? id = some r := by
  unfold delete at h
  split at h
  · rename_i hany
    obtain ⟨r, hr, hid⟩ := List.any_eq_true.1 hany
    exact ⟨r, get?_eq_some.2 ⟨hr, of_decide_eq_true hid⟩⟩
  · cases h

/-- A write changes nothing but the record it is about. -/
theorem get?_write {now : Timestamp} {delay : Duration} {wr : Write}
    (h : s.write now delay wr = .ok s') {i : Uuid} (hi : i ≠ wr.id) : s'.get? i = s.get? i := by
  cases wr with
  | update id st n err =>
    obtain ⟨_, _, _, hs⟩ := get?_update h
    exact (hs i).trans (if_neg hi)
  | delete id => exact (get?_delete h i).trans (if_neg hi)

/-! ## outcomes -/

section
variable {now : Timestamp} {delay : Duration} {st : Status} {n : UInt32} {err : Option String}

@[simp]
theorem fixed_outcome : (outcome now delay st n err r).fixed = r.fixed := by cases st <;> rfl

@[simp]
theorem status_outcome : (outcome now delay st n err r).status = st := by cases st <;> rfl

@[simp]
theorem retryCount_outcome : (outcome now delay st n err r).retryCount = n := by cases st <;> rfl

@[simp]
theorem lastError_outcome : (outcome now delay st n err r).lastError = err := by cases st <;> rfl

@[simp]
theorem maxRetries_outcome : (outcome now delay st n err r).maxRetries = r.maxRetries := by
  cases st <;> rfl

end

/-! ## operations -/

theorem get?_requeue {now : Timestamp} (h : s.requeue now id = .ok s') :
    ∃ r, s.get? id = some r ∧ r.status = .failed ∧
      ∀ i, s'.get? i =
        if i = id then
          some { r with status := .pending, retryCount := 0, availableAt := now, processedAt := none }
        else s.get? i := by
  unfold requeue at h
  split at h
  · rename_i hp
    obtain ⟨r, hg, hst⟩ := has_eq_true.1 hp
    injection h with h
    subst h
    refine ⟨r, hg, hst, fun i => ?_⟩
    rw [get?_adjust_id]
    by_cases hi : i = id
    · rw [if_pos hi, if_pos hi, hi, hg, Option.map_some]
    · rw [if_neg hi, if_neg hi]
  · cases h

theorem get?_purge (t : Timestamp) (s : Store) (id : Uuid) :
    (s.purge t).2.get? id = (s.get? id).filter fun r => !isProcessedBefore t r :=
  get?_filter _ s id

/-- A purge leaves a record as it is, or removes one that is processed. -/
theorem get?_purge_cases (t : Timestamp) (s : Store) (id : Uuid) :
    (s.purge t).2.get? id = s.get? id ∨
      ∃ r, s.get? id = some r ∧ r.status = .processed ∧ (s.purge t).2.get? id = none := by
  rw [get?_purge]
  cases s.get? id with
  | none => exact Or.inl rfl
  | some r =>
    rw [Option.filter_some]
    split
    · exact Or.inl rfl
    · rename_i hp
      simp only [isProcessedBefore, Bool.not_eq_true', Bool.not_eq_false, Bool.and_eq_true,
        decide_eq_true_eq] at hp
      exact Or.inr ⟨r, rfl, hp.1, rfl⟩

end Store
end Outbox
