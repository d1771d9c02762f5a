import Outbox.Proofs.Clock
import Outbox.Proofs.Lookup

/-!
# What a claim returns and changes

* `Record.CreatedBefore`, `Record.DueBefore`   the orders of creation and of claims, which tell any two
                      records of one store apart;
* `createdLE_spec`, `dueLE_spec`   the tests that sorting is done with test these orders;
* `Record.Sorts`      what such a test has to be; `sorted_pairwise`, `sorted_perm`: then the records of a
                      store are sorted into a strict order, however the store lists them;
* `due_perm`          what is due does not depend on the order in which a store lists its records;
* `Store.FirstDue`    the records that are due first;
* `claim_firstDue`    a claim returns these, hides them until the end of the lease, and leaves all else.
-/

namespace Outbox

theorem Uuid.eq_iff_toNat {u v : Uuid} : u = v ↔ u.bits.toNat = v.bits.toNat := by
  rw [BitVec.toNat_inj]
  exact ⟨congrArg bits, fun h => by cases u; cases v; simp_all⟩

namespace Record

/-! ## orders -/

/-- `a` was created before `b`; of two records of one time that with the smaller id comes first. -/
def CreatedBefore (a b : Record) : Prop :=
  a.createdAt < b.createdAt ∨ a.createdAt = b.createdAt ∧ a.id < b.id

/-- `a` is claimed before `b`: it is available earlier, or at the same time and was created before. -/
def DueBefore (a b : Record) : Prop :=
  a.availableAt < b.availableAt ∨ a.availableAt = b.availableAt ∧ a.CreatedBefore b

theorem createdLE_iff {a b : Record} :
    createdLE a b = true ↔ a.createdAt.key < b.createdAt.key ∨
      a.createdAt.key = b.createdAt.key ∧ a.id.bits.toNat ≤ b.id.bits.toNat := by
  simp only [createdLE, Bool.or_eq_true, Bool.and_eq_true, decide_eq_true_eq, Timestamp.eq_iff_key]
  exact Iff.rfl

theorem dueLE_iff {a b : Record} :
    dueLE a b = true ↔ a.availableAt.key < b.availableAt.key ∨
      a.availableAt.key = b.availableAt.key ∧ createdLE a b = true := by
  simp only [dueLE, Bool.or_eq_true, Bool.and_eq_true, decide_eq_true_eq, Timestamp.eq_iff_key]
  exact Iff.rfl

theorem createdBefore_iff {a b : Record} :
    a.CreatedBefore b ↔ a.createdAt.key < b.createdAt.key ∨
      a.createdAt.key = b.createdAt.key ∧ a.id.bits.toNat < b.id.bits.toNat := by
  unfold CreatedBefore
  rw [Timestamp.eq_iff_key]
  exact Iff.rfl

theorem createdLE_trans (a b c : Record) (h : createdLE a b = true) (k : createdLE b c = true) :
    createdLE a c = true := by
  rw [createdLE_iff] at h k ⊢
  omega

theorem createdLE_total (a b : Record) : (createdLE a b || createdLE b a) = true := by
  rw [Bool.or_eq_true, createdLE_iff, createdLE_iff]
  omega

/-- Two records with different ids are never equal in the order of creation. -/
theorem createdLE_spec {a b : Record} (h : a.id ≠ b.id) : createdLE a b = true ↔ a.CreatedBefore b := by
  rw [Ne, Uuid.eq_iff_toNat] at h
  rw [createdLE_iff, createdBefore_iff]
  omega

theorem dueLE_trans (a b c : Record) (h : dueLE a b = true) (k : dueLE b c = true) :
    dueLE a c = true := by
  rw [dueLE_iff] at h k ⊢
  rcases h with h | ⟨h, h'⟩
  · omega
  · rcases k with k | ⟨k, k'⟩
    · omega
    · exact Or.inr ⟨h.trans k, createdLE_trans a b c h' k'⟩

theorem dueLE_total (a b : Record) : (dueLE a b || dueLE b a) = true := by
  have hcreated := createdLE_total a b
  rw [Bool.or_eq_true] at hcreated ⊢
  rw [dueLE_iff, dueLE_iff]
  rcases Int.lt_trichotomy a.availableAt.key b.availableAt.key with h | h | h
  · exact Or.inl (Or.inl h)
  · exact hcreated.imp (fun hab => Or.inr ⟨h, hab⟩) fun hba => Or.inr ⟨h.symm, hba⟩
  · exact Or.inr (Or.inl h)

theorem dueLE_spec {a b : Record} (h : a.id ≠ b.id) : dueLE a b = true ↔ a.DueBefore b := by
  unfold DueBefore
  rw [dueLE_iff, createdLE_spec h, Timestamp.eq_iff_key]
  exact Iff.rfl

theorem CreatedBefore.asymm {a b : Record} (h : a.CreatedBefore b) : ¬ b.CreatedBefore a := by
  rw [createdBefore_iff] at h ⊢
  omega

theorem DueBefore.asymm {a b : Record} (h : a.DueBefore b) : ¬ b.DueBefore a := by
  unfold DueBefore at h ⊢
  rw [createdBefore_iff, Timestamp.eq_iff_key, Timestamp.lt_iff] at h ⊢
  omega

/-- Sorting with the test `le` puts records with different ids into the strict order `before`. -/
structure Sorts (le : Record → Record → Bool) (before : Record → Record → Prop) : Prop where
  trans : ∀ a b c, le a b = true → le b c = true → le a c = true
  total : ∀ a b, (le a b || le b a) = true
  spec : ∀ a b, a.id ≠ b.id → (le a b = true ↔ before a b)
  asymm : ∀ a b, before a b → ¬ before b a

theorem sorts_due : Sorts dueLE DueBefore :=
  ⟨dueLE_trans, dueLE_total, fun _ _ h => dueLE_spec h, fun _ _ h => h.asymm⟩

theorem sorts_newest : Sorts (fun a b => createdLE b a) fun a b => b.CreatedBefore a :=
  ⟨fun a b c h k => createdLE_trans c b a k h, fun a b => createdLE_total b a,
    fun _ _ h => createdLE_spec h.symm, fun _ _ h => h.asymm⟩

end Record

namespace Store

variable {s s' : Store} {now : Timestamp} {lease : Duration} {limit : Nat}

/-! ## sorted records -/

section
variable {le : Record → Record → Bool} {before : Record → Record → Prop}

/-- Records of one store that were sorted stand in a strict order, and so without repetition. -/
theorem sorted_pairwise (h : Record.Sorts le before) (p : Record → Bool) (s : Store) :
    ((s.records.filter p).mergeSort le).Pairwise before := by
  have hids : ((s.records.filter p).mergeSort le).Pairwise fun a b => a.id ≠ b.id := by
    have hnodup : (((s.records.filter p).mergeSort le).map Record.id).Nodup :=
      ((List.mergeSort_perm _ _).map Record.id).nodup_iff.2
        ((List.filter_sublist.map Record.id).nodup s.distinct)
    exact List.pairwise_map.1 hnodup
  have hsorted : ((s.records.filter p).mergeSort le).Pairwise fun a b => le a b = true :=
    List.pairwise_mergeSort h.trans h.total _
  exact (hids.and hsorted).imp fun ⟨hne, hle⟩ => (h.spec _ _ hne).1 hle

/-- The order in which a store lists its records does not matter to what they are sorted into. -/
theorem sorted_perm (h : Record.Sorts le before) (p : Record → Bool)
    (hs : s'.records.Perm s.records) :
    (s'.records.filter p).mergeSort le = (s.records.filter p).mergeSort le := by
  have hperm : ((s'.records.filter p).mergeSort le).Perm ((s.records.filter p).mergeSort le) :=
    ((List.mergeSort_perm _ _).trans (hs.filter _)).trans (List.mergeSort_perm _ _).symm
  exact hperm.eq_of_pairwise (fun a b _ _ hab hba => absurd hba (h.asymm a b hab))
    (sorted_pairwise h p s') (sorted_pairwise h p s)

end

/-! ## what is due -/

theorem isDue_iff {r : Record} :
    isDue now r = true ↔ r.status = .pending ∧ r.availableAt ≤ now := by
  simp [isDue]

theorem mem_due {r : Record} : r ∈ s.due now ↔ r ∈ s.records ∧ isDue now r = true := by
  unfold due
  rw [List.mem_mergeSort, List.mem_filter]

theorem length_due (s : Store) (now : Timestamp) :
    (s.due now).length = s.records.countP (isDue now) := by
  unfold due
  rw [List.length_mergeSort, List.countP_eq_length_filter]

/-- What is listed in the order of claims stays as it is listed. -/
theorem due_of_pairwise (h : (s.records.filter (isDue now)).Pairwise fun a b => Record.dueLE a b = true) :
    s.due now = s.records.filter (isDue now) :=
  List.mergeSort_of_pairwise h

/-- What is due is listed in a strict order, and so without repetition. -/
theorem due_pairwise (s : Store) (now : Timestamp) : (s.due now).Pairwise Record.DueBefore :=
  sorted_pairwise Record.sorts_due _ s

/-- The order in which a store lists its records does not matter. -/
theorem due_perm (h : s'.records.Perm s.records) : s'.due now = s.due now :=
  sorted_perm Record.sorts_due _ h

/-! ## claims -/

/-- The records of `batch` are those that are due first, as many as `limit` allows. -/
structure FirstDue (s : Store) (now : Timestamp) (limit : Nat) (batch : List Record) : Prop where
  length : batch.length = min limit (s.records.countP (isDue now))
  ordered : batch.Pairwise Record.DueBefore
  stored : ∀ r ∈ batch, s.get? r.id = some r ∧ r.status = .pending ∧ r.availableAt ≤ now
  first : ∀ r ∈ batch, ∀ q ∈ s.records, q.status = .pending → q.availableAt ≤ now → q ∉ batch →
    r.DueBefore q

theorem firstDue_claim (s : Store) (now : Timestamp) (lease : Duration) (limit : Nat) :
    s.FirstDue now limit (s.claim now lease limit).1 where
  length := by
    rw [claim, List.length_take, length_due]
  ordered := (due_pairwise s now).sublist (List.take_sublist _ _)
  stored := fun r hr => mem_claim hr
  first := fun r hr q hq hst hdue hnot => by
    have hpairs := due_pairwise s now
    have hmem : q ∈ s.due now := mem_due.2 ⟨hq, isDue_iff.2 ⟨hst, hdue⟩⟩
    rw [← List.take_append_drop limit (s.due now)] at hpairs hmem
    exact (List.pairwise_append.1 hpairs).2.2 r hr q ((List.mem_append.1 hmem).resolve_left hnot)

/-- A store with its records listed in another order claims the same, and becomes the same but for that
order. -/
theorem claim_perm (h : s'.records.Perm s.records) :
    (s'.claim now lease limit).1 = (s.claim now lease limit).1 ∧
      (s'.claim now lease limit).2.records.Perm (s.claim now lease limit).2.records := by
  have hbatch : (s'.claim now lease limit).1 = (s.claim now lease limit).1 := by
    unfold claim
    rw [due_perm h]
  refine ⟨hbatch, ?_⟩
  unfold claim at hbatch ⊢
  dsimp only at hbatch ⊢
  rw [hbatch]
  exact h.map _

/-- **What a claim returns and changes.**  It returns the records that are due first, as they were stored,
in their order and as many as there may be.  Just these are then available when the lease ends, or never
again where that is out of range; nothing else changes.  The order in which the store lists its records
does not matter. -/
theorem claim_firstDue (s : Store) (now : Timestamp) (lease : Duration) (limit : Nat) :
    let (batch, after) := s.claim now lease limit
    s.FirstDue now limit batch ∧
      (∀ r ∈ batch, after.get? r.id =
        some { r with availableAt := (now.later? lease.nanos).getD .max }) ∧
      (∀ id, (∀ r ∈ batch, r.id ≠ id) → after.get? id = s.get? id) ∧
      ∀ s' : Store, s'.records.Perm s.records →
        (s'.claim now lease limit).1 = batch ∧ (s'.claim now lease limit).2.records.Perm after.records := by
  refine ⟨firstDue_claim s now lease limit, fun r hr => ?_, fun id hid => get?_claim_of_notMem hid,
    fun s' hs' => claim_perm hs'⟩
  rw [← Timestamp.addOrMax_eq]
  exact get?_claim_of_mem hr

/-- Two records are due since the same time, and there is room for only one of them.  The lease ends out
of range. -/
theorem claim_firstDue_tied :
    let clock (secs : UInt64) : Timestamp := Timestamp.epoch.addOrMax (.ofSecs secs)
    let event (n : Nat) (secs : UInt64) : Event :=
      { Event.create (.ofNat n) "Todo" (.ofNat 7) "todos" "TODO_CREATED" .null .epoch with
        availableAt := some (clock secs) }
    let stored (es : List Event) : Store := es.foldl (fun s e => s.put e.record) .empty
    let events := [event 3 5, event 1 5, event 4 9, event 2 2]
    let lease : Duration := .ofNanos Duration.maxNanos
    let s := stored events
    let s' := stored events.reverse
    let batch := (s.claim (clock 5) lease 2).1
    let after := (s.claim (clock 5) lease 2).2
    (batch.map Record.id = [.ofNat 2, .ofNat 1] ∧ s'.records.Perm s.records) ∧
      s.FirstDue (clock 5) 2 batch ∧
      (∃ r ∈ batch, r.id = .ofNat 1 ∧ after.get? r.id =
        some { r with availableAt := ((clock 5).later? lease.nanos).getD .max }) ∧
      after.get? (.ofNat 3) = s.get? (.ofNat 3) ∧ (s'.claim (clock 5) lease 2).1 = batch := by
  intro clock event stored events lease s s' batch after
  have hperm : s'.records.Perm s.records := List.reverse_perm s.records
  have hids : batch.map Record.id = [.ofNat 2, .ofNat 1] := by
    show ((s.due (clock 5)).take 2).map Record.id = _
    rw [← due_perm hperm, due_of_pairwise (by decide +kernel)]
    decide +kernel
  obtain ⟨hfirst, hmoved, hsame, hother⟩ := claim_firstDue s (clock 5) lease 2
  obtain ⟨r, hr, hid⟩ : ∃ r ∈ batch, r.id = .ofNat 1 :=
    List.mem_map.1 (by rw [hids]; decide)
  refine ⟨⟨hids, hperm⟩, hfirst, ⟨r, hr, hid, hmoved r hr⟩, hsame _ fun q hq => ?_, (hother s' hperm).1⟩
  have hq : q.id ∈ batch.map Record.id := List.mem_map_of_mem hq
  rw [hids] at hq
  intro hid
  rw [hid] at hq
  revert hq
  decide

end Store
end Outbox
