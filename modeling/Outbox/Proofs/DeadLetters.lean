import Outbox.Proofs.DueOrder

/-!
# Dead letters, page by page

The failed records of a store are sorted anew for every page that is asked for.  The pages fit together
because the order of creation tells any two records of a store apart, so that there is only one way to
list them.

* `Store.DeadLetters`       the failed records, each once, newest first;
* `failed_perm`             the order in which a store lists its records does not matter;
* `flatMap_pages`           pages of one size, one after another, are the beginning of a list;
* `deadLetters_paged`       what the pages are, and what they are together.
-/

namespace Outbox

/-! ## pages of a list -/

section
variable {α : Type} (l : List α) {size : Nat}

theorem flatMap_pages (size n : Nat) :
    (List.range n).flatMap (fun k => (l.drop (k * size)).take size) = l.take (n * size) := by
  induction n with
  | zero => rw [Nat.zero_mul]; rfl
  | succ n ih =>
    rw [List.range_succ, List.flatMap_append, ih, List.flatMap_singleton, Nat.succ_mul, List.take_add]

theorem page_eq_nil_iff (hsize : 0 < size) (k : Nat) :
    (l.drop (k * size)).take size = [] ↔ (l.length + size - 1) / size ≤ k := by
  rw [List.take_eq_nil_iff, List.drop_eq_nil_iff, Nat.div_le_iff_le_mul_add_pred hsize, Nat.mul_comm size]
  omega

end

namespace Store

variable {s s' : Store}

/-! ## the whole list -/

/-- `letters` are the failed records of the store: these and no others, none of them twice, newest
first. -/
structure DeadLetters (s : Store) (letters : List Record) : Prop where
  mem_iff : ∀ r, r ∈ letters ↔ r ∈ s.records ∧ r.status = .failed
  nodup : letters.Nodup
  newestFirst : letters.Pairwise fun a b => b.CreatedBefore a

theorem deadLetters_failed (s : Store) : s.DeadLetters s.failed where
  mem_iff := fun r => by
    unfold failed
    rw [List.mem_mergeSort, List.mem_filter, decide_eq_true_eq]
  nodup := (sorted_pairwise Record.sorts_newest _ s).imp fun h heq => by
    subst heq
    exact h.asymm h
  newestFirst := sorted_pairwise Record.sorts_newest _ s

theorem failed_perm (h : s'.records.Perm s.records) : s'.failed = s.failed :=
  sorted_perm Record.sorts_newest _ h

/-! ## pages -/

/-- **Dead letters come in pages.**  A page is the part that begins at its offset of one list, which has
every failed record once and nothing else, newest first.  Whoever asks for page after page of any size
meets this list from beginning to end, and then nothing but empty pages.  The order in which the store
lists its records does not matter. -/
theorem deadLetters_paged (s : Store) {size : Nat} (hsize : 1 ≤ size) :
    ∃ letters, s.DeadLetters letters ∧
      (∀ limit offset, s.listFailed limit offset = (letters.drop offset).take limit) ∧
      (∃ n, (∀ k, s.listFailed size (k * size) = [] ↔ n ≤ k) ∧
        (List.range n).flatMap (fun k => s.listFailed size (k * size)) = letters) ∧
      ∀ s' : Store, s'.records.Perm s.records →
        ∀ limit offset, s'.listFailed limit offset = s.listFailed limit offset := by
  have hend := page_eq_nil_iff s.failed hsize
  refine ⟨s.failed, deadLetters_failed s, fun _ _ => rfl, ⟨_, hend, ?_⟩, fun s' hs' limit offset => ?_⟩
  · refine (flatMap_pages s.failed size _).trans (List.take_of_length_le ?_)
    -- the first page that is empty begins behind the list
    exact List.drop_eq_nil_iff.1 ((List.take_eq_nil_iff.1 ((hend _).2 (Nat.le_refl _))).resolve_left
      (Nat.ne_of_gt hsize))
  · unfold listFailed
    rw [failed_perm hs']

/-- Two of three dead letters were created at one time, and there is room for two on a page. -/
theorem deadLetters_paged_tied :
    let record (n : Nat) (secs : UInt64) (status : Status) : Record :=
      { (Event.create (.ofNat n) "Todo" (.ofNat 7) "todos" "TODO_CREATED" .null
          (Timestamp.epoch.addOrMax (.ofSecs secs))).record with status }
    let records := [record 3 9 .failed, record 1 9 .failed, record 4 6 .pending, record 2 5 .failed]
    let s : Store := ⟨records, by decide⟩
    let s' : Store := ⟨records.reverse, by decide⟩
    let page (k : Nat) := s.listFailed 2 (k * 2)
    (1 ≤ 2 ∧ s'.records.Perm s.records ∧ (page 0).map Record.id = [.ofNat 3, .ofNat 1] ∧
        (page 1).map Record.id = [.ofNat 2] ∧ page 2 = []) ∧
      s.DeadLetters (page 0 ++ page 1) ∧ s'.listFailed 2 2 = page 1 := by
  intro record records s s' page
  have hperm : s'.records.Perm s.records := List.reverse_perm records
  have hfailed : s.failed = s.records.filter (·.status = .failed) :=
    List.mergeSort_of_pairwise (by decide +kernel)
  have hpage (k : Nat) : page k = ((s.records.filter (·.status = .failed)).drop (k * 2)).take 2 := by
    rw [← hfailed]
    rfl
  have hids : (page 0).map Record.id = [.ofNat 3, .ofNat 1] ∧ (page 1).map Record.id = [.ofNat 2] ∧
      page 2 = [] := by
    simp only [hpage]
    exact ⟨by decide +kernel, by decide +kernel, rfl⟩
  obtain ⟨letters, hletters, _, ⟨n, hend, hall⟩, hother⟩ := @deadLetters_paged s 2 (by decide)
  have hone : ¬ n ≤ 1 := fun hn => by
    have hlast := hids.2.1
    rw [show page 1 = [] from (hend 1).2 hn] at hlast
    cases hlast
  obtain rfl : n = 2 := by
    have htwo : n ≤ 2 := (hend 2).1 hids.2.2
    omega
  refine ⟨⟨by decide, hperm, hids⟩, ?_, hother s' hperm 2 2⟩
  have hpages : page 0 ++ page 1 = letters := by
    rw [← hall]
    exact congrArg (page 0 ++ ·) (List.append_nil _).symm
  rw [hpages]
  exact hletters

end Store

end Outbox
