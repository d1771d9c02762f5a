import Outbox.Proofs.Clock
import Outbox.Proofs.Origin

/-!
# Claims of one record are a lease apart

Any number of callers work on one outbox.  They take turns in any order, and whatever their clocks show.

* `Request`, `Visit`     what a caller asks for, and what the clock shows then;
* `Stores.serve`         what a visit does; a request that is refused changes nothing;
* `Visit.releases`       a retry or a requeue makes a record available before its lease has run out;
* `Stores.Quiet`         visits none of which does this to a record;
* `Store.HiddenUntil`    no claim before a time returns the record, which every such visit keeps;
* `claims_apart`         between two claims of one record a lease goes by.
-/

namespace Outbox

/-! ## callers -/

inductive Request where
  | enqueue (e : Event)
  /-- A unit of work stores what it staged. -/
  | commit (t : Staged)
  | claim (limit : Nat)
  /-- `delay` is the time until the next attempt. -/
  | write (wr : Write) (delay : Duration)
  | requeue (id : Uuid)
  | purge (olderThan : Timestamp)

/-- the ids under which it may store something -/
def Request.ids : Request → List Uuid
  | .enqueue e => [e.id]
  | .commit t => t.events.map Event.id
  | _ => []

structure Visit where
  now : Timestamp
  request : Request

namespace Stores

/-- A change of the outbox that is refused changes nothing. -/
def changed (s : Stores) : Except StoreError Store → Stores
  | .ok outbox => { s with outbox }
  | .error _ => s

def serve (lease : Duration) (s : Stores) (x : Visit) : Stores :=
  match x.request with
  | .enqueue e => { s with outbox := (s.outbox.enqueue e).2 }
  | .commit t =>
    match t.commit s with
    | .ok s' => s'
    | .error _ => s
  | .claim limit => { s with outbox := (s.outbox.claim x.now lease limit).2 }
  | .write wr delay => s.changed (s.outbox.write x.now delay wr)
  | .requeue id => s.changed (s.outbox.requeue x.now id)
  | .purge olderThan => { s with outbox := (s.outbox.purge olderThan).2 }

def serveAll (lease : Duration) (s : Stores) (xs : List Visit) : Stores := xs.foldl (serve lease) s

end Stores

/-- whether it schedules another attempt for the record with this id, or requeues it, and is not refused -/
def Visit.releases (s : Stores) (id : Uuid) (x : Visit) : Bool :=
  match x.request with
  | .write (.update i .pending n err) delay =>
    i = id && (s.outbox.update x.now delay i .pending n err).isOk
  | .requeue i => i = id && (s.outbox.requeue x.now i).isOk
  | _ => false

/-- The visits do not release the record with this id, they store nothing else under the id, and no clock
shows more than the largest time. -/
def Stores.Quiet (lease : Duration) (id : Uuid) : Stores → List Visit → Prop
  | _, [] => True
  | s, x :: xs =>
    (x.releases s id = false ∧ id ∉ x.request.ids ∧ x.now ≤ .max) ∧
      Stores.Quiet lease id (s.serve lease x) xs

instance Stores.decidableQuiet (lease : Duration) (id : Uuid) (s : Stores) (xs : List Visit) :
    Decidable (s.Quiet lease id xs) :=
  match xs with
  | [] => .isTrue trivial
  | x :: xs => @instDecidableAnd _ _ _ (decidableQuiet lease id (s.serve lease x) xs)

/-! ## one visit -/

/-- While the record with this id is pending, it is not available before the time `t`. -/
def Store.HiddenUntil (id : Uuid) (t : Timestamp) (s : Store) : Prop :=
  ∀ r, s.get? id = some r → r.status = .pending → t ≤ r.availableAt

namespace Store.HiddenUntil

variable {id : Uuid} {t : Timestamp} {s s' : Store}

theorem same (h : s.HiddenUntil id t) (hs : s'.get? id = s.get? id) : s'.HiddenUntil id t := by
  intro r hr
  rw [hs] at hr
  exact h r hr

theorem gone (hs : s'.get? id = none) : s'.HiddenUntil id t := by
  intro r hr
  rw [hs] at hr
  cases hr

theorem stored {r : Record} (hr : s.get? id = some r) : s.HiddenUntil id r.availableAt := by
  intro r' hr' _
  cases hr.symm.trans hr'
  exact Int.le_refl _

/-- A claim hides the record once more, and from a later time on. -/
theorem claim (h : s.HiddenUntil id t) {now : Timestamp} (hnow : now ≤ .max) (lease : Duration)
    (limit : Nat) : (s.claim now lease limit).2.HiddenUntil id t := by
  rcases get?_claim_cases now lease limit s id with hsame | ⟨r, hr, hst, hdue, hhidden⟩
  · exact h.same hsame
  · intro r' hr' _
    cases hhidden.symm.trans hr'
    have hle : t ≤ now := Int.le_trans (h r hr hst) hdue
    exact Int.le_trans hle (Timestamp.le_addOrMax hnow lease)

theorem write (h : s.HiddenUntil id t) {now : Timestamp} {delay : Duration} {wr : Write}
    (hs : s.write now delay wr = .ok s') (hwr : ∀ n err, wr ≠ .update id .pending n err) :
    s'.HiddenUntil id t := by
  by_cases hid : id = wr.id
  case neg => exact h.same (get?_write hs hid)
  cases wr with
  | delete i => exact gone ((get?_delete hs id).trans (if_pos hid))
  | update i st n err =>
    obtain rfl : id = i := hid
    obtain ⟨r, _, _, hr⟩ := get?_update hs
    intro r' hr' hst
    rw [hr, if_pos rfl] at hr'
    injection hr' with hr'
    subst hr'
    rw [status_outcome] at hst
    subst hst
    exact absurd rfl (hwr n err)

end Store.HiddenUntil

namespace Stores

variable {lease : Duration} {id : Uuid} {t : Timestamp} {s : Stores}

/-- **One visit.**  A record stays hidden, unless somebody releases it. -/
theorem hiddenUntil_serve {x : Visit} (h : s.outbox.HiddenUntil id t) (hx : x.releases s id = false)
    (hid : id ∉ x.request.ids) (hnow : x.now ≤ .max) : (s.serve lease x).outbox.HiddenUntil id t := by
  obtain ⟨now, request⟩ := x
  cases request with
  | enqueue e =>
    show (s.outbox.enqueue e).2.HiddenUntil id t
    by_cases hk : s.outbox.keyTaken e.dedupeKey = true
    · rw [Store.enqueue_taken hk]
      exact h
    · rw [Store.enqueue_free hk]
      refine h.same ((Store.get?_put _ _ _).trans (if_neg ?_))
      exact fun hide => hid (List.mem_singleton.2 hide)
  | commit staged =>
    show Store.HiddenUntil id t (match staged.commit s with | .ok s' => s' | .error _ => s).outbox
    unfold Staged.commit
    cases staged.conflict? s with
    | some key => exact h
    | none => exact h.same (Site.get?_putAll hid)
  | claim limit => exact h.claim hnow lease limit
  | write wr delay =>
    show (s.changed (s.outbox.write now delay wr)).outbox.HiddenUntil id t
    cases hs : s.outbox.write now delay wr with
    | error e => exact h
    | ok outbox =>
      refine h.write hs fun n err hwr => ?_
      subst hwr
      have hs : s.outbox.update now delay id .pending n err = .ok outbox := hs
      simp [Visit.releases, hs, Except.isOk, Except.toBool] at hx
  | requeue i =>
    show (s.changed (s.outbox.requeue now i)).outbox.HiddenUntil id t
    cases hs : s.outbox.requeue now i with
    | error e => exact h
    | ok outbox =>
      obtain ⟨r, _, _, hr⟩ := Store.get?_requeue hs
      refine h.same ((hr id).trans (if_neg ?_))
      rintro rfl
      simp [Visit.releases, hs, Except.isOk, Except.toBool] at hx
  | purge olderThan =>
    show (s.outbox.purge olderThan).2.HiddenUntil id t
    rcases Store.get?_purge_cases olderThan s.outbox id with hg | ⟨_, _, _, hg⟩
    · exact h.same hg
    · exact .gone hg

/-! ## many visits -/

theorem hiddenUntil_serveAll {xs : List Visit} (h : s.outbox.HiddenUntil id t)
    (hxs : s.Quiet lease id xs) : (s.serveAll lease xs).outbox.HiddenUntil id t := by
  induction xs generalizing s with
  | nil => exact h
  | cons x xs ih =>
    obtain ⟨⟨hrel, hid, hnow⟩, hxs⟩ := hxs
    exact ih (hiddenUntil_serve h hrel hid hnow) hxs

/-- While a record is hidden, no claim returns it, also after visits that do not release it. -/
theorem not_claimed (h : s.outbox.HiddenUntil id t) {xs : List Visit} (hxs : s.Quiet lease id xs)
    {clock : Timestamp} (hclock : clock < t) (limit : Nat) :
    ∀ q ∈ ((s.serveAll lease xs).outbox.claim clock lease limit).1, q.id ≠ id := by
  rintro q hq rfl
  obtain ⟨hget, hst, hdue⟩ := Store.mem_claim hq
  have hle : t ≤ clock := Int.le_trans (hiddenUntil_serveAll h hxs q hget hst) hdue
  exact absurd hclock (Int.not_lt.2 hle)

/-- **Claims are a lease apart.**  A record that was claimed at the time `t₁` is claimed again at `t₂`,
after any visits none of which released it.  Then the lease of the first claim has run out, or, where it
would end out of range, time itself has. -/
theorem claims_apart {lease : Duration} {s : Stores} {t₁ t₂ : Timestamp} {m n : Nat} {xs : List Visit}
    {q r : Record} (hq : q ∈ (s.outbox.claim t₁ lease m).1)
    (hxs : (s.serve lease ⟨t₁, .claim m⟩).Quiet lease q.id xs)
    (hr : r ∈ (((s.serve lease ⟨t₁, .claim m⟩).serveAll lease xs).outbox.claim t₂ lease n).1)
    (hid : r.id = q.id) (ht₂ : t₂ ≤ .max) :
    (∀ t, t₁.add? lease = some t → t ≤ t₂) ∧ (t₁.add? lease = none → t₂ = .max) := by
  have hfirst : (s.serve lease ⟨t₁, .claim m⟩).outbox.HiddenUntil q.id (t₁.addOrMax lease) := by
    intro r' hr' _
    have hclaimed := (Store.get?_claim_of_mem hq).symm.trans hr'
    injection hclaimed with hclaimed
    rw [← hclaimed]
    exact Int.le_refl _
  obtain ⟨hg, hst, hdue⟩ := Store.mem_claim hr
  rw [hid] at hg
  have hle : t₁.addOrMax lease ≤ t₂ := Int.le_trans (hiddenUntil_serveAll hfirst hxs r hg hst) hdue
  refine ⟨fun t ht => ?_, fun hnone => ?_⟩
  · rwa [Timestamp.addOrMax_of_add? ht] at hle
  · rw [Timestamp.addOrMax_of_none hnone] at hle
    exact Timestamp.key_inj (Int.le_antisymm ht₂ hle)

/-- One event is claimed three times, by three callers.  Meanwhile another event is stored, claimed and
published. -/
theorem claims_apart_twice :
    let event (n : Nat) : Event :=
      .create (.ofNat n) "Todo" (.ofNat 7) "todos" "TODO_CREATED" .null .epoch
    let clock (secs : UInt64) : Timestamp := Timestamp.epoch.addOrMax (.ofSecs secs)
    let lease : Duration := .ofSecs 60
    let s : Stores := (default : Stores).serve lease ⟨clock 0, .enqueue (event 1)⟩
    let xs : List Visit :=
      [⟨clock 30, .enqueue (event 2)⟩, ⟨clock 30, .claim 5⟩,
        ⟨clock 31, .write (.update (.ofNat 2) .processed 0 none) (.ofSecs 1)⟩, ⟨clock 60, .claim 5⟩]
    let s' := (s.serve lease ⟨clock 0, .claim 5⟩).serveAll lease xs
    ∃ q ∈ (s.outbox.claim (clock 0) lease 5).1, ∃ r ∈ (s'.outbox.claim (clock 120) lease 5).1,
      (q.id = .ofNat 1 ∧ r.id = q.id ∧ (s.serve lease ⟨clock 0, .claim 5⟩).Quiet lease q.id xs ∧
          clock 120 ≤ .max) ∧
        (∀ t, (clock 0).add? lease = some t → t ≤ clock 120) ∧
        ((clock 0).add? lease = none → clock 120 = .max) := by
  intro event clock lease s xs s'
  have hq : ∃ q ∈ (s.outbox.claim (clock 0) lease 5).1, q.id = .ofNat 1 := by decide +kernel
  have hr : ∃ r ∈ (s'.outbox.claim (clock 120) lease 5).1, r.id = .ofNat 1 := by decide +kernel
  have hxs : (s.serve lease ⟨clock 0, .claim 5⟩).Quiet lease (.ofNat 1) xs := by decide +kernel
  have hmax : clock 120 ≤ .max := by decide
  obtain ⟨q, hq, hqid⟩ := hq
  obtain ⟨r, hr, hrid⟩ := hr
  have hid : r.id = q.id := hrid.trans hqid.symm
  have hquiet : (s.serve lease ⟨clock 0, .claim 5⟩).Quiet lease q.id xs := by
    rw [hqid]
    exact hxs
  exact ⟨q, hq, r, hr, ⟨hqid, hid, hquiet, hmax⟩, claims_apart hq hquiet hr hid hmax⟩

end Stores

end Outbox
