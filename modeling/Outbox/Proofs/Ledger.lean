import Outbox.Proofs.Batch
import Outbox.Proofs.Contacts

/-!
# A tick accounts for every entry of its batch

A tick may meet any store and any publisher, at any pace.  Entries are told apart by their place in the
batch, since nothing keeps a store from claiming a record twice.

* `Deed`           what is done about an entry;
* `Story`          the deeds of one entry so far;
* `verdict?`       what became of an entry, read off its deeds;
* `Entry`          an entry of the ledger: a record of the batch, and how far it is;
* `Kept`           the ledger agrees with the batch, and with what was asked of the store and the publisher;
* `Kept.move`      it does so after every move;
* `Batch.todo`     how many moves are left at most;
* `Accounted`      what is to be said of a tick that claimed a batch;
* `tick_accounts`  every tick fails as its claim does, or accounts for all entries.
-/

namespace Outbox.Relay

/-! ## deeds -/

inductive Deed where
  /-- The record is left for a later claim. -/
  | left (r : Record)
  | called (r : Record)
  /-- The publish ends, in time or at its time limit. -/
  | ended (r : Record) (inTime : Bool) (result : Except PublishError Unit)
  | wrote (w : Write) (reply : Except StoreError Unit)

/-- what the store or the publisher notices -/
def Deed.contact? : Deed → Option Contact
  | .left _ => none
  | .called r => some (.called r)
  | .ended _ false _ => none
  | .ended r true result => some (.answered r result)
  | .wrote w reply => some (.wrote w reply)

/-- A delivered record is marked or deleted, one whose publish failed is written as pending or failed. -/
def Suits (r : Record) : Except PublishError Unit → Write → Prop
  | .ok (), .update id .processed _ _ => id = r.id
  | .ok (), .delete id => id = r.id
  | .error _, .update id .pending _ _ => id = r.id
  | .error _, .update id .failed _ _ => id = r.id
  | _, _ => False

theorem suits_writeFor (completion : Completion) (r : Record) (result : Except PublishError Unit) :
    Suits r result (writeFor completion r result) := by
  cases result with
  | ok _ => cases completion <;> rfl
  | error e =>
    unfold writeFor
    by_cases he : exhausted r = true
    · rw [if_pos he]
      rfl
    · rw [if_neg he]
      rfl

/-- the deeds of an entry with the record `r` so far -/
inductive Story (config : Config) (r : Record) : List Deed → Prop where
  | waiting : Story config r []
  | left : Story config r [.left r]
  | called : Story config r [.called r]
  | ended (inTime : Bool) (result : Except PublishError Unit)
      (h : inTime = false → result = .error (.timedOut config.publishTimeout)) :
      Story config r [.called r, .ended r inTime result]
  | wrote (inTime : Bool) (result : Except PublishError Unit) (w : Write)
      (reply : Except StoreError Unit)
      (h : inTime = false → result = .error (.timedOut config.publishTimeout))
      (hw : Suits r result w) :
      Story config r [.called r, .ended r inTime result, .wrote w reply]

/-- what became of an entry with these deeds, if that is settled -/
def verdict? : List Deed → Option Delivery
  | [.left _] => some .leaseExpired
  | [.called _, .ended _ _ _, .wrote _ (.error _)] => some .storeError
  | [.called _, .ended _ _ _, .wrote (.update _ .processed _ _) (.ok _)] => some .delivered
  | [.called _, .ended _ _ _, .wrote (.delete _) (.ok _)] => some .delivered
  | [.called _, .ended _ _ _, .wrote (.update _ .pending _ _) (.ok _)] => some .retried
  | [.called _, .ended _ _ _, .wrote (.update _ .failed _ _) (.ok _)] => some .deadLettered
  | _ => none

/-- the deeds that concern the entry at the place `i` -/
def deedsOf (i : Nat) (tale : List (Nat × Deed)) : List Deed :=
  (tale.filter fun x => x.1 = i).map Prod.snd

/-- the report of a batch of `claimed` records of which these were settled so -/
def Report.ofVerdicts (claimed : Nat) (vs : List Delivery) : Report where
  claimed := claimed
  delivered := vs.count .delivered
  retried := vs.count .retried
  deadLettered := vs.count .deadLettered
  storeErrors := vs.count .storeError
  leaseExpired := vs.count .leaseExpired

/-! ## courses -/

/-- how far an entry is -/
inductive Course where
  | waiting
  | left
  | flying
  | ended (inTime : Bool) (result : Except PublishError Unit)
  | written (inTime : Bool) (result : Except PublishError Unit) (reply : Except StoreError Unit)

structure Entry where
  record : Record
  course : Course

namespace Entry

def deeds (config : Config) (e : Entry) : List Deed :=
  match e.course with
  | .waiting => []
  | .left => [.left e.record]
  | .flying => [.called e.record]
  | .ended inTime result => [.called e.record, .ended e.record inTime result]
  | .written inTime result reply =>
    [.called e.record, .ended e.record inTime result,
      .wrote (writeFor config.completion e.record result) reply]

/-- where in the batch its record is -/
def place? (e : Entry) : Option Batch.Place :=
  match e.course with
  | .waiting => some (.waiting e.record)
  | .flying => some (.flying e.record)
  | .ended _ result => some (.ended ⟨e.record, result⟩)
  | _ => none

/-- what is counted for it -/
def delivery? (e : Entry) : Option Delivery :=
  match e.course with
  | .left => some .leaseExpired
  | .written _ result reply => some (deliveryFor e.record result reply)
  | _ => none

/-- A publish that does not end in time ends with its time limit. -/
def InTime (config : Config) (e : Entry) : Prop :=
  match e.course with
  | .ended inTime result => inTime = false → result = .error (.timedOut config.publishTimeout)
  | .written inTime result _ => inTime = false → result = .error (.timedOut config.publishTimeout)
  | _ => True

theorem place?_eq_waiting {e : Entry} {r : Record} (h : e.place? = some (.waiting r)) :
    e = ⟨r, .waiting⟩ := by
  obtain ⟨r', c⟩ := e
  cases c <;> cases h
  rfl

theorem place?_eq_flying {e : Entry} {r : Record} (h : e.place? = some (.flying r)) :
    e = ⟨r, .flying⟩ := by
  obtain ⟨r', c⟩ := e
  cases c <;> cases h
  rfl

theorem place?_eq_ended {e : Entry} {o : Outcome} (h : e.place? = some (.ended o)) :
    ∃ inTime, e = ⟨o.record, .ended inTime o.result⟩ := by
  obtain ⟨r', c⟩ := e
  cases c <;> cases h
  exact ⟨_, rfl⟩

/-- What is somewhere in the batch is not counted yet. -/
theorem delivery?_of_place? {e : Entry} {p : Batch.Place} (h : e.place? = some p) :
    e.delivery? = none := by
  obtain ⟨r', c⟩ := e
  cases c <;> cases h <;> rfl

theorem story {config : Config} {e : Entry} (h : e.InTime config) :
    Story config e.record (e.deeds config) := by
  obtain ⟨r, c⟩ := e
  cases c with
  | waiting => exact .waiting
  | left => exact .left
  | flying => exact .called
  | ended inTime result => exact .ended inTime result h
  | written inTime result reply => exact .wrote inTime result _ reply h (suits_writeFor _ _ _)

/-- What is counted is what became of the entry. -/
theorem verdict?_deeds (config : Config) (e : Entry) : verdict? (e.deeds config) = e.delivery? := by
  obtain ⟨r, c⟩ := e
  cases c with
  | written inTime result reply =>
    show verdict? [_, _, .wrote (writeFor config.completion r result) reply] =
      some (deliveryFor r result reply)
    cases result with
    | ok _ => cases config.completion <;> cases reply <;> rfl
    | error e =>
      unfold writeFor deliveryFor
      cases exhausted r <;> cases reply <;> rfl
  | _ => rfl

end Entry

/-! ## ledgers -/

/-- The ledger `es` and the `tale` agree with the batch `t`, of which `batch` is what was claimed. -/
structure Kept (config : Config) (batch : List Record) (es : List Entry) (tale : List (Nat × Deed))
    (t : Batch) : Prop where
  same : t.config = config
  records : es.map Entry.record = batch
  inTime : ∀ e ∈ es, e.InTime config
  known : ∀ x ∈ tale, x.1 < es.length
  deeds : ∀ i e, es[i]? = some e → deedsOf i tale = e.deeds config
  places : (es.filterMap Entry.place?).Perm t.places
  report : t.report = .ofVerdicts batch.length (es.filterMap Entry.delivery?)

theorem Report.ofVerdicts_cons (n : Nat) (v : Delivery) (vs : List Delivery) :
    ofVerdicts n (v :: vs) = (ofVerdicts n vs).record v := by
  cases v <;> simp [ofVerdicts, Report.record]

theorem Report.ofVerdicts_perm (n : Nat) {vs vs' : List Delivery} (h : vs.Perm vs') :
    ofVerdicts n vs = ofVerdicts n vs' := by
  simp only [ofVerdicts, h.count_eq]

theorem deedsOf_append (i : Nat) (tale : List (Nat × Deed)) (j : Nat) (d : Deed) :
    deedsOf i (tale ++ [(j, d)]) = deedsOf i tale ++ if j = i then [d] else [] := by
  unfold deedsOf
  rw [List.filter_append, List.map_append]
  by_cases hj : j = i <;> simp [hj]

/-- One entry is taken out of a list of entries. -/
theorem filterMap_perm_erase {β : Type} (f : Entry → Option β) {es : List Entry} {i : Nat} {e : Entry}
    (h : es[i]? = some e) :
    (es.filterMap f).Perm ((f e).toList ++ (es.eraseIdx i).filterMap f) := by
  obtain ⟨hlt, rfl⟩ := List.getElem?_eq_some_iff.1 h
  have hperm := (List.getElem_cons_eraseIdx_perm hlt).symm.filterMap f
  rw [List.filterMap_cons] at hperm
  cases hf : f es[i] with
  | none =>
    rw [hf] at hperm
    exact hperm
  | some b =>
    rw [hf] at hperm
    exact hperm

/-- One entry is written anew. -/
theorem filterMap_perm_set {β : Type} (f : Entry → Option β) {es : List Entry} {i : Nat} {e : Entry}
    (h : es[i]? = some e) (e' : Entry) :
    ((es.set i e').filterMap f).Perm ((f e').toList ++ (es.eraseIdx i).filterMap f) := by
  have hlt := (List.getElem?_eq_some_iff.1 h).1
  have hperm := filterMap_perm_erase f (List.getElem?_set_self (a := e') hlt)
  rwa [List.eraseIdx_set_eq] at hperm

namespace Kept

variable {config : Config} {batch : List Record} {es : List Entry} {tale : List (Nat × Deed)}
  {t t' : Batch} {p : Batch.Place} {others : List Batch.Place} {i : Nat} {e : Entry}

theorem new (config : Config) (lease : Duration) (began : Nat) (batch : List Record) :
    Kept config batch (batch.map fun r => ⟨r, .waiting⟩) [] (.ofRecords config lease began batch) where
  same := rfl
  records := by
    rw [List.map_map]
    exact List.map_id batch
  inTime := by
    intro e he
    obtain ⟨r, _, rfl⟩ := List.mem_map.1 he
    trivial
  known := fun _ hx => absurd hx List.not_mem_nil
  deeds := by
    intro i e he
    rw [List.getElem?_map] at he
    obtain ⟨r, _, rfl⟩ := Option.map_eq_some_iff.1 he
    rfl
  places := by
    have hplace : Entry.place? ∘ (fun r => ⟨r, .waiting⟩) = some ∘ Batch.Place.waiting := rfl
    rw [Batch.places_ofRecords, List.filterMap_map, hplace, List.filterMap_eq_map]
  report := by
    have hnone : ∀ e ∈ batch.map fun r => Entry.mk r .waiting, e.delivery? = none := by
      intro e he
      obtain ⟨r, _, rfl⟩ := List.mem_map.1 he
      rfl
    rw [List.filterMap_eq_nil_iff.2 hnone]
    rfl

/-- What is in the batch is an entry of the ledger. -/
theorem entry (h : Kept config batch es tale t) (hp : t.places.Perm (p :: others)) :
    ∃ (i : Nat) (e : Entry), es[i]? = some e ∧ e.place? = some p := by
  have hmem : p ∈ es.filterMap Entry.place? := (h.places.trans hp).mem_iff.2 List.mem_cons_self
  obtain ⟨e, he, hplace⟩ := List.mem_filterMap.1 hmem
  obtain ⟨i, hi⟩ := List.mem_iff_getElem?.1 he
  exact ⟨i, e, hi, hplace⟩

theorem places_set (h : Kept config batch es tale t) (hi : es[i]? = some e)
    (hplace : e.place? = some p) (hp : t.places.Perm (p :: others)) {e' : Entry}
    (hplaces : t'.places.Perm (e'.place?.toList ++ others)) :
    ((es.set i e').filterMap Entry.place?).Perm t'.places := by
  have hold := filterMap_perm_erase Entry.place? hi
  rw [hplace] at hold
  have hothers : ((es.eraseIdx i).filterMap Entry.place?).Perm others :=
    (hold.symm.trans (h.places.trans hp)).cons_inv
  have hnew := filterMap_perm_set Entry.place? hi e'
  exact (hnew.trans (hothers.append_left _)).trans hplaces.symm

/-- What was not counted before is counted once, if at all. -/
theorem report_set (h : Kept config batch es tale t) (hi : es[i]? = some e)
    (hplace : e.place? = some p) {e' : Entry} :
    e'.delivery?.elim t.report t.report.record =
      .ofVerdicts batch.length ((es.set i e').filterMap Entry.delivery?) := by
  have hold := filterMap_perm_erase Entry.delivery? hi
  rw [Entry.delivery?_of_place? hplace] at hold
  have hnew := filterMap_perm_set Entry.delivery? hi e'
  rw [h.report, Report.ofVerdicts_perm _ hold, Report.ofVerdicts_perm _ hnew]
  cases e'.delivery? with
  | none => rfl
  | some v => exact (Report.ofVerdicts_cons _ v _).symm

theorem deeds_set (h : Kept config batch es tale t) (hi : es[i]? = some e) {e' : Entry} {d : Deed}
    (hdeeds : e'.deeds config = e.deeds config ++ [d]) (j : Nat) (x : Entry)
    (hx : (es.set i e')[j]? = some x) : deedsOf j (tale ++ [(i, d)]) = x.deeds config := by
  rw [deedsOf_append]
  by_cases hij : i = j
  · subst hij
    rw [List.getElem?_set_self (List.getElem?_eq_some_iff.1 hi).1] at hx
    cases hx
    rw [if_pos rfl, h.deeds i e hi, hdeeds]
  · rw [List.getElem?_set_ne hij] at hx
    rw [if_neg hij, List.append_nil, h.deeds j x hx]

/-- An entry makes one step. -/
theorem set (h : Kept config batch es tale t) (hi : es[i]? = some e) (hplace : e.place? = some p)
    (hp : t.places.Perm (p :: others)) (e' : Entry) {d : Deed} (hrecord : e'.record = e.record)
    (htime : e'.InTime config) (hdeeds : e'.deeds config = e.deeds config ++ [d])
    (hplaces : t'.places.Perm (e'.place?.toList ++ others))
    (hreport : t'.report = e'.delivery?.elim t.report t.report.record)
    (hsame : t'.config = t.config) :
    Kept config batch (es.set i e') (tale ++ [(i, d)]) t' := by
  obtain ⟨hlt, he⟩ := List.getElem?_eq_some_iff.1 hi
  refine ⟨hsame.trans h.same, ?_, ?_, ?_, h.deeds_set hi hdeeds, h.places_set hi hplace hp hplaces,
    hreport.trans (h.report_set hi hplace)⟩
  · rw [List.map_set, hrecord, ← h.records, ← he, ← List.getElem_map Entry.record]
    exact List.set_getElem_self (by simpa using hlt)
  · intro x hx
    rcases List.mem_or_eq_of_mem_set hx with hx | rfl
    · exact h.inTime x hx
    · exact htime
  · intro x hx
    rw [List.length_set]
    rcases List.mem_append.1 hx with hx | hx
    · exact h.known x hx
    · cases List.mem_singleton.1 hx
      exact hlt

/-- Whatever a move does, an entry makes one step or none, and is asked for accordingly. -/
theorem move (h : Kept config batch es tale t) {σ : Type} (b : Backend σ) (s : σ × List Contact)
    (m : Move) :
    ∃ es' more, Kept config batch es' (tale ++ more) (t.move b.noting s m).1 ∧
      (t.move b.noting s m).2.2 = s.2 ++ more.filterMap fun x => x.2.contact? := by
  have hmoved := Batch.moved b.noting t s m
  generalize t.move b.noting s m = next at hmoved ⊢
  obtain ⟨t', s'⟩ := next
  dsimp only at hmoved ⊢
  cases hmoved with
  | nothing hm => exact ⟨es, [], by rwa [List.append_nil], (List.append_nil _).symm⟩
  | @late r rest hw hf =>
    have hp := Batch.places_late hw (t.report.record .leaseExpired)
    obtain ⟨i, e, hi, hplace⟩ := h.entry (.of_eq hp)
    cases Entry.place?_eq_waiting hplace
    refine ⟨_, [(i, .left r)], h.set hi hplace (.of_eq hp) ⟨r, .left⟩ rfl trivial rfl (.refl _)
      rfl rfl, ?_⟩
    exact (List.append_nil _).symm
  | @started r rest hw hroom hf =>
    obtain ⟨others, hp, hp'⟩ := Batch.places_started hw (b.noting.now s)
    obtain ⟨i, e, hi, hplace⟩ := h.entry (.of_eq hp)
    cases Entry.place?_eq_waiting hplace
    exact ⟨_, [(i, .called r)], h.set hi hplace (.of_eq hp) ⟨r, .flying⟩ rfl trivial rfl hp'
      rfl rfl, rfl⟩
  | @landed k f inTime result w hf ha =>
    obtain ⟨others, hp, hp'⟩ := Batch.places_landed hf result
    obtain ⟨i, e, hi, hplace⟩ := h.entry hp
    cases Entry.place?_eq_flying hplace
    refine ⟨_, [(i, .ended f.record inTime result)],
      h.set hi hplace hp ⟨f.record, .ended inTime result⟩ rfl ?_ rfl hp' rfl rfl, ?_⟩
    · intro hlate
      subst hlate
      cases ha
      rw [h.same]
    · rw [Batch.logAll_noting]
      cases inTime <;> cases ha
      · exact (List.append_nil _).symm
      · rfl
  | @settled k o reply w ho hw =>
    have hp := Batch.places_settled ho (t.report.record (deliveryFor o.record o.result reply))
    obtain ⟨i, e, hi, hplace⟩ := h.entry hp
    obtain ⟨inTime, he⟩ := Entry.place?_eq_ended hplace
    cases he
    refine ⟨_, [(i, .wrote (writeFor t.config.completion o.record o.result) reply)],
      h.set hi hplace hp ⟨o.record, .written inTime o.result reply⟩ rfl ?_ ?_ (.refl _) rfl rfl,
      ?_⟩
    · exact h.inTime ⟨o.record, .ended inTime o.result⟩ (List.mem_of_getElem? hi)
    · rw [h.same]
      rfl
    · rw [Batch.logAll_noting]
      cases hw
      rfl

/-- The ledger is kept through all turns, whatever happens between them. -/
theorem play {σ : Type} (b : Backend σ) (xs : List (Turn σ)) (s : σ × List Contact)
    (h : Kept config batch es tale t) :
    ∃ es' more, Kept config batch es' (tale ++ more) (t.play b.noting (xs.map Turn.noting) s).1 ∧
      (t.play b.noting (xs.map Turn.noting) s).2.2 =
        s.2 ++ more.filterMap fun x => x.2.contact? := by
  induction xs generalizing es tale t s with
  | nil => exact ⟨es, [], by rwa [List.append_nil], (List.append_nil _).symm⟩
  | cons x xs ih =>
    obtain ⟨es₁, more₁, h₁, hs₁⟩ := h.move b (Prod.map x.before id s) x.move
    obtain ⟨es₂, more₂, h₂, hs₂⟩ := ih (t.move b.noting (Prod.map x.before id s) x.move).2 h₁
    refine ⟨es₂, more₁ ++ more₂, ?_, ?_⟩
    · rw [← List.append_assoc]
      exact h₂
    · rw [List.filterMap_append, ← List.append_assoc]
      exact hs₂.trans (congrArg (· ++ _) hs₁)

/-- When nothing is left to do, it is settled what became of every entry. -/
theorem settled (h : Kept config batch es tale t) (hfin : t.finished = true) :
    ∀ e ∈ es, ∃ v, e.delivery? = some v := by
  intro e he
  have hplaces : t.places = [] := by
    obtain ⟨hw, hf, ho⟩ := Batch.finished_iff.1 hfin
    rw [Batch.places, hw, hf, ho]
    rfl
  have hnone : e.place? = none := by
    have hperm := h.places
    rw [hplaces] at hperm
    exact List.filterMap_eq_nil_iff.1 hperm.eq_nil e he
  obtain ⟨r, c⟩ := e
  cases c <;> cases hnone
  · exact ⟨_, rfl⟩
  · exact ⟨_, rfl⟩

end Kept

/-! ## the end of a tick -/

namespace Batch

/-- how many moves are left at most -/
def todo (t : Batch) : Nat := 3 * t.waiting.length + 2 * t.flights.length + t.outcomes.length

variable {σ : Type}

/-- A move does nothing, or less is left to do. -/
theorem Moved.todo {b : Backend σ} {t t' : Batch} {s s' : σ} {m : Move} (h : Moved b t s m t' s') :
    t' = t ∨ t'.todo < t.todo := by
  unfold Batch.todo
  cases h with
  | nothing hm => exact Or.inl rfl
  | late hw hf =>
    right
    rw [hw]
    simp only [List.length_cons]
    omega
  | started hw hr hf =>
    right
    rw [hw]
    simp only [List.length_cons, List.length_append, List.length_nil]
    omega
  | landed hf ha =>
    right
    have hlt := (List.getElem?_eq_some_iff.1 hf).1
    simp only [List.length_append, List.length_eraseIdx_of_lt hlt, List.length_cons, List.length_nil]
    omega
  | settled ho hw =>
    right
    have hlt := (List.getElem?_eq_some_iff.1 ho).1
    simp only [List.length_eraseIdx_of_lt hlt]
    omega

/-- Every turn does something. -/
def Busy (b : Backend σ) : List (Turn σ) → Batch → σ → Prop
  | [], _, _ => True
  | x :: xs, t, s =>
    (t.move b (x.before s) x.move).1 ≠ t ∧
      Busy b xs (t.move b (x.before s) x.move).1 (t.move b (x.before s) x.move).2

theorem Busy.length_le {b : Backend σ} {xs : List (Turn σ)} {t : Batch} {s : σ}
    (h : Busy b xs t s) : xs.length ≤ t.todo := by
  induction xs generalizing t s with
  | nil => exact Nat.zero_le _
  | cons x xs ih =>
    obtain ⟨hx, hxs⟩ := h
    have hlt := (moved b t (x.before s) x.move).todo.resolve_left hx
    have hle := ih hxs
    rw [List.length_cons]
    omega

/-- Until a tick is over some move does something, whatever the store and the publisher do. -/
theorem exists_move (b : Backend σ) {t : Batch} (h : t.finished = false) :
    ∃ m, ∀ s, (t.move b s m).1 ≠ t := by
  cases ho : t.outcomes with
  | cons o rest =>
    refine ⟨.settle 0, fun s hs => ?_⟩
    have hlen := congrArg (fun t : Batch => t.outcomes.length) hs
    simp [move, settle, ho] at hlen
  | nil =>
    cases hf : t.flights with
    | cons f rest =>
      refine ⟨.land 0 true, fun s hs => ?_⟩
      have hlen := congrArg (fun t : Batch => t.flights.length) hs
      simp [move, land, hf] at hlen
    | nil =>
      cases hw : t.waiting with
      | cons r rest =>
        refine ⟨.start, fun s hs => ?_⟩
        have hroom : t.hasRoom = true := by
          rw [hasRoom, hf, ho]
          exact decide_eq_true (Nat.le_max_right t.config.maxConcurrency 1)
        have hlen := congrArg (fun t : Batch => t.waiting.length) hs
        by_cases hfits : t.fits (b.now s) = true <;> simp [move, start, hw, hroom, hfits] at hlen
      | nil => simp [finished, ho, hf, hw] at h

end Batch

/-! ## reports -/

def Report.counter (r : Report) : Delivery → Nat
  | .delivered => r.delivered
  | .retried => r.retried
  | .deadLettered => r.deadLettered
  | .storeError => r.storeErrors
  | .leaseExpired => r.leaseExpired

theorem Report.counter_ofVerdicts (n : Nat) (vs : List Delivery) (v : Delivery) :
    (ofVerdicts n vs).counter v = vs.count v := by
  cases v <;> rfl

theorem Report.length_of_verdicts (vs : List Delivery) :
    vs.length = vs.count .delivered + vs.count .retried + vs.count .deadLettered +
      vs.count .storeError + vs.count .leaseExpired := by
  induction vs with
  | nil => rfl
  | cons v vs ih => cases v <;> simp [ih] <;> omega

/-- what is to be said of a tick whose claim was answered with `batch`: `contacts` is all that it asked of
the store and the publisher so far, `tale` is what was done about the entries, and `result` is what the
tick returned, if it did -/
structure Accounted (config : Config) (batch : List Record) (contacts : List Contact)
    (result : Option (Except StoreError Report)) (tale : List (Nat × Deed)) : Prop where
  /-- Everything that was asked after the claim was asked for an entry of the batch. -/
  contacts : contacts =
    .claimed config.batchSize (.ok batch) :: tale.filterMap fun x => x.2.contact?
  known : ∀ x ∈ tale, x.1 < batch.length
  story : ∀ i r, batch[i]? = some r → Story config r (deedsOf i tale)
  /-- What the tick returns, if it does, is no error. -/
  report : ∀ r, result = some r → ∃ report, r = .ok report ∧
    report.claimed = batch.length ∧
    report.claimed = report.delivered + report.retried + report.deadLettered + report.storeErrors +
      report.leaseExpired ∧
    (∀ i, i < batch.length → (verdict? (deedsOf i tale)).isSome = true) ∧
    ∀ v, report.counter v =
      (List.range batch.length).countP fun i => verdict? (deedsOf i tale) = some v

namespace Kept

variable {config : Config} {batch : List Record} {es : List Entry} {tale : List (Nat × Deed)}
  {t : Batch}

theorem length_eq (h : Kept config batch es tale t) : es.length = batch.length := by
  rw [← h.records, List.length_map]

/-- What the ledger counts is what became of the entries. -/
theorem verdicts (h : Kept config batch es tale t) :
    (List.range batch.length).map (fun i => verdict? (deedsOf i tale)) = es.map Entry.delivery? := by
  have hlen := h.length_eq
  refine List.ext_getElem (by simp [hlen]) fun i hi hi' => ?_
  have hlt : i < es.length := by simpa using hi'
  rw [List.getElem_map, List.getElem_map, List.getElem_range,
    h.deeds i es[i] (List.getElem?_eq_getElem hlt), Entry.verdict?_deeds]

theorem counter (h : Kept config batch es tale t) (v : Delivery) :
    t.report.counter v =
      (List.range batch.length).countP fun i => verdict? (deedsOf i tale) = some v := by
  rw [h.report, Report.counter_ofVerdicts, List.count_filterMap]
  calc
    es.countP (fun e => e.delivery? == some v) = (es.map Entry.delivery?).countP (· == some v) := by
      rw [List.countP_map]
      rfl
    _ = (List.range batch.length).countP ((· == some v) ∘ fun i => verdict? (deedsOf i tale)) := by
      rw [← h.verdicts, List.countP_map]
    _ = _ := List.countP_congr fun i _ => by simp

theorem isSome_verdict? (h : Kept config batch es tale t) (hfin : t.finished = true) {i : Nat}
    (hi : i < batch.length) : (verdict? (deedsOf i tale)).isSome = true := by
  have hmem : verdict? (deedsOf i tale) ∈ es.map Entry.delivery? := by
    rw [← h.verdicts]
    exact List.mem_map.2 ⟨i, List.mem_range.2 hi, rfl⟩
  obtain ⟨e, he, hve⟩ := List.mem_map.1 hmem
  obtain ⟨v, hv⟩ := h.settled hfin e he
  rw [← hve, hv]
  rfl

/-- In the end every entry counts once. -/
theorem sum_eq (h : Kept config batch es tale t) (hfin : t.finished = true) :
    t.report.claimed = t.report.delivered + t.report.retried + t.report.deadLettered +
      t.report.storeErrors + t.report.leaseExpired := by
  have hlen : (es.filterMap Entry.delivery?).length = batch.length := by
    rw [List.length_filterMap_eq_countP, ← h.length_eq, List.countP_eq_length]
    intro e he
    obtain ⟨v, hv⟩ := h.settled hfin e he
    rw [hv]
    rfl
  rw [h.report, ← hlen]
  exact Report.length_of_verdicts _

theorem accounted (h : Kept config batch es tale t) :
    Accounted config batch
      (.claimed config.batchSize (.ok batch) :: tale.filterMap fun x => x.2.contact?)
      (if t.finished then some (.ok t.report) else none) tale := by
  refine ⟨rfl, fun x hx => h.length_eq ▸ h.known x hx, ?_, ?_⟩
  · intro i r hr
    rw [← h.records, List.getElem?_map] at hr
    obtain ⟨e, he, rfl⟩ := Option.map_eq_some_iff.1 hr
    rw [h.deeds i e he]
    exact Entry.story (h.inTime e (List.mem_of_getElem? he))
  · intro r hr
    by_cases hfin : t.finished = true
    · rw [if_pos hfin] at hr
      cases hr
      have hclaimed : t.report.claimed = batch.length := by
        rw [h.report]
        rfl
      exact ⟨t.report, rfl, hclaimed, h.sum_eq hfin, fun i => h.isSome_verdict? hfin, h.counter⟩
    · rw [if_neg hfin] at hr
      cases hr

end Kept

/-! ## ticks -/

section

variable {σ : Type} {b : Backend σ} {config : Config} {s : σ}

theorem tick_fails {e : StoreError} (began : Nat) (h : (b.claim config.batchSize s).1 = .error e)
    (xs : List (Turn σ)) :
    (Batch.tick b.noting config began (s, []) (xs.map Turn.noting)).1 = some (.error e) ∧
      (Batch.tick b.noting config began (s, []) (xs.map Turn.noting)).2.2 =
        [.claimed config.batchSize (.error e)] := by
  have hclaim := Batch.claim_noting b config began (s, [])
  have hfailed : (Batch.claim b.noting config began (s, [])).1 = .error e := by
    rw [hclaim]
    exact Batch.claim_of_error began h
  rw [Batch.tick_of_error hfailed, hclaim, h]
  exact ⟨rfl, rfl⟩

theorem exists_accounted {batch : List Record} (began : Nat)
    (h : (b.claim config.batchSize s).1 = .ok batch) (xs : List (Turn σ)) :
    ∃ tale, Accounted config batch
      (Batch.tick b.noting config began (s, []) (xs.map Turn.noting)).2.2
      (Batch.tick b.noting config began (s, []) (xs.map Turn.noting)).1 tale := by
  have hclaim := Batch.claim_noting b config began (s, [])
  have hclaimed : (Batch.claim b.noting config began (s, [])).1 =
      .ok (.ofRecords config b.lease began batch) := by
    rw [hclaim]
    exact Batch.claim_of_ok began h
  have hasked : (Batch.claim b.noting config began (s, [])).2.2 =
      [.claimed config.batchSize (.ok batch)] := by
    rw [hclaim, h]
    rfl
  obtain ⟨es, tale, hkept, hmore⟩ := (Kept.new config b.lease began batch).play b xs
    (Batch.claim b.noting config began (s, [])).2
  refine ⟨tale, ?_⟩
  rw [Batch.tick_of_ok hclaimed]
  dsimp only
  rw [hmore, hasked]
  exact hkept.accounted

/-- A tick that has not returned can go on, whatever happens before. -/
theorem exists_turn {batch : List Record} {began : Nat}
    (h : (b.claim config.batchSize s).1 = .ok batch) {xs : List (Turn σ)}
    (hnone : (Batch.tick b config began s xs).1 = none) :
    ∃ m, ∀ f : σ → σ, Batch.Busy b [⟨f, m⟩]
      ((Batch.ofRecords config b.lease began batch).play b xs (Batch.claim b config began s).2).1
      ((Batch.ofRecords config b.lease began batch).play b xs (Batch.claim b config began s).2).2 := by
  rw [Batch.tick_of_ok (Batch.claim_of_ok began h)] at hnone
  have hunfinished : (((Batch.ofRecords config b.lease began batch).play b xs
      (Batch.claim b config began s).2).1).finished = false := by
    refine Bool.eq_false_iff.2 fun hfin => ?_
    rw [if_pos hfin] at hnone
    cases hnone
  obtain ⟨m, hm⟩ := Batch.exists_move b hunfinished
  exact ⟨m, fun f => ⟨hm _, trivial⟩⟩

/-- **A tick accounts for every entry of its batch.**  Whatever the store and the publisher answer, and
whatever happens between the moves of the tick: if the claim fails, the tick returns its error and asks for
nothing else.  Otherwise every entry is published at most once, and after its publish has ended at most one
write tells the store how it went.  The tick fails in no other way, it makes at most three moves for each
entry, and as long as it has not returned it can go on.  When it returns, each entry counts once, as what
became of it. -/
theorem tick_accounts (b : Backend σ) (config : Config) (began : Nat) (s : σ) (xs : List (Turn σ)) :
    let noted := Batch.tick b.noting config began (s, []) (xs.map Turn.noting)
    (noted.1 = (Batch.tick b config began s xs).1 ∧ noted.2.1 = (Batch.tick b config began s xs).2) ∧
      (∀ e, (b.claim config.batchSize s).1 = .error e →
        noted.1 = some (.error e) ∧ noted.2.2 = [.claimed config.batchSize (.error e)]) ∧
      ∀ batch, (b.claim config.batchSize s).1 = .ok batch →
        (∃ tale, Accounted config batch noted.2.2 noted.1 tale) ∧
          let t := Batch.ofRecords config b.lease began batch
          let s₁ := (Batch.claim b config began s).2
          (Batch.Busy b xs t s₁ → xs.length ≤ 3 * batch.length) ∧
            (noted.1 = none → ∃ m, ∀ f : σ → σ,
              Batch.Busy b [⟨f, m⟩] (t.play b xs s₁).1 (t.play b xs s₁).2) := by
  intro noted
  have hnoting : (noted.1 = _ ∧ noted.2.1 = _) := Batch.tick_noting b config began (s, []) xs
  refine ⟨hnoting, fun e he => tick_fails began he xs, fun batch hbatch => ?_⟩
  refine ⟨exists_accounted began hbatch xs, fun hbusy => ?_, fun hnone => ?_⟩
  · have hle := hbusy.length_le
    simpa [Batch.todo, Batch.ofRecords] using hle
  · rw [hnoting.1] at hnone
    exact exists_turn hbatch hnone

end

end Outbox.Relay
