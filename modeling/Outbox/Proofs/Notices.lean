import Outbox.Proofs.Batch
import Outbox.Proofs.Contacts
import Outbox.Relay.Loop

/-!
# What a move of a loop does

* `Notice`              what is to be told of a loop;
* `Loop.notices`        what a move makes known;
* `Loop.After`          what follows a tick: a purge or none, and a pause or none;
* `Loop.Moved`          the ways of a move, with what it makes known;
* `Loop.moved`          there is no other way;
* `Loop.move_noted`     the store is asked for records just when a round begins, and to purge just when a
                        purge is tried for which there is a cutoff.
-/

namespace Outbox.Relay

inductive Notice where
  /-- A round begins, and so many records are claimed. -/
  | began (time : Nat) (claimed : Except StoreError Nat)
  /-- Its tick is over. -/
  | ended (result : Except StoreError Report)
  /-- A purge is tried, at this time and this time of day. -/
  | purging (time : Nat) (wall : Timestamp)
  | paused (time : Nat)
  /-- A pause is over because its time is. -/
  | slept (time : Nat)
  /-- A pause is over because a value was sent that the loop had not seen. -/
  | woken
  | stopped

namespace Notice

def began? : Notice → Option (Except StoreError Nat)
  | .began _ claimed => some claimed
  | _ => none

def purging? : Notice → Option (Nat × Timestamp)
  | .purging time wall => some (time, wall)
  | _ => none

def isEnded : Notice → Bool
  | .ended _ => true
  | _ => false

def isWoken : Notice → Bool
  | .woken => true
  | _ => false

variable {ns : List Notice}

theorem not_began {time : Nat} {claimed : Except StoreError Nat}
    (h : ns.filterMap began? = []) : .began time claimed ∉ ns :=
  fun hmem => nomatch List.filterMap_eq_nil_iff.1 h _ hmem

theorem not_purging {time : Nat} {wall : Timestamp} (h : ns.filterMap purging? = []) :
    .purging time wall ∉ ns :=
  fun hmem => nomatch List.filterMap_eq_nil_iff.1 h _ hmem

theorem filterMap_began? (h : ∀ time claimed, .began time claimed ∉ ns) :
    ns.filterMap began? = [] := by
  refine List.filterMap_eq_nil_iff.2 fun n hn => ?_
  cases n with
  | began time claimed => exact absurd hn (h time claimed)
  | _ => rfl

theorem countP_isEnded (h : ∀ result, .ended result ∉ ns) : ns.countP isEnded = 0 := by
  refine List.countP_eq_zero.2 fun n hn => ?_
  cases n with
  | ended result => exact absurd hn (h result)
  | _ => exact Bool.false_ne_true

theorem mem_of_purging? {time : Nat} {wall : Timestamp} (h : (time, wall) ∈ ns.filterMap purging?) :
    .purging time wall ∈ ns := by
  obtain ⟨n, hn, htried⟩ := List.mem_filterMap.1 h
  cases n with
  | purging _ _ =>
    cases htried
    exact hn
  | _ => cases htried

end Notice

def Phase.isTick : Phase → Bool
  | .tick _ => true
  | _ => false

variable {σ : Type}

namespace Loop

/-- what `ticked` makes known -/
def afterTick (b : Backend σ) (l : Loop) (result : Except StoreError Report) (s : σ) : List Notice :=
  let s := b.logAll (tickEntry result) s
  .ended result ::
    (if l.purgeDue (b.now s) then [.purging (b.now s) (b.wall s)] else []) ++
      if isFull l.config result then [] else [.paused (b.now (l.purged b s).2)]

def notices (b : Backend σ) (signal : Signal) (l : Loop) (s : σ) : Move → List Notice
  | .look =>
    match l.phase with
    | .head =>
      if signal.stops then [.stopped]
      else
        match Batch.claim b l.config (b.now s) s with
        | (.error e, s') => .began (b.now s) (.error e) :: l.afterTick b (.error e) s'
        | (.ok t, _) => [.began (b.now s) (.ok t.waiting.length)]
    | _ => []
  | .batch _ => []
  | .ticked =>
    match l.phase with
    | .tick t => if t.finished then l.afterTick b (.ok t.report) s else []
    | _ => []
  | .wake =>
    match l.phase with
    | .pause time =>
      if l.seen ≠ signal.version then [.woken]
      else if !signal.live then [.stopped]
      else if time ≤ b.now s then [.slept (b.now s)]
      else []
    | _ => []
  | .elapse =>
    match l.phase with
    | .pause time => if time ≤ b.now s then [.slept (b.now s)] else []
    | _ => []

/-! ## the ways of a move -/

/-- the purge after a tick, if there is one -/
inductive Purged (l : Loop) : Option Nat → List Notice → Prop where
  | skipped (h : l.config.retention.isSome = true → l.lastPurge ≠ none) : Purged l l.lastPurge []
  | tried {now : Nat} {wall : Timestamp} (h : l.purgeDue now = true) :
      Purged l (some now) [.purging now wall]

/-- the loop after a tick, and what became known -/
inductive After (l : Loop) (result : Except StoreError Report) : Loop → List Notice → Prop where
  | full {last : Option Nat} {purges : List Notice} (hp : Purged l last purges)
      (hf : isFull l.config result = true) :
      After l result { l with lastPurge := last, phase := .head } (.ended result :: purges)
  | short {last : Option Nat} {purges : List Notice} {p : Nat} (hp : Purged l last purges)
      (hf : isFull l.config result = false) :
      After l result
        { l with lastPurge := last, phase := .pause (p + l.config.pollInterval.nanos) }
        (.ended result :: purges ++ [.paused p])

inductive Moved (b : Backend σ) (signal : Signal) (l : Loop) (s : σ) : Loop → List Notice → Prop where
  | nothing : Moved b signal l s l []
  | batch {t : Batch} (h : l.phase = .tick t) (m : Relay.Move) :
      Moved b signal l s { l with phase := .tick (t.move b s m).1 } []
  | stopped (h : l.phase.isTick = false) (hs : signal.stops = true) :
      Moved b signal l s { l with phase := .stopped } [.stopped]
  | claimed {records : List Record} (h : l.phase = .head) (hs : signal.stops = false) :
      Moved b signal l s
        { l with phase := .tick (.ofRecords l.config b.lease (b.now s) records) }
        [.began (b.now s) (.ok records.length)]
  | failed {e : StoreError} {l' : Loop} {ns : List Notice} (h : l.phase = .head)
      (hs : signal.stops = false) (ha : After l (.error e) l' ns) :
      Moved b signal l s l' (.began (b.now s) (.error e) :: ns)
  | ended {t : Batch} {l' : Loop} {ns : List Notice} (h : l.phase = .tick t)
      (ha : After l (.ok t.report) l' ns) :
      Moved b signal l s l' ns
  | woken {time : Nat} (h : l.phase = .pause time) (hv : l.seen ≠ signal.version) :
      Moved b signal l s { l with phase := .head, seen := signal.version } [.woken]
  | slept {time : Nat} (h : l.phase = .pause time) (ht : time ≤ b.now s) :
      Moved b signal l s { l with phase := .head } [.slept (b.now s)]

theorem purged_cases (b : Backend σ) (l : Loop) (s : σ) :
    ∃ last, Purged l last (if l.purgeDue (b.now s) then [.purging (b.now s) (b.wall s)] else []) ∧
      (l.purged b s).1 = { l with lastPurge := last } := by
  unfold purged
  by_cases hdue : l.purgeDue (b.now s) = true
  · rw [if_pos hdue, if_pos hdue]
    exact ⟨_, .tried hdue, rfl⟩
  · rw [if_neg hdue, if_neg hdue]
    refine ⟨_, .skipped fun hr hnone => hdue ?_, rfl⟩
    rw [purgeDue, hr, hnone]
    rfl

theorem after_ticked (b : Backend σ) (l : Loop) (result : Except StoreError Report) (s : σ) :
    After l result (l.ticked b result s).1 (l.afterTick b result s) := by
  obtain ⟨last, hp, hl⟩ := purged_cases b l (b.logAll (tickEntry result) s)
  have hconfig : (l.purged b (b.logAll (tickEntry result) s)).1.config = l.config := by rw [hl]
  unfold ticked afterTick
  dsimp only
  rw [hconfig, hl]
  by_cases hf : isFull l.config result = true
  · rw [if_pos hf, if_pos hf, List.append_nil]
    exact .full hp hf
  · rw [if_neg hf, if_neg hf]
    exact .short hp (Bool.eq_false_iff.2 hf)

theorem moved_look (b : Backend σ) (signal : Signal) (l : Loop) (s : σ) :
    Moved b signal l s (l.move b signal s .look).1 (l.notices b signal s .look) := by
  unfold move notices
  cases hphase : l.phase with
  | head =>
    dsimp only
    unfold look
    by_cases hs : signal.stops = true
    · rw [if_pos hs, if_pos hs]
      exact .stopped (by rw [hphase]; rfl) hs
    · rw [if_neg hs, if_neg hs]
      have hs : signal.stops = false := Bool.eq_false_iff.2 hs
      rcases hclaim : b.claim l.config.batchSize s with ⟨e | records, s'⟩
      · rw [Batch.claim, hclaim]
        exact .failed hphase hs (after_ticked b l (.error e) s')
      · rw [Batch.claim, hclaim]
        exact .claimed hphase hs
  | _ => exact .nothing

theorem moved_wake (b : Backend σ) (signal : Signal) (l : Loop) (s : σ) :
    Moved b signal l s (l.move b signal s .wake).1 (l.notices b signal s .wake) := by
  unfold move notices
  cases hphase : l.phase with
  | pause time =>
    dsimp only
    unfold wake
    by_cases hv : l.seen ≠ signal.version
    · rw [if_pos hv, if_pos hv]
      exact .woken hphase hv
    rw [if_neg hv, if_neg hv]
    by_cases hlive : (!signal.live) = true
    · rw [if_pos hlive, if_pos hlive]
      exact .stopped (by rw [hphase]; rfl) (by rw [Signal.stops, hlive, Bool.or_true])
    rw [if_neg hlive, if_neg hlive]
    by_cases ht : time ≤ b.now s
    · rw [if_pos ht, if_pos ht]
      exact .slept hphase ht
    · rw [if_neg ht, if_neg ht]
      exact .nothing
  | _ => exact .nothing

theorem moved (b : Backend σ) (signal : Signal) (l : Loop) (s : σ) (m : Move) :
    Moved b signal l s (l.move b signal s m).1 (l.notices b signal s m) := by
  cases m with
  | look => exact moved_look b signal l s
  | batch m =>
    unfold move notices
    cases hphase : l.phase with
    | tick t => exact .batch hphase m
    | _ => exact .nothing
  | ticked =>
    unfold move notices
    cases hphase : l.phase with
    | tick t =>
      dsimp only
      cases t.finished with
      | true => exact .ended hphase (after_ticked b l (.ok t.report) s)
      | false => exact .nothing
    | _ => exact .nothing
  | wake => exact moved_wake b signal l s
  | elapse =>
    unfold move notices
    cases hphase : l.phase with
    | pause time =>
      dsimp only
      unfold elapse
      by_cases ht : time ≤ b.now s
      · rw [if_pos ht, if_pos ht]
        exact .slept hphase ht
      · rw [if_neg ht, if_neg ht]
        exact .nothing
    | _ => exact .nothing

end Loop

/-! ## what the store notices -/

namespace Contact

def claimed? : Contact → Option (Except StoreError Nat)
  | .claimed _ reply => some (reply.map List.length)
  | _ => none

/-- when the store was asked to purge, and what -/
def purge? : Contact → Option (Nat × Timestamp)
  | .purged time olderThan _ => some (time, olderThan)
  | _ => none

end Contact

/-- what a purge that is tried asks of the store, and when -/
def Config.request? (c : Config) (tried : Nat × Timestamp) : Option (Nat × Timestamp) :=
  (c.cutoff? tried.2).map fun cutoff => (tried.1, cutoff)

/-- A backend that notes goes from `s` to `s'` where one that does not goes to `t`, and is asked for
records and to purge just as the notices `ns` say. -/
structure Noted (config : Config) (s s' : σ × List Contact) (t : σ) (ns : List Notice) : Prop where
  same : s'.1 = t
  asked : ∃ more, s'.2 = s.2 ++ more ∧ more.filterMap Contact.claimed? = ns.filterMap Notice.began? ∧
    more.filterMap Contact.purge? = (ns.filterMap Notice.purging?).filterMap config.request?

namespace Noted

variable {config : Config} {s s' s'' : σ × List Contact} {t t' : σ} {ns ns' : List Notice}

/-- Nothing is asked, no round begins and no purge is tried. -/
theorem quiet (h : s' = (t, s.2)) (hb : ns.filterMap Notice.began? = [])
    (hp : ns.filterMap Notice.purging? = []) : Noted config s s' t ns := by
  subst h
  exact ⟨rfl, [], (List.append_nil _).symm, hb.symm, by rw [hp]; rfl⟩

theorem trans (h : Noted config s s' t ns) (h' : Noted config s' s'' t' ns') :
    Noted config s s'' t' (ns ++ ns') := by
  obtain ⟨_, more, hs, hclaims, hpurges⟩ := h
  obtain ⟨hsame, more', hs', hclaims', hpurges'⟩ := h'
  refine ⟨hsame, more ++ more', ?_, ?_, ?_⟩
  · rw [hs', hs, List.append_assoc]
  · rw [List.filterMap_append, List.filterMap_append, hclaims, hclaims']
  · rw [List.filterMap_append, List.filterMap_append, List.filterMap_append, hpurges, hpurges']

/-- Other notices do not matter. -/
theorem frame (h : Noted config s s' t ns)
    (hb : ns'.filterMap Notice.began? = ns.filterMap Notice.began?)
    (hp : ns'.filterMap Notice.purging? = ns.filterMap Notice.purging?) : Noted config s s' t ns' := by
  obtain ⟨hsame, more, hs, hclaims, hpurges⟩ := h
  exact ⟨hsame, more, hs, hclaims.trans hb.symm, hp ▸ hpurges⟩

end Noted

theorem Batch.noted (b : Backend σ) (config : Config) (t : Batch) (s : σ × List Contact)
    (m : Relay.Move) : Noted config s (t.move b.noting s m).2 (t.move b s.1 m).2 [] := by
  refine ⟨(move_noting b t s m).2, ?_⟩
  have hmoved := moved b.noting t s m
  generalize t.move b.noting s m = next at hmoved ⊢
  obtain ⟨t', s'⟩ := next
  dsimp only at hmoved ⊢
  cases hmoved with
  | nothing _ => exact ⟨[], (List.append_nil _).symm, rfl, rfl⟩
  | late _ _ => exact ⟨[], (List.append_nil _).symm, rfl, rfl⟩
  | started _ _ _ => exact ⟨[_], rfl, rfl, rfl⟩
  | @landed _ _ inTime _ _ _ ha =>
    rw [logAll_noting]
    cases inTime <;> cases ha
    · exact ⟨[], (List.append_nil _).symm, rfl, rfl⟩
    · exact ⟨[_], rfl, rfl, rfl⟩
  | settled _ hw =>
    rw [logAll_noting]
    cases hw
    exact ⟨[_], rfl, rfl, rfl⟩

/-- Where time does not go back that far, the store is not asked. -/
theorem purge_noted (b : Backend σ) (config : Config) (s : σ × List Contact) :
    (purge b.noting config s).1 = (purge b config s.1).1 ∧
      Noted config s (purge b.noting config s).2 (purge b config s.1).2
        [.purging (b.now s.1) (b.wall s.1)] := by
  have htried : [Notice.purging (b.now s.1) (b.wall s.1)].filterMap Notice.purging? =
      [(b.now s.1, b.wall s.1)] := rfl
  rw [purge_noting]
  refine ⟨rfl, rfl, _, rfl, ?_, ?_⟩
  · cases config.cutoff? (b.wall s.1) <;> rfl
  · rw [htried, List.filterMap_cons, Config.request?]
    cases config.cutoff? (b.wall s.1) <;> rfl

namespace Loop

theorem purged_noted (b : Backend σ) (l : Loop) (s : σ × List Contact) :
    (l.purged b.noting s).1 = (l.purged b s.1).1 ∧
      Noted l.config s (l.purged b.noting s).2 (l.purged b s.1).2
        (if l.purgeDue (b.now s.1) then [.purging (b.now s.1) (b.wall s.1)] else []) := by
  have hnow : b.noting.now s = b.now s.1 := rfl
  unfold purged
  rw [hnow]
  by_cases hdue : l.purgeDue (b.now s.1) = true
  · rw [if_pos hdue, if_pos hdue, if_pos hdue]
    obtain ⟨hreply, hnoted⟩ := purge_noted b l.config s
    dsimp only
    rw [hreply]
    refine ⟨rfl, ?_⟩
    rw [Batch.logAll_noting, ← hnoted.same]
    exact ⟨rfl, hnoted.asked⟩
  · rw [if_neg hdue, if_neg hdue, if_neg hdue]
    exact ⟨rfl, .quiet rfl rfl rfl⟩

theorem filterMap_afterTick {β : Type} {f : Notice → Option β} (b : Backend σ) (l : Loop)
    (result : Except StoreError Report) (s : σ) (he : ∀ r, f (.ended r) = none)
    (hp : ∀ t, f (.paused t) = none) :
    (l.afterTick b result s).filterMap f =
      (if l.purgeDue (b.now (b.logAll (tickEntry result) s)) then
        [Notice.purging (b.now (b.logAll (tickEntry result) s)) (b.wall (b.logAll (tickEntry result) s))]
        else []).filterMap f := by
  unfold afterTick
  dsimp only
  rw [List.cons_append, List.filterMap_cons_none (he _), List.filterMap_append]
  cases isFull l.config result with
  | true => exact List.append_nil _
  | false =>
    rw [if_neg Bool.false_ne_true, List.filterMap_cons_none (hp _)]
    exact List.append_nil _

theorem ticked_noted (b : Backend σ) (l : Loop) (result : Except StoreError Report)
    (s : σ × List Contact) :
    (l.ticked b.noting result s).1 = (l.ticked b result s.1).1 ∧
      Noted l.config s (l.ticked b.noting result s).2 (l.ticked b result s.1).2
        (l.afterTick b result s.1) := by
  obtain ⟨hl, hnoted⟩ := purged_noted b l (b.logAll (tickEntry result) s.1, s.2)
  have hnow : b.noting.now (l.purged b.noting (b.logAll (tickEntry result) s.1, s.2)).2 =
      b.now (l.purged b (b.logAll (tickEntry result) s.1)).2 := congrArg b.now hnoted.same
  unfold ticked
  rw [Batch.logAll_noting]
  dsimp only
  rw [hl, hnow]
  have hnoted : Noted l.config s _ _ _ := ⟨hnoted.same, hnoted.asked⟩
  refine ⟨rfl, hnoted.frame ?_ ?_⟩
  · exact filterMap_afterTick b l result s.1 (fun _ => rfl) fun _ => rfl
  · exact filterMap_afterTick b l result s.1 (fun _ => rfl) fun _ => rfl

theorem look_noted (b : Backend σ) (signal : Signal) (l : Loop) (s : σ × List Contact) :
    (l.move b.noting signal s .look).1 = (l.move b signal s.1 .look).1 ∧
      Noted l.config s (l.move b.noting signal s .look).2 (l.move b signal s.1 .look).2
        (l.notices b signal s.1 .look) := by
  have hnow : b.noting.now s = b.now s.1 := rfl
  unfold move notices
  cases l.phase with
  | head =>
    dsimp only
    unfold look
    by_cases hs : signal.stops = true
    · rw [if_pos hs, if_pos hs, if_pos hs]
      exact ⟨rfl, .quiet rfl rfl rfl⟩
    rw [if_neg hs, if_neg hs, if_neg hs, Batch.claim_noting, hnow]
    rcases hclaim : b.claim l.config.batchSize s.1 with ⟨e | records, s'⟩
    · rw [Batch.claim, hclaim]
      have hasked : Noted l.config s (s', s.2 ++ [.claimed l.config.batchSize (.error e)]) s'
          [.began (b.now s.1) (.error e)] :=
        ⟨rfl, [_], rfl, rfl, rfl⟩
      obtain ⟨hl, hnoted⟩ := ticked_noted b l (.error e)
        (s', s.2 ++ [.claimed l.config.batchSize (.error e)])
      exact ⟨hl, hasked.trans hnoted⟩
    · rw [Batch.claim, hclaim]
      exact ⟨rfl, rfl, [.claimed l.config.batchSize (.ok records)], rfl, rfl, rfl⟩
  | _ => exact ⟨rfl, .quiet rfl rfl rfl⟩

theorem wake_noted (b : Backend σ) (signal : Signal) (l : Loop) (s : σ × List Contact) :
    (l.move b.noting signal s .wake).1 = (l.move b signal s.1 .wake).1 ∧
      Noted l.config s (l.move b.noting signal s .wake).2 (l.move b signal s.1 .wake).2
        (l.notices b signal s.1 .wake) := by
  have hnow : b.noting.now s = b.now s.1 := rfl
  unfold move notices
  cases l.phase with
  | pause time =>
    dsimp only
    unfold wake
    rw [hnow]
    by_cases hv : l.seen ≠ signal.version
    · rw [if_pos hv, if_pos hv, if_pos hv]
      exact ⟨rfl, .quiet rfl rfl rfl⟩
    rw [if_neg hv, if_neg hv, if_neg hv]
    by_cases hlive : (!signal.live) = true
    · rw [if_pos hlive, if_pos hlive, if_pos hlive]
      exact ⟨rfl, .quiet rfl rfl rfl⟩
    rw [if_neg hlive, if_neg hlive, if_neg hlive]
    by_cases ht : time ≤ b.now s.1
    · rw [if_pos ht, if_pos ht, if_pos ht]
      exact ⟨rfl, .quiet rfl rfl rfl⟩
    · rw [if_neg ht, if_neg ht, if_neg ht]
      exact ⟨rfl, .quiet rfl rfl rfl⟩
  | _ => exact ⟨rfl, .quiet rfl rfl rfl⟩

theorem move_noted (b : Backend σ) (signal : Signal) (l : Loop) (s : σ × List Contact) (m : Move) :
    (l.move b.noting signal s m).1 = (l.move b signal s.1 m).1 ∧
      Noted l.config s (l.move b.noting signal s m).2 (l.move b signal s.1 m).2
        (l.notices b signal s.1 m) := by
  cases m with
  | look => exact look_noted b signal l s
  | batch m =>
    unfold move notices
    cases l.phase with
    | tick t =>
      have hsame := (Batch.move_noting b t s m).1
      exact ⟨congrArg (fun t => { l with phase := .tick t }) hsame, Batch.noted b l.config t s m⟩
    | _ => exact ⟨rfl, .quiet rfl rfl rfl⟩
  | ticked =>
    unfold move notices
    cases l.phase with
    | tick t =>
      dsimp only
      cases t.finished with
      | true => exact ticked_noted b l (.ok t.report) s
      | false => exact ⟨rfl, .quiet rfl rfl rfl⟩
    | _ => exact ⟨rfl, .quiet rfl rfl rfl⟩
  | wake => exact wake_noted b signal l s
  | elapse =>
    unfold move notices
    cases l.phase with
    | pause time =>
      have hnow : b.noting.now s = b.now s.1 := rfl
      dsimp only
      unfold elapse
      rw [hnow]
      by_cases ht : time ≤ b.now s.1
      · rw [if_pos ht, if_pos ht, if_pos ht]
        exact ⟨rfl, .quiet rfl rfl rfl⟩
      · rw [if_neg ht, if_neg ht, if_neg ht]
        exact ⟨rfl, .quiet rfl rfl rfl⟩
    | _ => exact ⟨rfl, .quiet rfl rfl rfl⟩

end Loop
end Outbox.Relay
