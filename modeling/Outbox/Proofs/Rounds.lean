import Outbox.Proofs.Notices

/-!
# The rounds of a relay

A loop runs beside anything else: its clock goes on, values are sent to it, and the sender may go away, all
between any two of its moves.

* `Running`       a loop, its signal, and the state of its backend;
* `Beat`          a move of the loop, or something else;
* `Running.run`, `Running.tale`   a run, and what it makes known;
* `ToldToStop`    among the beats are those that tell the loop to stop, and that stays so;
* `Quiet`         the same as the signal shows it;
* `Round`         what a loop tells of between the beginnings of two rounds;
* `Since`         what it told of since the last one began;
* `Running.woken_le`, `stops_of_stopped`   what cuts a pause short, and what ends a loop.
-/

namespace Outbox.Relay

variable {σ : Type}

structure Running (σ : Type) where
  loop : Loop
  signal : Signal
  state : σ

inductive Beat (σ : Type) where
  /-- anything that happens elsewhere -/
  | pass (f : σ → σ)
  | send (value : Bool)
  /-- The sender goes away. -/
  | drop
  | move (m : Loop.Move)

/-- What was noted stays. -/
def Beat.noting : Beat σ → Beat (σ × List Contact)
  | .pass f => .pass (Prod.map f id)
  | .send value => .send value
  | .drop => .drop
  | .move m => .move m

def Beat.isSend : Beat σ → Bool
  | .send _ => true
  | _ => false

namespace Running

def start (b : Backend σ) (config : Config) (value : Bool) (s : σ) : Running σ :=
  ⟨(Loop.begin b config s).1, .initial value, (Loop.begin b config s).2⟩

def noting (r : Running σ) : Running (σ × List Contact) := ⟨r.loop, r.signal, (r.state, [])⟩

/-- Nothing can be sent once the sender is gone. -/
def next (b : Backend σ) (r : Running σ) : Beat σ → Running σ
  | .pass f => { r with state := f r.state }
  | .send value => if r.signal.live then { r with signal := r.signal.send value } else r
  | .drop => { r with signal := r.signal.drop }
  | .move m =>
    { r with
      loop := (r.loop.move b r.signal r.state m).1
      state := (r.loop.move b r.signal r.state m).2 }

theorem next_send (b : Backend σ) (r : Running σ) (value : Bool) :
    r.next b (.send value) =
      if r.signal.live then { r with signal := r.signal.send value } else r := rfl

/-- what a beat makes known -/
def news (b : Backend σ) (r : Running σ) : Beat σ → List Notice
  | .move m => r.loop.notices b r.signal r.state m
  | _ => []

def run (b : Backend σ) : Running σ → List (Beat σ) → Running σ
  | r, [] => r
  | r, x :: xs => run b (r.next b x) xs

def tale (b : Backend σ) : Running σ → List (Beat σ) → List Notice
  | _, [] => []
  | r, x :: xs => r.news b x ++ tale b (r.next b x) xs

variable {b : Backend σ}

theorem run_append (r : Running σ) (xs ys : List (Beat σ)) :
    r.run b (xs ++ ys) = (r.run b xs).run b ys := by
  induction xs generalizing r with
  | nil => rfl
  | cons x xs ih => exact ih (r.next b x)

theorem tale_append (r : Running σ) (xs ys : List (Beat σ)) :
    r.tale b (xs ++ ys) = r.tale b xs ++ (r.run b xs).tale b ys := by
  induction xs generalizing r with
  | nil => rfl
  | cons x xs ih =>
    rw [List.cons_append, tale, ih, tale, List.append_assoc]
    rfl

/-- A beat moves the loop, or makes nothing known and leaves it as it is. -/
theorem next_moved (b : Backend σ) (r : Running σ) (x : Beat σ) :
    (r.news b x = [] ∧ (r.next b x).loop = r.loop) ∨
      Loop.Moved b r.signal r.loop r.state (r.next b x).loop (r.news b x) ∧
        (r.next b x).signal = r.signal := by
  cases x with
  | pass f => exact Or.inl ⟨rfl, rfl⟩
  | send value =>
    refine Or.inl ⟨rfl, ?_⟩
    rw [next_send]
    split <;> rfl
  | drop => exact Or.inl ⟨rfl, rfl⟩
  | move m => exact Or.inr ⟨Loop.moved b r.signal r.loop r.state m, rfl⟩

/-- What holds at first and is kept by every beat holds of a run and its tale. -/
theorem run_keeps {I : Running σ → List Notice → Prop} {r : Running σ} {ns : List Notice}
    (hnext : ∀ r ns x, I r ns → I (r.next b x) (ns ++ r.news b x)) (h : I r ns) (xs : List (Beat σ)) :
    I (r.run b xs) (ns ++ r.tale b xs) := by
  induction xs generalizing r ns with
  | nil => exact (List.append_nil ns).symm ▸ h
  | cons x xs ih =>
    have hrest := ih (hnext r ns x h)
    rwa [List.append_assoc] at hrest

end Running

/-! ## ticks and purges -/

/-- how many ticks are under way -/
def Loop.underWay (l : Loop) : Nat := l.phase.isTick.toNat

namespace Loop

variable {b : Backend σ} {signal : Signal} {l l' : Loop} {s : σ} {ns : List Notice}

theorem Purged.counts {last : Option Nat} (h : Purged l last ns) :
    ns.filterMap Notice.began? = [] ∧ ns.countP Notice.isEnded = 0 ∧
      (ns.filterMap Notice.purging?).length ≤ 1 := by
  cases h with
  | skipped _ => exact ⟨rfl, rfl, Nat.zero_le _⟩
  | tried _ => exact ⟨rfl, rfl, Nat.le_refl _⟩

/-- What follows a tick is its end, and no round begins. -/
theorem After.ends {result : Except StoreError Report} (h : After l result l' ns) :
    ns.filterMap Notice.began? = [] ∧ ns.countP Notice.isEnded = 1 ∧ l'.underWay = 0 := by
  cases h with
  | full hp _ =>
    obtain ⟨hb, he, _⟩ := hp.counts
    exact ⟨hb, by rw [List.countP_cons_of_pos rfl, he], rfl⟩
  | short hp _ =>
    obtain ⟨hb, he, _⟩ := hp.counts
    refine ⟨?_, ?_, rfl⟩
    · rw [List.filterMap_append, List.filterMap_cons_none rfl, hb]
      rfl
    · rw [List.countP_append, List.countP_cons_of_pos rfl, he]
      rfl

theorem After.purged {result : Except StoreError Report} (h : After l result l' ns) :
    ∃ purges, Purged l l'.lastPurge purges ∧
      ns.filterMap Notice.purging? = purges.filterMap Notice.purging? := by
  cases h with
  | full hp _ => exact ⟨_, hp, rfl⟩
  | short hp _ =>
    refine ⟨_, hp, ?_⟩
    rw [List.filterMap_append, List.filterMap_cons_none rfl]
    exact List.append_nil _

/-- A tick that begins ends in the same move or is under way. -/
theorem Moved.ticks (h : Moved b signal l s l' ns) :
    (ns.filterMap Notice.began?).length + l.underWay = ns.countP Notice.isEnded + l'.underWay := by
  cases h with
  | nothing => rfl
  | batch ht _ =>
    unfold underWay
    rw [ht]
    rfl
  | stopped ht _ =>
    unfold underWay
    rw [ht]
    rfl
  | @failed e _ ns ht _ ha =>
    obtain ⟨hb, he, hw⟩ := ha.ends
    have hfailed : (Notice.began (b.now s) (.error e) :: ns).filterMap Notice.began? =
        .error e :: ns.filterMap Notice.began? := rfl
    rw [hfailed, hb, List.countP_cons_of_neg Bool.false_ne_true, he, hw, underWay, ht]
    rfl
  | ended ht ha =>
    obtain ⟨hb, he, hw⟩ := ha.ends
    rw [hb, he, hw, underWay, ht]
    rfl
  | claimed ht _ | woken ht _ | slept ht _ =>
    unfold underWay
    rw [ht]
    rfl

/-- A purge is tried after a tick, or not at all. -/
theorem Moved.purged (h : Moved b signal l s l' ns) :
    (ns.countP Notice.isEnded = 1 ∧ ∃ purges, Purged l l'.lastPurge purges ∧
        ns.filterMap Notice.purging? = purges.filterMap Notice.purging?) ∨
      ns.countP Notice.isEnded = 0 ∧ ns.filterMap Notice.purging? = [] ∧
        l'.lastPurge = l.lastPurge := by
  cases h with
  | failed _ _ ha => exact Or.inl ⟨ha.ends.2.1, ha.purged⟩
  | ended _ ha => exact Or.inl ⟨ha.ends.2.1, ha.purged⟩
  | _ => exact Or.inr ⟨rfl, rfl, rfl⟩

theorem Moved.purging_le (h : Moved b signal l s l' ns) :
    (ns.filterMap Notice.purging?).length ≤ ns.countP Notice.isEnded := by
  rcases h.purged with ⟨hended, purges, hp, hpurging⟩ | ⟨_, hpurging, _⟩
  · rw [hended, hpurging]
    exact hp.counts.2.2
  · rw [hpurging]
    exact Nat.zero_le _

theorem Moved.quiet (h : Moved b signal l s l' ns) (hs : signal.stops = true) :
    ns.filterMap Notice.began? = [] := by
  cases h with
  | claimed _ hgo => exact absurd (hs.symm.trans hgo) (by decide)
  | failed _ hgo _ => exact absurd (hs.symm.trans hgo) (by decide)
  | ended _ ha => exact ha.ends.1
  | _ => rfl

end Loop

namespace Running

variable {b : Backend σ}

/-- Every tick that begins ends or is under way. -/
theorem ticks (r : Running σ) (xs : List (Beat σ)) :
    ((r.tale b xs).filterMap Notice.began?).length + r.loop.underWay =
      (r.tale b xs).countP Notice.isEnded + (r.run b xs).loop.underWay := by
  induction xs generalizing r with
  | nil => rfl
  | cons x xs ih =>
    have hrest := ih (r.next b x)
    rw [tale, List.filterMap_append, List.length_append, List.countP_append]
    rcases next_moved b r x with ⟨hnews, hloop⟩ | ⟨hmoved, _⟩
    · rw [hloop] at hrest
      rw [hnews, run]
      simpa using hrest
    · have hfirst := hmoved.ticks
      rw [run]
      omega

theorem purging_le (r : Running σ) (xs : List (Beat σ)) :
    ((r.tale b xs).filterMap Notice.purging?).length ≤ (r.tale b xs).countP Notice.isEnded := by
  induction xs generalizing r with
  | nil => exact Nat.le_refl _
  | cons x xs ih =>
    rw [tale, List.filterMap_append, List.length_append, List.countP_append]
    refine Nat.add_le_add ?_ (ih (r.next b x))
    rcases next_moved b r x with ⟨hnews, _⟩ | ⟨hmoved, _⟩
    · rw [hnews]
      exact Nat.le_refl _
    · exact hmoved.purging_le

end Running

/-! ## once a loop is told to stop -/

/-- The loop is told to stop, and is told nothing else by `xs`. -/
def Quiet (r : Running σ) (xs : List (Beat σ)) : Prop :=
  r.signal.live = false ∨ r.signal.value = true ∧ ∀ value, .send value ∈ xs → value = true

theorem Quiet.stops {r : Running σ} {xs : List (Beat σ)} (h : Quiet r xs) : r.signal.stops = true := by
  unfold Signal.stops
  rcases h with h | ⟨h, _⟩
  · rw [h, Bool.not_false, Bool.or_true]
  · rw [h, Bool.true_or]

theorem Quiet.tail {r : Running σ} {x : Beat σ} {xs : List (Beat σ)} (h : Quiet r (x :: xs)) :
    Quiet r xs :=
  h.imp_right fun ⟨hvalue, hxs⟩ => ⟨hvalue, fun value hmem => hxs value (List.mem_cons_of_mem x hmem)⟩

theorem Quiet.next {b : Backend σ} {r : Running σ} {x : Beat σ} {xs : List (Beat σ)}
    (h : Quiet r (x :: xs)) : Quiet (r.next b x) xs := by
  cases x with
  | pass f => exact h.tail
  | send value =>
    rw [Running.next_send]
    by_cases hlive : r.signal.live = true
    · rw [if_pos hlive]
      rcases h with hdead | ⟨_, hxs⟩
      · rw [hdead] at hlive
        cases hlive
      · exact Or.inr ⟨hxs value List.mem_cons_self,
          fun value' hmem => hxs value' (List.mem_cons_of_mem _ hmem)⟩
    · rw [if_neg hlive]
      exact h.tail
  | drop => exact Or.inl rfl
  | move m => exact h.tail

theorem Quiet.run {b : Backend σ} {r : Running σ} {xs ys : List (Beat σ)} (h : Quiet r (xs ++ ys)) :
    Quiet (r.run b xs) ys := by
  induction xs generalizing r with
  | nil => exact h
  | cons x xs ih => exact ih h.next

/-- Among `xs` the sender goes away, or `true` is sent and after that nothing else, by `ys` neither. -/
def ToldToStop (xs ys : List (Beat σ)) : Prop :=
  ∃ before x after, xs = before ++ x :: after ∧
    (x = .drop ∨ x = .send true ∧ ∀ value, .send value ∈ after ++ ys → value = true)

/-- What is sent to the loop is what its signal shows. -/
theorem ToldToStop.quiet {b : Backend σ} {xs ys : List (Beat σ)} (h : ToldToStop xs ys)
    (r : Running σ) : Quiet (r.run b xs) ys := by
  obtain ⟨before, x, after, rfl, hx⟩ := h
  rw [Running.run_append]
  refine Quiet.run (r := (r.run b before).next b x) ?_
  rcases hx with rfl | ⟨rfl, hvalues⟩
  · exact Or.inl rfl
  · rw [Running.next_send]
    cases hlive : (r.run b before).signal.live with
    | true => exact Or.inr ⟨rfl, hvalues⟩
    | false => exact Or.inl hlive

theorem Running.quiet {b : Backend σ} {r : Running σ} {xs : List (Beat σ)} (h : Quiet r xs) :
    (r.tale b xs).filterMap Notice.began? = [] := by
  induction xs generalizing r with
  | nil => rfl
  | cons x xs ih =>
    rw [tale, List.filterMap_append, ih h.next, List.append_nil]
    rcases next_moved b r x with ⟨hnews, _⟩ | ⟨hmoved, _⟩
    · rw [hnews]
      rfl
    · exact hmoved.quiet h.stops

/-! ## between two rounds -/

/-- no purge, or one -/
def AtMostOnePurge (ns : List Notice) : Prop := ns = [] ∨ ∃ time wall, ns = [.purging time wall]

/-- `ns` is told between the beginning of a round, which claimed so many records, and the beginning of the
next one. -/
inductive Round (config : Config) (claimed : Except StoreError Nat) : List Notice → Prop where
  | full {result : Except StoreError Report} {purges : List Notice} {n : Nat}
      (hresult : result.map Report.claimed = claimed) (hclaimed : claimed = .ok n)
      (hfull : config.batchSize ≤ n) (hpurges : AtMostOnePurge purges) :
      Round config claimed (.ended result :: purges)
  | slept {result : Except StoreError Report} {purges : List Notice} {p q : Nat}
      (hresult : result.map Report.claimed = claimed)
      (hshort : ∀ n, claimed = .ok n → n < config.batchSize) (hpurges : AtMostOnePurge purges)
      (hlong : p + config.pollInterval.nanos ≤ q) :
      Round config claimed (.ended result :: purges ++ [.paused p, .slept q])
  | woken {result : Except StoreError Report} {purges : List Notice} {p : Nat}
      (hresult : result.map Report.claimed = claimed)
      (hshort : ∀ n, claimed = .ok n → n < config.batchSize) (hpurges : AtMostOnePurge purges) :
      Round config claimed (.ended result :: purges ++ [.paused p, .woken])

/-- what was told since a round began, by the phase of the loop -/
inductive Since (config : Config) (claimed : Except StoreError Nat) : Phase → List Notice → Prop where
  | head {ns : List Notice} (h : Round config claimed ns) : Since config claimed .head ns
  | tick {t : Batch} (h : claimed = .ok t.report.claimed) : Since config claimed (.tick t) []
  | pause {result : Except StoreError Report} {purges : List Notice} {p : Nat}
      (hresult : result.map Report.claimed = claimed)
      (hshort : ∀ n, claimed = .ok n → n < config.batchSize) (hpurges : AtMostOnePurge purges) :
      Since config claimed (.pause (p + config.pollInterval.nanos))
        (.ended result :: purges ++ [.paused p])
  | stopped {ns : List Notice} : Since config claimed .stopped ns

theorem Report.claimed_record (r : Report) (v : Delivery) : (r.record v).claimed = r.claimed := by
  cases v <;> rfl

theorem Batch.claimed_move (b : Backend σ) (t : Batch) (s : σ) (m : Move) :
    (t.move b s m).1.report.claimed = t.report.claimed := by
  have hmoved := moved b t s m
  generalize t.move b s m = next at hmoved ⊢
  obtain ⟨t', s'⟩ := next
  cases hmoved with
  | late _ _ => exact Report.claimed_record _ _
  | settled _ _ => exact Report.claimed_record _ _
  | _ => rfl

namespace Loop

variable {b : Backend σ} {signal : Signal} {l l' : Loop} {s : σ} {ns : List Notice}
  {claimed : Except StoreError Nat}

theorem Purged.atMostOne {last : Option Nat} (h : Purged l last ns) : AtMostOnePurge ns := by
  cases h with
  | skipped _ => exact Or.inl rfl
  | tried _ => exact Or.inr ⟨_, _, rfl⟩

theorem After.since {result : Except StoreError Report} (h : After l result l' ns)
    (hresult : result.map Report.claimed = claimed) : Since l.config claimed l'.phase ns := by
  cases h with
  | full hp hf =>
    cases result with
    | ok report => exact .head (.full hresult hresult.symm (of_decide_eq_true hf) hp.atMostOne)
    | error e => cases hf
  | short hp hf =>
    refine .pause hresult (fun n hn => ?_) hp.atMostOne
    cases result with
    | ok report =>
      rw [hn] at hresult
      injection hresult with hresult
      rw [← hresult]
      exact Nat.lt_of_not_le (of_decide_eq_false hf)
    | error e =>
      rw [hn] at hresult
      cases hresult

theorem Moved.config (h : Moved b signal l s l' ns) : l'.config = l.config := by
  cases h with
  | failed _ _ ha => cases ha <;> rfl
  | ended _ ha => cases ha <;> rfl
  | _ => rfl

/-- No round begins in a move, and something is added to what was told since the last one began. -/
theorem Moved.since {told : List Notice} (h : Moved b signal l s l' ns)
    (hb : ns.filterMap Notice.began? = []) (hs : Since l.config claimed l.phase told) :
    Since l'.config claimed l'.phase (told ++ ns) := by
  rw [h.config]
  cases h with
  | nothing => rwa [List.append_nil]
  | batch ht m =>
    rw [ht] at hs
    cases hs with
    | tick hclaimed => exact .tick (hclaimed.trans (by rw [Batch.claimed_move]))
  | stopped _ _ => exact .stopped
  | claimed _ _ => cases hb
  | failed _ _ _ => cases hb
  | ended ht ha =>
    rw [ht] at hs
    cases hs with
    | tick hclaimed => exact ha.since hclaimed.symm
  | woken hp _ =>
    rw [hp] at hs
    cases hs with
    | pause hresult hshort hpurges =>
      rw [List.append_assoc]
      exact .head (.woken hresult hshort hpurges)
  | slept hp hlong =>
    rw [hp] at hs
    cases hs with
    | pause hresult hshort hpurges =>
      rw [List.append_assoc]
      exact .head (.slept hresult hshort hpurges hlong)

/-- A round begins at the head. -/
theorem Moved.began {time : Nat} (h : Moved b signal l s l' ns) (hb : .began time claimed ∈ ns) :
    l.phase = .head ∧ Since l'.config claimed l'.phase ns.tail := by
  rw [h.config]
  cases h with
  | claimed hhead _ =>
    cases List.mem_singleton.1 hb
    exact ⟨hhead, .tick rfl⟩
  | failed hhead _ ha =>
    rcases List.mem_cons.1 hb with hb | hb
    · cases hb
      exact ⟨hhead, ha.since rfl⟩
    · exact absurd hb (Notice.not_began ha.ends.1)
  | ended _ ha => exact absurd hb (Notice.not_began ha.ends.1)
  | _ => exact absurd hb (Notice.not_began rfl)

end Loop

namespace Running

variable {b : Backend σ}

theorem since {claimed : Except StoreError Nat} {r : Running σ} {told : List Notice}
    (h : Since r.loop.config claimed r.loop.phase told) (xs : List (Beat σ))
    (hb : (r.tale b xs).filterMap Notice.began? = []) :
    Since (r.run b xs).loop.config claimed (r.run b xs).loop.phase (told ++ r.tale b xs) := by
  induction xs generalizing r told with
  | nil => exact (List.append_nil told).symm ▸ h
  | cons x xs ih =>
    rw [tale, List.filterMap_append, List.append_eq_nil_iff] at hb
    rw [tale, ← List.append_assoc]
    refine ih ?_ hb.2
    rcases next_moved b r x with ⟨hnews, hloop⟩ | ⟨hmoved, _⟩
    · rw [hnews, hloop, List.append_nil]
      exact h
    · exact hmoved.since hb.1 h

theorem config_next (b : Backend σ) (r : Running σ) (x : Beat σ) :
    (r.next b x).loop.config = r.loop.config := by
  rcases next_moved b r x with ⟨_, hloop⟩ | ⟨hmoved, _⟩
  · rw [hloop]
  · exact hmoved.config

theorem config_run (b : Backend σ) (r : Running σ) (xs : List (Beat σ)) :
    (r.run b xs).loop.config = r.loop.config := by
  induction xs generalizing r with
  | nil => rfl
  | cons x xs ih => exact (ih (r.next b x)).trans (config_next b r x)

theorem began_moved {r : Running σ} {x : Beat σ} {time : Nat} {claimed : Except StoreError Nat}
    (h : .began time claimed ∈ r.news b x) :
    Loop.Moved b r.signal r.loop r.state (r.next b x).loop (r.news b x) := by
  rcases next_moved b r x with ⟨hnews, _⟩ | ⟨hmoved, _⟩
  · rw [hnews] at h
    cases h
  · exact hmoved

/-- Two rounds, one after the other. -/
theorem round {r : Running σ} {x y : Beat σ} {ys : List (Beat σ)} {t t' : Nat}
    {claimed claimed' : Except StoreError Nat} (hx : .began t claimed ∈ r.news b x)
    (hys : ((r.next b x).tale b ys).filterMap Notice.began? = [])
    (hy : .began t' claimed' ∈ ((r.next b x).run b ys).news b y) :
    Round r.loop.config claimed ((r.news b x).tail ++ (r.next b x).tale b ys) := by
  have hsince := since ((began_moved hx).began hx).2 ys hys
  rw [((began_moved hy).began hy).1, config_run, config_next] at hsince
  cases hsince with
  | head hround => exact hround

end Running

/-! ## what wakes and what stops a loop -/

namespace Loop

variable {b : Backend σ} {signal : Signal} {l l' : Loop} {s : σ} {ns : List Notice}

/-- A loop that stops was told to. -/
theorem Moved.stops (h : Moved b signal l s l' ns) (hl : l.phase ≠ .stopped)
    (hl' : l'.phase = .stopped) : signal.stops = true ∧ ns = [.stopped] := by
  cases h with
  | nothing => exact absurd hl' hl
  | stopped _ hs => exact ⟨hs, rfl⟩
  | failed _ _ ha => cases ha <;> cases hl'
  | ended _ ha => cases ha <;> cases hl'
  | _ => cases hl'

theorem After.seen {result : Except StoreError Report} (h : After l result l' ns) :
    l'.seen = l.seen ∧ ns.countP Notice.isWoken = 0 := by
  have hpurges {last : Option Nat} {purges : List Notice} (hp : Purged l last purges) :
      purges.countP Notice.isWoken = 0 := by
    cases hp <;> rfl
  cases h with
  | full hp _ =>
    have hnone := hpurges hp
    exact ⟨rfl, hnone⟩
  | short hp _ =>
    have hnone := hpurges hp
    rw [List.countP_append]
    exact ⟨rfl, hnone⟩

/-- A loop that is woken has seen more than before. -/
theorem Moved.seen (h : Moved b signal l s l' ns) (hv : l.seen ≤ signal.version) :
    l'.seen ≤ signal.version ∧ ns.countP Notice.isWoken + l.seen ≤ l'.seen := by
  cases h with
  | failed _ _ ha =>
    obtain ⟨hseen, hwoken⟩ := ha.seen
    rw [List.countP_cons_of_neg Bool.false_ne_true, hwoken, hseen, Nat.zero_add]
    exact ⟨hv, Nat.le_refl _⟩
  | ended _ ha =>
    obtain ⟨hseen, hwoken⟩ := ha.seen
    rw [hwoken, hseen, Nat.zero_add]
    exact ⟨hv, Nat.le_refl _⟩
  | woken _ hne =>
    refine ⟨Nat.le_refl _, ?_⟩
    show 1 + l.seen ≤ signal.version
    omega
  | _ => exact ⟨hv, Nat.le_of_eq (Nat.zero_add _)⟩

end Loop

namespace Running

variable {b : Backend σ}

theorem version_le (b : Backend σ) (r : Running σ) (x : Beat σ) :
    r.signal.version ≤ (r.next b x).signal.version := by
  cases x with
  | send value =>
    rw [next_send]
    split
    · exact Nat.le_succ _
    · exact Nat.le_refl _
  | _ => exact Nat.le_refl _

/-- The versions count the values sent. -/
theorem version_run (r : Running σ) (xs : List (Beat σ)) :
    (r.run b xs).signal.version ≤ r.signal.version + xs.countP Beat.isSend := by
  induction xs generalizing r with
  | nil => exact Nat.le_refl _
  | cons x xs ih =>
    have hrest := ih (r.next b x)
    have hnext : (r.next b x).signal.version ≤ r.signal.version + if x.isSend then 1 else 0 := by
      cases x with
      | send value =>
        rw [next_send]
        split
        · exact Nat.le_refl _
        · exact Nat.le_succ _
      | _ => exact Nat.le_refl _
    rw [run, List.countP_cons]
    omega

/-- Pauses are cut short no more often than values are sent. -/
theorem woken_le {r : Running σ} (h : r.loop.seen ≤ r.signal.version) (xs : List (Beat σ)) :
    (r.tale b xs).countP Notice.isWoken + r.loop.seen ≤ (r.run b xs).signal.version := by
  have hstart : r.loop.seen ≤ r.signal.version ∧
      ([] : List Notice).countP Notice.isWoken + r.loop.seen ≤ r.loop.seen :=
    ⟨h, Nat.le_of_eq (Nat.zero_add _)⟩
  have hnext (r' : Running σ) (ns : List Notice) (x : Beat σ)
      (hr' : r'.loop.seen ≤ r'.signal.version ∧
        ns.countP Notice.isWoken + r.loop.seen ≤ r'.loop.seen) :
      (r'.next b x).loop.seen ≤ (r'.next b x).signal.version ∧
        (ns ++ r'.news b x).countP Notice.isWoken + r.loop.seen ≤ (r'.next b x).loop.seen := by
    obtain ⟨hseen, hwoken⟩ := hr'
    have hle := version_le b r' x
    rw [List.countP_append]
    rcases next_moved b r' x with ⟨hnews, hloop⟩ | ⟨hmoved, hsignal⟩
    · rw [hnews, hloop]
      exact ⟨Nat.le_trans hseen hle, hwoken⟩
    · obtain ⟨hseen', hwoken'⟩ := hmoved.seen hseen
      rw [hsignal]
      exact ⟨hseen', by omega⟩
  obtain ⟨hseen, hwoken⟩ := run_keeps hnext hstart xs
  exact Nat.le_trans hwoken hseen

/-- Nothing but its signal ends a loop. -/
theorem stops_of_stopped {r : Running σ} {xs : List (Beat σ)} (h : r.loop.phase ≠ .stopped)
    (hxs : (r.run b xs).loop.phase = .stopped) :
    ∃ ys x zs, xs = ys ++ x :: zs ∧ (r.run b ys).signal.stops = true ∧
      (r.run b ys).news b x = [.stopped] := by
  induction xs generalizing r with
  | nil => exact absurd hxs h
  | cons x xs ih =>
    by_cases hx : (r.next b x).loop.phase = .stopped
    · rcases next_moved b r x with ⟨_, hloop⟩ | ⟨hmoved, _⟩
      · rw [hloop] at hx
        exact absurd hx h
      · obtain ⟨hs, hnews⟩ := hmoved.stops h hx
        exact ⟨[], x, xs, rfl, hs, hnews⟩
    · obtain ⟨ys, y, zs, hsplit, hs, hnews⟩ := ih hx hxs
      exact ⟨x :: ys, y, zs, by rw [hsplit]; rfl, hs, hnews⟩

end Running

end Outbox.Relay
