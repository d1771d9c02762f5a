import Outbox.Proofs.Rounds

/-!
# The pace of a relay

A purge is tried after a tick, and then the store is asked to purge if there is a cutoff.  So whatever is
known of the purges that are tried is known of those that the store is asked for.

* `Purges`           the purges that were tried so far, and the time of the last one;
* `Running.noted`    a run whose backend notes what it is asked;
* `Running.purges`   what the store is asked to purge in a run, and when;
* `Running.purges_eq`   that is what was tried, where there was a cutoff;
* `WellPaced`        what is to be said of a loop;
* `well_paced`       it holds of every loop.
-/

namespace Outbox.Relay

variable {σ : Type}

/-! ## purges -/

namespace Loop

variable {l : Loop}

theorem purgeDue_spec {now : Nat} (h : l.purgeDue now = true) :
    l.config.retention.isSome = true ∧
      ∀ t, l.lastPurge = some t → l.config.purgeInterval.nanos ≤ now - t := by
  obtain ⟨hr, hdue⟩ := Bool.and_eq_true_iff.1 h
  refine ⟨hr, fun t ht => ?_⟩
  rw [ht] at hdue
  have hle : l.config.purgeInterval.nanos ≤ (Duration.ofNanos (now - t)).nanos :=
    of_decide_eq_true hdue
  rw [Duration.nanos_ofNanos] at hle
  exact Nat.le_trans hle (Nat.min_le_left _ _)

end Loop

/-- The purge `q` is long enough after the purge `p`. -/
def Config.Apart (c : Config) (p q : Nat × Timestamp) : Prop := c.purgeInterval.nanos ≤ q.1 - p.1

/-- what is to be said of the purges in `ns`, which is all that the loop told so far -/
structure Purges (r : Running σ) (ns : List Notice) : Prop where
  last : r.loop.lastPurge = (ns.filterMap Notice.purging?).getLast?.map Prod.fst
  apart : (ns.filterMap Notice.purging?).Pairwise r.loop.config.Apart
  retained : ns.filterMap Notice.purging? ≠ [] → r.loop.config.retention.isSome = true

/-- A purge that is due is long enough after all the others. -/
theorem Purges.due {r : Running σ} {ns : List Notice} (h : Purges r ns) {now : Nat} (wall : Timestamp)
    (hdue : r.loop.purgeDue now = true) :
    ∀ p ∈ ns.filterMap Notice.purging?, r.loop.config.Apart p (now, wall) := by
  intro p hp
  obtain ⟨_, hlast⟩ := Loop.purgeDue_spec hdue
  have hu := List.getLast?_eq_some_getLast (List.ne_nil_of_mem hp)
  generalize (ns.filterMap Notice.purging?).getLast _ = u at hu
  have hafter := hlast u.1 (h.last.trans (congrArg _ hu))
  obtain ⟨before, hbefore⟩ := List.getLast?_eq_some_iff.1 hu
  have hapart := h.apart
  rw [hbefore] at hp hapart
  rcases List.mem_append.1 hp with hp | hp
  · have hbetween : r.loop.config.purgeInterval.nanos ≤ u.1 - p.1 :=
      (List.pairwise_append.1 hapart).2.2 p hp u List.mem_cons_self
    show r.loop.config.purgeInterval.nanos ≤ now - p.1
    omega
  · rw [List.mem_singleton.1 hp]
    exact hafter

/-- Where no purge is tried, not much changes. -/
theorem Purges.same {r r' : Running σ} {ns more : List Notice} (h : Purges r ns)
    (hconfig : r'.loop.config = r.loop.config) (hlast : r'.loop.lastPurge = r.loop.lastPurge)
    (hmore : more.filterMap Notice.purging? = []) : Purges r' (ns ++ more) := by
  refine ⟨?_, ?_, ?_⟩ <;> rw [List.filterMap_append, hmore, List.append_nil]
  · exact hlast.trans h.last
  · rw [hconfig]
    exact h.apart
  · rw [hconfig]
    exact h.retained

theorem Purges.next {b : Backend σ} {r : Running σ} {ns : List Notice} (h : Purges r ns) (x : Beat σ) :
    Purges (r.next b x) (ns ++ r.news b x) := by
  have hconfig := Running.config_next b r x
  rcases Running.next_moved b r x with ⟨hnews, hloop⟩ | ⟨hmoved, _⟩
  · exact h.same hconfig (congrArg Loop.lastPurge hloop) (by rw [hnews]; rfl)
  rcases hmoved.purged with ⟨_, purges, hp, hpurging⟩ | ⟨_, hpurging, hlast⟩
  · generalize hlast : (r.next b x).loop.lastPurge = last at hp
    cases hp with
    | skipped _ => exact h.same hconfig hlast hpurging
    | @tried now wall hdue =>
      have htried : (r.news b x).filterMap Notice.purging? = [(now, wall)] := hpurging
      refine ⟨?_, ?_, ?_⟩ <;> rw [List.filterMap_append, htried]
      · rw [hlast, List.getLast?_append]
        rfl
      · rw [hconfig, List.pairwise_append]
        exact ⟨h.apart, List.pairwise_singleton _ _, fun p hp q hq =>
          List.mem_singleton.1 hq ▸ h.due wall hdue p hp⟩
      · rw [hconfig]
        exact fun _ => (Loop.purgeDue_spec hdue).1
  · exact h.same hconfig hlast hpurging

/-- Where none was tried before, a purge is tried after a tick, if there is a retention. -/
theorem Purges.first {b : Backend σ} {r : Running σ} {ns : List Notice} {x : Beat σ}
    (h : Purges r ns) (hns : ns.filterMap Notice.purging? = [])
    (hx : (r.news b x).countP Notice.isEnded ≠ 0) (hr : r.loop.config.retention.isSome = true) :
    ∃ t wall, (r.news b x).filterMap Notice.purging? = [(t, wall)] := by
  have hnone : r.loop.lastPurge = none := by
    rw [h.last, hns]
    rfl
  rcases Running.next_moved b r x with ⟨hnews, _⟩ | ⟨hmoved, _⟩
  · rw [hnews] at hx
    exact absurd rfl hx
  rcases hmoved.purged with ⟨_, purges, hp, hpurging⟩ | ⟨hended, _⟩
  · rw [hpurging]
    generalize (r.next b x).loop.lastPurge = last at hp
    cases hp with
    | skipped hskipped => exact absurd hnone (hskipped hr)
    | tried _ => exact ⟨_, _, rfl⟩
  · exact absurd hended hx

/-! ## what the store notices of a run -/

theorem Config.request?_fst {c : Config} {p q : Nat × Timestamp} (h : c.request? p = some q) :
    q.1 = p.1 := by
  obtain ⟨_, _, rfl⟩ := Option.map_eq_some_iff.1 h
  rfl

namespace Running

/-- a run whose backend notes what it is asked -/
def noted (b : Backend σ) (r : Running σ) (xs : List (Beat σ)) : Running (σ × List Contact) :=
  r.noting.run b.noting (xs.map Beat.noting)

/-- what the store is asked to purge in a run, and when -/
def purges (b : Backend σ) (r : Running σ) (xs : List (Beat σ)) : List (Nat × Timestamp) :=
  (r.noted b xs).state.2.filterMap Contact.purge?

variable {b : Backend σ}

theorem next_noted (b : Backend σ) {r' : Running (σ × List Contact)} {r : Running σ}
    (hloop : r'.loop = r.loop) (hsignal : r'.signal = r.signal) (hstate : r'.state.1 = r.state)
    (x : Beat σ) :
    (r'.next b.noting x.noting).loop = (r.next b x).loop ∧
      (r'.next b.noting x.noting).signal = (r.next b x).signal ∧
      Noted r.loop.config r'.state (r'.next b.noting x.noting).state (r.next b x).state
        (r.news b x) := by
  obtain ⟨l, signal, s⟩ := r'
  obtain ⟨l₀, signal₀, s₀⟩ := r
  cases hloop
  cases hsignal
  cases hstate
  cases x with
  | pass f => exact ⟨rfl, rfl, .quiet rfl rfl rfl⟩
  | send value =>
    rw [Beat.noting, next_send, next_send]
    cases signal.live <;> exact ⟨rfl, rfl, .quiet rfl rfl rfl⟩
  | drop => exact ⟨rfl, rfl, .quiet rfl rfl rfl⟩
  | move m =>
    obtain ⟨hmoved, hnoted⟩ := Loop.move_noted b signal l s m
    exact ⟨hmoved, rfl, hnoted⟩

theorem run_noted (b : Backend σ) {r' : Running (σ × List Contact)} {r : Running σ}
    (hloop : r'.loop = r.loop) (hsignal : r'.signal = r.signal) (hstate : r'.state.1 = r.state)
    (xs : List (Beat σ)) :
    (r'.run b.noting (xs.map Beat.noting)).loop = (r.run b xs).loop ∧
      (r'.run b.noting (xs.map Beat.noting)).signal = (r.run b xs).signal ∧
      Noted r.loop.config r'.state (r'.run b.noting (xs.map Beat.noting)).state (r.run b xs).state
        (r.tale b xs) := by
  induction xs generalizing r' r with
  | nil => exact ⟨hloop, hsignal, .quiet (Prod.ext hstate rfl) rfl rfl⟩
  | cons x xs ih =>
    obtain ⟨hloop', hsignal', hnoted⟩ := next_noted b hloop hsignal hstate x
    obtain ⟨hloop'', hsignal'', hrest⟩ := ih hloop' hsignal' hnoted.same
    rw [config_next] at hrest
    exact ⟨hloop'', hsignal'', hnoted.trans hrest⟩

/-- After any beats, the store is asked for just what is told of the next ones. -/
theorem noted_append (b : Backend σ) (r : Running σ) (xs ys : List (Beat σ)) :
    Noted r.loop.config (r.noted b xs).state (r.noted b (xs ++ ys)).state (r.run b (xs ++ ys)).state
      ((r.run b xs).tale b ys) := by
  have hnoting : r.noting.loop = r.loop ∧ r.noting.signal = r.signal ∧ r.noting.state.1 = r.state :=
    ⟨rfl, rfl, rfl⟩
  obtain ⟨hloop, hsignal, hnoted⟩ := run_noted b hnoting.1 hnoting.2.1 hnoting.2.2 xs
  have hrest := (run_noted b hloop hsignal hnoted.same ys).2.2
  rw [config_run, ← run_append, ← run_append, ← List.map_append] at hrest
  exact hrest

/-- The store is asked for the purges that are tried, where there is a cutoff. -/
theorem purges_eq (r : Running σ) (xs : List (Beat σ)) :
    r.purges b xs = ((r.tale b xs).filterMap Notice.purging?).filterMap r.loop.config.request? := by
  obtain ⟨more, hmore, _, hpurges⟩ := (noted_append b r [] xs).asked
  have hmore : (r.noted b xs).state.2 = more := hmore
  unfold purges
  rw [hmore]
  exact hpurges

/-- What the store is asked for was tried. -/
theorem tried_of_purges {r : Running σ} {xs : List (Beat σ)} {p : Nat × Timestamp}
    (h : p ∈ r.purges b xs) : (r.tale b xs).filterMap Notice.purging? ≠ [] := by
  rw [purges_eq] at h
  obtain ⟨q, hq, _⟩ := List.mem_filterMap.1 h
  exact List.ne_nil_of_mem hq

/-- The store is asked at the times at which purges are tried. -/
theorem purges_apart {r : Running σ} {xs : List (Beat σ)}
    (h : ((r.tale b xs).filterMap Notice.purging?).Pairwise r.loop.config.Apart) :
    (r.purges b xs).Pairwise r.loop.config.Apart := by
  rw [purges_eq]
  refine h.filterMap _ fun p q hpq p' hp q' hq => ?_
  unfold Config.Apart
  rw [Config.request?_fst hp, Config.request?_fst hq]
  exact hpq

theorem purges_snoc (r : Running σ) (xs : List (Beat σ)) (x : Beat σ) :
    r.purges b (xs ++ [x]) = r.purges b xs ++
      (((r.run b xs).news b x).filterMap Notice.purging?).filterMap r.loop.config.request? := by
  have hnews : (r.run b xs).tale b [x] = (r.run b xs).news b x := List.append_nil _
  rw [purges_eq, purges_eq, tale_append, hnews, List.filterMap_append, List.filterMap_append]

end Running

/-! ## loops -/

/-- what is to be said of a loop that starts so -/
structure WellPaced (b : Backend σ) (r : Running σ) : Prop where
  /-- At every time the store is asked for records just when a round begins, and to purge just when a
  purge is tried for which there is a cutoff. -/
  asked : ∀ xs ys, Noted r.loop.config (r.noted b xs).state (r.noted b (xs ++ ys)).state
    (r.run b (xs ++ ys)).state ((r.run b xs).tale b ys)
  /-- What is sent to the loop, its signal shows. -/
  told : ∀ xs ys, ToldToStop xs ys → Quiet (r.run b xs) ys
  /-- Once the loop is told to stop, no round begins.  A tick that is under way then goes on until it
  ends, with a purge or without, and there are no others. -/
  quiet : ∀ xs ys, Quiet (r.run b xs) ys →
    (∀ t claimed, .began t claimed ∉ (r.run b xs).tale b ys) ∧
      (r.run b xs).loop.underWay =
        ((r.run b xs).tale b ys).countP Notice.isEnded + (r.run b (xs ++ ys)).loop.underWay ∧
      (((r.run b xs).tale b ys).filterMap Notice.purging?).length ≤
        ((r.run b xs).tale b ys).countP Notice.isEnded
  /-- Before the next round begins, the batch was full, or there is a whole pause, or the loop is woken. -/
  round : ∀ xs x ys y t claimed t' claimed', .began t claimed ∈ (r.run b xs).news b x →
    (∀ t claimed, .began t claimed ∉ (r.run b (xs ++ [x])).tale b ys) →
    .began t' claimed' ∈ (r.run b (xs ++ x :: ys)).news b y →
      Round r.loop.config claimed (((r.run b xs).news b x).tail ++ (r.run b (xs ++ [x])).tale b ys)
  /-- It is woken no more often than values are sent. -/
  woken : ∀ xs, (r.tale b xs).countP Notice.isWoken ≤ (r.run b xs).signal.version ∧
    (r.run b xs).signal.version ≤ xs.countP Beat.isSend
  /-- No purge is tried and the store is not asked to purge unless there is a retention. -/
  retained : ∀ xs t time, .purging t time ∈ r.tale b xs ∨ (t, time) ∈ r.purges b xs →
    r.loop.config.retention.isSome = true
  /-- The first purge follows the first tick: it is tried then, and where there is a cutoff the store is
  asked. -/
  first : ∀ xs x result, (∀ result, .ended result ∉ r.tale b xs) →
    .ended result ∈ (r.run b xs).news b x →
      ((∀ t wall, .purging t wall ∉ r.tale b xs) ∧ r.purges b xs = []) ∧
        (r.loop.config.retention.isSome = true → ∃ t wall, .purging t wall ∈ (r.run b xs).news b x ∧
          r.purges b (xs ++ [x]) = (r.loop.config.request? (t, wall)).toList)
  /-- An interval goes by between any two purges that are tried, or that the store is asked for. -/
  apart : ∀ xs, ((r.tale b xs).filterMap Notice.purging?).Pairwise r.loop.config.Apart ∧
    (r.purges b xs).Pairwise r.loop.config.Apart
  /-- Nothing ends the loop but its signal. -/
  stops : ∀ xs, (r.run b xs).loop.phase = .stopped → ∃ ys x zs, xs = ys ++ x :: zs ∧
    (r.run b ys).signal.stops = true ∧ (r.run b ys).news b x = [.stopped]

namespace Running

variable {b : Backend σ}

/-- Once the loop is told to stop, what is under way is all that is left. -/
theorem only_underWay {r : Running σ} {xs : List (Beat σ)} (h : Quiet r xs) :
    r.loop.underWay = (r.tale b xs).countP Notice.isEnded + (r.run b xs).loop.underWay := by
  have hticks := ticks (b := b) r xs
  rw [quiet h] at hticks
  simpa using hticks

theorem no_purge {r : Running σ} {xs : List (Beat σ)} (h : ∀ result, .ended result ∉ r.tale b xs) :
    (r.tale b xs).filterMap Notice.purging? = [] := by
  have hle := purging_le (b := b) r xs
  rwa [Notice.countP_isEnded h, Nat.le_zero, List.length_eq_zero_iff] at hle

theorem start_purges (config : Config) (value : Bool) (s : σ) (xs : List (Beat σ)) :
    Purges ((start b config value s).run b xs) ((start b config value s).tale b xs) := by
  have hstart : Purges (start b config value s) [] := ⟨rfl, .nil, fun h => absurd rfl h⟩
  exact run_keeps (fun r ns x h => h.next x) hstart xs

end Running

/-- **A relay keeps its pace.**  Whatever the store and the publishes come to, however time goes by and
whatever is sent to the relay: once it is told to stop, no round begins, and only what is under way is
finished.  A round follows another one only after a full batch, after a whole pause, or after a value was
sent, so a tick that fails or finds less than a full batch is never followed by the next one at once.
Purges are tried only with a retention, first after the first tick, and then an interval apart, and these
are the purges that the store is asked for.  Only the signal ends the loop. -/
theorem well_paced (b : Backend σ) (config : Config) (value : Bool) (s : σ) :
    WellPaced b (.start b config value s) := by
  have hpurges := Running.start_purges (b := b) config value s
  have hseen : (Running.start b config value s).loop.seen = 0 := rfl
  have hversion : (Running.start b config value s).signal.version = 0 := rfl
  have hphase : (Running.start b config value s).loop.phase ≠ .stopped := nofun
  generalize Running.start b config value s = r at hpurges hseen hversion hphase ⊢
  have hconfig := Running.config_run b r
  constructor
  case asked =>
    intro xs ys
    exact Running.noted_append b r xs ys
  case told =>
    intro xs ys h
    exact h.quiet r
  case quiet =>
    intro xs ys h
    rw [Running.run_append]
    exact ⟨fun t claimed => Notice.not_began (Running.quiet h), Running.only_underWay h,
      Running.purging_le _ ys⟩
  case round =>
    intro xs x ys y t claimed t' claimed' hx hys hy
    rw [Running.run_append] at hy hys ⊢
    rw [← hconfig xs]
    exact Running.round hx (Notice.filterMap_began? hys) hy
  case woken =>
    intro xs
    have hle := Running.woken_le (b := b) (hseen ▸ Nat.zero_le r.signal.version) xs
    have hsent := Running.version_run (b := b) r xs
    rw [hversion, Nat.zero_add] at hsent
    rw [hseen] at hle
    exact ⟨hle, hsent⟩
  case retained =>
    intro xs t time h
    rw [← hconfig xs]
    refine (hpurges xs).retained (h.elim (fun h => ?_) Running.tried_of_purges)
    exact List.ne_nil_of_mem (List.mem_filterMap.2 ⟨_, h, rfl⟩)
  case first =>
    intro xs x result hxs hx
    have hnone := Running.no_purge hxs
    have hunasked : r.purges b xs = [] := by
      rw [Running.purges_eq, hnone]
      rfl
    refine ⟨⟨fun t wall ht => Notice.not_purging hnone ht, hunasked⟩, fun hretention => ?_⟩
    rw [← hconfig xs] at hretention
    have hended : ((r.run b xs).news b x).countP Notice.isEnded ≠ 0 :=
      fun hzero => List.countP_eq_zero.1 hzero _ hx rfl
    obtain ⟨t, wall, ht⟩ := (hpurges xs).first hnone hended hretention
    refine ⟨t, wall, Notice.mem_of_purging? (ht ▸ List.mem_cons_self), ?_⟩
    rw [Running.purges_snoc, hunasked, ht, List.nil_append, List.filterMap_cons]
    cases r.loop.config.request? (t, wall) <;> rfl
  case apart =>
    intro xs
    have hapart := (hpurges xs).apart
    rw [hconfig xs] at hapart
    exact ⟨hapart, Running.purges_apart hapart⟩
  case stops =>
    intro xs hxs
    exact Running.stops_of_stopped hphase hxs

end Outbox.Relay
