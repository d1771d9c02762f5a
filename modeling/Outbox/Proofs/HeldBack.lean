import Outbox.Proofs.Claims

/-!
# Events that are held back

An event with a delay is available when the delay has gone by since its creation, and no claim returns it
before that.  Where that time would be out of range nothing holds the event back.

* `Event.availableAt_withDelay`     when the record of an event with a delay is available;
* `Event.availableAt_mono_iff`      a longer delay does not make it available earlier, unless that delay
                                    alone leads out of range;
* `Event.held_back`                 and until then the event is not claimed;
* `Event.held_back_too_long`        an event that is held back as long as possible is claimed at once.
-/

namespace Outbox

namespace Event

variable {e : Event} {d : Duration} {t : Timestamp}

/-! ## when it is available -/

/-- Whether a duration is too long for every time or just for this one makes no difference. -/
theorem availableAt_withDelay (e : Event) (d : Duration) :
    (e.withDelay d).record.availableAt = (e.createdAt.later? d.nanos).getD e.createdAt := by
  show (e.createdAt.add? d).getD e.createdAt = _
  unfold Timestamp.add?
  split
  · rfl
  · rename_i h
    rw [Timestamp.later?_of_lt (Nat.lt_of_not_le h)]

theorem availableAt_of_later? (h : e.createdAt.later? d.nanos = some t) :
    (e.withDelay d).record.availableAt = t := by
  rw [availableAt_withDelay, h, Option.getD_some]

theorem availableAt_of_none (h : e.createdAt.later? d.nanos = none) :
    (e.withDelay d).record.availableAt = e.createdAt := by
  rw [availableAt_withDelay, h, Option.getD_none]

theorem createdAt_le_availableAt (e : Event) (d : Duration) :
    e.createdAt ≤ (e.withDelay d).record.availableAt := by
  cases h : e.createdAt.later? d.nanos with
  | none =>
    rw [availableAt_of_none h]
    exact Int.le_refl _
  | some t =>
    rw [availableAt_of_later? h]
    exact (Timestamp.later?_le_iff e.createdAt.later?_zero h).2 (Nat.zero_le _)

/-- Out of two delays the longer one never makes an event available earlier, unless it leads out of range
and the shorter one, which is some time, does not. -/
theorem availableAt_mono_iff {d₁ d₂ : Duration} (h : d₁ ≤ d₂) :
    (e.withDelay d₁).record.availableAt ≤ (e.withDelay d₂).record.availableAt ↔
      (0 < d₁.nanos → (e.createdAt.later? d₁.nanos).isSome → (e.createdAt.later? d₂.nanos).isSome) := by
  cases h₁ : e.createdAt.later? d₁.nanos with
  | none =>
    rw [availableAt_of_none h₁]
    exact iff_of_true (createdAt_le_availableAt e d₂) fun _ hnone => nomatch hnone
  | some t₁ =>
    rw [availableAt_of_later? h₁]
    cases h₂ : e.createdAt.later? d₂.nanos with
    | none =>
      rw [availableAt_of_none h₂, Timestamp.later?_le_iff h₁ e.createdAt.later?_zero]
      simp
    | some t₂ =>
      rw [availableAt_of_later? h₂]
      exact iff_of_true ((Timestamp.later?_le_iff h₁ h₂).2 h) fun _ _ => rfl

/-! ## claims -/

/-- **Events are held back.**  An event with a delay is never available before its creation, and just when
the delay has gone by since then if there is such a time.  Out of two delays the longer one makes it
available earlier only if it leads out of range and the shorter one does not.  Until the event is available
no claim returns it, whatever else is asked of the outbox, unless the record is put back or requeued, or
something else stored under its id. -/
theorem held_back (e : Event) :
    (∀ d, e.createdAt ≤ (e.withDelay d).record.availableAt ∧
      ∀ t, e.createdAt.later? d.nanos = some t → (e.withDelay d).record.availableAt = t) ∧
    (∀ d₁ d₂, d₁ ≤ d₂ →
      ((e.withDelay d₁).record.availableAt ≤ (e.withDelay d₂).record.availableAt ↔
        (0 < d₁.nanos → (e.createdAt.later? d₁.nanos).isSome →
          (e.createdAt.later? d₂.nanos).isSome))) ∧
    ∀ d (s : Stores), s.outbox.get? e.id = some (e.withDelay d).record →
      ∀ (lease : Duration) (xs : List Visit), s.Quiet lease e.id xs →
        ∀ (clock : Timestamp) (limit : Nat), clock < (e.withDelay d).record.availableAt →
          ∀ q ∈ ((s.serveAll lease xs).outbox.claim clock lease limit).1, q.id ≠ e.id := by
  refine ⟨fun d => ⟨createdAt_le_availableAt e d, fun t => availableAt_of_later?⟩,
    fun d₁ d₂ => availableAt_mono_iff, fun d s hs lease xs hxs clock limit hclock => ?_⟩
  have hhidden : s.outbox.HiddenUntil e.id (e.withDelay d).record.availableAt := .stored hs
  exact Stores.not_claimed hhidden hxs hclock limit

/-- An event is created a minute before the end of time and held back until then.  Others enqueue and
claim; a claim in the last second does not return it. -/
theorem held_back_to_the_end :
    let late : Timestamp := ⟨8210266876739, 999999999, by decide, by decide, by decide⟩
    let clock (secs : UInt64) : Timestamp := late.addOrMax (.ofSecs secs)
    let event (n : Nat) : Event :=
      .create (.ofNat n) "Todo" (.ofNat 7) "todos" "TODO_CREATED" .null late
    let e := event 1
    let half : Duration := .ofSecs 30
    let whole : Duration := .ofSecs 60
    let s : Stores := (default : Stores).serve half ⟨late, .enqueue (e.withDelay whole)⟩
    let xs : List Visit := [⟨clock 10, .enqueue (event 2)⟩, ⟨clock 30, .claim 5⟩]
    (half ≤ whole ∧ late.later? half.nanos = some (clock 30) ∧
        late.later? whole.nanos = some Timestamp.max ∧
        s.outbox.get? e.id = some (e.withDelay whole).record ∧ s.Quiet half e.id xs ∧
        clock 59 < Timestamp.max) ∧
      (e.withDelay whole).record.availableAt = Timestamp.max ∧
      (e.withDelay half).record.availableAt ≤ (e.withDelay whole).record.availableAt ∧
      ∀ q ∈ ((s.serveAll half xs).outbox.claim (clock 59) half 5).1, q.id ≠ e.id := by
  intro late clock event e half whole s xs
  have hle : half ≤ whole := by decide
  have hhalf : late.later? half.nanos = some (clock 30) := by decide +kernel
  have hwhole : late.later? whole.nanos = some Timestamp.max := by decide +kernel
  have hs : s.outbox.get? e.id = some (e.withDelay whole).record := by rfl
  have hxs : s.Quiet half e.id xs := by decide +kernel
  have hclock : clock 59 < Timestamp.max := by decide +kernel
  obtain ⟨havailable, hmono, hclaims⟩ := held_back e
  have hdue := (havailable whole).2 _ hwhole
  refine ⟨⟨hle, hhalf, hwhole, hs, hxs, hclock⟩, hdue, ?_, ?_⟩
  · exact (hmono half whole hle).2 fun _ _ => Option.isSome_iff_exists.2 ⟨_, hwhole⟩
  · exact hclaims whole s hs half xs hxs (clock 59) 5 (hdue.symm ▸ hclock)

/-- An event that is held back as long as possible is available before one that is held back for half a
minute, and a claim at the time of its creation returns it. -/
theorem held_back_too_long :
    let e : Event := .create (.ofNat 1) "Todo" (.ofNat 7) "todos" "TODO_CREATED" .null .epoch
    let short : Duration := .ofSecs 30
    let long : Duration := .ofNanos Duration.maxNanos
    let s : Stores := (default : Stores).serve short ⟨.epoch, .enqueue (e.withDelay long)⟩
    short ≤ long ∧
      (e.withDelay long).record.availableAt < (e.withDelay short).record.availableAt ∧
      ∃ q ∈ (s.outbox.claim .epoch short 10).1, q.id = e.id := by
  decide +kernel

end Event

end Outbox
