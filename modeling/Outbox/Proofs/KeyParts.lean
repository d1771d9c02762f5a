import Outbox.DedupeKey
import Outbox.Proofs.UuidText

/-!
# What a dedupe key is made of

A key puts free texts, an id and a number in a row, with a colon between two of them.  The free texts may
have colons themselves, but neither the text of an id nor a number has any, so a key can be taken apart
from its end.

* `append_cons_inj_right`   a list is cut in one way at the last place of an element;
* `intDigits_inj`, `chars_ne_intDigits`   what stands behind the last colon: a number or an id, and which;
* `unixNanos_of_micros`     the number that is written for a time in whole microseconds, also where 64 bits
                            do not hold its nanoseconds;
* `perWrite_inj`, `perMessage_inj`   the parts of a key;
* `keys_tell_operation`     what two keys have in common if they are equal.
-/

namespace Outbox

/-- The last `c` of a list cuts it in only one way. -/
theorem append_cons_inj_right {α : Type} {c : α} {as bs as' bs' : List α} (hbs : c ∉ bs) (hbs' : c ∉ bs')
    (h : as ++ c :: bs = as' ++ c :: bs') : as = as' ∧ bs = bs' := by
  -- what one side has before its cut, and the other has not, would hold a later `c`
  have hnil {ds es cs : List α} (hds : c ∉ ds) (hcut : c :: ds = cs ++ c :: es) : cs = [] := by
    cases cs with
    | nil => rfl
    | cons d cs =>
      have hmem : ds = cs ++ c :: es := (List.cons_eq_cons.1 hcut).2
      exact absurd (hmem ▸ List.mem_append_right cs List.mem_cons_self) hds
  rcases List.append_eq_append_iff.1 h with ⟨cs, rfl, hcut⟩ | ⟨cs, rfl, hcut⟩
  · cases hnil hbs hcut
    exact ⟨(List.append_nil as).symm, (List.cons_eq_cons.1 hcut).2⟩
  · cases hnil hbs' hcut
    exact ⟨List.append_nil as', (List.cons_eq_cons.1 hcut).2.symm⟩

/-! ## numbers and ids -/

namespace Decimal

theorem notMem_digits {c : Char} (hc : isDigit c = false) (n : Nat) : c ∉ digits n := fun h =>
  Bool.false_ne_true (hc.symm.trans (isDigit_of_mem_digits n c h))

theorem digits_inj {m n : Nat} (h : digits m = digits n) : m = n := by
  rw [← ofDigits_digits m, h, ofDigits_digits]

theorem intDigits_inj {i j : Int} (h : intDigits i = intDigits j) : i = j := by
  unfold intDigits at h
  split at h <;> split at h
  · have habs := digits_inj (List.cons_eq_cons.1 h).2
    omega
  · exact absurd (h ▸ List.mem_cons_self) (notMem_digits (c := '-') rfl j.natAbs)
  · exact absurd (h ▸ List.mem_cons_self) (notMem_digits (c := '-') rfl i.natAbs)
  · have habs := digits_inj h
    omega

theorem colon_notMem_intDigits (i : Int) : ':' ∉ intDigits i := by
  have hdigits := notMem_digits (c := ':') rfl i.natAbs
  unfold intDigits
  split
  · exact List.not_mem_cons_of_ne_of_not_mem (by decide) hdigits
  · exact hdigits

/-- A sign can only stand in front. -/
theorem minus_notMem_tail_intDigits (i : Int) : '-' ∉ (intDigits i).tail := by
  have hdigits := notMem_digits (c := '-') rfl i.natAbs
  unfold intDigits
  split
  · exact hdigits
  · exact fun h => hdigits (List.mem_of_mem_tail h)

end Decimal

namespace Uuid

theorem colon_notMem_chars (u : Uuid) : ':' ∉ u.chars := by
  have hword (width n : Nat) : ':' ∉ Text.hexWord width n := fun h => by
    obtain ⟨k, hk, hdigit⟩ := Text.exists_of_mem_hexWord h
    have hnone : ∀ k : Fin 16, ':' ≠ Text.hexDigit k := by decide
    exact hnone ⟨k, hk⟩ hdigit
  simp [chars, hword]

theorem chars_ne_intDigits (u : Uuid) (i : Int) : u.chars ≠ Decimal.intDigits i := by
  intro h
  have hminus : '-' ∈ u.chars.tail := by
    unfold chars
    simp [Text.hexWord]
  rw [h] at hminus
  exact Decimal.minus_notMem_tail_intDigits i hminus

end Uuid

/-! ## times -/

/-- The two ways of counting agree where a time has whole microseconds. -/
theorem Timestamp.unixNanos_of_micros {t : Timestamp} (h : t.nanos % 1000 = 0) :
    t.unixNanos = t.secs * 1000000000 + t.nanos := by
  unfold unixNanos
  dsimp only
  split
  · rfl
  · omega

theorem Timestamp.unixNanos_inj {s t : Timestamp} (hs : s.nanos % 1000 = 0) (ht : t.nanos % 1000 = 0)
    (hs' : s.nanos < 1000000000) (ht' : t.nanos < 1000000000) (h : s.unixNanos = t.unixNanos) : s = t := by
  rw [unixNanos_of_micros hs, unixNanos_of_micros ht] at h
  exact ext (by omega) (by omega)

/-! ## keys -/

namespace DedupeKey

variable {kind kind' eventType eventType' : String} {id id' : Uuid} {time time' : Timestamp}

theorem toList_perMessage (kind eventType : String) (id : Uuid) :
    (perMessage kind eventType id).toList =
      (lowerKind kind ++ ":" ++ eventType).toList ++ ':' :: id.chars := by
  simp [perMessage, Uuid.text]

theorem toList_perWrite (kind eventType : String) (id : Uuid) (time : Timestamp) :
    (perWrite kind eventType id time).toList =
      (perMessage kind eventType id).toList ++ ':' :: Decimal.intDigits time.unixNanos := by
  simp [perWrite, perMessage]

theorem toList_perEntity (id : Uuid) : (perEntity id).toList = id.chars := String.toList_ofList

theorem perMessage_inj (h : perMessage kind eventType id = perMessage kind' eventType' id') :
    lowerKind kind ++ ":" ++ eventType = lowerKind kind' ++ ":" ++ eventType' ∧ id = id' := by
  have h := congrArg String.toList h
  rw [toList_perMessage, toList_perMessage] at h
  obtain ⟨hfree, hid⟩ := append_cons_inj_right id.colon_notMem_chars id'.colon_notMem_chars h
  exact ⟨String.toList_inj.1 hfree, Uuid.chars_inj hid⟩

theorem perWrite_inj (h : perWrite kind eventType id time = perWrite kind' eventType' id' time') :
    perMessage kind eventType id = perMessage kind' eventType' id' ∧
      time.unixNanos = time'.unixNanos := by
  have h := congrArg String.toList h
  rw [toList_perWrite, toList_perWrite] at h
  obtain ⟨hmessage, htime⟩ := append_cons_inj_right (Decimal.colon_notMem_intDigits _)
    (Decimal.colon_notMem_intDigits _) h
  exact ⟨String.toList_inj.1 hmessage, Decimal.intDigits_inj htime⟩

/-- Behind its last colon the one has a number, and the other an id. -/
theorem perWrite_ne_perMessage : perWrite kind eventType id time ≠ perMessage kind' eventType' id' := by
  intro h
  have h := congrArg String.toList h
  rw [toList_perWrite, toList_perMessage kind'] at h
  have hlast := (append_cons_inj_right (Decimal.colon_notMem_intDigits _) id'.colon_notMem_chars h).2
  exact id'.chars_ne_intDigits _ hlast.symm

theorem ne_perEntity {key : String} (h : ':' ∈ key.toList) : key ≠ perEntity id := by
  rintro rfl
  rw [toList_perEntity] at h
  exact id.colon_notMem_chars h

/-- **Keys tell operations apart.**  Keys of writes are equal just if the lower-case kind and the event type
make the same text, with the colon between them, and the ids and the numbers written for the times are the
same; such a number stands for no other time in whole microseconds outside of leap seconds.  Keys of
messages are equal just if these texts and the ids are the same.  Keys of different sorts are never equal. -/
theorem keys_tell_operation (kind kind' eventType eventType' : String) (id id' : Uuid)
    (time time' : Timestamp) :
    (perWrite kind eventType id time = perWrite kind' eventType' id' time' ↔
      lowerKind kind ++ ":" ++ eventType = lowerKind kind' ++ ":" ++ eventType' ∧ id = id' ∧
        time.unixNanos = time'.unixNanos) ∧
    (time.nanos % 1000 = 0 → time'.nanos % 1000 = 0 → time.nanos < 1000000000 →
      time'.nanos < 1000000000 → time.unixNanos = time'.unixNanos → time = time') ∧
    (perMessage kind eventType id = perMessage kind' eventType' id' ↔
      lowerKind kind ++ ":" ++ eventType = lowerKind kind' ++ ":" ++ eventType' ∧ id = id') ∧
    perWrite kind eventType id time ≠ perMessage kind' eventType' id' ∧
    perWrite kind eventType id time ≠ perEntity id' ∧
    perMessage kind eventType id ≠ perEntity id' := by
  have hmessage : perMessage kind eventType id = perMessage kind' eventType' id' ↔
      lowerKind kind ++ ":" ++ eventType = lowerKind kind' ++ ":" ++ eventType' ∧ id = id' := by
    refine ⟨perMessage_inj, fun ⟨hfree, hid⟩ => ?_⟩
    rw [perMessage, perMessage, hfree, hid]
  have hwrite : perWrite kind eventType id time = perWrite kind' eventType' id' time' ↔
      perMessage kind eventType id = perMessage kind' eventType' id' ∧
        time.unixNanos = time'.unixNanos := by
    refine ⟨perWrite_inj, fun ⟨hfree, htime⟩ => String.toList_inj.1 ?_⟩
    rw [toList_perWrite, toList_perWrite, hfree, htime]
  refine ⟨?_, fun hm hm' hl hl' => Timestamp.unixNanos_inj hm hm' hl hl', hmessage, perWrite_ne_perMessage,
    ne_perEntity ?_, ne_perEntity ?_⟩
  · rw [hwrite, hmessage, and_assoc]
  · rw [toList_perWrite]
    exact List.mem_append_right _ List.mem_cons_self
  · rw [toList_perMessage]
    exact List.mem_append_right _ List.mem_cons_self

/-- The last microsecond whose nanoseconds 64 bits hold, and the next one.  A kind ends and an event type
begins with what the other has in the middle. -/
theorem keys_tell_operation_edge :
    let id : Uuid := .ofNat 7
    let last : Timestamp := ⟨9223372036, 854775000, by decide, by decide, by decide⟩
    let next : Timestamp := ⟨9223372036, 854776000, by decide, by decide, by decide⟩
    (last.nanos % 1000 = 0 ∧ next.nanos % 1000 = 0 ∧ last.nanos < 1000000000 ∧ next.nanos < 1000000000 ∧
        next.unixNanos = 0x8000000000000000 + 192) ∧
      last.unixNanos ≠ next.unixNanos ∧
      perWrite "To:Do" "X" id last = perWrite "TO" "do:X" id last ∧
      perWrite "To:Do" "X" id last ≠ perWrite "TO" "do:X" id next ∧
      perMessage "To:Do" "X" id = perMessage "TO" "do:X" id ∧
      perWrite "t" "X" id last ≠ perMessage "t" ("X:" ++ id.text) id := by
  intro id last next
  have hfree : lowerKind "To:Do" ++ ":" ++ "X" = lowerKind "TO" ++ ":" ++ "do:X" := by decide +kernel
  obtain ⟨_, htimes, hmessage, _⟩ := keys_tell_operation "To:Do" "TO" "X" "do:X" id id last next
  have hne : last.unixNanos ≠ next.unixNanos := fun h =>
    absurd (htimes (by decide) (by decide) (by decide) (by decide) h) (by decide)
  have hwrite (time : Timestamp) := (keys_tell_operation "To:Do" "TO" "X" "do:X" id id last time).1
  exact ⟨⟨by decide, by decide, by decide, by decide, by decide⟩, hne, (hwrite last).2 ⟨hfree, rfl, rfl⟩,
    fun h => hne ((hwrite next).1 h).2.2, hmessage.2 ⟨hfree, rfl⟩,
    (keys_tell_operation "t" "t" "X" ("X:" ++ id.text) id id last last).2.2.2.1⟩

end DedupeKey

end Outbox
