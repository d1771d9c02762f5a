import Outbox.Proofs.JsonText

/-!
# JSON values that survive their text

* `Json.depth`             how deep containers nest;
* `Json.Ascending`         an object's keys ascend, as those of every object that is built do;
* `Json.ofMembers_of_ascending`, `Json.ascending_ofMembers`   building sorts, and changes nothing that
                           is sorted already;
* `Doc.json?_doc`, `Json.read?_compact`   a value is read back from its text;
* `Doc.json?_spec`         and what is read is never deeper than allowed, sorted, and has no integers
                           outside 64 bits.
-/

namespace Outbox

namespace Json

/-! ## members -/

/-- The keys ascend. -/
def Keyed (ms : List (String × Json)) : Prop := ms.Pairwise fun a b => a.1 < b.1

/-- An object's own keys ascend. -/
def Ascending : Json → Prop
  | .object ms => Keyed ms
  | _ => True

instance : DecidablePred Ascending
  | .object ms => inferInstanceAs (Decidable (ms.Pairwise fun a b => a.1 < b.1))
  | .null | .bool _ | .int _ | .float _ | .text _ | .list _ => .isTrue trivial

theorem setMember_of_forall_lt {key : String} (value : Json) {ms : List (String × Json)}
    (h : ∀ p ∈ ms, p.1 < key) : setMember key value ms = ms ++ [(key, value)] := by
  induction ms with
  | nil => rfl
  | cons p ms ih =>
    have hp : p.1 < key := h p List.mem_cons_self
    have hne : key ≠ p.1 := by
      rintro rfl
      exact String.lt_irrefl _ hp
    rw [setMember, if_neg (String.lt_asymm hp), if_neg hne,
      ih fun q hq => h q (List.mem_cons_of_mem p hq)]
    rfl

theorem foldl_setMember {acc ms : List (String × Json)} (h : Keyed (acc ++ ms)) :
    ms.foldl (fun acc (k, v) => setMember k v acc) acc = acc ++ ms := by
  induction ms generalizing acc with
  | nil => exact (List.append_nil acc).symm
  | cons p ms ih =>
    have hp : ∀ q ∈ acc, q.1 < p.1 := fun q hq =>
      (List.pairwise_append.1 h).2.2 q hq p List.mem_cons_self
    show ms.foldl _ (setMember p.1 p.2 acc) = _
    rw [setMember_of_forall_lt p.2 hp, ih]
    · exact List.append_assoc acc [p] ms
    · rwa [List.append_assoc]

/-- Members that are sorted already stay as they are. -/
theorem ofMembers_of_keyed {ms : List (String × Json)} (h : Keyed ms) : ofMembers ms = .object ms :=
  congrArg Json.object (foldl_setMember h)

theorem mem_setMember {key : String} {value : Json} {ms : List (String × Json)} {p : String × Json}
    (h : p ∈ setMember key value ms) : p = (key, value) ∨ p ∈ ms := by
  induction ms with
  | nil => exact Or.inl (List.mem_singleton.1 h)
  | cons q ms ih =>
    rw [setMember] at h
    split at h
    · exact List.mem_cons.1 h
    split at h
    · rcases List.mem_cons.1 h with rfl | h
      · exact Or.inl rfl
      · exact Or.inr (List.mem_cons_of_mem q h)
    · rcases List.mem_cons.1 h with rfl | h
      · exact Or.inr List.mem_cons_self
      · exact (ih h).imp_right (List.mem_cons_of_mem q)

theorem keyed_setMember {key : String} (value : Json) {ms : List (String × Json)} (h : Keyed ms) :
    Keyed (setMember key value ms) := by
  induction ms with
  | nil => exact List.pairwise_singleton _ _
  | cons q ms ih =>
    have hq := List.pairwise_cons.1 h
    rw [setMember]
    split
    · rename_i hlt
      refine List.pairwise_cons.2 ⟨fun p hp => ?_, h⟩
      rcases List.mem_cons.1 hp with rfl | hp
      · exact hlt
      · exact String.lt_trans hlt (hq.1 p hp)
    split
    · rename_i heq
      refine List.pairwise_cons.2 ⟨fun p hp => ?_, hq.2⟩
      show key < p.1
      rw [heq]
      exact hq.1 p hp
    · rename_i hnlt hne
      have hlt : q.1 < key := by
        refine Std.lt_of_le_of_ne (String.not_lt.1 hnlt) fun heq => hne heq.symm
      refine List.pairwise_cons.2 ⟨fun p hp => ?_, ih hq.2⟩
      rcases mem_setMember hp with rfl | hp
      · exact hlt
      · exact hq.1 p hp

theorem keyed_foldl_setMember {acc : List (String × Json)} (ms : List (String × Json)) (h : Keyed acc) :
    Keyed (ms.foldl (fun acc (k, v) => setMember k v acc) acc) ∧
      ∀ p ∈ ms.foldl (fun acc (k, v) => setMember k v acc) acc, p ∈ acc ∨ p ∈ ms := by
  induction ms generalizing acc with
  | nil => exact ⟨h, fun p hp => Or.inl hp⟩
  | cons q ms ih =>
    obtain ⟨hkeyed, hmem⟩ := ih (keyed_setMember q.2 h)
    refine ⟨hkeyed, fun p hp => ?_⟩
    rcases hmem p hp with hp | hp
    · rcases mem_setMember hp with rfl | hp
      · exact Or.inr List.mem_cons_self
      · exact Or.inl hp
    · exact Or.inr (List.mem_cons_of_mem q hp)

/-- What is built of members has sorted keys, and some of these members. -/
theorem ofMembers_spec (ms : List (String × Json)) :
    ∃ sorted, ofMembers ms = .object sorted ∧ Keyed sorted ∧ ∀ p ∈ sorted, p ∈ ms := by
  obtain ⟨hkeyed, hmem⟩ := keyed_foldl_setMember ms List.Pairwise.nil
  exact ⟨_, rfl, hkeyed, fun p hp => (hmem p hp).resolve_left List.not_mem_nil⟩

/-! ## depth -/

mutual

/-- how deep containers nest -/
def depth : Json → Nat
  | .list vs => depthItems vs + 1
  | .object ms => depthMembers ms + 1
  | _ => 0

def depthItems : List Json → Nat
  | [] => 0
  | v :: vs => max (depth v) (depthItems vs)

def depthMembers : List (String × Json) → Nat
  | [] => 0
  | (_, v) :: ms => max (depth v) (depthMembers ms)

end

theorem depthMembers_le {ms : List (String × Json)} {room : Nat} :
    depthMembers ms ≤ room ↔ ∀ p ∈ ms, p.2.depth ≤ room := by
  induction ms with
  | nil => exact ⟨fun _ _ h => absurd h List.not_mem_nil, fun _ => Nat.zero_le room⟩
  | cons p ms ih => rw [List.forall_mem_cons, ← ih]; exact Nat.max_le

theorem mem_withinMembers {u : Json} {ms : List (String × Json)} :
    u ∈ withinMembers ms ↔ ∃ p ∈ ms, u ∈ p.2.within := by
  induction ms with
  | nil => exact ⟨fun h => absurd h List.not_mem_nil, fun ⟨_, h, _⟩ => absurd h List.not_mem_nil⟩
  | cons p ms ih => rw [List.exists_mem_cons_iff, ← ih]; exact List.mem_append

end Json

namespace Doc

open Json (Numeral Legible)

/-! ## values that are read back -/

theorem json?_number {v : Json} (hv : v.Legible) {i : Int} (h : v = .int i) :
    numberValue? (.ofInt i) = some v := by
  subst h
  unfold numberValue?
  rw [Numeral.integer?_ofInt hv.1 hv.2]

mutual

/-- A value is what its text says, if there is room for its containers. -/
theorem json?_doc : ∀ (v : Json) (room : Nat), v.depth ≤ room →
    (∀ u ∈ v.within, u.Legible ∧ u.Ascending) → json? room v.doc = some v
  | .null, room, _, _ => by cases room <;> rfl
  | .bool b, room, _, _ => by cases room <;> rfl
  | .int i, room, _, hv => by
    have hnumber := json?_number (hv _ (Json.mem_within_self _)).1 rfl
    cases room <;> exact hnumber
  | .float x, room, _, hv => by
    have hnumber := (hv _ (Json.mem_within_self _)).1.2
    cases room <;> exact hnumber
  | .text s, room, _, _ => by cases room <;> rfl
  | .list vs, 0, hroom, _ => absurd hroom (Nat.not_succ_le_zero _)
  | .list vs, room + 1, hroom, hv => by
    have hitems := items?_docs vs room (Nat.le_of_succ_le_succ hroom)
      fun u hu => hv u (List.mem_cons_of_mem _ hu)
    show (items? room (Json.docs vs)).map Json.list = _
    rw [hitems]
    rfl
  | .object ms, 0, hroom, _ => absurd hroom (Nat.not_succ_le_zero _)
  | .object ms, room + 1, hroom, hv => by
    have hmembers := members?_docs ms room (Nat.le_of_succ_le_succ hroom)
      fun u hu => hv u (List.mem_cons_of_mem _ hu)
    show (members? room (Json.memberDocs ms)).map Json.ofMembers = _
    rw [hmembers]
    exact congrArg some (Json.ofMembers_of_keyed (hv _ (Json.mem_within_self _)).2)

theorem items?_docs : ∀ (vs : List Json) (room : Nat), Json.depthItems vs ≤ room →
    (∀ u ∈ Json.withinItems vs, u.Legible ∧ u.Ascending) → items? room (Json.docs vs) = some vs
  | [], _, _, _ => rfl
  | v :: vs, room, hroom, hv => by
    have hfirst := json?_doc v room (Nat.max_le.1 hroom).1 fun u hu => hv u (List.mem_append_left _ hu)
    have hrest := items?_docs vs room (Nat.max_le.1 hroom).2 fun u hu => hv u (List.mem_append_right _ hu)
    rw [Json.docs, items?, hfirst, hrest]
    rfl

theorem members?_docs : ∀ (ms : List (String × Json)) (room : Nat), Json.depthMembers ms ≤ room →
    (∀ u ∈ Json.withinMembers ms, u.Legible ∧ u.Ascending) →
      members? room (Json.memberDocs ms) = some ms
  | [], _, _, _ => rfl
  | (k, v) :: ms, room, hroom, hv => by
    have hfirst := json?_doc v room (Nat.max_le.1 hroom).1 fun u hu => hv u (List.mem_append_left _ hu)
    have hrest := members?_docs ms room (Nat.max_le.1 hroom).2 fun u hu => hv u (List.mem_append_right _ hu)
    rw [Json.memberDocs, members?, hfirst, hrest]
    rfl

end

/-! ## values that are read -/

/-- What is known of every value that was read: its own keys ascend, and an integer has 64 bits. -/
def Sound (v : Json) : Prop :=
  v.Ascending ∧ ∀ i, v = .int i → -0x8000000000000000 ≤ i ∧ i < 0x10000000000000000

theorem range_of_integer? {n : Numeral} {i : Int} (h : n.integer? = some i) :
    -0x8000000000000000 ≤ i ∧ i < 0x10000000000000000 := by
  unfold Numeral.integer? at h
  split at h
  · dsimp only at h
    split at h
    · split at h
      · rename_i hrange
        rw [Bool.and_eq_true, decide_eq_true_eq, decide_eq_true_eq] at hrange
        obtain rfl := Option.some.inj h
        omega
      · cases h
    · split at h
      · rename_i hrange
        obtain rfl := Option.some.inj h
        have hsize : UInt64.size = 0x10000000000000000 := rfl
        omega
      · cases h
  · cases h

theorem numberValue?_spec {n : Numeral} {v : Json} (h : numberValue? n = some v) :
    v.depth = 0 ∧ ∀ u ∈ v.within, Sound u := by
  unfold numberValue? at h
  cases hi : n.integer? with
  | some i =>
    rw [hi] at h
    obtain rfl := Option.some.inj h
    refine ⟨rfl, fun u hu => ?_⟩
    obtain rfl := List.mem_singleton.1 hu
    refine ⟨trivial, fun j hj => ?_⟩
    rw [← Json.int.inj hj]
    exact range_of_integer? hi
  | none =>
    rw [hi] at h
    obtain ⟨x, _, rfl⟩ := Option.map_eq_some_iff.1 h
    refine ⟨rfl, fun u hu => ?_⟩
    obtain rfl := List.mem_singleton.1 hu
    exact ⟨trivial, fun j hj => nomatch hj⟩

theorem sound_ofMembers {ms : List (String × Json)} {room : Nat} (hroom : Json.depthMembers ms ≤ room)
    (h : ∀ u ∈ Json.withinMembers ms, Sound u) :
    (Json.ofMembers ms).depth ≤ room + 1 ∧ ∀ u ∈ (Json.ofMembers ms).within, Sound u := by
  obtain ⟨sorted, heq, hkeyed, hmem⟩ := Json.ofMembers_spec ms
  rw [heq]
  constructor
  · exact Nat.succ_le_succ (Json.depthMembers_le.2 fun p hp => Json.depthMembers_le.1 hroom p (hmem p hp))
  · intro u hu
    rcases List.mem_cons.1 hu with rfl | hu
    · exact ⟨hkeyed, fun i hi => nomatch hi⟩
    · obtain ⟨p, hp, hu⟩ := Json.mem_withinMembers.1 hu
      exact h u (Json.mem_withinMembers.2 ⟨p, hmem p hp, hu⟩)

/-- A value with nothing in it, and no number. -/
theorem sound_leaf {v w : Json} {room : Nat} (h : some w = some v) (hdepth : w.depth = 0)
    (hwithin : w.within = [w]) (hsound : Sound w) : v.depth ≤ room ∧ ∀ u ∈ v.within, Sound u := by
  obtain rfl := Option.some.inj h
  rw [hdepth, hwithin]
  exact ⟨Nat.zero_le room, fun u hu => List.mem_singleton.1 hu ▸ hsound⟩

mutual

/-- What is read is no deeper than there is room for, and sound throughout. -/
theorem json?_spec : ∀ (d : Doc) (room : Nat) (v : Json), json? room d = some v →
    v.depth ≤ room ∧ ∀ u ∈ v.within, Sound u
  | .null, room, v, h => by
    have h : some Json.null = some v := by cases room <;> exact h
    exact sound_leaf h rfl rfl ⟨trivial, fun i hi => nomatch hi⟩
  | .bool b, room, v, h => by
    have h : some (Json.bool b) = some v := by cases room <;> exact h
    exact sound_leaf h rfl rfl ⟨trivial, fun i hi => nomatch hi⟩
  | .number n, room, v, h => by
    have h : numberValue? n = some v := by cases room <;> exact h
    obtain ⟨hdepth, hsound⟩ := numberValue?_spec h
    exact ⟨hdepth ▸ Nat.zero_le room, hsound⟩
  | .string none, room, v, h => by cases room <;> cases h
  | .string (some s), room, v, h => by
    have h : some (Json.text s) = some v := by cases room <;> exact h
    exact sound_leaf h rfl rfl ⟨trivial, fun i hi => nomatch hi⟩
  | .list ds, 0, v, h => nomatch h
  | .list ds, room + 1, v, h => by
    obtain ⟨vs, hvs, rfl⟩ := Option.map_eq_some_iff.1 (show (items? room ds).map Json.list = some v from h)
    obtain ⟨hdepth, hsound⟩ := items?_spec ds room vs hvs
    refine ⟨Nat.succ_le_succ hdepth, fun u hu => ?_⟩
    rcases List.mem_cons.1 hu with rfl | hu
    · exact ⟨trivial, fun i hi => nomatch hi⟩
    · exact hsound u hu
  | .object ms, 0, v, h => nomatch h
  | .object ms, room + 1, v, h => by
    obtain ⟨vs, hvs, rfl⟩ :=
      Option.map_eq_some_iff.1 (show (members? room ms).map Json.ofMembers = some v from h)
    obtain ⟨hdepth, hsound⟩ := members?_spec ms room vs hvs
    exact sound_ofMembers hdepth hsound

theorem items?_spec : ∀ (ds : List Doc) (room : Nat) (vs : List Json), items? room ds = some vs →
    Json.depthItems vs ≤ room ∧ ∀ u ∈ Json.withinItems vs, Sound u
  | [], room, vs, h => by
    obtain rfl := Option.some.inj h
    exact ⟨Nat.zero_le room, fun u hu => absurd hu List.not_mem_nil⟩
  | d :: ds, room, vs, h => by
    obtain ⟨w, hw, h⟩ := Option.bind_eq_some_iff.1 h
    obtain ⟨ws, hws, h⟩ := Option.bind_eq_some_iff.1 h
    obtain rfl := Option.some.inj h
    obtain ⟨hdepth, hsound⟩ := json?_spec d room w hw
    obtain ⟨hdepths, hsounds⟩ := items?_spec ds room ws hws
    refine ⟨Nat.max_le.2 ⟨hdepth, hdepths⟩, fun u hu => ?_⟩
    exact (List.mem_append.1 hu).elim (hsound u) (hsounds u)

theorem members?_spec : ∀ (ds : List (Option String × Doc)) (room : Nat) (ms : List (String × Json)),
    members? room ds = some ms → Json.depthMembers ms ≤ room ∧ ∀ u ∈ Json.withinMembers ms, Sound u
  | [], room, ms, h => by
    obtain rfl := Option.some.inj h
    exact ⟨Nat.zero_le room, fun u hu => absurd hu List.not_mem_nil⟩
  | (key, d) :: ds, room, ms, h => by
    obtain ⟨k, hk, h⟩ := Option.bind_eq_some_iff.1 h
    obtain ⟨w, hw, h⟩ := Option.bind_eq_some_iff.1 h
    obtain ⟨ws, hws, h⟩ := Option.bind_eq_some_iff.1 h
    obtain rfl := Option.some.inj h
    obtain ⟨hdepth, hsound⟩ := json?_spec d room w hw
    obtain ⟨hdepths, hsounds⟩ := members?_spec ds room ws hws
    refine ⟨Nat.max_le.2 ⟨hdepth, hdepths⟩, fun u hu => ?_⟩
    exact (List.mem_append.1 hu).elim (hsound u) (hsounds u)

end

end Doc

/-- A value whose containers are sorted and nest at most 127 deep is read back from its text. -/
theorem Json.read?_compact {v : Json} (hdepth : v.depth ≤ 127)
    (hv : ∀ u ∈ v.within, u.Legible ∧ u.Ascending) : Json.read? v.compact = some v := by
  unfold Json.read? Json.compact
  rw [String.toList_ofList, Doc.read?_write fun u hu => (hv u hu).1]
  exact Doc.json?_doc v 127 hdepth hv

end Outbox
