import Mathlib.Data.List.Basic
import Outbox.Json.Doc
import Outbox.Proofs.Digits

/-!
# The text of a JSON value is read as the value

Each part is read in front of any text that does not go on with it, so that the parts can follow one
another.

* `readString_text`        strings, whatever characters they have;
* `EndsNumber`             a text that does not go on with a number;
* `Numeral.read?_intDigits`  integers;
* `Numeral.read?_append`   a number is read in front of any text that does not go on with it;
* `Json.within`            a value and all values in it;
* `Json.doc`               what the text of a value says;
* `Json.Legible`           a number whose text gives it back, whatever follows;
* `Json.ReadsBack`         a double whose text alone gives it back;
* `Doc.readValue_write`, `Doc.read?_write`   the text of a value is read as its `doc`.

Lists and objects are followed by recursion, and the fuel of the reader counts two calls for each
character.
-/

namespace Outbox

open Decimal (isDigit digits intDigits ofDigits splitSign StopsDigits)

namespace Doc

/-! ## strings -/

theorem readString_plain {c : Char} (r : Reading) (cs : List Char) (hquote : c ≠ '"') (hslash : c ≠ '\\')
    (hcontrol : ¬ c.toNat < 0x20) : readString r (c :: cs) = readString (r.push c) cs := by
  rw [readString, if_neg hcontrol]
  · exact hquote
  · intro a b d e rest h
    exact absurd h hslash
  · intro a rest h
    exact absurd h hslash

/-- A control character is written with its number. -/
theorem readString_control {c : Char} (r : Reading) (cs : List Char) (h : c.toNat < 0x20) :
    readString r ('\\' :: 'u' :: '0' :: '0' :: (if c.toNat < 16 then '0' else '1') ::
      Text.hexDigit (c.toNat % 16) :: cs) = readString (r.push c) cs := by
  have key : ∀ n : Fin 32, Text.hexNumber? ['0', '0', if n.val < 16 then '0' else '1',
      Text.hexDigit (n.val % 16)] = some n.val := by decide
  have hunit : r.pushUnit c.toNat = r.push c := by
    have hhigh : ¬ (0xd800 ≤ c.toNat) := by omega
    have hlow : ¬ (0xdc00 ≤ c.toNat) := by omega
    simp only [Reading.pushUnit, hhigh, hlow, decide_false, Bool.false_and, Bool.false_eq_true,
      if_false, Char.ofNat_toNat]
  rw [readString, key ⟨c.toNat, h⟩]
  dsimp only
  rw [hunit]

theorem readString_escapeChar (c : Char) (r : Reading) (cs : List Char) :
    readString r (Json.escapeChar c ++ cs) = readString (r.push c) cs := by
  unfold Json.escapeChar
  by_cases h1 : c = '"'
  · subst h1
    rfl
  by_cases h2 : c = '\\'
  · subst h2
    rfl
  by_cases h3 : c = '\x08'
  · subst h3
    rfl
  by_cases h4 : c = '\t'
  · subst h4
    rfl
  by_cases h5 : c = '\n'
  · subst h5
    rfl
  by_cases h6 : c = '\x0c'
  · subst h6
    rfl
  by_cases h7 : c = '\r'
  · subst h7
    rfl
  rw [if_neg h1, if_neg h2, if_neg h3, if_neg h4, if_neg h5, if_neg h6, if_neg h7]
  by_cases hcontrol : c.toNat < 0x20
  · rw [if_pos hcontrol]
    exact readString_control r cs hcontrol
  · rw [if_neg hcontrol]
    exact readString_plain r cs h1 h2 hcontrol

theorem readString_escaped (cs : List Char) (r : Reading) (rest : List Char) :
    readString r (cs.flatMap Json.escapeChar ++ '"' :: rest) =
      some ((cs.foldl Reading.push r).finish, rest) := by
  induction cs generalizing r with
  | nil => rfl
  | cons c cs ih => rw [List.flatMap_cons, List.append_assoc, readString_escapeChar, ih, List.foldl_cons]

theorem Reading.foldl_push (cs acc : List Char) :
    cs.foldl Reading.push ⟨some acc, none⟩ = ⟨some (cs.reverse ++ acc), none⟩ := by
  induction cs generalizing acc with
  | nil => rfl
  | cons c cs ih =>
    rw [List.foldl_cons, List.reverse_cons, List.append_assoc]
    exact ih (c :: acc)

/-- A string is read back, whatever characters it has and whatever follows it. -/
theorem readString_text (s : String) (rest : List Char) :
    readString .start (s.toList.flatMap Json.escapeChar ++ '"' :: rest) = some (some s, rest) := by
  have hfold : s.toList.foldl Reading.push .start = ⟨some s.toList.reverse, none⟩ := by
    rw [Reading.start, Reading.foldl_push, List.append_nil]
  rw [readString_escaped, hfold]
  show some (some (String.ofList s.toList.reverse.reverse), rest) = _
  rw [List.reverse_reverse, String.ofList_toList]

end Doc

namespace Json

/-! ## numbers -/

/-- The text does not go on with a character that could belong to a number. -/
def EndsNumber (cs : List Char) : Prop :=
  ∀ c, cs.head? = some c → isDigit c = false ∧ c ≠ '.' ∧ c ≠ 'e' ∧ c ≠ 'E'

theorem EndsNumber.nil : EndsNumber [] := nofun

theorem EndsNumber.cons {c : Char} (cs : List Char)
    (h : isDigit c = false ∧ c ≠ '.' ∧ c ≠ 'e' ∧ c ≠ 'E') : EndsNumber (c :: cs) := by
  intro d hd
  rw [← Option.some.inj hd]
  exact h

theorem EndsNumber.stops {cs : List Char} (h : EndsNumber cs) : StopsDigits cs :=
  fun c hc => (h c hc).1

namespace Numeral

variable {rest : List Char}

theorem readFraction?_none (h : EndsNumber rest) : readFraction? rest = some ([], rest) := by
  cases rest with
  | nil => rfl
  | cons c cs =>
    rw [readFraction?]
    intro cs' heq
    exact (h c rfl).2.1 (List.cons_eq_cons.1 heq).1

theorem readExponent?_none (h : EndsNumber rest) : readExponent? rest = some (none, rest) := by
  cases rest with
  | nil => rfl
  | cons c cs =>
    have hc : ¬ ((decide (c = 'e') || decide (c = 'E')) = true) := by
      simp only [Bool.or_eq_true, decide_eq_true_eq, not_or]
      exact (h c rfl).2.2
    rw [readExponent?, if_neg hc]

/-- The digits of a number are all that stands before the point: no zero is in front of others. -/
theorem readWhole?_digits (n : Nat) (h : StopsDigits rest) :
    readWhole? (digits n ++ rest) = some (digits n, rest) := by
  have hds := Decimal.isDigit_of_mem_digits n
  by_cases hn : n = 0
  · subst hn
    rw [Decimal.digits_of_lt (by decide)]
    cases rest with
    | nil => rfl
    | cons c cs =>
      have hc : ¬ isDigit c = true := by
        rw [h c rfl]
        decide
      show (if isDigit c then none else some (['0'], c :: cs)) = _
      rw [if_neg hc]
      rfl
  · have hhead : (digits n ++ rest).head? ≠ some '0' := by
      rw [List.head?_append_of_ne_nil _ (Decimal.digits_ne_nil n)]
      exact Decimal.head_digits hn
    have htake := Decimal.takeWhile_append_digits hds h
    have hdrop := Decimal.dropWhile_append_digits hds h
    rw [readWhole?, htake, hdrop]
    · cases hd : digits n with
      | nil => exact absurd hd (Decimal.digits_ne_nil n)
      | cons d ds => rfl
    · intro c cs heq
      rw [heq] at hhead
      exact hhead rfl
    · intro heq
      rw [heq] at hhead
      exact hhead rfl

/-- what is read of an integer's text -/
def ofInt (i : Int) : Numeral := ⟨i < 0, digits i.natAbs, [], none⟩

theorem read?_intDigits (i : Int) (h : EndsNumber rest) :
    read? (intDigits i ++ rest) = some (ofInt i, rest) := by
  have hread (negative : Bool) : readUnsigned? negative (digits i.natAbs ++ rest) =
      some (⟨negative, digits i.natAbs, [], none⟩, rest) := by
    unfold readUnsigned?
    rw [readWhole?_digits _ h.stops]
    simp only [Option.bind_eq_bind, Option.bind_some, readFraction?_none h, readExponent?_none h]
  unfold intDigits ofInt
  by_cases hi : i < 0
  · rw [if_pos hi, List.cons_append, read?, hread, decide_eq_true hi]
  · rw [if_neg hi, read?, hread, decide_eq_false hi]
    -- digits do not begin with a sign
    intro cs heq
    have hd := Decimal.isDigit_of_mem_digits i.natAbs
    cases hds : digits i.natAbs with
    | nil => exact Decimal.digits_ne_nil _ hds
    | cons d ds =>
      rw [hds] at heq hd
      have hminus := hd d List.mem_cons_self
      rw [(List.cons_eq_cons.1 heq).1] at hminus
      cases hminus

theorem integer?_ofInt {i : Int} (hlow : -0x8000000000000000 ≤ i) (hhigh : i < 0x10000000000000000) :
    (ofInt i).integer? = some i := by
  unfold integer? ofInt
  simp only [List.isEmpty_nil, Option.isNone_none, Bool.and_self, if_true, Decimal.ofDigits_digits]
  by_cases hi : i < 0
  · have hrange : 0 < i.natAbs ∧ i.natAbs ≤ 0x8000000000000000 := by omega
    simp only [hi, decide_true, if_true, hrange, Bool.and_self]
    rw [Int.ofNat_natAbs_of_nonpos (Int.le_of_lt hi), Int.neg_neg]
  · have hrange : i.natAbs < UInt64.size := by
      show i.natAbs < 0x10000000000000000
      omega
    simp only [hi, decide_false, Bool.false_eq_true, if_false, hrange, if_true]
    rw [Int.natAbs_of_nonneg (Int.not_lt.1 hi)]

/-- what is read of a double's text -/
def ofFloat (x : Float) : Numeral := ((read? (writeFloat x)).map Prod.fst).getD (ofInt 0)

/-- a digit or a minus sign -/
def StartsNumber (c : Char) : Prop := c = '-' ∨ isDigit c = true

theorem StartsNumber.ne {c d : Char} (h : StartsNumber c) (hd : d ≠ '-' ∧ isDigit d = false) :
    c ≠ d := by
  rintro rfl
  rcases h with h | h
  · exact hd.1 h
  · rw [hd.2] at h
    cases h

/-- A number begins with a digit or a minus sign. -/
theorem head_of_read? {cs : List Char} {p : Numeral × List Char} (h : read? cs = some p) :
    ∃ c rest, cs = c :: rest ∧ StartsNumber c := by
  cases cs with
  | nil => cases h
  | cons c rest =>
    refine ⟨c, rest, rfl, ?_⟩
    by_cases hminus : c = '-'
    · exact Or.inl hminus
    right
    by_contra hdigit
    have hzero : c ≠ '0' := by
      rintro rfl
      exact hdigit rfl
    have htake : (c :: rest).takeWhile isDigit = [] := List.takeWhile_cons_of_neg hdigit
    have hnone : readWhole? (c :: rest) = none := by
      rw [readWhole?, htake]
      · intro d cs heq
        exact hzero (List.cons_eq_cons.1 heq).1
      · intro heq
        exact hzero (List.cons_eq_cons.1 heq).1
    rw [read?, readUnsigned?, hnone] at h
    · cases h
    · intro cs heq
      exact hminus (List.cons_eq_cons.1 heq).1

/-! ## numbers in front of other texts -/

section

variable {cs rest left : List Char}

theorem takeWhile_append_stops (h : StopsDigits rest) :
    (cs ++ rest).takeWhile isDigit = cs.takeWhile isDigit := by
  rw [List.takeWhile_append, Decimal.takeWhile_stops h, List.append_nil]
  split
  · rename_i hall
    exact (List.takeWhile_prefix isDigit).eq_of_length hall |>.symm
  · rfl

theorem dropWhile_append_stops (h : StopsDigits rest) :
    (cs ++ rest).dropWhile isDigit = cs.dropWhile isDigit ++ rest := by
  have hnone : rest.dropWhile isDigit = rest :=
    Decimal.dropWhile_append_digits (List.forall_mem_nil _) h
  rw [List.dropWhile_append]
  split
  · rename_i hempty
    rw [List.isEmpty_iff.1 hempty, hnone]
    rfl
  · rfl

theorem readWhole?_append {ds : List Char} (h : readWhole? cs = some (ds, left)) (hrest : EndsNumber rest) :
    readWhole? (cs ++ rest) = some (ds, left ++ rest) := by
  unfold readWhole? at h
  split at h
  · rename_i c cs
    split at h
    · cases h
    · rename_i hc
      obtain ⟨rfl, rfl⟩ := Prod.mk.inj (Option.some.inj h)
      exact if_neg hc
  · obtain ⟨rfl, rfl⟩ := Prod.mk.inj (Option.some.inj h)
    have hzero := readWhole?_digits 0 hrest.stops
    rwa [Decimal.digits_of_lt (by decide)] at hzero
  · rename_i hmore hzero
    obtain ⟨d, cs, rfl, hd⟩ : ∃ d cs', cs = d :: cs' ∧ d ≠ '0' := by
      cases cs with
      | nil => cases h
      | cons d cs =>
        refine ⟨d, cs, rfl, ?_⟩
        rintro rfl
        cases cs with
        | nil => exact hzero rfl
        | cons c cs => exact hmore c cs rfl
    rw [List.cons_append, readWhole?, ← List.cons_append, takeWhile_append_stops hrest.stops,
      dropWhile_append_stops hrest.stops]
    · split at h
      · cases h
      · obtain ⟨rfl, rfl⟩ := Prod.mk.inj (Option.some.inj h)
        rfl
    · exact fun c cs' heq => hd (List.cons_eq_cons.1 heq).1
    · exact fun heq => hd (List.cons_eq_cons.1 heq).1

theorem readFraction?_append {ds : List Char} (h : readFraction? cs = some (ds, left))
    (hrest : EndsNumber rest) : readFraction? (cs ++ rest) = some (ds, left ++ rest) := by
  unfold readFraction? at h
  split at h
  · rename_i cs
    rw [List.cons_append, readFraction?, takeWhile_append_stops hrest.stops,
      dropWhile_append_stops hrest.stops]
    split at h
    · cases h
    · obtain ⟨rfl, rfl⟩ := Prod.mk.inj (Option.some.inj h)
      rfl
  · rename_i hpoint
    obtain ⟨rfl, rfl⟩ := Prod.mk.inj (Option.some.inj h)
    cases cs with
    | nil => exact readFraction?_none hrest
    | cons c cs =>
      rw [List.cons_append, readFraction?]
      intro cs' heq
      exact hpoint cs (by rw [(List.cons_eq_cons.1 heq).1])

theorem splitSign_append (c : Char) (cs rest : List Char) :
    splitSign (c :: cs ++ rest) = ((splitSign (c :: cs)).1, (splitSign (c :: cs)).2 ++ rest) := by
  by_cases hminus : c = '-'
  · subst hminus
    rfl
  by_cases hplus : c = '+'
  · subst hplus
    rfl
  have hplain (cs : List Char) : splitSign (c :: cs) = (false, c :: cs) := by
    rw [splitSign]
    · exact fun _ h => hminus (List.cons_eq_cons.1 h).1
    · exact fun _ h => hplus (List.cons_eq_cons.1 h).1
  rw [List.cons_append, hplain, hplain]
  rfl

theorem readExponent?_append {e : Option (Bool × List Char)} (h : readExponent? cs = some (e, left))
    (hrest : EndsNumber rest) : readExponent? (cs ++ rest) = some (e, left ++ rest) := by
  cases cs with
  | nil =>
    obtain ⟨rfl, rfl⟩ := Prod.mk.inj (Option.some.inj h)
    exact readExponent?_none hrest
  | cons c cs =>
    rw [List.cons_append, readExponent?]
    rw [readExponent?] at h
    split at h
    · rename_i hc
      rw [if_pos hc]
      cases cs with
      | nil => cases h
      | cons d cs =>
        rw [splitSign_append]
        dsimp only at h ⊢
        rw [takeWhile_append_stops hrest.stops, dropWhile_append_stops hrest.stops]
        split at h
        · cases h
        · obtain ⟨rfl, rfl⟩ := Prod.mk.inj (Option.some.inj h)
          rfl
    · rename_i hc
      obtain ⟨rfl, rfl⟩ := Prod.mk.inj (Option.some.inj h)
      rw [if_neg hc]
      rfl

theorem readUnsigned?_append {negative : Bool} {n : Numeral}
    (h : readUnsigned? negative cs = some (n, left)) (hrest : EndsNumber rest) :
    readUnsigned? negative (cs ++ rest) = some (n, left ++ rest) := by
  obtain ⟨⟨whole, cs⟩, hwhole, h⟩ := Option.bind_eq_some_iff.1 h
  obtain ⟨⟨fraction, cs⟩, hfraction, h⟩ := Option.bind_eq_some_iff.1 h
  obtain ⟨⟨exponent, cs⟩, hexponent, h⟩ := Option.bind_eq_some_iff.1 h
  obtain ⟨rfl, rfl⟩ := Prod.mk.inj (Option.some.inj h)
  unfold readUnsigned?
  simp only [readWhole?_append hwhole hrest, readFraction?_append hfraction hrest,
    readExponent?_append hexponent hrest, Option.bind_eq_bind, Option.bind_some]

/-- A number is read in front of any text that does not go on with it. -/
theorem read?_append {n : Numeral} (h : read? cs = some (n, left)) (hrest : EndsNumber rest) :
    read? (cs ++ rest) = some (n, left ++ rest) := by
  unfold read? at h
  split at h
  · exact readUnsigned?_append h hrest
  · rename_i hminus
    have happend := readUnsigned?_append h hrest
    rw [read?]
    · exact happend
    · intro cs' heq
      cases cs with
      | nil => cases h
      | cons c cs => exact hminus cs (by rw [(List.cons_eq_cons.1 heq).1])

end

end Numeral

/-! ## values -/

mutual

/-- a value and all values in it -/
def within : Json → List Json
  | .list vs => .list vs :: withinItems vs
  | .object ms => .object ms :: withinMembers ms
  | v => [v]

def withinItems : List Json → List Json
  | [] => []
  | v :: vs => within v ++ withinItems vs

def withinMembers : List (String × Json) → List Json
  | [] => []
  | (_, v) :: ms => within v ++ withinMembers ms

end

theorem mem_within_self (v : Json) : v ∈ v.within := by
  cases v <;> exact List.mem_cons_self

mutual

/-- what the text of a value says -/
def doc : Json → Doc
  | .null => .null
  | .bool b => .bool b
  | .int i => .number (.ofInt i)
  | .float x => .number (.ofFloat x)
  | .text s => .string (some s)
  | .list vs => .list (docs vs)
  | .object ms => .object (memberDocs ms)

def docs : List Json → List Doc
  | [] => []
  | v :: vs => doc v :: docs vs

def memberDocs : List (String × Json) → List (Option String × Doc)
  | [] => []
  | (k, v) :: ms => (some k, doc v) :: memberDocs ms

end

/-- A number that is read back: an integer of 64 bits, or a double whose text gives it again. -/
def Legible : Json → Prop
  | .int i => -0x8000000000000000 ≤ i ∧ i < 0x10000000000000000
  | .float x =>
    (∀ rest, EndsNumber rest → Numeral.read? (writeFloat x ++ rest) = some (.ofFloat x, rest)) ∧
      Doc.numberValue? (.ofFloat x) = some (.float x)
  | _ => True

/-- The text of the double is a number whose value is the double.  Most doubles have such a text; the last
digit of some is lost, since their digits are put together in doubles. -/
def ReadsBack (x : Float) : Prop :=
  ∃ n, Numeral.read? (writeFloat x) = some (n, []) ∧ Doc.numberValue? n = some (.float x)

theorem ReadsBack.legible {x : Float} (h : ReadsBack x) : Legible (.float x) := by
  obtain ⟨n, hread, hvalue⟩ := h
  have hn : Numeral.ofFloat x = n := by
    rw [Numeral.ofFloat, hread]
    rfl
  refine ⟨fun rest hrest => ?_, hn ▸ hvalue⟩
  rw [hn]
  exact Numeral.read?_append hread hrest

theorem legible_negativeZero : Legible (.float (-0.0)) := by
  have hread : Numeral.read? (writeFloat (-0.0)) = some (⟨true, ['0'], ['0'], none⟩, []) := by decide
  exact ReadsBack.legible ⟨_, hread, rfl⟩

theorem EndsNumber.writeMore (vs : List Json) (rest : List Char) : EndsNumber (writeMore vs ++ rest) := by
  cases vs <;> exact .cons _ (by decide)

theorem EndsNumber.writeMembers (ms : List (String × Json)) (rest : List Char) :
    EndsNumber (writeMembers ms ++ rest) := by
  rcases ms with _ | ⟨⟨k, v⟩, ms⟩ <;> exact .cons _ (by decide)

/-- the items of a list and its closing bracket -/
def writeItems : List Json → List Char
  | [] => [']']
  | v :: vs => v.write ++ Json.writeMore vs

theorem write_list (vs : List Json) : (list vs).write = '[' :: writeItems vs := by
  cases vs <;> rfl

theorem writeMore_of_ne_nil {vs : List Json} (h : vs ≠ []) : writeMore vs = ',' :: writeItems vs := by
  cases vs with
  | nil => exact absurd rfl h
  | cons v vs => rfl

/-- the members of an object and its closing brace -/
def writeFields : List (String × Json) → List Char
  | [] => ['\x7d']
  | (k, v) :: ms => writeText k ++ ':' :: (v.write ++ Json.writeMembers ms)

theorem write_object (ms : List (String × Json)) : (object ms).write = '\x7b' :: writeFields ms := by
  cases ms <;> rfl

theorem writeMembers_of_ne_nil {ms : List (String × Json)} (h : ms ≠ []) :
    writeMembers ms = ',' :: writeFields ms := by
  cases ms with
  | nil => exact absurd rfl h
  | cons m ms => rfl

end Json

namespace Doc

open Json (Numeral EndsNumber Legible)

theorem skipSpace_cons {c : Char} (cs : List Char) (h : isSpace c = false) :
    skipSpace (c :: cs) = c :: cs :=
  List.dropWhile_cons_of_neg (by rw [h]; decide)

theorem isSpace_of_startsNumber {c : Char} (h : Numeral.StartsNumber c) : isSpace c = false := by
  have h1 := h.ne (d := ' ') (by decide)
  have h2 := h.ne (d := '\n') (by decide)
  have h3 := h.ne (d := '\t') (by decide)
  have h4 := h.ne (d := '\r') (by decide)
  simp only [isSpace, h1, h2, h3, h4, decide_false, Bool.or_self]

/-- What can be read as a number is read as one. -/
theorem readValue_number {n : Numeral} {cs rest : List Char} (h : Numeral.read? cs = some (n, rest))
    (fuel : Nat) : readValue (fuel + 1) cs = some (.number n, rest) := by
  obtain ⟨c, cs, rfl, hc⟩ := Numeral.head_of_read? h
  have hne (d : Char) (hd : d ≠ '-' ∧ isDigit d = false) {cs' : List Char}
      (heq : c :: cs = d :: cs') : False :=
    hc.ne hd (List.cons_eq_cons.1 heq).1
  unfold readValue
  rw [skipSpace_cons cs (isSpace_of_startsNumber hc)]
  split
  · exact (hne 'n' (by decide) ‹_›).elim
  · exact (hne 't' (by decide) ‹_›).elim
  · exact (hne 'f' (by decide) ‹_›).elim
  · exact (hne '"' (by decide) ‹_›).elim
  · exact (hne '[' (by decide) ‹_›).elim
  · exact (hne '\x7b' (by decide) ‹_›).elim
  · rw [h]
    rfl

/-- A value's text begins with no space and closes no bracket. -/
theorem write_starts {v : Json} (hv : Legible v) :
    ∃ c cs, v.write = c :: cs ∧ isSpace c = false ∧ c ≠ ']' := by
  have hnumber {cs rest : List Char} {n : Numeral} (h : Numeral.read? (cs ++ []) = some (n, rest)) :
      ∃ c cs', cs = c :: cs' ∧ isSpace c = false ∧ c ≠ ']' := by
    rw [List.append_nil] at h
    obtain ⟨c, cs', rfl, hc⟩ := Numeral.head_of_read? h
    exact ⟨c, cs', rfl, isSpace_of_startsNumber hc, hc.ne (by decide)⟩
  cases v with
  | null => exact ⟨_, _, rfl, by decide⟩
  | bool b => cases b <;> exact ⟨_, _, rfl, by decide⟩
  | int i => exact hnumber (Numeral.read?_intDigits i .nil)
  | float x => exact hnumber (hv.1 [] .nil)
  | text s => exact ⟨_, _, rfl, by decide⟩
  | list vs => cases vs <;> exact ⟨_, _, rfl, by decide⟩
  | object ms => cases ms <;> exact ⟨_, _, rfl, by decide⟩

/-! ## lists and objects -/

section

variable {rest : List Char} {fuel : Nat}

theorem writeText_append (s : String) (rest : List Char) :
    Json.writeText s ++ rest = '"' :: (s.toList.flatMap Json.escapeChar ++ '"' :: rest) := by
  simp only [Json.writeText, List.cons_append, List.append_assoc, List.nil_append]

theorem readValue_text (s : String) :
    readValue (fuel + 1) ((Json.text s).write ++ rest) = some ((Json.text s).doc, rest) := by
  show readValue (fuel + 1) (Json.writeText s ++ rest) = _
  rw [writeText_append]
  show (readString .start (s.toList.flatMap Json.escapeChar ++ '"' :: rest)).map
    (fun p => (Doc.string p.1, p.2)) = _
  rw [readString_text]
  rfl

theorem readItems_cons {v : Json} {vs : List Json}
    (hv : readValue fuel (v.write ++ (Json.writeMore vs ++ rest)) = some (v.doc, Json.writeMore vs ++ rest))
    (hvs : vs ≠ [] → readItems fuel (Json.writeItems vs ++ rest) = some (Json.docs vs, rest)) :
    readItems (fuel + 1) (Json.writeItems (v :: vs) ++ rest) = some (Json.docs (v :: vs), rest) := by
  rw [Json.writeItems, List.append_assoc, readItems, hv]
  cases vs with
  | nil => rfl
  | cons w ws =>
    show (readItems fuel (Json.writeItems (w :: ws) ++ rest)).bind
      (fun p => some (v.doc :: p.1, p.2)) = _
    rw [hvs (List.cons_ne_nil w ws)]
    rfl

theorem readValue_open {c : Char} (cs : List Char) (hspace : isSpace c = false) (hc : c ≠ ']') :
    readValue (fuel + 1) ('[' :: c :: cs) =
      (readItems fuel (c :: cs)).map fun p => (.list p.1, p.2) := by
  unfold readValue
  rw [skipSpace_cons (c :: cs) (by decide)]
  split
  case h_5 rest heq =>
    rw [← (List.cons_eq_cons.1 heq).2, skipSpace_cons cs hspace]
    split
    · rename_i heq
      exact absurd (List.cons_eq_cons.1 heq).1 hc
    · rfl
  all_goals rename_i heq
  case h_7 hne => exact absurd rfl (hne _)
  all_goals exact absurd (List.cons_eq_cons.1 heq).1 (by decide)

theorem readValue_list {vs : List Json} (hlegible : ∀ u ∈ Json.withinItems vs, Legible u)
    (hvs : vs ≠ [] → readItems fuel (Json.writeItems vs ++ rest) = some (Json.docs vs, rest)) :
    readValue (fuel + 1) ((Json.list vs).write ++ rest) = some ((Json.list vs).doc, rest) := by
  cases vs with
  | nil => rfl
  | cons v vs =>
    have hv : Legible v := hlegible v (List.mem_append_left _ (Json.mem_within_self v))
    obtain ⟨c, cs, hwrite, hspace, hc⟩ := write_starts hv
    have hitems := hvs (List.cons_ne_nil v vs)
    rw [Json.writeItems, hwrite] at hitems
    show readValue (fuel + 1) ('[' :: (v.write ++ Json.writeMore vs ++ rest)) = _
    rw [hwrite]
    rw [List.cons_append, List.cons_append] at hitems ⊢
    rw [readValue_open _ hspace hc, hitems]
    rfl

theorem readMembers_field (k : String) (cs : List Char) :
    readMembers (fuel + 1) (Json.writeText k ++ ':' :: cs) = (do
      let (value, rest) ← readValue fuel cs
      match skipSpace rest with
      | ',' :: rest =>
        let (members, rest) ← readMembers fuel rest
        some ((some k, value) :: members, rest)
      | '\x7d' :: rest => some ([(some k, value)], rest)
      | _ => none) := by
  have hopen (cs : List Char) : skipSpace ('"' :: cs) = '"' :: cs := skipSpace_cons cs rfl
  rw [writeText_append, readMembers, hopen]
  show ((readString .start _).bind _) = _
  rw [readString_text]
  rfl

theorem readMembers_cons {k : String} {v : Json} {ms : List (String × Json)}
    (hv : readValue fuel (v.write ++ (Json.writeMembers ms ++ rest)) =
      some (v.doc, Json.writeMembers ms ++ rest))
    (hms : ms ≠ [] → readMembers fuel (Json.writeFields ms ++ rest) = some (Json.memberDocs ms, rest)) :
    readMembers (fuel + 1) (Json.writeFields ((k, v) :: ms) ++ rest) =
      some (Json.memberDocs ((k, v) :: ms), rest) := by
  rw [Json.writeFields, List.append_assoc, List.cons_append, List.append_assoc, readMembers_field, hv]
  cases ms with
  | nil => rfl
  | cons m ms =>
    show (readMembers fuel (Json.writeFields (m :: ms) ++ rest)).bind
      (fun p => some ((some k, v.doc) :: p.1, p.2)) = _
    rw [hms (List.cons_ne_nil m ms)]
    rfl

theorem readValue_object {ms : List (String × Json)}
    (hms : ms ≠ [] → readMembers fuel (Json.writeFields ms ++ rest) = some (Json.memberDocs ms, rest)) :
    readValue (fuel + 1) ((Json.object ms).write ++ rest) = some ((Json.object ms).doc, rest) := by
  cases ms with
  | nil => rfl
  | cons m ms =>
    show (readMembers fuel (Json.writeFields (m :: ms) ++ rest)).map
      (fun p => (Doc.object p.1, p.2)) = _
    rw [hms (List.cons_ne_nil m ms)]
    rfl

end

/-! ## the whole text -/

mutual

/-- A value is read back in front of anything that does not go on with it. -/
theorem readValue_write : ∀ (v : Json), (∀ u ∈ v.within, Legible u) → ∀ (rest : List Char),
    EndsNumber rest → ∀ fuel, 2 * (v.write ++ rest).length + 2 ≤ fuel + 1 →
      readValue (fuel + 1) (v.write ++ rest) = some (v.doc, rest)
  | .null, _, _, _, _, _ => rfl
  | .bool true, _, _, _, _, _ => rfl
  | .bool false, _, _, _, _, _ => rfl
  | .int i, _, _, hrest, fuel, _ => readValue_number (Numeral.read?_intDigits i hrest) fuel
  | .float x, hv, rest, hrest, fuel, _ => readValue_number ((hv _ (Json.mem_within_self _)).1 rest hrest) fuel
  | .text s, _, _, _, _, _ => readValue_text s
  | .list vs, hv, rest, _, fuel, hfuel =>
    readValue_list (fun u hu => hv u (List.mem_cons_of_mem _ hu)) fun hne =>
      readItems_write vs hne (fun u hu => hv u (List.mem_cons_of_mem _ hu)) rest fuel (by
        rw [Json.write_list] at hfuel
        simp only [List.cons_append, List.length_cons] at hfuel
        omega)
  | .object ms, hv, rest, _, fuel, hfuel =>
    readValue_object fun hne =>
      readMembers_write ms hne (fun u hu => hv u (List.mem_cons_of_mem _ hu)) rest fuel (by
        rw [Json.write_object] at hfuel
        simp only [List.cons_append, List.length_cons] at hfuel
        omega)

theorem readItems_write : ∀ (vs : List Json), vs ≠ [] → (∀ u ∈ Json.withinItems vs, Legible u) →
    ∀ (rest : List Char) (fuel : Nat), 2 * (Json.writeItems vs ++ rest).length + 3 ≤ fuel →
      readItems fuel (Json.writeItems vs ++ rest) = some (Json.docs vs, rest)
  | [], hne, _, _, _, _ => absurd rfl hne
  | v :: vs, _, hlegible, rest, fuel, hfuel => by
    obtain ⟨fuel, rfl⟩ : ∃ k, fuel = k + 2 := ⟨fuel - 2, by omega⟩
    rw [Json.writeItems, List.append_assoc] at hfuel
    refine readItems_cons
      (readValue_write v (fun u hu => hlegible u (List.mem_append_left _ hu)) _ (.writeMore vs rest) fuel ?_)
      fun hne =>
        readItems_write vs hne (fun u hu => hlegible u (List.mem_append_right _ hu)) rest (fuel + 1) ?_
    · omega
    · rw [Json.writeMore_of_ne_nil hne] at hfuel
      simp only [List.length_append, List.length_cons] at hfuel ⊢
      omega

theorem readMembers_write : ∀ (ms : List (String × Json)), ms ≠ [] →
    (∀ u ∈ Json.withinMembers ms, Legible u) →
    ∀ (rest : List Char) (fuel : Nat), 2 * (Json.writeFields ms ++ rest).length + 3 ≤ fuel →
      readMembers fuel (Json.writeFields ms ++ rest) = some (Json.memberDocs ms, rest)
  | [], hne, _, _, _, _ => absurd rfl hne
  | (k, v) :: ms, _, hlegible, rest, fuel, hfuel => by
    obtain ⟨fuel, rfl⟩ : ∃ k, fuel = k + 2 := ⟨fuel - 2, by omega⟩
    rw [Json.writeFields, List.append_assoc, List.cons_append, List.append_assoc] at hfuel
    simp only [List.length_append, List.length_cons] at hfuel
    refine readMembers_cons
      (readValue_write v (fun u hu => hlegible u (List.mem_append_left _ hu)) _ (.writeMembers ms rest)
        fuel ?_)
      fun hne =>
        readMembers_write ms hne (fun u hu => hlegible u (List.mem_append_right _ hu)) rest (fuel + 1) ?_
    · simp only [List.length_append]
      omega
    · rw [Json.writeMembers_of_ne_nil hne] at hfuel
      simp only [List.length_append, List.length_cons] at hfuel ⊢
      omega

end

/-- The text of a value is read as what it says. -/
theorem read?_write {v : Json} (hv : ∀ u ∈ v.within, Legible u) : read? v.write = some v.doc := by
  have hread := readValue_write v hv [] .nil (2 * v.write.length + 1) (by simp)
  rw [List.append_nil] at hread
  unfold read?
  rw [hread]
  rfl


end Doc

end Outbox
