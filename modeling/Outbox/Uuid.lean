import Outbox.Text.Hex

/-!
# Universally unique identifiers

* `Uuid`            128 bits; the order is that of the 16 bytes;
* `Uuid.text`       32 lower-case hexadecimal digits with hyphens;
* `Uuid.read?`      this form in any letter case, the digits without hyphens, the form in braces, or
                    after `urn:uuid:`;
* `Uuid.numbered`   ids for a run without chance: the version and variant bits of version 7 and the
                    largest time, then the number, so that they come after earlier ids, in order.
-/

namespace Outbox

structure Uuid where
  bits : BitVec 128
  deriving DecidableEq, Repr

namespace Uuid

open Text (hexWord hexNumber?)

instance : Inhabited Uuid := ⟨⟨0#128⟩⟩

instance : LE Uuid := ⟨fun a b => a.bits ≤ b.bits⟩

instance : LT Uuid := ⟨fun a b => a.bits < b.bits⟩

instance (a b : Uuid) : Decidable (a ≤ b) := inferInstanceAs (Decidable (a.bits ≤ b.bits))

instance (a b : Uuid) : Decidable (a < b) := inferInstanceAs (Decidable (a.bits < b.bits))

def ofNat (n : Nat) : Uuid := ⟨BitVec.ofNat 128 n⟩

/-- the digits in groups of 8, 4, 4, 4 and 12 -/
def chars (u : Uuid) : List Char :=
  let n := u.bits.toNat
  hexWord 8 (n >>> 96) ++ '-' :: hexWord 4 (n >>> 80) ++ '-' :: hexWord 4 (n >>> 64) ++
    '-' :: hexWord 4 (n >>> 48) ++ '-' :: hexWord 12 n

def text (u : Uuid) : String := String.ofList u.chars

def readDigits? (cs : List Char) : Option Uuid :=
  if cs.length = 32 then (hexNumber? cs).map ofNat else none

def readHyphenated? (cs : List Char) : Option Uuid :=
  if cs.length = 36 then
    match cs[8]?, cs[13]?, cs[18]?, cs[23]? with
    | some '-', some '-', some '-', some '-' =>
      readDigits? (cs.take 8 ++ (cs.drop 9).take 4 ++ (cs.drop 14).take 4 ++ (cs.drop 19).take 4 ++
        cs.drop 24)
    | _, _, _, _ => none
  else none

def readChars? (cs : List Char) : Option Uuid :=
  match cs with
  | 'u' :: 'r' :: 'n' :: ':' :: 'u' :: 'u' :: 'i' :: 'd' :: ':' :: rest => readHyphenated? rest
  | '\x7b' :: rest => if rest.getLast? = some '\x7d' then readHyphenated? rest.dropLast else none
  | cs => if cs.length = 32 then readDigits? cs else readHyphenated? cs

def read? (s : String) : Option Uuid := readChars? s.toList

def numbered (n : Nat) : Uuid := ofNat (0xffffffffffff7fffbfff000000000000 + n % 0x1000000000000)

end Uuid

end Outbox
