/-!
# Hexadecimal digits

* `hexDigit n`        the lower-case digit of `n < 16`;
* `hexValue? c`       the value of a digit in either letter case;
* `hexWord width n`   the last `width` digits of `n`;
* `hexText n`         the digits of `n` without padding;
* `hexNumber? cs`     the number that `cs` writes.
-/

namespace Outbox.Text

def hexDigit (n : Nat) : Char :=
  if n < 10 then Char.ofNat (n + 48) else Char.ofNat (n + 87)

def hexValue? (c : Char) : Option Nat :=
  if '0' ≤ c && c ≤ '9' then some (c.toNat - 48)
  else if 'a' ≤ c && c ≤ 'f' then some (c.toNat - 87)
  else if 'A' ≤ c && c ≤ 'F' then some (c.toNat - 55)
  else none

def hexWord : Nat → Nat → List Char
  | 0, _ => []
  | width + 1, n => hexWord width (n / 16) ++ [hexDigit (n % 16)]

theorem hexWord_length (width n : Nat) : (hexWord width n).length = width := by
  induction width generalizing n with
  | zero => rfl
  | succ width ih => simp [hexWord, ih]

def hexText (n : Nat) : List Char :=
  if n < 16 then [hexDigit n] else hexText (n / 16) ++ [hexDigit (n % 16)]
termination_by n
decreasing_by omega

def hexNumber? (cs : List Char) : Option Nat :=
  cs.foldlM (fun n c => (hexValue? c).map (16 * n + ·)) 0

end Outbox.Text
