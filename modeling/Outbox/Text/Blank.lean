import Outbox.Text.Range

/-!
# White space

* `isBlank c`    `c` has the Unicode property `White_Space`;
* `trimStart`    drops leading blanks, `trim` drops them at both ends;
* `isBlankText`  nothing but blanks;
* `squash`       every run of blanks is one space, and there are none at the ends.
-/

namespace Outbox.Text

def blankRanges : List (Nat × Nat) :=
  [(0x9, 0xd), (0x20, 0x20), (0x85, 0x85), (0xa0, 0xa0), (0x1680, 0x1680), (0x2000, 0x200a),
   (0x2028, 0x2029), (0x202f, 0x202f), (0x205f, 0x205f), (0x3000, 0x3000)]

def isBlank (c : Char) : Bool := inRanges blankRanges c.toNat

def trimStart (cs : List Char) : List Char := cs.dropWhile isBlank

def trim (cs : List Char) : List Char := (trimStart (trimStart cs).reverse).reverse

def isBlankText (cs : List Char) : Bool := cs.all isBlank

/-- `gap` tells whether blanks have gone by since the last character that was kept -/
def squashFrom (gap : Bool) : List Char → List Char
  | [] => []
  | c :: cs =>
    if isBlank c then squashFrom true cs
    else if gap then ' ' :: c :: squashFrom false cs
    else c :: squashFrom false cs

def squash (cs : List Char) : List Char := squashFrom false (trimStart cs)

theorem trimStart_nil : trimStart [] = [] := rfl

end Outbox.Text
