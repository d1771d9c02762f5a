/-!
# Sets of code points as lists of ranges

* `inRanges rs n`   `n` lies in one of the closed ranges `rs`.
-/

namespace Outbox.Text

def inRanges (rs : List (Nat × Nat)) (n : Nat) : Bool :=
  rs.any fun r => r.1 ≤ n && n ≤ r.2

theorem inRanges_nil (n : Nat) : inRanges [] n = false := rfl

theorem inRanges_cons (r : Nat × Nat) (rs : List (Nat × Nat)) (n : Nat) :
    inRanges (r :: rs) n = ((r.1 ≤ n && n ≤ r.2) || inRanges rs n) := rfl

end Outbox.Text
