namespace ModuleDiscovery.Text

-- Ascending ranges of code points, both ends included.
abbrev Ranges := Array (Nat × Nat)

namespace Ranges

-- Looks for `c` between the positions `low` and `high`, the latter excluded.
def find (rs : Ranges) (c : Nat) (low high : Nat) : Option Nat :=
  if low < high then
    let mid := (low + high) / 2
    match rs[mid]? with
    | none => none
    | some (first, last) =>
      if c < first then find rs c low mid
      else if last < c then find rs c (mid + 1) high
      else some mid
  else
    none
termination_by high - low

-- The position of the range that holds a character.
def find? (rs : Ranges) (c : Char) : Option Nat :=
  rs.find c.toNat 0 rs.size

def contains (rs : Ranges) (c : Char) : Bool :=
  (rs.find? c).isSome

end Ranges
end ModuleDiscovery.Text
