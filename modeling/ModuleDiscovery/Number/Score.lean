import ModuleDiscovery.Number.Binary
import ModuleDiscovery.Number.BlockSum

namespace ModuleDiscovery

-- The arithmetic of weights and their means. The program computes them as doubles; the same definitions over the
-- rationals have no rounding in them, which is the setting for what holds of the exact values.
class Score (α : Type) where
  zero   : α
  -- Below all means of weights that are not negative; where the search for a maximum starts.
  least  : α
  -- A quotient of integers with a divisor other than zero, `none` if it is too large.
  ratio? : Int → Int → Option α
  sum    : List α → α
  -- A sum divided by the number of its terms.
  div    : α → Nat → α
  gt     : α → α → Bool
  ge     : α → α → Bool

-- The sum is added to zero, so that it is never a negative zero.
instance : Score Float where
  zero   := 0.0
  least  := -1.0
  ratio? := Number.floatOfRatio
  sum xs := 0.0 + Number.blockSum xs
  div x n := x / Float.ofNat n
  gt x y := y < x
  ge x y := y ≤ x

instance : Score Rat where
  zero   := 0
  least  := -1
  ratio? n d := some (Rat.ofInt n / Rat.ofInt d)
  sum xs := xs.foldr (· + ·) 0
  div x n := x / Rat.ofInt n
  gt x y := y < x
  ge x y := y ≤ x

end ModuleDiscovery
