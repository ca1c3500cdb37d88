import ModuleDiscovery.Number.Layout

namespace ModuleDiscovery.Number

inductive Quantity
  | whole (n : Int)
  | real  (x : Float)

namespace Quantity

-- The double nearest to a number, `none` if it is too large.
def float? : Quantity → Option Float
  | whole n => floatOfInt n
  | real x  => some x

-- Whether two numbers are equal, whatever their kinds.
def same : Quantity → Quantity → Bool
  | whole m, whole n => m = n
  | real x, real y   => x == y
  | whole n, real x  => isWhole n x
  | real x, whole n  => isWhole n x
where
  isWhole (n : Int) (x : Float) : Bool := floatOfInt n == some x && nearestInt? x = some n

-- Hashes of numbers are residues of this prime.
def hashModulus : Nat := Nat.pow 2 61 - 1

-- The hash of a number, `none` for a nan. As `2 ^ 61` is one, powers of two go round; minus one is the
-- sign of a failure and stands for no number.
def hash? (x : Quantity) : Option Int :=
  (residue? x).map fun h => if h = -1 then -2 else h
where
  residue? : Quantity → Option Int
    | whole n => some (n.sign * (n.natAbs % hashModulus : Nat))
    | real x  =>
      match Binary.ofFloat x with
      | .nan               => none
      | .infinite negative => some (if negative then -314159 else 314159)
      | .finite negative m q =>
        let r : Nat := m * Nat.pow 2 (q % 61).toNat % hashModulus
        some (if negative then -r else r)

-- Whether two numbers have the same hash, as equal numbers have. Of a nan there is never another one.
def sameHash (x y : Quantity) : Bool :=
  match x.hash?, y.hash? with
  | some h, some k => h = k
  | _, _           => false

end Quantity
end ModuleDiscovery.Number
