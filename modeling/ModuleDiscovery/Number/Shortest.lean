import ModuleDiscovery.Number.Binary

namespace ModuleDiscovery.Number

-- The number `digits * 10 ^ exponent`.
structure Decimal where
  digits   : Nat
  exponent : Int
deriving DecidableEq, Repr

namespace Decimal

-- Cuts off the final zeros of the digits.
def trim (d : Decimal) : Decimal :=
  if d.digits ≠ 0 ∧ d.digits % 10 = 0 then trim ⟨d.digits / 10, d.exponent + 1⟩ else d
termination_by d.digits
decreasing_by omega

end Decimal

-- The interval is measured in quarters of the gap `2 ^ q`, so that the near end below a power of two
-- is a natural number too. The ends themselves round to `m * 2 ^ q` iff `m` is even.
-- The reals that round to `m * 2 ^ q`, as multiples of `1 / scale`.
structure Interval where
  low    : Nat
  value  : Nat
  high   : Nat
  scale  : Nat
  closed : Bool

namespace Interval

def around (m : Nat) (q : Int) : Interval :=
  let (num, scale) := scaled 1 4 2 q
  let below := if Binary.isNarrowBelow m q then 1 else 2
  { low := (4 * m - below) * num, value := 4 * m * num, high := (4 * m + 2) * num, scale,
    closed := m % 2 == 0 }

def contains (i : Interval) (n d : Nat) : Bool :=
  if i.closed then i.low * d ≤ n * i.scale && n * i.scale ≤ i.high * d
  else i.low * d < n * i.scale && n * i.scale < i.high * d

end Interval

-- Whether `10 ^ p ≤ n / d`.
def tenPowLe (p : Int) (n d : Nat) : Bool :=
  let (num, den) := scaled 1 1 10 p
  num * d ≤ n * den

-- The binary logarithm gives the place up to one, as `log10 2` is close to `30103 / 100000`.
-- The `p` with `10 ^ p ≤ n / d < 10 ^ (p + 1)`, for a positive quotient.
def leadingPlace (n d : Nat) : Int :=
  let guess : Int := ((n.log2 - d.log2 : Int) * 30103).fdiv 100000
  if tenPowLe (guess + 2) n d then guess + 2
  else if tenPowLe (guess + 1) n d then guess + 1
  else if tenPowLe guess n d then guess
  else if tenPowLe (guess - 1) n d then guess - 1
  else guess - 2

-- Of the two neighbours of the value among the multiples of `10 ^ e`, the nearest that lies in the
-- interval, the even one if both are equally near.
def Interval.gridPoint? (i : Interval) (e : Int) : Option Decimal :=
  let (unit, parts) := scaled 1 1 10 e
  let below := i.value * parts / (unit * i.scale)
  let fits (k : Nat) : Bool := i.contains (k * unit) parts
  match fits below, fits (below + 1) with
  | true, true   => some ⟨roundDiv (i.value * parts) (unit * i.scale), e⟩
  | true, false  => some ⟨below, e⟩
  | false, true  => some ⟨below + 1, e⟩
  | false, false => none

-- Seventeen digits always suffice for a double. Were none found, the exact value would be returned.
-- The decimal with the fewest digits that rounds to `m * 2 ^ q`, for positive `m`.
def shortest (m : Nat) (q : Int) : Decimal :=
  let i := Interval.around m q
  let place := leadingPlace i.value i.scale
  let hit := (List.range 17).findSome? fun (k : Nat) => i.gridPoint? (place - k)
  (hit.getD (exact m q)).trim
where
  exact (m : Nat) (q : Int) : Decimal :=
    if 0 ≤ q then ⟨m * Nat.pow 2 q.toNat, 0⟩ else ⟨m * Nat.pow 5 (-q).toNat, q⟩

-- How often `10 ^ e` goes into `m * 2 ^ q`, rounded to nearest with ties to even.
def multiplesOf (e : Int) (m : Nat) (q : Int) : Nat :=
  let (num, den) := scaled m 1 2 q
  let (n, d) := scaled num den 10 (-e)
  roundDiv n d

-- The decimal of `n` digits nearest to `m * 2 ^ q`, for positive `m`, without final zeros.
def significant (n : Nat) (m : Nat) (q : Int) : Decimal :=
  let (num, den) := scaled m 1 2 q
  let e := leadingPlace num den + 1 - n
  Decimal.trim ⟨multiplesOf e m q, e⟩

end ModuleDiscovery.Number
