namespace ModuleDiscovery.Number

def signBit : Nat := 0x8000000000000000

-- The bit above the fraction, `2 ^ 52`, which normal doubles leave out.
def leadingBit : Nat := 0x10000000000000

-- A double as an exact number: a finite one is `± m * 2 ^ q` with natural `m`.
inductive Binary
  | nan
  | infinite (negative : Bool)
  | finite (negative : Bool) (m : Nat) (q : Int)
deriving DecidableEq, Repr

namespace Binary

-- The fields of the 64 bits: sign, eleven bits of exponent, fifty-two of fraction. An exponent field
-- of zero marks the values below the smallest normal one, which have no implicit leading bit.
def ofFloat (x : Float) : Binary :=
  let bits := x.toBits.toNat
  let negative := bits / signBit == 1
  let exponent : Nat := bits / leadingBit % 2048
  let fraction : Nat := bits % leadingBit
  if exponent = 2047 then
    if fraction = 0 then .infinite negative else .nan
  else if exponent = 0 then
    .finite negative fraction (-1074)
  else
    .finite negative (fraction + leadingBit) (exponent - 1075)

-- Just above a power of two the gap to the next smaller double is half of the gap to the next larger
-- one, except at the bottom of the range, where all gaps are the same.
def isNarrowBelow (m : Nat) (q : Int) : Bool :=
  m == leadingBit && q > -1074

end Binary

-- The natural number nearest to `n / d`, where a half goes to the even neighbour.
def roundDiv (n d : Nat) : Nat :=
  let floor := n / d
  let rest := n % d
  if 2 * rest < d ∨ (2 * rest = d ∧ floor % 2 = 0) then floor else floor + 1

section RoundDiv

variable {n d : Nat}

@[simp]
theorem roundDiv_one : roundDiv n 1 = n := by
  simp [roundDiv, Nat.mod_one]

-- The result differs from the quotient by at most one half, stated as products with `2 * d`.
theorem two_mul_roundDiv_mul_le : 2 * (roundDiv n d * d) ≤ 2 * n + d := by
  have h := Nat.div_add_mod n d
  have hc := Nat.mul_comm (n / d) d
  unfold roundDiv
  dsimp only
  split
  case isTrue => omega
  case isFalse => rw [Nat.add_mul]; omega

theorem le_two_mul_roundDiv_mul (hd : 0 < d) : 2 * n ≤ 2 * (roundDiv n d * d) + d := by
  have h := Nat.div_add_mod n d
  have hc := Nat.mul_comm (n / d) d
  have hm := Nat.mod_lt n hd
  unfold roundDiv
  dsimp only
  split
  case isTrue => omega
  case isFalse => rw [Nat.add_mul]; omega

end RoundDiv

-- Numerator and denominator of `n / d * b ^ e`.
def scaled (n d b : Nat) (e : Int) : Nat × Nat :=
  if 0 ≤ e then (n * Nat.pow b e.toNat, d) else (n, d * Nat.pow b (-e).toNat)

-- With `k = log2 n - log2 d`, the quotient `n / d` lies strictly between `2 ^ (k - 1)` and
-- `2 ^ (k + 1)`, so one of the exponents `k - 53` and `k - 52` leaves a mantissa of 53 bits.
def mantissaExponent (n d : Nat) : Int :=
  let low : Int := n.log2 - d.log2 - 53
  let (n', d') := scaled n d 2 (-low)
  max (-1074) (if 2 * leadingBit * d' ≤ n' then low + 1 else low)

-- The bits of `m * 2 ^ q` are `m + (q + 1074) * 2 ^ 52`: the implicit bit of a normal mantissa and the
-- carry of one that was rounded up both end in the exponent field.
-- The double nearest to `n / d`, with ties to even; `none` where that is not finite.
def floatOfQuotient (negative : Bool) (n d : Nat) : Option Float :=
  let sign : Nat := if negative then signBit else 0
  if n = 0 then
    some (Float.ofBits (UInt64.ofNat sign))
  else
    let q := mantissaExponent n d
    let (n', d') := scaled n d 2 (-q)
    let bits := roundDiv n' d' + (q + 1074).toNat * leadingBit
    if bits < 2047 * leadingBit then some (Float.ofBits (UInt64.ofNat (sign + bits))) else none

def infinity (negative : Bool) : Float :=
  if negative then -1.0 / 0.0 else 1.0 / 0.0

-- The double that counts as `nan`.
def notANumber : Float := 0.0 / 0.0

-- A zero quotient takes its sign from the divisor alone, as the dividend has none.
-- Correctly rounded quotient of two integers, `none` if it is too large for a double.
def floatOfRatio (n d : Int) : Option Float :=
  floatOfQuotient ((n < 0) != (d < 0)) n.natAbs d.natAbs

-- The double nearest to an integer, `none` if it is too large.
def floatOfInt (n : Int) : Option Float :=
  floatOfQuotient (n < 0) n.natAbs 1

-- Beyond these bounds the magnitude is decided by the number of digits, so no power of ten as large
-- as the exponent itself is ever formed.
-- The double nearest to `± digits * 10 ^ e`, infinite if that is too large.
def floatOfDecimal (negative : Bool) (digits : Nat) (e : Int) : Float :=
  let magnitude : Int := (Nat.toDigits 10 digits).length + e
  if digits = 0 ∨ magnitude < -400 then
    if negative then -0.0 else 0.0
  else if magnitude > 400 then
    infinity negative
  else
    let (n, d) := scaled digits 1 10 e
    (floatOfQuotient negative n d).getD (infinity negative)

end ModuleDiscovery.Number
