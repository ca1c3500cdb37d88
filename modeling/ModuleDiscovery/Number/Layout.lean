import ModuleDiscovery.Number.Shortest

namespace ModuleDiscovery.Number

def digitsOf (n : Nat) : List Char :=
  Nat.toDigits 10 n

-- Layout of a number with a leading digit at place `10 ^ e`: positional if `positionalFrom ≤ e <
-- positionalBelow`, else with an exponent.
structure Layout where
  positionalFrom  : Int
  positionalBelow : Int
  -- Whether a positional whole number ends in `.0`.
  pointed         : Bool

namespace Layout

-- The shortest text that reads back: `0.3`, `1e-05`, `12.0`, `1e+16`.
def natural : Layout := ⟨-4, 16, true⟩

-- Six significant digits: `0.3`, `1e-05`, `12`, `1.23457e+06`.
def general : Layout := ⟨-4, 6, false⟩

-- An exponent has a sign and at least two digits.
def exponentText (e : Int) : List Char :=
  let ds := digitsOf e.natAbs
  'e' :: (if e < 0 then '-' else '+') :: (if ds.length < 2 then '0' :: ds else ds)

def withPoint (whole fraction : List Char) : List Char :=
  if fraction.isEmpty then whole else whole ++ '.' :: fraction

-- Lays out a decimal without final zeros.
def text (n : Layout) (d : Decimal) : List Char :=
  let ds := digitsOf d.digits
  let e : Int := d.exponent + ds.length - 1
  if e < n.positionalFrom ∨ n.positionalBelow ≤ e then
    withPoint (ds.take 1) (ds.drop 1) ++ exponentText e
  else if e < 0 then
    '0' :: '.' :: List.replicate (-e - 1).toNat '0' ++ ds
  else
    let whole := ds.take (e.toNat + 1) ++ List.replicate (e.toNat + 1 - ds.length) '0'
    let fraction := ds.drop (e.toNat + 1)
    withPoint whole (if fraction.isEmpty && n.pointed then ['0'] else fraction)

def zeroText (n : Layout) : List Char :=
  if n.pointed then ['0', '.', '0'] else ['0']

end Layout

def signed (negative : Bool) (cs : List Char) : String :=
  String.ofList (if negative then '-' :: cs else cs)

-- Writes a double, given how its positive finite values and its zero are written.
def render (ofPositive : Nat → Int → List Char) (zero : List Char) (x : Float) : String :=
  match Binary.ofFloat x with
  | .nan            => "nan"
  | .infinite neg   => signed neg ['i', 'n', 'f']
  | .finite neg 0 _ => signed neg zero
  | .finite neg m q => signed neg (ofPositive m q)

-- The shortest text that reads back as the double.
def naturalText (x : Float) : String :=
  render (fun m q => Layout.natural.text (shortest m q)) Layout.natural.zeroText x

-- The double with six significant digits.
def generalText (x : Float) : String :=
  render (fun m q => Layout.general.text (significant 6 m q)) Layout.general.zeroText x

-- Every double is a multiple of `2 ^ -1074`, so that all later places are zeros.
def exactPlaces (places : Nat) : Nat := min places 1100

def fixedDigits (places : Nat) (n : Nat) : List Char :=
  let ds := digitsOf n
  let ds := List.replicate (places + 1 - ds.length) '0' ++ ds
  let whole := ds.take (ds.length - places)
  if places = 0 then whole else whole ++ '.' :: ds.drop (ds.length - places)

-- The double with the given number of places, rounded on its exact value with ties to even.
def fixedText (places : Nat) (x : Float) : String :=
  let near := exactPlaces places
  let far := List.replicate (places - near) '0'
  let text (m : Nat) (q : Int) := fixedDigits near (multiplesOf (-near) m q) ++ far
  render text (text 0 0) x

-- The double nearest to `x` among the decimals with `places` places, which counts tens and hundreds if
-- negative; `none` if it is too large.
def roundToPlaces? (x : Float) (places : Int) : Option Float :=
  match Binary.ofFloat x with
  | .nan | .infinite _ => some x
  | .finite neg m q =>
    if places > 323 then some x
    else if places < -308 then some (if neg then -0.0 else 0.0)
    else
      let (n, d) := scaled (multiplesOf (-places) m q) 1 10 (-places)
      floatOfQuotient neg n d

-- The integer nearest to a finite double, with ties to even.
def nearestInt? (x : Float) : Option Int :=
  match Binary.ofFloat x with
  | .nan | .infinite _ => none
  | .finite neg m q =>
    let n : Int := multiplesOf 0 m q
    some (if neg then -n else n)

end ModuleDiscovery.Number
