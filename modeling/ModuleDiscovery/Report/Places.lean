import ModuleDiscovery.Number.Field
import ModuleDiscovery.Number.Numeral
import ModuleDiscovery.Value

namespace ModuleDiscovery

inductive PlacesFault
  -- Where digits have to stand in the text of the value there are none.
  | missing
  -- Something follows what is understood.
  | malformed (text : String)
  | tooLarge
  | tooManyDigits
  -- Groups of digits cannot be separated in two ways.
  | twoSeparators
  | unwritten (f : Number.NumeralFault)
  | notInteger (kind : String)
  | overflow
  -- A nan or an infinity has no nearest integer.
  | noInteger (x : Float)

namespace PlacesFault

def message : PlacesFault → String
  | missing       => "Format specifier missing precision"
  | malformed s   => s!"Invalid format specifier '.{s}f' for object of type 'float'"
  | tooLarge      => "precision too big"
  | tooManyDigits => "Too many decimal digits in format string"
  | twoSeparators => "Cannot specify both ',' and '_'."
  | unwritten f   => f.message
  | notInteger k  => s!"'{k}' object cannot be interpreted as an integer"
  | overflow      => "rounded value too large to represent"
  | noInteger x   =>
    let name := if x == x then "infinity" else "NaN"
    s!"cannot convert float {name} to integer"

end PlacesFault

namespace Places

open Number Text

-- Most places that a number is written with.
def maxPlaces : Nat := 2147483647

-- Greatest number that is understood at all.
def maxCount : Nat := 9223372036854775807

-- The number that the digits at the front spell, if there are any, and what follows them.
def leadingCount (cs : List Char) : Except PlacesFault (Option Nat × List Char) :=
  let ds := cs.takeWhile fun c => (digitValue? c).isSome
  let n := ds.foldl (fun n c => 10 * n + (digitValue? c).getD 0) 0
  if ds.isEmpty then .ok (none, cs)
  else if maxCount < n then .error .tooManyDigits
  else .ok (some n, cs.drop ds.length)

def filling? : Char → Option Field.Filling
  | '<' => some .behind
  | '>' => some .inFront
  | '^' => some .around
  | '=' => some .behindSign
  | _   => none

-- The number of places at the front, and what follows it.
def leadingPlaces (cs : List Char) : Except PlacesFault (Nat × List Char) := do
  match ← leadingCount cs with
  | (some n, rest) => return (n, rest)
  | (none, _)      => throw .missing

-- A character at the front that means something, and what follows it.
def mark? {α} (meaning : Char → Option α) (cs : List Char) : Option α × List Char :=
  match cs.head?.bind meaning with
  | some a => (some a, cs.drop 1)
  | none   => (none, cs)

def markOf (c : Char) : Char → Option Unit
  | d => if d = c then some () else none

-- Places that are written where no others are asked for.
def defaultPlaces : Nat := 6

-- The separator of groups of digits, of which there may be one.
def separator (cs : List Char) : Except PlacesFault (Option Char × List Char) :=
  let (comma, cs) := mark? (markOf ',') cs
  let (underscore, cs) := mark? (markOf '_') cs
  match comma, underscore, cs with
  | some _, some _, _      => .error .twoSeparators
  | none, some _, ',' :: _ => .error .twoSeparators
  | some _, none, cs       => .ok (some ',', cs)
  | none, some _, cs       => .ok (some '_', cs)
  | none, none, cs         => .ok (none, cs)

-- The field that a text describes behind the sign for its filling, and what follows that.
def described (filling : Field.Filling) (cs : List Char) : Except PlacesFault (Field × List Char) := do
  let (sign, cs) := mark? (fun
    | '+' => some Field.Sign.plus
    | ' ' => some .space
    | '-' => some .none
    | _   => none) cs
  let (unsignedZero, cs) := mark? (markOf 'z') cs
  let (pointed, cs) := mark? (markOf '#') cs
  let (columns, cs) ← leadingCount cs
  let (separator, cs) ← separator cs
  let (places, cs) ←
    match cs with
    | '.' :: cs => leadingPlaces cs
    | cs        => .ok (defaultPlaces, cs)
  return ({
    filling
    sign         := sign.getD .none
    unsignedZero := unsignedZero.isSome
    pointed      := pointed.isSome
    columns      := columns.getD 0
    separator
    places }, cs)

-- The field that a text describes, and what follows the description.
def leadingField (cs : List Char) : Except PlacesFault (Field × List Char) :=
  match mark? filling? cs with
  | (some f, cs) => described f cs
  | (none, cs)   =>
    (leadingPlaces cs).map fun (n, rest) => (⟨.inFront, .none, false, false, 0, none, n⟩, rest)

def field (v : Value) : Except PlacesFault Field := do
  (v.checkWritten Value.maxDepth).mapError .unwritten
  let (f, rest) ← leadingField v.shown.toList
  if !rest.isEmpty then throw (.malformed v.shown)
  if maxPlaces < f.places then throw .tooLarge
  return f

-- A number with the places that a value gives. The value may be any: its text starts with the digits of a number, or
-- describes a field.
def text (v : Value) (x : Float) : Except PlacesFault String :=
  (field v).map (·.text x)

-- A number rounded to a number of places; without one, the nearest integer.
def round (v : Value) (x : Float) : Except PlacesFault Value :=
  match v with
  | .int n  => real (roundToPlaces? x n)
  | .bool b => real (roundToPlaces? x (if b then 1 else 0))
  | .null   =>
    match nearestInt? x with
    | some n => .ok (.int n)
    | none   => .error (.noInteger x)
  | v       => .error (.notInteger v.kind)
where
  real : Option Float → Except PlacesFault Value
    | some y => .ok (.real y)
    | none   => .error .overflow

-- An integer rounded to a number of places: to tens and hundreds if that is negative.
def roundInt (v : Value) (n : Int) : Except PlacesFault Value :=
  match v with
  | .int p  => .ok (.int (toPlaces p))
  | .bool _ | .null => .ok (.int n)
  | v       => .error (.notInteger v.kind)
where
  toPlaces (p : Int) : Int :=
    let unit := Nat.pow 10 (-p).toNat
    n.sign * (roundDiv n.natAbs unit * unit : Nat)

-- A number of either kind rounded to a number of places.
def roundQuantity (v : Value) : Quantity → Except PlacesFault Value
  | .whole n => roundInt v n
  | .real x  => round v x

end Places
end ModuleDiscovery
