import ModuleDiscovery.Number.Layout

namespace ModuleDiscovery.Number

-- Where the filling of a field goes.
inductive Field.Filling
  | behind
  | inFront
  | around
  -- Between the sign and the digits.
  | behindSign
deriving DecidableEq, Repr

-- What stands in front of a number that is not negative.
inductive Field.Sign
  | none
  | plus
  | space
deriving DecidableEq, Repr

structure Field where
  filling      : Field.Filling
  sign         : Field.Sign
  -- Whether a number that is written with zeros only loses its minus sign.
  unsignedZero : Bool
  -- Whether a point is written even if nothing follows it.
  pointed      : Bool
  -- Fewest columns that are taken.
  columns      : Nat
  -- What stands between groups of three digits.
  separator    : Option Char
  places       : Nat
deriving DecidableEq, Repr

namespace Field

-- What fields are filled up with.
def fill : Char := '.'

-- Digits in groups of three, counted from the end.
def grouped (separator : Char) (ds : List Char) : List Char :=
  (ds.zipIdx.map fun (d, i) =>
    if 0 < i ∧ (ds.length - i) % 3 = 0 then [separator, d] else [d]).flatten

-- The digits in front of the point and what follows them, without a sign.
def body (f : Field) (cs : List Char) : List Char :=
  let whole := cs.takeWhile Char.isDigit
  let rest := cs.drop whole.length
  let point := if f.pointed ∧ rest.isEmpty ∧ !whole.isEmpty then ['.'] else []
  (f.separator.map (grouped · whole)).getD whole ++ rest ++ point

def signText (f : Field) (negative : Bool) (digits : List Char) : List Char :=
  let isZero := f.unsignedZero && digits.all fun c => c = '0' || c = '.'
  if negative && !isZero then ['-']
  else
    match f.sign with
    | .none  => []
    | .plus  => ['+']
    | .space => [' ']

-- A number with its places in a field.
def text (f : Field) (x : Float) : String :=
  let cs := (fixedText f.places x).toList
  let negative := cs.head? = some '-'
  let digits := if negative then cs.drop 1 else cs
  let sign := f.signText negative digits
  let body := f.body digits
  let missing := f.columns - (sign.length + body.length)
  let filled (n : Nat) := List.replicate n fill
  String.ofList <|
    match f.filling with
    | .behind     => sign ++ body ++ filled missing
    | .inFront    => filled missing ++ sign ++ body
    | .around     => filled (missing / 2) ++ sign ++ body ++ filled (missing - missing / 2)
    | .behindSign => sign ++ filled missing ++ body

end Field
end ModuleDiscovery.Number
