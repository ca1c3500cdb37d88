import ModuleDiscovery.Number.Binary
import ModuleDiscovery.Text.Blank
import ModuleDiscovery.Text.Digit
import ModuleDiscovery.Text.Quoted

namespace ModuleDiscovery.Number

open Text

inductive NumeralFault
  | notReal       (text : String)
  | notInt        (text : String)
  | tooManyDigits (count : Nat)
  -- An integer that would be written with too many digits.
  | tooLong
  -- A value that holds others is nested too deep to be written.
  | tooDeep
deriving DecidableEq, Repr

-- Longest integer that is read or written, in digits.
def maxIntDigits : Nat := 4300

namespace NumeralFault

-- Of a long text only the beginning of its quotation is shown where an integer was wanted.
def message : NumeralFault → String
  | notReal s => s!"could not convert string to float: {quoted s}"
  | notInt s =>
    let shown := String.ofList ((quotedChars s.toList).take 200)
    s!"invalid literal for int() with base 10: {shown}"
  | tooManyDigits n =>
    s!"Exceeds the limit ({maxIntDigits} digits) for integer string conversion: value has {n} " ++
      "digits; use sys.set_int_max_str_digits() to increase the limit"
  | tooLong =>
    s!"Exceeds the limit ({maxIntDigits} digits) for integer string conversion; " ++
      "use sys.set_int_max_str_digits() to increase the limit"
  | tooDeep => "maximum recursion depth exceeded while getting the repr of an object"

end NumeralFault

def natOfDigits (ds : List Char) : Nat :=
  ds.foldl (fun n c => 10 * n + (c.toNat - '0'.toNat)) 0

namespace Numeral

-- White space around a numeral, which the separators from `U+001C` are not.
def isMargin (c : Char) : Bool :=
  isBlank c && !(0x1c ≤ c.toNat && c.toNat ≤ 0x1f)

-- The numeral in ASCII, without the white space around it. A question mark stands for characters that
-- no numeral has.
def plain (s : String) : List Char :=
  (stripEnds isMargin s.toList).map fun c =>
    if c.toNat < 0x7f then c
    else ((digitValue? c).map fun d => Char.ofNat ('0'.toNat + d)).getD '?'

-- Drops the underscores, each of which has to stand between digits; `last` is the character in front.
def joinDigits? (last : Char) : List Char → Option (List Char)
  | []        => some []
  | '_' :: cs =>
    if last.isDigit && (cs.head?.any Char.isDigit) then joinDigits? '_' cs else none
  | c :: cs   => (joinDigits? c cs).map (c :: ·)

-- A sign in front, taken as "negative".
def sign : List Char → Bool × List Char
  | '-' :: cs => (true, cs)
  | '+' :: cs => (false, cs)
  | cs        => (false, cs)

-- The exponent that ends a numeral; an empty text stands for zero.
def exponent? : List Char → Option Int
  | [] => some 0
  | c :: cs =>
    let (negative, ds) := sign cs
    if c.toLower = 'e' && !ds.isEmpty && ds.all Char.isDigit then
      some (if negative then -(natOfDigits ds : Int) else natOfDigits ds)
    else
      none

-- An unsigned decimal, with digits on at least one side of its point.
def magnitude? (negative : Bool) (cs : List Char) : Option Float := do
  let (whole, rest) := cs.span Char.isDigit
  let (fraction, rest) :=
    match rest with
    | '.' :: cs => cs.span Char.isDigit
    | cs        => ([], cs)
  if whole.isEmpty && fraction.isEmpty then none
  let e ← exponent? rest
  return floatOfDecimal negative (natOfDigits (whole ++ fraction)) (e - fraction.length)

-- A decimal, an infinity or a nan, with an optional sign.
def real? (cs : List Char) : Option Float :=
  let (negative, body) := sign cs
  let name := String.ofList (body.map Char.toLower)
  if name = "inf" ∨ name = "infinity" then some (infinity negative)
  else if name = "nan" then some notANumber
  else magnitude? negative body

end Numeral

def readReal (s : String) : Except NumeralFault Float :=
  match Numeral.joinDigits? ' ' (Numeral.plain s) >>= Numeral.real? with
  | some x => .ok x
  | none   => .error (.notReal s)

-- Digits are counted before it matters what follows them.
def readInt (s : String) : Except NumeralFault Int := do
  let (negative, body) := Numeral.sign (Numeral.plain s)
  let (run, rest) := body.span fun c => c.isDigit || c = '_'
  let some ds := Numeral.joinDigits? ' ' run | throw (.notInt s)
  if ds.length > maxIntDigits then throw (.tooManyDigits ds.length)
  if ds.isEmpty || !rest.isEmpty then throw (.notInt s)
  return if negative then -(natOfDigits ds : Int) else natOfDigits ds

end ModuleDiscovery.Number
