import ModuleDiscovery.Number.Numeral
import ModuleDiscovery.Value

namespace ModuleDiscovery.Json

open Number Text

-- Why a document is no JSON, at an offset.
inductive Fault.Kind
  | expectingValue
  | expectingName
  | expectingColon
  | expectingComma
  | extraData
  | unterminatedString
  | controlCharacter
  | invalidEscape
  | invalidUnicodeEscape
  | byteOrderMark
deriving DecidableEq, Repr

structure Fault where
  kind   : Fault.Kind
  offset : Nat
deriving DecidableEq, Repr

inductive Token.Shape
  | openList
  | closeList
  | openTable
  | closeTable
  | comma
  | colon
  | text (s : String)
  -- A text that breaks off, or holds what no text may hold.
  | brokenText (f : Fault)
  | scalar (v : Value)
  -- An integer too long to be read.
  | longInt (digits : Nat)
  -- Anything else.
  | junk
  | finish

structure Token where
  shape  : Token.Shape
  offset : Nat

namespace Token

def isSpace (c : Char) : Bool :=
  c = ' ' || c = '\t' || c = '\n' || c = '\r'

def escaped? : Char → Option Char
  | '"'  => some '"'
  | '\\' => some '\\'
  | '/'  => some '/'
  | 'b'  => some '\x08'
  | 'f'  => some '\x0c'
  | 'n'  => some '\n'
  | 'r'  => some '\r'
  | 't'  => some '\t'
  | _    => none

-- What a text is written with: characters, and code units that are escaped.
inductive Piece
  | char (c : Char)
  | unit (n : Nat)

def Piece.chars : Piece → List Char
  | char c => [c]
  | unit n => ofUnit n

-- A character beyond `U+FFFF` is escaped as two code units, the high one in front.
def joinPieces : List Piece → List Char
  | .unit h :: .unit l :: ps =>
    if 0xd800 ≤ h ∧ h < 0xdc00 ∧ 0xdc00 ≤ l ∧ l < 0xe000 then
      ofUnit (0x10000 + (h - 0xd800) * 0x400 + (l - 0xdc00)) ++ joinPieces ps
    else
      ofUnit h ++ joinPieces (.unit l :: ps)
  | p :: ps => p.chars ++ joinPieces ps
  | [] => []

-- A text from the character after its opening quote up to its closing quote. `start` is the offset of
-- the opening quote, `pos` that of the next character. Gives the pieces of the text and the offset
-- behind the closing quote.
def scanText (start pos : Nat) : List Char → Except Fault (List Piece × Nat)
  | '"' :: _ => .ok ([], pos + 1)
  | '\\' :: 'u' :: a :: b :: c :: d :: e :: cs =>
    match hexValue? a, hexValue? b, hexValue? c, hexValue? d with
    | some a, some b, some c, some d =>
      (scanText start (pos + 6) (e :: cs)).map
        fun (ps, fin) => (.unit (((a * 16 + b) * 16 + c) * 16 + d) :: ps, fin)
    | _, _, _, _ => .error ⟨.invalidUnicodeEscape, pos + 1⟩
  | '\\' :: 'u' :: _ => .error ⟨.invalidUnicodeEscape, pos + 1⟩
  | '\\' :: c :: cs =>
    match escaped? c with
    | some c => (scanText start (pos + 2) cs).map fun (ps, fin) => (.char c :: ps, fin)
    | none   => .error ⟨.invalidEscape, pos⟩
  | ['\\'] | [] => .error ⟨.unterminatedString, start⟩
  | c :: cs =>
    if c.toNat < 0x20 then .error ⟨.controlCharacter, pos⟩
    else (scanText start (pos + 1) cs).map fun (ps, fin) => (.char c :: ps, fin)

-- The longest number at the front, as its sign and its digits before the point, those behind it, and
-- its exponent with marker and sign.
def scanNumber? (cs : List Char) : Option (List Char × List Char × List Char) := do
  let (sign, body) := match cs with | '-' :: cs => (['-'], cs) | cs => ([], cs)
  let whole ← match body with
    | '0' :: _ => some ['0']
    | body =>
      let ds := body.takeWhile Char.isDigit
      if ds.isEmpty then none else some ds
  let rest := body.drop whole.length
  let fraction := match rest with
    | '.' :: cs => cs.takeWhile Char.isDigit
    | _         => []
  let rest := if fraction.isEmpty then rest else rest.drop (fraction.length + 1)
  let exponent := match rest with
    | e :: cs =>
      if e = 'e' || e = 'E' then
        let mark := match cs with | '+' :: _ => ['+'] | '-' :: _ => ['-'] | _ => []
        let ds := (cs.drop mark.length).takeWhile Char.isDigit
        if ds.isEmpty then [] else e :: mark ++ ds
      else []
    | [] => []
  return (sign ++ whole, fraction, exponent)

-- The shape of a number, and its length.
def number (whole fraction exponent : List Char) : Shape × Nat :=
  let (negative, digits) := Numeral.sign whole
  if fraction.isEmpty && exponent.isEmpty then
    let n := natOfDigits digits
    let shape :=
      if digits.length > maxIntDigits then .longInt digits.length
      else .scalar (.int (if negative then -(n : Int) else n))
    (shape, whole.length)
  else
    let e := (Numeral.exponent? exponent).getD 0 - fraction.length
    let length :=
      whole.length + (if fraction.isEmpty then 0 else fraction.length + 1) + exponent.length
    (.scalar (.real (floatOfDecimal negative (natOfDigits (digits ++ fraction)) e)), length)

def words : List (List Char × Value) := [
  (['n', 'u', 'l', 'l'], .null),
  (['t', 'r', 'u', 'e'], .bool true),
  (['f', 'a', 'l', 's', 'e'], .bool false),
  (['N', 'a', 'N'], .real notANumber),
  (['I', 'n', 'f', 'i', 'n', 'i', 't', 'y'], .real (infinity false)),
  (['-', 'I', 'n', 'f', 'i', 'n', 'i', 't', 'y'], .real (infinity true))]

-- The shape of a number or a word at the front, and its length.
def scalar (cs : List Char) : Shape × Nat :=
  match scanNumber? cs with
  | some (whole, fraction, exponent) => number whole fraction exponent
  | none =>
    match words.find? (fun w => w.1.isPrefixOf cs) with
    | some (w, v) => (.scalar v, w.length)
    | none        => (.junk, 1)

-- The shape of what stands at the front, which is no space, and its length.
def shapeAt (pos : Nat) : List Char → Shape × Nat
  | '[' :: _ => (.openList, 1)
  | ']' :: _ => (.closeList, 1)
  | '{' :: _ => (.openTable, 1)
  | '}' :: _ => (.closeTable, 1)
  | ',' :: _ => (.comma, 1)
  | ':' :: _ => (.colon, 1)
  | '"' :: cs =>
    match scanText pos (pos + 1) cs with
    | .ok (ps, fin) => (.text (String.ofList (joinPieces ps)), fin - pos)
    | .error f      => (.brokenText f, 1)
  | cs => scalar cs

-- The tokens of a text, the first `skip` characters of which belong to a token already made.
def scanFrom (pos skip : Nat) : List Char → List Token
  | [] => [⟨.finish, pos⟩]
  | c :: cs =>
    if skip > 0 then
      scanFrom (pos + 1) (skip - 1) cs
    else if isSpace c then
      scanFrom (pos + 1) 0 cs
    else
      let (shape, length) := shapeAt pos (c :: cs)
      ⟨shape, pos⟩ :: scanFrom (pos + 1) (length - 1) cs

-- Cuts a document into tokens with their offsets. A piece of text that is no token, or a faulty string, becomes a
-- token too: whether it is a fault, and which one, depends on what is wanted where it stands.
def scan (cs : List Char) : List Token :=
  scanFrom 0 0 cs

end Token
end ModuleDiscovery.Json
