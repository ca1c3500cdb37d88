import ModuleDiscovery.Text.Lines
import ModuleDiscovery.Value

namespace ModuleDiscovery.Toml

open Text

-- A position in a document: the number of characters in front of it and the ones behind it.
structure Cursor where
  pos  : Nat
  rest : List Char

inductive Fault.Kind
  | invalidStatement
  | invalidValue
  | invalidKey
  | invalidDate
  | expectedEquals
  | expectedNewline
  | expectedTableEnd
  | expectedTableListEnd
  | expectedDelimiter (delimiter : String)
  | unclosedList
  | unclosedTable
  | unterminatedText
  | illegalCharacter (c : Char)
  -- A control character in a comment or a literal text.
  | invalidCharacter (c : Char)
  | invalidEscape
  | invalidHex
  | noScalar
  | overwritten
  | duplicateKey (key : String)
  | declaredTwice (path : List String)
  | redefined (path : List String)
  | immutable (path : List String)
deriving DecidableEq, Repr

structure Fault where
  kind : Fault.Kind
  pos  : Nat
deriving DecidableEq, Repr

inductive ReadFault
  | malformed (f : Fault)
  -- An integer with more digits than are read.
  | longInt (digits : Nat)
  | tooDeep
deriving DecidableEq, Repr

namespace Fault

def pathText (path : List String) : String :=
  Value.literal (.tuple (path.map .text))

def Kind.message : Kind → String
  | invalidStatement     => "Invalid statement"
  | invalidValue         => "Invalid value"
  | invalidKey           => "Invalid initial character for a key part"
  | invalidDate          => "Invalid date or datetime"
  | expectedEquals       => "Expected '=' after a key in a key/value pair"
  | expectedNewline      => "Expected newline or end of document after a statement"
  | expectedTableEnd     => "Expected ']' at the end of a table declaration"
  | expectedTableListEnd => "Expected ']]' at the end of an array declaration"
  | expectedDelimiter d  => "Expected " ++ quoted d
  | unclosedList         => "Unclosed array"
  | unclosedTable        => "Unclosed inline table"
  | unterminatedText     => "Unterminated string"
  | illegalCharacter c   => "Illegal character " ++ quoted c.toString
  | invalidCharacter c   => "Found invalid character " ++ quoted c.toString
  | invalidEscape        => "Unescaped '\\' in a string"
  | invalidHex           => "Invalid hex value"
  | noScalar             => "Escaped character is not a Unicode scalar value"
  | overwritten          => "Cannot overwrite a value"
  | duplicateKey k       => "Duplicate inline table key " ++ quoted k
  | declaredTwice p      => "Cannot declare " ++ pathText p ++ " twice"
  | redefined p          => "Cannot redefine namespace " ++ pathText p
  | immutable p          => "Cannot mutate immutable namespace " ++ pathText p

def message (f : Fault) (document : List Char) : String :=
  if document.length ≤ f.pos then
    s!"{f.kind.message} (at end of document)"
  else
    let place := Place.after (document.take f.pos)
    s!"{f.kind.message} (at line {place.line}, column {place.column})"

end Fault

namespace Cursor

def ofChars (cs : List Char) : Cursor := ⟨0, cs⟩

def head? (c : Cursor) : Option Char := c.rest.head?

def advance (n : Nat) (c : Cursor) : Cursor := ⟨c.pos + n, c.rest.drop n⟩

def startsWith (s : String) (c : Cursor) : Bool := s.toList.isPrefixOf c.rest

-- Past all characters in front that satisfy `p`.
def skipWhile (p : Char → Bool) (c : Cursor) : Cursor :=
  c.advance (c.rest.takeWhile p).length

def fail {α} (kind : Fault.Kind) (c : Cursor) : Except ReadFault α :=
  .error (.malformed ⟨kind, c.pos⟩)

def isSpace (c : Char) : Bool := c = ' ' || c = '\t'

def isSpaceOrNewline (c : Char) : Bool := isSpace c || c = '\n'

-- Control characters, which no line may hold except for tabs.
def isControl (c : Char) : Bool := (c.toNat < 0x20 || c = '\x7f') && c ≠ '\t'

-- Control characters that no text of several lines may hold.
def isInnerControl (c : Char) : Bool := isControl c && c ≠ '\n'

-- The number of characters in front of the first occurrence of a text.
def find? (s : List Char) : List Char → Option Nat
  | []      => if s.isEmpty then some 0 else none
  | c :: cs => if s.isPrefixOf (c :: cs) then some 0 else (find? s cs).map (· + 1)

-- The `n` characters in front, none of which may satisfy `bad`.
def takeLegal (bad : Char → Bool) (n : Nat) (c : Cursor) :
    Except ReadFault (List Char × Cursor) :=
  let cs := c.rest.take n
  match cs.find? bad with
  | some b => (c.skipWhile (!bad ·)).fail (.invalidCharacter b)
  | none   => .ok (cs, c.advance n)

-- The characters up to a delimiter, and the position of the delimiter.
def until_ (delimiter : String) (bad : Char → Bool) (c : Cursor) :
    Except ReadFault (List Char × Cursor) :=
  match find? delimiter.toList c.rest with
  | some n => c.takeLegal bad n
  | none   => (c.advance c.rest.length).fail (.expectedDelimiter delimiter)

-- Past a comment, if there is one.
def skipComment (c : Cursor) : Except ReadFault Cursor :=
  match c.rest with
  | '#' :: cs =>
    ((c.advance 1).takeLegal isControl (cs.takeWhile (· ≠ '\n')).length).map (·.2)
  | _ => .ok c

-- Past the white space and the comments between the parts of a list.
def skipBetween : Nat → Cursor → Except ReadFault Cursor
  | 0, c => .ok c
  | n + 1, c => do
    let c' ← (c.skipWhile isSpaceOrNewline).skipComment
    if c'.pos = c.pos then return c else skipBetween n c'

end Cursor
end ModuleDiscovery.Toml
