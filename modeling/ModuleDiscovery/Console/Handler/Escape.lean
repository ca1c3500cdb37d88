import ModuleDiscovery.Text.Digit

namespace ModuleDiscovery.Console.Handler

open Text

-- Why an escape stands for no character.
inductive EscapeFault
  -- Fewer hexadecimal digits than the letter asks for.
  | truncated (letter : Char) (digits : Nat)
  | beyondLast
  | malformedName
  -- A name that no character can have.
  | unknownName
deriving DecidableEq, Repr

-- Why a text stands for no characters or bytes.
inductive TextFault
  -- The escape with the given first and last place.
  | escape (f : EscapeFault) (first last : Nat)
  | escapedByte (first : Nat)
  | foreignByte
deriving DecidableEq, Repr

def EscapeFault.message : EscapeFault → String
  | truncated letter digits =>
    let form := String.ofList ('\\' :: letter :: List.replicate digits 'X')
    s!"truncated {form} escape"
  | beyondLast    => "illegal Unicode character"
  | malformedName => "malformed \\N character escape"
  | unknownName   => "unknown Unicode character name"

def TextFault.message : TextFault → String
  | escape f first last =>
    s!"(unicode error) 'unicodeescape' codec can't decode bytes in position {first}-{last}: {f.message}"
  | escapedByte first   => s!"(value error) invalid \\x escape at position {first}"
  | foreignByte         => "bytes can only contain ASCII literal characters"

namespace TextFault

def isAscii (c : Char) : Bool :=
  c.toNat < 0x80

-- The places that a text takes in its ASCII form, by which faults are told. A character that is not ASCII takes ten
-- places there, and a backslash in front of it six; all others take one.
def places : List Char → Nat
  | []              => 0
  | '\\' :: c :: cs => (if isAscii c then 2 else 16) + places cs
  | c :: cs         => (if isAscii c then 1 else 10) + places cs

-- The fault of an escape that asks for `n` digits, and how many places behind the letter it takes.
def ofCode (letter : Char) (n : Nat) (cs : List Char) : Option (EscapeFault × Nat) :=
  let ds := ((cs.take n).takeWhile fun c => (hexValue? c).isSome).filterMap hexValue?
  if ds.length < n then some (.truncated letter n, ds.length)
  else if 0x10ffff < ds.foldl (fun m d => 16 * m + d) 0 then some (.beyondLast, n)
  else none

-- Whether a text has the form of a character's name: words of letters, digits and hyphens, of which
-- none starts with a digit and the last does not end with a hyphen.
def isNameForm (cs : List Char) : Bool :=
  2 ≤ cs.length && cs.length ≤ 88 &&
    cs.all (fun c => c.isAlphanum || c = ' ' || c = '-') &&
    cs.head?.any Char.isAlpha && cs.getLast?.any Char.isAlphanum &&
    (cs.zip (cs.drop 1)).all fun (c, d) => c ≠ ' ' || !(d = ' ' || d.isDigit)

-- The same for an escape that asks for a name in braces.
def ofName : List Char → Option (EscapeFault × Nat)
  | '{' :: cs =>
    let name := cs.takeWhile (· ≠ '}')
    if name.length = cs.length then some (.malformedName, places cs + 1)
    else if name.isEmpty then some (.malformedName, 1)
    else if isNameForm name then none
    else some (.unknownName, places name + 2)
  | _ => some (.malformedName, 0)

-- The same for the escape with any letter.
def ofEscape (letter : Char) (cs : List Char) : Option (EscapeFault × Nat) :=
  match letter with
  | 'x' => ofCode letter 2 cs
  | 'u' => ofCode letter 4 cs
  | 'U' => ofCode letter 8 cs
  | 'N' => ofName cs
  | _   => none

-- The first fault of a text from the given place on.
def ofChars (place : Nat) : List Char → Option TextFault
  | []              => none
  | '\\' :: c :: cs =>
    match ofEscape c cs with
    | some (f, n) => some (.escape f place (place + 1 + n))
    | none        => ofChars (place + places ['\\', c]) cs
  | c :: cs         => ofChars (place + places [c]) cs

-- The first fault of bytes from the given place on, all of which are ASCII.
def ofBytes (place : Nat) : List Char → Option TextFault
  | []              => none
  | '\\' :: c :: cs =>
    if c = 'x' ∧ (ofCode c 2 cs).isSome then some (.escapedByte place)
    else ofBytes (place + 2) cs
  | _ :: cs         => ofBytes (place + 1) cs

end TextFault
end ModuleDiscovery.Console.Handler
