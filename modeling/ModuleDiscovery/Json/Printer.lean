import ModuleDiscovery.Value

namespace ModuleDiscovery.Json

open Text

-- One code point or lone surrogate within a JSON text.
def escape (n : Nat) : List Char :=
  let c := Char.ofNat n
  if c = '"' || c = '\\' then ['\\', c]
  else if c = '\n' then ['\\', 'n']
  else if c = '\r' then ['\\', 'r']
  else if c = '\t' then ['\\', 't']
  else if c = '\x0c' then ['\\', 'f']
  else if c = '\x08' then ['\\', 'b']
  else if 0x20 ≤ n ∧ n < 0x7f then [c]
  else if n < 0x10000 then unit n
  else
    let n := n - 0x10000
    unit (0xd800 + n / 0x400) ++ unit (0xdc00 + n % 0x400)
where
  unit (n : Nat) : List Char := '\\' :: 'u' :: hex 4 n

def textLiteral (s : String) : String :=
  String.ofList ('"' :: (units s.toList).flatMap escape ++ ['"'])

def realLiteral (x : Float) : String :=
  match Number.Binary.ofFloat x with
  | .nan            => "NaN"
  | .infinite true  => "-Infinity"
  | .infinite false => "Infinity"
  | .finite _ _ _   => Number.naturalText x

-- What stands between an opening bracket and its parts: nothing, or a line end and the indentation of
-- the parts.
inductive Spacing
  | compact
  | indented (level : Nat)

namespace Spacing

def deeper : Spacing → Spacing
  | compact    => compact
  | indented n => indented (n + 1)

def newline : Spacing → String
  | compact    => ""
  | indented n => "\n" ++ String.ofList (List.replicate (2 * n) ' ')

def separator (s : Spacing) : String :=
  match s with
  | compact    => ", "
  | indented _ => "," ++ s.newline

-- Parts between brackets, of which there are none around nothing but the brackets.
def bracket (s : Spacing) (opening closing : String) (parts : List String) : String :=
  if parts.isEmpty then opening ++ closing
  else opening ++ s.deeper.newline ++ s.deeper.separator.intercalate parts ++ s.newline ++ closing

end Spacing

mutual

def print (s : Spacing) : Value → String
  | .null     => "null"
  | .bool b   => if b then "true" else "false"
  | .int n    => toString n
  | .real x   => realLiteral x
  | .text t   => textLiteral t
  | .list vs  => s.bracket "[" "]" (printAll s.deeper vs)
  | .tuple vs => s.bracket "[" "]" (printAll s.deeper vs)
  | .table es => s.bracket "\x7b" "\x7d" (printEntries s.deeper es)
  | .map es   => s.bracket "\x7b" "\x7d" (printPairs s.deeper es)
  | v         => textLiteral v.shown

def printAll (s : Spacing) : List Value → List String
  | []      => []
  | v :: vs => print s v :: printAll s vs

def printEntries (s : Spacing) : List (String × Value) → List String
  | []           => []
  | (k, v) :: es => (textLiteral k ++ ": " ++ print s v) :: printEntries s es

def printPairs (s : Spacing) : List (Value × Value) → List String
  | []           => []
  | (k, v) :: es => (textLiteral k.shown ++ ": " ++ print s v) :: printPairs s es

end

def compact (v : Value) : String :=
  print .compact v

def indented (v : Value) : String :=
  print (.indented 0) v

end ModuleDiscovery.Json
