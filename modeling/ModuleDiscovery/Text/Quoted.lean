import ModuleDiscovery.Text.Printable
import ModuleDiscovery.Text.Surrogate

namespace ModuleDiscovery.Text

-- A number in hexadecimal, filled up with zeros to `len` digits.
def hex (len n : Nat) : List Char :=
  let ds := Nat.toDigits 16 n
  List.replicate (len - ds.length) '0' ++ ds

namespace Quoted

-- A text with single quotes and no double ones is put in double quotes.
def quote (cs : List Char) : Char :=
  if '\'' ∈ cs ∧ '"' ∉ cs then '"' else '\''

-- One code point or lone surrogate between quotes `q`.
def escape (q : Char) (n : Nat) : List Char :=
  let c := Char.ofNat n
  if c = q || c = '\\' then ['\\', c]
  else if c = '\n' then ['\\', 'n']
  else if c = '\r' then ['\\', 'r']
  else if c = '\t' then ['\\', 't']
  else if !isSurrogate n && isPrintable c then [c]
  else if n < 0x100 then '\\' :: 'x' :: hex 2 n
  else if n < 0x10000 then '\\' :: 'u' :: hex 4 n
  else '\\' :: 'U' :: hex 8 n

end Quoted

def quotedChars (cs : List Char) : List Char :=
  let q := Quoted.quote cs
  q :: (units cs).flatMap (Quoted.escape q) ++ [q]

def quoted (s : String) : String :=
  String.ofList (quotedChars s.toList)

end ModuleDiscovery.Text
