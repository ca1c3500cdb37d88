import ModuleDiscovery.Json.Token
import ModuleDiscovery.Toml.Cursor

namespace ModuleDiscovery.Toml

open Text

namespace Cursor

-- The character with the code point of `n` hexadecimal digits.
def hexChar (n : Nat) (c : Cursor) : Except ReadFault (List Char × Cursor) := do
  let ds := c.rest.take n
  let some vs := ds.mapM Text.hexValue? | c.fail .invalidHex
  if vs.length ≠ n then c.fail .invalidHex
  let c := c.advance n
  let code := vs.foldl (fun m v => 16 * m + v) 0
  if code.isValidChar then return (ofUnit code, c) else c.fail .noScalar

def simpleEscape? : Char → Option Char
  | 'b'  => some '\x08'
  | 't'  => some '\t'
  | 'n'  => some '\n'
  | 'f'  => some '\x0c'
  | 'r'  => some '\r'
  | '"'  => some '"'
  | '\\' => some '\\'
  | _    => none

-- What an escape stands for, at the backslash. In a text of several lines, a backslash at the end of a
-- line stands for nothing and swallows the white space behind it.
def escape (multiline : Bool) (c : Cursor) : Except ReadFault (List Char × Cursor) :=
  let behind := c.advance 2
  match c.rest.tail.head? with
  | none   => behind.fail .invalidEscape
  | some e =>
    if multiline && e = '\n' then
      .ok ([], behind.skipWhile isSpaceOrNewline)
    else if multiline && isSpace e then
      let line := behind.skipWhile isSpace
      match line.head? with
      | none      => .ok ([], line)
      | some '\n' => .ok ([], (line.advance 1).skipWhile isSpaceOrNewline)
      | some _    => line.fail .invalidEscape
    else if e = 'u' then behind.hexChar 4
    else if e = 'U' then behind.hexChar 8
    else
      match simpleEscape? e with
      | some r => .ok ([r], behind)
      | none   => behind.fail .invalidEscape

-- The rest of a basic text, behind its opening quotes, with the position behind its closing ones. Every
-- step takes a character, so as many steps as characters suffice.
def basicText (multiline : Bool) : Nat → Cursor → Except ReadFault (List Char × Cursor)
  | 0, c => c.fail .unterminatedText
  | n + 1, c =>
    match c.head? with
    | none => c.fail .unterminatedText
    | some '"' =>
      if !multiline then .ok ([], c.advance 1)
      else if c.startsWith "\"\"\"" then .ok ([], c.advance 3)
      else (basicText multiline n (c.advance 1)).map fun (cs, c) => ('"' :: cs, c)
    | some '\\' => do
      let (es, c) ← c.escape multiline
      let (cs, c) ← basicText multiline n c
      return (es ++ cs, c)
    | some ch =>
      if (if multiline then isInnerControl ch else isControl ch) then
        c.fail (.illegalCharacter ch)
      else
        (basicText multiline n (c.advance 1)).map fun (cs, c) => (ch :: cs, c)

-- A basic text on one line.
def lineText (c : Cursor) : Except ReadFault (List Char × Cursor) :=
  basicText false (c.rest.length + 1) (c.advance 1)

-- A literal text on one line.
def literalText (c : Cursor) : Except ReadFault (List Char × Cursor) := do
  let (cs, c) ← (c.advance 1).until_ "'" isControl
  return (cs, c.advance 1)

-- A text on several lines, closed by three quotes, in front of which up to two more belong to it.
def multilineText (quote : Char) (c : Cursor) : Except ReadFault (List Char × Cursor) := do
  let c := c.advance 3
  let c := if c.head? = some '\n' then c.advance 1 else c
  let (cs, c) ←
    if quote = '"' then basicText true (c.rest.length + 1) c
    else (c.until_ "'''" isInnerControl).map fun (cs, c) => (cs, c.advance 3)
  let extra := (c.rest.take 2).takeWhile (· = quote)
  return (cs ++ extra, c.advance extra.length)

end Cursor
end ModuleDiscovery.Toml
