import ModuleDiscovery.Text.Blank
import ModuleDiscovery.Text.Split
import ModuleDiscovery.Text.Width

namespace ModuleDiscovery.Console

open Text

-- What becomes of a word that is wider than a line.
inductive Overflow
  | fold
  | ellipsis
deriving DecidableEq, Repr

-- Where a line stands in its columns. A line that floats is not filled up with spaces.
inductive Align
  | floating
  | left
  | right
  | center
deriving DecidableEq, Repr

def spaces (n : Nat) : List Char :=
  List.replicate n ' '

namespace Wrap

-- The pieces of a text, each of which but the first starts behind white space.
def pieces : List Char → List (List Char)
  | [] => []
  | c :: cs =>
    match cs, pieces cs with
    | d :: _, p :: ps => if isBlank c && !isBlank d then [c] :: p :: ps else (c :: p) :: ps
    | _, _            => [[c]]

-- The words of a text, each with the white space behind it, and the first one with the white space in
-- front of it as well. White space alone is no word.
def words (cs : List Char) : List (List Char) :=
  match pieces (cs.dropWhile isBlank) with
  | []      => []
  | w :: ws => (cs.takeWhile isBlank ++ w) :: ws

-- Cuts a word into pieces that fit a number of columns. `used` columns are taken by the piece in front.
def chop (columnCount : Nat) (used : Nat) : List Char → List (List Char)
  | []      => [[]]
  | c :: cs =>
    if columnCount < used + columns c then
      match chop columnCount (columns c) cs with
      | []      => [[], [c]]
      | p :: ps => [] :: (c :: p) :: ps
    else
      match chop columnCount (used + columns c) cs with
      | []      => [[c]]
      | p :: ps => (c :: p) :: ps

-- Lines while they are being filled: the finished ones, the current one, and the columns it takes.
structure Filling where
  done    : List (List Char)
  current : List Char
  used    : Nat

namespace Filling

def start : Filling := ⟨[], [], 0⟩

-- Ends the current line, unless nothing has been placed at all.
def endLine (f : Filling) : Filling :=
  if f.done.isEmpty && f.current.isEmpty then f else ⟨f.done ++ [f.current], [], f.used⟩

-- Places pieces at the start of a line each.
def placePieces (f : Filling) : List (List Char) → Filling
  | []      => f
  | p :: ps =>
    let f := f.endLine
    placePieces ⟨f.done, f.current ++ p, width p⟩ ps

def place (o : Overflow) (columnCount : Nat) (f : Filling) (word : List Char) : Filling :=
  let need := width (stripEnd isBlank word)
  if f.used + need ≤ columnCount then
    { f with current := f.current ++ word, used := f.used + width word }
  else if columnCount < need ∧ o = .fold then
    f.placePieces (chop columnCount 0 word)
  else
    f.placePieces [word]

end Filling

-- A line without line ends as lines that fit, as far as words can be separated. A line is filled with words, each
-- with the white space behind it.
def fill (o : Overflow) (columnCount : Nat) (cs : List Char) : List (List Char) :=
  match words cs with
  | [] => [cs]
  | ws =>
    let f := ws.foldl (Filling.place o columnCount) .start
    f.done ++ [f.current]

-- Fills tabs up to the next multiple of eight columns. `pos` columns are in front.
def expandTabs (pos : Nat) : List Char → List Char
  | []      => []
  | c :: cs =>
    if c = '\t' then
      let n := 8 - pos % 8
      spaces n ++ expandTabs (pos + n) cs
    else
      c :: expandTabs (pos + columns c) cs

-- Drops white space at the end as far as the line is longer than it may be.
def dropExcess (columnCount : Nat) (cs : List Char) : List Char :=
  let blanks := (cs.reverse.takeWhile isBlank).length
  cs.take (cs.length - min blanks ((units cs).length - columnCount))

-- Searches the end of the part of a line that takes the given columns, between two positions. A wide
-- character that takes one column too many is replaced by a space.
def cut (columnCount : Nat) (us : List Nat) : Nat → Nat → Nat → List Char
  | 0, _, _ => ofUnits us
  | n + 1, low, high =>
    let mid := (low + high) / 2
    let part := ofUnits (us.take (mid + 1))
    let used := width part
    if used = columnCount + 1 ∧ part.getLast?.map columns = some 2 then part.dropLast ++ [' ']
    else if used = columnCount then part
    else if columnCount < used then cut columnCount us n low mid
    else cut columnCount us n mid high

-- A line that takes exactly the given columns: cut off, or filled up with spaces.
def fit (columnCount : Nat) (cs : List Char) : List Char :=
  let used := width cs
  if columnCount = 0 then []
  else if used ≤ columnCount then cs ++ spaces (columnCount - used)
  else
    let us := units cs
    cut columnCount us (us.length + 1) 0 us.length

-- A line that is cut off if it takes too many columns.
def truncate (o : Overflow) (columnCount : Nat) (cs : List Char) : List Char :=
  if width cs ≤ columnCount then cs
  else
    match o with
    | .fold     => fit columnCount cs
    | .ellipsis => fit (columnCount - 1) cs ++ ['…']

def justify (a : Align) (o : Overflow) (columnCount : Nat) (cs : List Char) : List Char :=
  match a with
  | .floating => truncate o columnCount cs
  | .left =>
    let cs := truncate o columnCount cs
    cs ++ spaces (columnCount - width cs)
  | .right =>
    let cs := truncate o columnCount (stripEnd isBlank cs)
    spaces (columnCount - width cs) ++ cs
  | .center =>
    let cs := truncate o columnCount (stripEnd isBlank cs)
    let before := (columnCount - width cs) / 2
    spaces before ++ cs ++ spaces (columnCount - width cs - before)

end Wrap

-- The lines of a text in a number of columns; in none there is no room for any.
def layOut (a : Align) (o : Overflow) (columnCount : Nat) (cs : List Char) : List (List Char) :=
  if columnCount = 0 then []
  else
    (splitAtChar '\n' cs).flatMap fun l =>
      (Wrap.fill o columnCount (Wrap.expandTabs 0 l)).map fun l =>
        Wrap.justify a o columnCount (Wrap.dropExcess columnCount l)

-- A text as it is, but for tabs, which are expanded, and white space beyond the columns.
def layOutRaw (columnCount : Nat) (cs : List Char) : List Char :=
  joinWith '\n' ((splitAtChar '\n' cs).map fun l =>
    Wrap.dropExcess columnCount (Wrap.expandTabs 0 l))

end ModuleDiscovery.Console
