import ModuleDiscovery.Console.Markup
import ModuleDiscovery.Console.Wrap
import ModuleDiscovery.Number.Binary
import ModuleDiscovery.Text.Lines

namespace ModuleDiscovery.Console

open Text

structure Column where
  heading : List Char
  align   : Align
  cells   : List (List Char)

-- A table drawn with lines: a title, a row of headings, and rows of cells.
structure Grid where
  title   : List Char
  columns : List Column

namespace Grid

-- Columns of a cell that its text does not take: a space on either side.
def padding : Nat := 2

def textWidth (cs : List Char) : Nat :=
  ((splitLines cs).map width).foldl max 0

-- Columns that a cell takes if `limit` are available.
def cellWidth (limit : Nat) (cs : List Char) : Nat :=
  if limit ≤ padding then limit else min (textWidth cs) (limit - padding) + padding

def columnWidth (limit : Nat) (c : Column) : Nat :=
  ((c.heading :: c.cells).map (cellWidth limit)).foldl max 0

def total (ws : List Nat) : Nat :=
  ws.foldl (· + ·) 0

-- Takes `excess` from the widths that are equal to `widest`, as evenly as possible and at most `most`
-- from each; `count` is their number.
def reduce (widest most : Nat) : Nat → Nat → List Nat → List Nat
  | _, _, [] => []
  | excess, count, w :: ws =>
    if w = widest then
      let cut := min most (Number.roundDiv excess count)
      (w - cut) :: reduce widest most (excess - cut) (count - 1) ws
    else
      w :: reduce widest most excess count ws

-- Narrows the widest columns to the width of the next ones, in at most `n` rounds, until the widths are
-- at most `limit` in all.
def collapse (limit : Nat) : Nat → List Nat → List Nat
  | 0, ws => ws
  | n + 1, ws =>
    let excess := total ws - limit
    let widest := ws.foldl max 0
    let second := (ws.filter (· ≠ widest)).foldl max 0
    if excess = 0 ∨ widest = 0 then ws
    else
      collapse limit n (reduce widest (min excess (widest - second)) excess (ws.count widest) ws)

-- Columns that the lines around and between the columns take.
def borderWidth (g : Grid) : Nat :=
  g.columns.length + 1

-- The widths of the columns if `limit` are available in all.
def columnWidths (g : Grid) (limit : Nat) : List Nat :=
  let limit := limit - g.borderWidth
  let ws := g.columns.map fun c => max 1 (columnWidth limit c)
  if total ws ≤ limit then ws
  else ((collapse limit (total ws) ws).zip g.columns).map fun (w, c) => columnWidth w c

def cellLines (columnCount : Nat) (a : Align) (cs : List Char) : List (List Char) :=
  (layOut a .ellipsis (columnCount - padding) cs).map fun l =>
    ' ' :: Wrap.fit (columnCount - padding) l ++ [' ']

-- A horizontal line, with its left end, its line, its crossings and its right end.
def rule (left line crossing right : Char) (ws : List Nat) : List Char :=
  left :: joinWith crossing (ws.map fun w => List.replicate w line) ++ [right]

def rowLines (bar : Char) (ws : List Nat) (aligns : List Align) (cells : List (List Char)) :
    List (List Char) :=
  let blocks := (ws.zip (aligns.zip cells)).map fun (w, a, cs) => (w, cellLines w a cs)
  let height := (blocks.map (·.2.length)).foldl max 1
  (List.range height).map fun i =>
    bar :: joinWith bar (blocks.map fun (w, ls) => (ls[i]?).getD (spaces w)) ++ [bar]

def rows (g : Grid) : List (List (List Char)) :=
  let count := (g.columns.map (·.cells.length)).foldl max 0
  (List.range count).map fun i => g.columns.map fun c => (c.cells[i]?).getD []

def lines (g : Grid) (limit : Nat) : List (List Char) :=
  let ws := g.columnWidths limit
  let aligns := g.columns.map (·.align)
  layOut .center .fold (total ws + g.borderWidth) g.title ++
    rule '┏' '━' '┳' '┓' ws ::
    rowLines '┃' ws aligns (g.columns.map (·.heading)) ++
    rule '┡' '━' '╇' '┩' ws ::
    g.rows.flatMap (rowLines '│' ws aligns) ++
    [rule '└' '─' '┴' '┘' ws]

-- A table whose cells are markup. The styles of the cells are looked at row by row, once all cells have
-- been read.
def ofMarkup (title : String) (columns : List (String × Align × List String)) :
    Except MarkupFault Grid := do
  let grid : List Column ← columns.mapM fun (heading, align, cells) => do
    return ⟨← Markup.plain heading.toList, align, ← cells.mapM fun c => Markup.plain c.toList⟩
  let markup : Grid :=
    ⟨title.toList, columns.map fun (heading, align, cells) =>
      ⟨heading.toList, align, cells.map String.toList⟩⟩
  markup.rows.forM fun row => row.forM Markup.checkStyles
  return ⟨title.toList, grid⟩

end Grid
end ModuleDiscovery.Console
