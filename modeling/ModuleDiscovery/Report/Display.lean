import ModuleDiscovery.Analysis
import ModuleDiscovery.Console.Grid
import ModuleDiscovery.Console.Guide
import ModuleDiscovery.Report.Csv

namespace ModuleDiscovery

namespace Console

def endLines (ls : List (List Char)) : String :=
  String.ofList (ls.flatMap fun l => l ++ ['\n'])

-- Markup as it is printed in a number of columns.
def print (columnCount : Nat) (markup : String) : Except MarkupFault String :=
  (Markup.shown markup.toList).map fun cs => endLines (layOut .floating .fold columnCount cs)

-- Parts up to the first one that fails, put together, and the failure.
def printAll : List (Except Failure String) → String × Option Failure
  | []            => ("", none)
  | .error f :: _ => ("", some f)
  | .ok s :: ps   => let (t, f) := printAll ps; (s ++ t, f)

end Console

namespace Analysis

open Console Number

-- The label of a mean weight, whose style tells how it compares with the threshold.
def averageLabel (threshold x : Float) : String :=
  let style := if threshold ≤ x then "green" else if 0.0 < x then "yellow" else "dim"
  "[" ++ style ++ "]" ++ fixedText 4 x ++ "[/" ++ style ++ "]"

def nodeLabel (t : Dendrogram Float) : String :=
  match t with
  | .leaf u => "[bold]" ++ u ++ "[/bold]"
  | .fusion _ _ s =>
    "[cyan]sim=" ++ fixedText 3 s ++ "[/cyan] \x7b" ++ ", ".intercalate t.members ++ "\x7d"

def branch (t : Dendrogram Float) : Branch :=
  match t with
  | .leaf _       => .mk (nodeLabel t) []
  | .fusion l r _ => .mk (nodeLabel t) [branch l, branch r]

variable (a : Analysis) (columnCount : Nat)

def headLine : String :=
  let e := a.extraction
  s!"  {a.units.length} units, {a.coupling.total} inter-unit calls, " ++
    s!"CP={generalText e.threshold}, max modules={e.budget}"

-- The cells of the table of weights, row by row.
def weightCells : Except Failure (List (List String)) := do
  (← a.coupling.rankedWeights).mapM fun (p, w) =>
    ((Places.text a.settings.precision w).map fun s =>
      [p.a, p.b, toString (a.coupling.count p.a p.b), s]).mapError .places

def cellsOf (rows : List (List String)) (column : Nat) : List String :=
  rows.map fun r => (r[column]?).getD ""

def weightGrid (rows : List (List String)) : Except MarkupFault Grid :=
  Grid.ofMarkup "Coupling weights" [
    ("Unit A", .left, cellsOf rows 0),
    ("Unit B", .left, cellsOf rows 1),
    ("Calls", .right, cellsOf rows 2),
    ("Weight", .right, cellsOf rows 3)]

def moduleGrid : Except MarkupFault Grid :=
  let ms := a.extraction.modules
  Grid.ofMarkup "Modules" [
    ("#", .right, ms.zipIdx.map fun (_, i) => toString (i + 1)),
    ("Units", .left, ms.map fun m => ", ".intercalate m.members),
    ("Pairs", .right, ms.map fun m => toString m.pairCount),
    ("Avg coupling", .right, ms.map fun m => averageLabel a.extraction.threshold m.average)]

-- The table of weights, or a line that says there are none.
def weightPart : Except Failure String := do
  let rows ← a.weightCells
  if a.coupling.total = 0 then
    (print columnCount "[yellow]No inter-unit calls between the analyzed units[/yellow]").mapError .markup
  else
    ((weightGrid rows).map fun g => endLines (g.lines columnCount)).mapError .markup

def treeParts : List (Except Failure String) :=
  match a.clustering.root with
  | none   => []
  | some t =>
    let tree := Branch.mk "[bold]Dendrogram[/bold] (average linkage)" [branch t]
    [((tree.lines columnCount [] []).map endLines).mapError .markup, .ok "\n"]

-- What is said of modules that had to be joined.
def repairNote : String :=
  s!"[yellow]Module budget exceeded: {a.extraction.repairs} smallest-module merge(s) applied; " ++
    "result is not a pure dendrogram cut[/yellow]"

def repairPart : List (Except Failure String) :=
  if a.extraction.isRepaired then [(print columnCount a.repairNote).mapError .markup] else []

-- The report is printed part by part. Names are put into its markup as they are.
def displayParts : List (Except Failure String) :=
  [.ok "\n",
   (print columnCount "[bold cyan]COUPLING INSIGHT[/bold cyan]").mapError .markup,
   (print columnCount a.headLine).mapError .markup,
   .ok "\n",
   a.weightPart columnCount,
   .ok "\n"] ++
  a.treeParts columnCount ++
  [(a.moduleGrid.map fun g => endLines (g.lines columnCount)).mapError .markup] ++
  a.repairPart columnCount

-- The whole report, unless a part of it fails.
def display : Except Failure String :=
  (a.displayParts columnCount).foldlM (fun s p => p.map (s ++ ·)) ""

end Analysis
end ModuleDiscovery
