import ModuleDiscovery.Report.Csv

namespace ModuleDiscovery

namespace Dot

open Number

-- Puts a backslash in front of a character wherever it stands.
def escape (mark : Char) (cs : List Char) : List Char :=
  cs.flatMap fun c => if c = mark then ['\\', mark] else [c]

-- A name in quotes. Backslashes are escaped before those that escape quotes are there.
def quoted (cs : List Char) : List Char :=
  '"' :: escape '"' (escape '\\' cs) ++ ['"']

def quotedName (s : String) : String :=
  String.ofList (quoted s.toList)

-- The width of the line of a pair, which grows with the weight from one to ten.
def penWidth (w : Float) : String :=
  fixedText 2 (1.0 + 9.0 * w)

def nodeLine (s : String) : String :=
  "  " ++ quotedName s ++ ";"

def pairLine (p : Pair) (label pen : String) : String :=
  "  " ++ quotedName p.a ++ " -- " ++ quotedName p.b ++ " [label=\"" ++ label ++ "\", penwidth=" ++
    pen ++ "];"

def callLine (c : Call) : String :=
  "  " ++ quotedName c.caller ++ " -> " ++ quotedName c.callee ++ ";"

-- A graph of the given kind with statements on lines of their own.
def graph (kind name : String) (ls : List String) : String :=
  "\n".intercalate ((kind ++ " " ++ name ++ " \x7b") :: ls ++ ["\x7d"]) ++ "\n"

def boxes : String := "  node [shape=box, style=rounded];"

end Dot

-- The coupling as a graph: all units, and the pairs with their weights to a number of places.
def Coupling.dot (g : Coupling) (precision : Value) (name : String) : Except Failure String := do
  let pairs ← (← g.rankedWeights).mapM fun (p, w) =>
    ((Places.text precision w).map fun label => Dot.pairLine p label (Dot.penWidth w)).mapError .places
  let heads := ["  graph [overlap=false];", Dot.boxes]
  return Dot.graph "graph" name (heads ++ g.units.map Dot.nodeLine ++ pairs)

-- A call graph as a graph: all methods by name, and the calls in their order.
def CallGraph.dot (g : CallGraph) (name : String) : String :=
  let nodes := g.nodes.mergeSort fun j k => j ≤ k
  Dot.graph "digraph" name
    ("  rankdir=LR;" :: Dot.boxes :: nodes.map Dot.nodeLine ++ g.calls.map Dot.callLine)

end ModuleDiscovery
