import ModuleDiscovery.Failure

namespace ModuleDiscovery.Csv

-- Whether a field has to be quoted: it holds a comma, a quote or a line feed.
def needsQuotes (cs : List Char) : Bool :=
  cs.any fun c => c = ',' || c = '"' || c = '\n'

-- A field; within quotes a quote is written twice.
def field (cs : List Char) : List Char :=
  if needsQuotes cs then '"' :: cs.flatMap (fun c => if c = '"' then ['"', '"'] else [c]) ++ ['"']
  else cs

def row (fields : List String) : String :=
  ",".intercalate (fields.map fun f => String.ofList (field f.toList)) ++ "\n"

def heading : List String := ["unit_a", "unit_b", "weight"]

end ModuleDiscovery.Csv

namespace ModuleDiscovery.Coupling

-- The pairs with their weights, the heaviest first.
def rankedWeights (g : Coupling) : Except Failure (List (Pair × Float)) :=
  match (g.rankedWeights? : Option (List (Pair × Float))) with
  | some ws => .ok ws
  | none    => .error (.weight ⟨⟩)

-- The fields of the rows of all pairs, with weights to a number of places.
def csvRows (g : Coupling) (precision : Value) : Except Failure (List (List String)) := do
  (← g.rankedWeights).mapM fun (p, w) =>
    ((Places.text precision w).map fun s => [p.a, p.b, s]).mapError .places

def csv (g : Coupling) (precision : Value) : Except Failure String :=
  (g.csvRows precision).map fun rows => String.join ((Csv.heading :: rows).map Csv.row)

end ModuleDiscovery.Coupling
