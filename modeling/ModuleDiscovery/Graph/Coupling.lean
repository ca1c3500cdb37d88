import ModuleDiscovery.Graph.CallGraph
import ModuleDiscovery.Graph.Pair
import ModuleDiscovery.Number.Score

namespace ModuleDiscovery

structure Coupling where
  -- The allowed units, in their given order.
  units  : List UnitName
  -- Counts of pairs, in order of their first call.
  counts : List (Pair × Int)
  -- The number of counted calls, of which the counts are shares.
  total  : Int

namespace Coupling

-- Adds to the count of a pair, which is appended if it is new.
def addCount (p : Pair) (n : Int) : List (Pair × Int) → List (Pair × Int)
  | []      => [(p, n)]
  | c :: cs => if c.1 = p then (p, c.2 + n) :: cs else c :: addCount p n cs

-- Sets the count of a pair, which is appended if it is new.
def setCount (p : Pair) (n : Int) : List (Pair × Int) → List (Pair × Int)
  | []      => [(p, n)]
  | c :: cs => if c.1 = p then (p, n) :: cs else c :: setCount p n cs

-- The pair of units that a call joins, if both are allowed and different.
def pairOf? (sep : Separator) (allowed : List UnitName) (c : Call) : Option Pair := do
  let u ← owningUnit sep c.caller
  let v ← owningUnit sep c.callee
  if u ∈ allowed ∧ v ∈ allowed then Pair.of? u v else none

-- Counts, for each pair of allowed units, the calls between them in either direction. Calls within a unit and calls
-- that touch any other unit are not counted.
def ofCalls (g : CallGraph) (allowed : List UnitName) (sep : Separator) : Coupling :=
  let pairs := g.calls.filterMap (pairOf? sep allowed)
  { units  := allowed.eraseDups
    counts := pairs.foldl (fun cs p => addCount p 1 cs) []
    total  := pairs.length }

variable (g : Coupling)

-- The count of two units, in either order.
def count (u v : UnitName) : Int :=
  match Pair.of? u v with
  | none   => 0
  | some p => ((g.counts.find? (·.1 = p)).map (·.2)).getD 0

-- A count as a share of the total; nothing is shared where nothing was counted.
def share? {α} [Score α] (n : Int) : Option α :=
  if g.total = 0 then some Score.zero else Score.ratio? n g.total

-- The weight of two units; `none` if it is too large.
def weight? {α} [Score α] (u v : UnitName) : Option α :=
  if u = v then some Score.zero else g.share? (g.count u v)

-- Order of pairs by descending count, then by name.
def rankLe (c d : Pair × Int) : Bool :=
  d.2 < c.2 || c.2 = d.2 && Pair.le c.1 d.1

-- The counted pairs, the heaviest first.
def ranked : List (Pair × Int) :=
  g.counts.mergeSort rankLe

-- The counted pairs with their weights, the heaviest first; `none` if a weight is too large.
def rankedWeights? {α} [Score α] : Option (List (Pair × α)) :=
  g.ranked.mapM fun (p, _) => (g.weight? p.a p.b).map (p, ·)

-- The sum of all counts as a share of the total.
def totalWeight? {α} [Score α] : Option α :=
  g.share? (g.counts.foldl (fun n c => n + c.2) 0)

-- A coupling in a line: the numbers of its units, pairs and calls.
def description : String :=
  s!"CouplingGraph(units={g.units.length}, pairs={g.counts.length}, total={g.total})"

-- A weight that no double can hold.
structure WeightFault where
deriving DecidableEq, Repr

def WeightFault.message (_ : WeightFault) : String :=
  "integer division result too large for a float"

end Coupling
end ModuleDiscovery
