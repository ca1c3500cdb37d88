import ModuleDiscovery.Clustering.Agglomeration

namespace ModuleDiscovery

-- A group of units, by name and each once, and the mean weight within it.
structure Module (α : Type) where
  members : List UnitName
  average : α

-- The modules found, with the bounds they were found under and the number of joins it took.
structure Extraction (α : Type) where
  modules   : List (Module α)
  budget    : Nat
  threshold : α
  repairs   : Nat

namespace Module

variable {α : Type}

def size (m : Module α) : Nat :=
  m.members.length

-- The number of pairs that the average is taken over.
def pairCount (m : Module α) : Nat :=
  m.size * (m.size - 1) / 2

-- The module of the given units.
def ofUnits [Score α] (w : Affinity α) (us : List UnitName) : Module α :=
  ⟨sortedUnits us, w.within us⟩

end Module

-- The number of modules that `n` units may fall into.
def budget (n : Nat) : Nat :=
  max 1 (n / 2)

namespace Extraction

variable {α : Type}

-- Given modules, as though they had been found at once.
def ofModules (modules : List (Module α)) (threshold : α) : Extraction α :=
  { modules, budget := 1, threshold, repairs := 0 }

-- Whether modules had to be joined, so that the modules are no pure cut of the dendrogram.
def isRepaired (e : Extraction α) : Bool :=
  e.repairs > 0

variable [Score α]

-- The modules of several units that were accepted below the threshold.
def belowThreshold (e : Extraction α) : List (Module α) :=
  e.modules.filter fun m => m.size > 1 && Score.gt e.threshold m.average

section

variable (w : Affinity α) (threshold : α)

-- Whether a branch can stand as a module whatever the budget.
def stands (t : Dendrogram α) : Bool :=
  Score.ge (w.within t.units) threshold || t.isLeaf

-- The branches that become modules, from left to right, where `taken` modules precede them. A branch below the
-- threshold is split only while there is room for both halves, else it is accepted as it is.
def cut (limit taken : Nat) : Dendrogram α → List (Dendrogram α)
  | .leaf u       => [.leaf u]
  | .fusion l r s =>
    if stands w threshold (.fusion l r s) || limit < taken + 2 then
      [.fusion l r s]
    else
      let ls := cut limit taken l
      ls ++ cut limit (taken + ls.length) r

def join (m n : Module α) : Module α :=
  let us := sortedUnits (m.members ++ n.members)
  ⟨us, w.within us⟩

end

-- Of two choices the one with the fewer units, the first one if they have as many.
def smaller (c d : Choice (Module α)) : Choice (Module α) :=
  if d.first.size + d.second.size < c.first.size + c.second.size then d else c

-- The choice of two modules with the fewest units in all, the first of several such.
def smallest? (ms : List (Module α)) : Option (Choice (Module α)) :=
  match Choice.all ms with
  | []      => none
  | c :: cs => some (cs.foldl smaller c)

variable (w : Affinity α)

-- Joins the two smallest modules; the joined one takes the last place.
def joinSmallest? (ms : List (Module α)) : Option (List (Module α)) :=
  (smallest? ms).map fun c => c.rest ++ [join w c.first c.second]

-- Joins modules up to the given number of times.
def repair : Nat → List (Module α) → List (Module α)
  | 0, ms     => ms
  | n + 1, ms => (joinSmallest? w ms).elim ms (repair n)

end Extraction

-- Extracts modules from a dendrogram; from none there are none. The budget has precedence over the threshold: if the
-- cut has too many modules the smallest ones are joined until they fit, and joined modules are not compared with the
-- threshold again.
def extract {α : Type} [Score α] (w : Affinity α) (threshold : α) (root : Option (Dendrogram α)) :
    Extraction α :=
  let limit := budget w.units.length
  match root with
  | none   => { modules := [], budget := limit, threshold, repairs := 0 }
  | some t =>
    let ms := (Extraction.cut w threshold limit 0 t).map fun b => Module.ofUnits w b.units
    let excess := ms.length - limit
    { modules := Extraction.repair w excess ms, budget := limit, threshold, repairs := excess }

end ModuleDiscovery
