import ModuleDiscovery.Graph.Coupling

namespace ModuleDiscovery

-- What clustering knows about units: their order and the weight of every two of them.
structure Affinity (α : Type) where
  units  : List UnitName
  weight : UnitName → UnitName → α

namespace Affinity

variable {α : Type} [Score α]

abbrev Rows (α : Type) := List (UnitName × List (UnitName × α))

-- The weights of all pairs of units; `none` if one of them is too large.
def rows? (g : Coupling) (us : List UnitName) : Option (Rows α) :=
  us.mapM fun u => (us.mapM fun v => (g.weight? u v).map (v, ·)).map (u, ·)

-- Looks a weight up. Units without a row have no weight.
def ofRows (us : List UnitName) (rs : Rows α) : Affinity α where
  units := us
  weight u v := ((rs.lookup u).bind (·.lookup v)).getD Score.zero

-- The affinity of units by their coupling; `none` if a weight is too large.
def ofCoupling? (g : Coupling) (us : List UnitName) : Option (Affinity α) :=
  (rows? g us.eraseDups).map (ofRows us.eraseDups)

variable (w : Affinity α)

-- The mean weight over all pairs of a unit of `us` with one of `vs`.
def between (us vs : List UnitName) : α :=
  if us.isEmpty || vs.isEmpty then Score.zero
  else Score.div (Score.sum (us.flatMap fun u => vs.map (w.weight u))) (us.length * vs.length)

-- A position at which there is no unit.
structure PositionFault where
  position : Int
  -- Which of two lists of positions it is in.
  axis     : Nat
  size     : Nat
deriving DecidableEq, Repr

def PositionFault.message (f : PositionFault) : String :=
  s!"index {f.position} is out of bounds for axis {f.axis} with size {f.size}"

-- The unit at a position. Positions below zero count from the end.
def unitAt (axis : Nat) (i : Int) : Except PositionFault UnitName :=
  let n := w.units.length
  let j := if i < 0 then i + n else i
  match if j < 0 then none else w.units[j.toNat]? with
  | some u => .ok u
  | none   => .error ⟨i, axis, n⟩

-- The mean weight over all pairs of a unit at one of `is` with a unit at one of `js`.
def betweenAt (is js : List Int) : Except PositionFault α :=
  if is.isEmpty || js.isEmpty then .ok Score.zero
  else do
    let us ← is.mapM (w.unitAt 0)
    let vs ← js.mapM (w.unitAt 1)
    return w.between us vs

-- The known units among the given ones, each once.
def known (us : List UnitName) : List UnitName :=
  us.eraseDups.filter (w.units.contains ·)

-- All pairs of units row by row; a pair counts only where its first unit precedes its second.
def upperTriangle (us : List UnitName) : List α :=
  let is := us.zipIdx
  is.flatMap fun (u, i) => is.map fun (v, j) => if i < j then w.weight u v else Score.zero

-- The mean weight over the pairs of known units, zero if there is no pair.
def within (us : List UnitName) : α :=
  let ks := w.known us
  let k := ks.length
  if k < 2 then Score.zero else Score.div (Score.sum (w.upperTriangle ks)) (k * (k - 1) / 2)

end Affinity
end ModuleDiscovery
