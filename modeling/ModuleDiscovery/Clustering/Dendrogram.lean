import ModuleDiscovery.Graph.Key
import ModuleDiscovery.Number.Score

namespace ModuleDiscovery

-- A binary tree over units, with a similarity at each fusion of two subtrees.
inductive Dendrogram (α : Type)
  | leaf (unit : UnitName)
  | fusion (left right : Dendrogram α) (similarity : α)
deriving Inhabited

-- Units in order of their names, each once.
def sortedUnits (us : List UnitName) : List UnitName :=
  us.eraseDups.mergeSort fun u v => u ≤ v

namespace Dendrogram

variable {α β : Type}

-- The units at the leaves, from left to right.
def units : Dendrogram α → List UnitName
  | leaf u       => [u]
  | fusion l r _ => l.units ++ r.units

-- The units below a node by name.
def members (t : Dendrogram α) : List UnitName :=
  sortedUnits t.units

-- The dendrogram with other similarities, if each of them has another.
def mapSimilarity? {β} (f : α → Option β) : Dendrogram α → Option (Dendrogram β)
  | leaf u       => some (leaf u)
  | fusion l r s => do return fusion (← mapSimilarity? f l) (← mapSimilarity? f r) (← f s)

def isLeaf : Dendrogram α → Bool
  | leaf _       => true
  | fusion _ _ _ => false

def children : Dendrogram α → List (Dendrogram α)
  | leaf _       => []
  | fusion l r _ => [l, r]

-- The similarity at which the subtrees were fused; a leaf has none.
def similarity [Score α] : Dendrogram α → α
  | leaf _       => Score.zero
  | fusion _ _ s => s

def size : Dendrogram α → Nat
  | leaf _       => 1
  | fusion l r _ => l.size + r.size + 1

def sizes : List (Dendrogram α) → Nat
  | []      => 0
  | t :: ts => t.size + sizes ts

-- Visits nodes with a stack of what is left to visit.
def walkFrom : List (Dendrogram α) → List (Dendrogram α)
  | []      => []
  | t :: ts => t :: walkFrom (t.children ++ ts)
termination_by ts => sizes ts
decreasing_by
  cases t
  case leaf => simp [children, sizes, size]
  case fusion => simp [children, sizes, size]; omega

-- All nodes, each before its subtrees and the left subtree before the right one.
def walk (t : Dendrogram α) : List (Dendrogram α) :=
  walkFrom [t]

@[simp]
theorem units_leaf {u : UnitName} : (leaf u : Dendrogram α).units = [u] := rfl

@[simp]
theorem units_fusion {l r : Dendrogram α} {s : α} :
    (fusion l r s).units = l.units ++ r.units := rfl

theorem units_ne_nil (t : Dendrogram α) : t.units ≠ [] := by
  induction t with
  | leaf _ => simp
  | fusion l r _ hl _ => simp [hl]

end Dendrogram
end ModuleDiscovery
