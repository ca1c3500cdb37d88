import ModuleDiscovery.Clustering.Affinity
import ModuleDiscovery.Clustering.Choice
import ModuleDiscovery.Clustering.Dendrogram

namespace ModuleDiscovery

-- A step of the clustering: the units of the fused clusters and the similarity of these.
structure Fusion (α : Type) where
  left       : List UnitName
  right      : List UnitName
  similarity : α

-- What clustering gives: the steps, and the dendrogram if there is any unit.
structure Clustering (α : Type) where
  affinity : Affinity α
  history  : List (Fusion α)
  root     : Option (Dendrogram α)

namespace Agglomeration

variable {α : Type} [Score α] (w : Affinity α)

-- The similarity of the two clusters of a choice.
def similarity (c : Choice (Dendrogram α)) : α :=
  w.between c.first.units c.second.units

-- Keeps the better of a choice with known similarity and another choice.
def better (best : Choice (Dendrogram α) × α) (c : Choice (Dendrogram α)) :
    Choice (Dendrogram α) × α :=
  if Score.gt (similarity w c) best.2 then (c, similarity w c) else best

-- The choice of the most similar clusters, the first of several such. Where no similarity exceeds the
-- least score, it is the choice of the first two clusters at that score.
def closest? (ts : List (Dendrogram α)) : Option (Choice (Dendrogram α) × α) :=
  match Choice.all ts with
  | []      => none
  | c :: cs => some ((c :: cs).foldl (better w) (c, Score.least))

def fuse (c : Choice (Dendrogram α)) (s : α) : List (Dendrogram α) :=
  c.rest ++ [.fusion c.first c.second s]

-- At most the given number of fusions: their steps, and the clusters that are left.
def run : Nat → List (Dendrogram α) → List (Fusion α) × List (Dendrogram α)
  | 0, ts     => ([], ts)
  | n + 1, ts =>
    match closest? w ts with
    | none        => ([], ts)
    | some (c, s) =>
      let (steps, final) := run n (fuse c s)
      (⟨c.first.units, c.second.units, s⟩ :: steps, final)

end Agglomeration

-- Clusters by average linkage. All units start as clusters of their own. As long as there are two clusters, those
-- with the highest mean weight between them are fused, and the fused cluster takes the last place in their order.
def cluster {α : Type} [Score α] (w : Affinity α) : Clustering α :=
  let leaves := w.units.map Dendrogram.leaf
  let (history, final) := Agglomeration.run w (leaves.length - 1) leaves
  { affinity := w, history, root := final.head? }

end ModuleDiscovery
