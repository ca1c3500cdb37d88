import Mathlib.Data.List.Nodup
import ModuleDiscovery.Proofs.Clustering.Nodes
import ModuleDiscovery.Proofs.Clustering.Run

namespace ModuleDiscovery

-- The clusters that steps make, by their units.
def Fusion.made {α : Type} (fs : List (Fusion α)) : List (List UnitName) :=
  fs.map fun f => f.left ++ f.right

-- All clusters of a clustering in the order in which they arise, by their units.
def Clustering.activated {α : Type} (k : Clustering α) : List (List UnitName) :=
  k.affinity.units.map ([·]) ++ Fusion.made k.history

namespace Dendrogram

variable {α : Type} {t : Dendrogram α} {P Q : Dendrogram α → Dendrogram α → Prop}

-- What holds of the two sides of every fusion in a tree.
def AllFusions (P : Dendrogram α → Dendrogram α → Prop) (t : Dendrogram α) : Prop :=
  ∀ l r s, fusion l r s ∈ t.walk → P l r

theorem allFusions_leaf {u : UnitName} : (leaf u).AllFusions P := by
  simp [AllFusions, walk_leaf]

theorem allFusions_fusion {l r : Dendrogram α} {s : α} :
    (fusion l r s).AllFusions P ↔ P l r ∧ l.AllFusions P ∧ r.AllFusions P := by
  simp only [AllFusions, walk_fusion, List.mem_cons, List.mem_append, fusion.injEq, or_imp, forall_and]
  refine and_congr_left fun _ => ⟨fun h => h l r s ⟨rfl, rfl, rfl⟩, ?_⟩
  rintro h _ _ _ ⟨rfl, rfl, rfl⟩
  exact h

theorem AllFusions.imp (h : t.AllFusions P) (hi : ∀ l r, P l r → Q l r) : t.AllFusions Q :=
  fun l r s hm => hi l r (h l r s hm)

-- No node has the same units as another one: a node below it has fewer units, a node beside it has
-- others.
theorem nodup_units_walk (h : t.units.Nodup) : (t.walk.map units).Nodup := by
  induction t
  case leaf => simp [walk_leaf]
  case fusion l r s hl hr =>
    obtain ⟨hln, hrn, hd⟩ := List.nodup_append'.mp h
    have hll := List.length_pos_iff.mpr l.units_ne_nil
    have hrl := List.length_pos_iff.mpr r.units_ne_nil
    rw [walk_fusion, List.map_cons, List.map_append, List.nodup_cons, List.nodup_append']
    refine ⟨?below, hl hln, hr hrn, ?beside⟩
    case below =>
      rw [← List.map_append, List.mem_map]
      rintro ⟨n, hn, he⟩
      have hlen := congrArg List.length he
      rw [units_fusion, List.length_append] at hlen
      cases List.mem_append.mp hn
      case inl hn => have := (units_sublist hn).length_le; omega
      case inr hn => have := (units_sublist hn).length_le; omega
    case beside =>
      rw [List.disjoint_left]
      simp only [List.mem_map]
      rintro _ ⟨m, hm, rfl⟩ ⟨n, hn, he⟩
      obtain ⟨u, hu⟩ := List.exists_mem_of_ne_nil _ m.units_ne_nil
      exact hd ((units_sublist hm).subset hu) ((units_sublist hn).subset (he ▸ hu))

end Dendrogram

namespace Agglomeration

open Dendrogram

section Fuse

variable {α : Type} {ts : List (Dendrogram α)} {order : List (List UnitName)}
  {c : Choice (Dendrogram α)} {s : α}

-- The only new fusion is that of the two chosen clusters.
theorem allFusions_fuse {P : Dendrogram α → Dendrogram α → Prop} (h : ∀ t ∈ ts, t.AllFusions P)
    (hc : c ∈ Choice.all ts) (hp : P c.first c.second) : ∀ t ∈ fuse c s, t.AllFusions P :=
  forall_mem_fuse h hc fun hfirst hsecond => allFusions_fusion.mpr ⟨hp, hfirst, hsecond⟩

-- The clusters that are left, `ts`, of all clusters so far, which `order` lists from the oldest on.
structure Activated (order : List (List UnitName)) (ts : List (Dendrogram α)) : Prop where
  active : (ts.map units).Sublist order
  nodes  : order.Perm ((ts.flatMap walk).map units)
  fuses  : ∀ t ∈ ts, t.AllFusions fun l r => [l.units, r.units].Sublist order

theorem Activated.leaves {us : List UnitName} :
    Activated (us.map ([·])) (us.map (leaf (α := α))) where
  active := by simp [Function.comp_def]
  nodes  := by simp [List.flatMap_map, walk_leaf, ← List.map_eq_flatMap, Function.comp_def]
  fuses  := by simp [allFusions_leaf]

theorem Activated.fuse (h : Activated order ts) (hc : c ∈ Choice.all ts) :
    Activated (order ++ [c.first.units ++ c.second.units]) (fuse c s) where
  active := by
    have hr := (Choice.rest_sublist_of_mem_all hc).map units
    simpa [Agglomeration.fuse] using hr.trans h.active
  nodes := by
    have hp := ((Choice.perm_of_mem_all hc).flatMap_right walk).map units
    simp only [List.flatMap_cons, ← List.append_assoc, List.map_append] at hp
    simp only [Agglomeration.fuse, List.flatMap_append, List.flatMap_singleton, walk_fusion,
      List.map_append, List.map_cons, units_fusion]
    refine ((h.nodes.trans hp.symm).trans List.perm_append_comm |>.append_right _).trans ?_
    exact List.perm_append_singleton .. |>.trans List.perm_middle.symm
  fuses := by
    have ho : order.Sublist (order ++ [c.first.units ++ c.second.units]) := List.sublist_append_left ..
    have hs := ((Choice.pair_sublist_of_mem_all hc).map units).trans h.active
    exact allFusions_fuse (fun t ht => (h.fuses t ht).imp fun _ _ hlr => hlr.trans ho) hc (hs.trans ho)

-- Of these clusters, no unit comes behind a fused cluster, neither in their order nor in a fusion. As units are older
-- than fused clusters, a unit stands on the right only of a unit.
structure LeavesFirst (ts : List (Dendrogram α)) : Prop where
  pairwise : ts.Pairwise fun t u => u.isLeaf → t.isLeaf
  fuses    : ∀ t ∈ ts, t.AllFusions fun l r => r.isLeaf → l.isLeaf

theorem LeavesFirst.leaves {us : List UnitName} : LeavesFirst (us.map (leaf (α := α))) where
  pairwise := List.pairwise_map.mpr <| List.pairwise_of_forall fun _ _ _ => rfl
  fuses    := by simp [allFusions_leaf]

theorem LeavesFirst.fuse (h : LeavesFirst ts) (hc : c ∈ Choice.all ts) : LeavesFirst (fuse c s) where
  pairwise := by
    refine List.pairwise_append.mpr ⟨h.pairwise.sublist (Choice.rest_sublist_of_mem_all hc), ?_⟩
    simp [isLeaf]
  fuses := allFusions_fuse h.fuses hc <| Choice.pairwise_iff_forall_all.mp h.pairwise c hc

end Fuse

namespace Runs

variable {α : Type} [Score α] {w : Affinity α} {ts : List (Dendrogram α)} {fs : List (Fusion α)}
  {t : Dendrogram α} {order : List (List UnitName)}

theorem length_eq (h : Runs w ts fs t) : fs.length + 1 = ts.length := by
  induction h
  case done => rfl
  case step s _ _ hc _ ih =>
    have := length_fuse (s := s) (mem_all_of_closest? hc)
    rw [List.length_cons, ih, this]

theorem activated (h : Runs w ts fs t) (ha : Activated order ts) :
    Activated (order ++ Fusion.made fs) [t] := by
  induction h generalizing order
  case done => simpa [Fusion.made] using ha
  case step hc _ ih =>
    have := ih (ha.fuse (mem_all_of_closest? hc))
    rwa [List.append_assoc] at this

theorem leavesFirst (h : Runs w ts fs t) (hl : LeavesFirst ts) :
    t.AllFusions fun l r => r.isLeaf → l.isLeaf := by
  induction h
  case done         => exact hl.fuses _ (by simp)
  case step hc _ ih => exact ih (hl.fuse (mem_all_of_closest? hc))

end Runs
end Agglomeration
end ModuleDiscovery
