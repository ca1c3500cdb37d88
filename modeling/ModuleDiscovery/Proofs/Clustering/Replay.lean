import ModuleDiscovery.Proofs.Clustering.Activation

namespace ModuleDiscovery

open Dendrogram

namespace Agglomeration

variable {α : Type}

-- Fuses the two clusters that a step names by their units; `none` if one of them is not there.
def refuse? (ts : List (Dendrogram α)) (f : Fusion α) : Option (List (Dendrogram α)) := do
  let left  ← ts.find? (·.units = f.left)
  let ts    := ts.eraseP (·.units = f.left)
  let right ← ts.find? (·.units = f.right)
  return ts.eraseP (·.units = f.right) ++ [.fusion left right f.similarity]

-- Goes through steps one after the other, as long as their clusters are there.
def replay (fs : List (Fusion α)) (ts : List (Dendrogram α)) : Option (List (Dendrogram α)) :=
  fs.foldlM refuse? ts

variable {ts : List (Dendrogram α)} {c : Choice (Dendrogram α)} {s : α}

-- Clusters that share no unit are told apart by their units.
theorem nodup_map_units (h : (ts.flatMap units).Nodup) : (ts.map units).Nodup := by
  refine List.pairwise_map.mpr <| (List.nodup_flatMap.mp h).2.imp ?_
  intro t u hd he
  have ⟨v, hv⟩ := List.exists_mem_of_ne_nil _ t.units_ne_nil
  exact hd hv (he ▸ hv)

theorem refuse?_of_mem_all (hn : (ts.map units).Nodup) (hc : c ∈ Choice.all ts) :
    refuse? ts ⟨c.first.units, c.second.units, s⟩ = some (fuse c s) := by
  have ⟨us, hfirst, hsecond⟩ := Choice.exists_single_of_mem_all hc
  have hs : us.Sublist ts := Choice.sublist_of_mem_single hfirst
  have ⟨hf, he⟩   := Choice.find?_of_mem_single hn hfirst
  have ⟨hf', he'⟩ := Choice.find?_of_mem_single ((hs.map units).nodup hn) hsecond
  simp [refuse?, hf, he, hf', he', fuse]

variable [Score α] {w : Affinity α} {fs : List (Fusion α)} {t : Dendrogram α}

-- A fusion keeps the units, and with them what tells the clusters apart.
theorem Runs.replay (h : Runs w ts fs t) (hn : (ts.flatMap units).Nodup) :
    Agglomeration.replay fs ts = some [t] := by
  induction h
  case done => rfl
  case step hc _ ih =>
    have hm := mem_all_of_closest? hc
    rw [Agglomeration.replay, List.foldlM_cons, refuse?_of_mem_all (nodup_map_units hn) hm]
    exact ih <| (units_fuse_perm hm).nodup_iff.mpr hn

end Agglomeration

open Agglomeration

-- The weights may be any, so that any comparison of similarities may come out either way.
theorem cluster_replays {α : Type} [Score α] {w : Affinity α} (hu : w.units.Nodup)
    (hn : w.units ≠ []) :
    let k := cluster w
    ∃ t, k.root = some t ∧
      t.units.Perm w.units ∧
      t.walk.length = 2 * w.units.length - 1 ∧
      k.history.length = w.units.length - 1 ∧
      replay k.history (w.units.map leaf) = some [t] ∧
      k.activated.Nodup ∧
      (∀ us, us ∈ k.activated ↔ ∃ n ∈ t.walk, n.units = us) ∧
      ∀ l r s, fusion l r s ∈ t.walk →
        (fusion l r s).units = l.units ++ r.units ∧
        [l.units, r.units].Sublist k.activated ∧
        (r.isLeaf → l.isLeaf) := by
  intro k
  obtain ⟨t, ht, hr⟩ := cluster_runs hn
  have hp : t.units.Perm w.units := by simpa [List.flatMap_map] using hr.units_perm
  have hl : k.history.length + 1 = w.units.length := by simpa using hr.length_eq
  have ha : Activated k.activated [t] := hr.activated .leaves
  have hw : k.activated.Perm (t.walk.map units) := by simpa using ha.nodes
  refine ⟨t, ht, hp, ?nodes, by omega, ?replay, ?nodup, ?mem, fun l r s hm => ⟨rfl, ?older, ?leaves⟩⟩
  case nodes =>
    have hlen := hw.length_eq
    simp only [Clustering.activated, Fusion.made, List.length_append, List.length_map] at hlen
    change w.units.length + k.history.length = t.walk.length at hlen
    omega
  case replay => exact hr.replay (by simpa [List.flatMap_map] using hu)
  case nodup  => exact hw.nodup_iff.mpr <| nodup_units_walk (hp.nodup_iff.mpr hu)
  case mem    => exact fun us => hw.mem_iff.trans List.mem_map
  case older  => exact ha.fuses t (by simp) l r s hm
  case leaves => exact hr.leavesFirst .leaves l r s hm

-- Five units, of which the two closest pairs are fused first. The unit that is left over is older than
-- the pairs, so that it comes on the left of them.
theorem cluster_replays_five_units :
    let pairs : List (UnitName × UnitName) := [("a", "b"), ("b", "a"), ("d", "e"), ("e", "d")]
    let w : Affinity Float :=
      ⟨["a", "b", "c", "d", "e"], fun u v => if (u, v) ∈ pairs then 0.5 else 0.25⟩
    let k := cluster w
    w.units.Nodup ∧ w.units ≠ [] ∧ ∃ t, k.root = some t ∧ t.walk.length = 9 ∧
      k.activated = [["a"], ["b"], ["c"], ["d"], ["e"], ["a", "b"], ["d", "e"], ["c", "a", "b"],
        ["d", "e", "c", "a", "b"]] ∧
      replay k.history (w.units.map leaf) = some [t] := by
  intro pairs w k
  have hu : w.units.Nodup := by decide
  have hn : w.units ≠ [] := by decide
  obtain ⟨t, ht, -, hw, -, hr, -⟩ := cluster_replays hu hn
  exact ⟨hu, hn, t, ht, hw, by decide +kernel, hr⟩

end ModuleDiscovery
