import ModuleDiscovery.Proofs.Clustering.CallShares

namespace ModuleDiscovery

open Dendrogram

-- The weight of all pairs that a step brings together.
def Fusion.bridged (f : Fusion Rat) : Rat :=
  f.similarity * (f.left.length * f.right.length)

-- The weight of all pairs that a node brings together; a leaf brings none.
def Dendrogram.bridged : Dendrogram Rat → Rat
  | leaf _       => 0
  | fusion l r s => s * (l.units.length * r.units.length)

namespace Agglomeration

variable {w : Affinity Rat} {ts : List (Dendrogram Rat)} {t : Dendrogram Rat}

-- The pairs below a fusion are those below its two sides and those across.
theorem Descends.sum_bridged (h : Descends w t) : (t.walk.map bridged).sum = w.pairSum t.units := by
  induction h
  case leaf => simp [walk_leaf, bridged, Affinity.pairSum]
  case fusion l r s hs _ _ _ ihl ihr =>
    rw [walk_fusion, List.map_cons, List.map_append, List.sum_cons, List.sum_append, ihl, ihr, bridged, hs,
      Affinity.between_mul, units_fusion, Affinity.pairSum_append, add_comm]

theorem sum_bridged_fuse {c : Choice (Dendrogram Rat)} {s : Rat} (h : c ∈ Choice.all ts) :
    (((fuse c s).flatMap walk).map bridged).sum =
      ((ts.flatMap walk).map bridged).sum + s * (c.first.units.length * c.second.units.length) := by
  have hp := (((Choice.perm_of_mem_all h).flatMap_right walk).map bridged).sum_eq
  simp only [List.flatMap_cons, List.map_append, List.sum_append] at hp
  simp only [fuse, List.flatMap_append, List.flatMap_singleton, walk_fusion, List.map_append, List.map_cons,
    List.sum_append, List.sum_cons, bridged, ← hp]
  ring

-- What the steps of a run bring together is what the nodes of its dendrogram do beyond those that it started
-- with.
theorem Runs.sum_bridged {fs : List (Fusion Rat)} (h : Runs w ts fs t) :
    ((ts.flatMap walk).map bridged).sum + (fs.map Fusion.bridged).sum = (t.walk.map bridged).sum := by
  induction h
  case done => simp
  case step hc _ ih =>
    rw [← ih, sum_bridged_fuse (mem_all_of_closest? hc), List.map_cons, List.sum_cons, Fusion.bridged,
      add_assoc]

theorem Descends.within_mul {ms : List UnitName} (h : Descends w t)
    (hw : ∀ u v, w.weight u v = w.weight v u) (hn : t.units.Nodup) (hk : t.units ⊆ w.units)
    (hm : ms.Perm t.members) :
    w.within ms * (ms.length * (ms.length - 1) / 2) = (t.walk.map bridged).sum := by
  have hp : ms.Perm t.units := hm.trans (sortedUnits_perm hn)
  have hms : ms.Nodup := hp.nodup_iff.mpr hn
  rw [h.sum_bridged, ← Affinity.pairSum_perm hw hms hp, ← Nat.cast_choose_two,
    Affinity.within_mul hms (List.Subset.trans hp.subset hk)]

end Agglomeration

open Agglomeration

section Cluster

variable {w : Affinity Rat}

theorem cluster_descends {t : Dendrogram Rat} (hw : w.IsCoupling) (h : (cluster w).root = some t) :
    Descends w t := by
  have hn : w.units ≠ [] := fun hn => by simp [cluster_root_of_units_nil hn] at h
  obtain ⟨t', ht', hr⟩ := cluster_runs hn
  obtain rfl := Option.some.inj (h.symm.trans ht')
  exact hr.descends hw .leaves

-- The leaves that a run starts with bring nothing together.
theorem sum_bridged_history :
    ((cluster w).history.map Fusion.bridged).sum =
      ((cluster w).root.elim 0 fun t => (t.walk.map bridged).sum) := by
  by_cases hn : w.units = []
  case pos => simp [cluster, hn, run]
  case neg =>
    obtain ⟨t, ht, hr⟩ := cluster_runs hn
    have hz : (((w.units.map leaf).flatMap walk).map bridged).sum = 0 := by
      simp [List.flatMap_map, walk_leaf, ← List.map_eq_flatMap, Function.comp_def, bridged]
    rw [ht, Option.elim_some, ← hr.sum_bridged, hz, zero_add]

theorem sum_bridged_cluster (hw : w.IsCoupling) (hn : w.units.Nodup) :
    ((cluster w).history.map Fusion.bridged).sum = w.pairSum w.units := by
  have hp : ((cluster w).root.elim [] units).Perm w.units := cluster_units_perm
  rw [sum_bridged_history]
  cases ht : (cluster w).root
  case none =>
    rw [ht] at hp
    rw [← hp.nil_eq]
    rfl
  case some t =>
    rw [ht] at hp
    rw [Affinity.pairSum_perm hw.comm hn hp.symm]
    exact (cluster_descends hw ht).sum_bridged

end Cluster

-- At the root all calls are accounted for, which makes the mean of all pairs.
theorem fusions_sum_to_within (g : CallGraph) (us : List UnitName) (sep : Separator) :
    let c := Coupling.ofCalls g us sep
    ∃ w : Affinity Rat, Affinity.ofCoupling? c us = some w ∧
      (∀ u ∈ us, ∀ v ∈ us, w.weight u v = c.count u v / c.total) ∧
      let n : Rat := w.units.length
      let sum := ((cluster w).history.map Fusion.bridged).sum
      sum = (if 0 < c.total then 1 else 0) ∧
      (w.units ≠ [] → ∃ t, (cluster w).root = some t ∧ (t.walk.map bridged).sum = sum ∧
        (∀ v ∈ t.walk, ∀ ms : List UnitName, ms.Perm v.members →
          w.within ms * (ms.length * (ms.length - 1) / 2) = (v.walk.map bridged).sum) ∧
        (2 ≤ w.units.length → 0 < c.total → ∀ ms : List UnitName, ms.Perm t.members →
          w.within ms = 2 / (n * (n - 1)))) := by
  intro c
  obtain ⟨w, hc⟩ := Affinity.exists_ofCalls g us us sep
  have hw := isCoupling_ofCalls hc
  have hn := Affinity.nodup_of_ofCoupling? hc
  have hs := Affinity.pairSum_units hc
  refine ⟨w, hc, fun u hu v hv => Affinity.weight_ofCalls hc hu hv, ?_⟩
  intro n sum
  refine ⟨(sum_bridged_cluster hw hn).trans hs, fun hne => ?_⟩
  obtain ⟨t, ht, -⟩ := cluster_runs hne
  have hp : t.units.Perm w.units := by simpa [ht] using cluster_units_perm (w := w)
  have hd := cluster_descends hw ht
  refine ⟨t, ht, ?root, ?nodes, ?mean⟩
  case root => simp only [sum, sum_bridged_history, ht, Option.elim_some]
  case nodes =>
    intro v hv ms hm
    have hsub := units_sublist hv
    exact (hd.subtree v hv).within_mul hw.comm (hsub.nodup (hp.nodup_iff.mpr hn))
      (List.Subset.trans hsub.subset hp.subset) hm
  case mean =>
    intro hl ht ms hm
    have hms : ms.Perm w.units := hm.trans (sortedUnits_perm (hp.nodup_iff.mpr hn)) |>.trans hp
    exact Affinity.within_units hc ht hl hms

end ModuleDiscovery
