import Mathlib.Data.Sym.Sym2.Order
import ModuleDiscovery.Proofs.Clustering.Activation
import ModuleDiscovery.Proofs.Clustering.CallShares

namespace ModuleDiscovery

open Dendrogram

-- The two sides of a step in no order, with its similarity.
def Fusion.unordered (f : Fusion Rat) : Sym2 (Finset UnitName) × Rat :=
  (s(f.left.toFinset, f.right.toFinset), f.similarity)

-- The units below each node, of which no order remains.
def Dendrogram.families (t : Dendrogram Rat) : Finset (Finset UnitName) :=
  (t.walk.map fun n => n.units.toFinset).toFinset

namespace Affinity

variable {w : Affinity Rat} {us us' vs vs' : List UnitName}

theorem crossSum_perm (hu : us.Perm us') (hv : vs.Perm vs') : w.crossSum us vs = w.crossSum us' vs' := by
  have hrow : (fun u => (vs.map (w.weight u)).sum) = fun u => (vs'.map (w.weight u)).sum :=
    funext fun u => (hv.map _).sum_eq
  rw [crossSum, hrow, (hu.map _).sum_eq, crossSum]

theorem between_perm (hu : us.Perm us') (hv : vs.Perm vs') : w.between us vs = w.between us' vs' := by
  rw [between_eq, between_eq, crossSum_perm hu hv, hu.length_eq, hv.length_eq]

end Affinity

namespace Agglomeration

section Choices

variable (w : Affinity Rat)

-- The choices of two clusters at the highest similarity.
def bestChoices (ts : List (Dendrogram Rat)) : List (Choice (Dendrogram Rat)) :=
  (Choice.all ts).filter fun c => (Choice.all ts).all fun d => similarity w d ≤ similarity w c

-- Whether each of so many steps has a single choice at the highest similarity.
def Untied (n : Nat) (ts : List (Dendrogram Rat)) : Prop :=
  ∀ i < n, (bestChoices w (run w i ts).2).length = 1

instance (n : Nat) (ts : List (Dendrogram Rat)) : Decidable (Untied w n ts) :=
  inferInstanceAs (Decidable (∀ i < n, _))

end Choices

-- The units of a cluster in no order.
def bag (t : Dendrogram Rat) : Multiset UnitName :=
  t.units

-- The units of the two clusters of a choice, neither of them first.
def sides (c : Choice (Dendrogram Rat)) : Sym2 (Multiset UnitName) :=
  s(bag c.first, bag c.second)

variable {w w' : Affinity Rat} {ts ts' : List (Dendrogram Rat)} {c c' : Choice (Dendrogram Rat)} {s s' : Rat}

theorem mem_bestChoices :
    c ∈ bestChoices w ts ↔ c ∈ Choice.all ts ∧ ∀ d ∈ Choice.all ts, similarity w d ≤ similarity w c := by
  simp [bestChoices]

theorem similarity_congr (hw : w.IsCoupling) (h : sides c = sides c') : similarity w c = similarity w c' := by
  cases Sym2.eq_iff.mp h
  case inl h => exact Affinity.between_perm (Multiset.coe_eq_coe.mp h.1) (Multiset.coe_eq_coe.mp h.2)
  case inr h =>
    rw [similarity, Affinity.between_comm hw.comm]
    exact Affinity.between_perm (Multiset.coe_eq_coe.mp h.2) (Multiset.coe_eq_coe.mp h.1)

-- Clusters with the same units leave the same choices.
theorem exists_sides_eq (h : (ts'.map bag).Perm (ts.map bag)) (hc : c' ∈ Choice.all ts') :
    ∃ c ∈ Choice.all ts, sides c = sides c' ∧ (c.rest.map bag).Perm (c'.rest.map bag) :=
  Choice.exists_mem_all_of_perm (((Choice.perm_of_mem_all hc).map bag).trans h)

theorem mem_bestChoices_of_closest? (hw : w.IsCoupling) (h : closest? w ts = some (c, s)) :
    c ∈ bestChoices w ts := by
  obtain ⟨rfl, hs⟩ := closest?_rat hw h
  exact mem_bestChoices.mpr ⟨mem_all_of_closest? h, fun _ => hs.similarity_le⟩

-- What one run finds, the other one could choose as well, at the same similarity.
theorem closest?_reordered (hw : w.IsCoupling) (ht : (ts'.map bag).Perm (ts.map bag))
    (hu : (bestChoices w ts).length = 1) (hc : closest? w ts = some (c, s))
    (hc' : closest? w ts' = some (c', s')) :
    sides c' = sides c ∧ s' = s ∧ (c'.rest.map bag).Perm (c.rest.map bag) := by
  obtain ⟨rfl, hs⟩   := closest?_rat hw hc
  obtain ⟨rfl, hs'⟩  := closest?_rat hw hc'
  obtain ⟨d, hd, hds, hdr⟩ := exists_sides_eq ht (mem_all_of_closest? hc')
  obtain ⟨d', hd', hds', -⟩ := exists_sides_eq ht.symm (mem_all_of_closest? hc)
  have hle : similarity w c ≤ similarity w d := by
    rw [← similarity_congr hw hds', similarity_congr hw hds]
    exact hs'.similarity_le hd'
  have hb : d ∈ bestChoices w ts := mem_bestChoices.mpr ⟨hd, fun e he => (hs.similarity_le he).trans hle⟩
  obtain ⟨e, he⟩ := List.length_eq_one_iff.mp hu
  have hcb := mem_bestChoices_of_closest? hw hc
  rw [he, List.mem_singleton] at hb hcb
  obtain rfl : d = c := hb.trans hcb.symm
  exact ⟨hds.symm, (similarity_congr hw hds).symm, hdr.symm⟩

theorem bag_fusion {l r : Dendrogram Rat} : bag (.fusion l r s) = bag l + bag r :=
  (Multiset.coe_add ..).symm

theorem fuse_reordered (hs : sides c' = sides c) (hr : (c'.rest.map bag).Perm (c.rest.map bag)) :
    ((fuse c' s).map bag).Perm ((fuse c s).map bag) := by
  have hb : bag c'.first + bag c'.second = bag c.first + bag c.second := by
    cases Sym2.eq_iff.mp hs
    case inl h => rw [h.1, h.2]
    case inr h => rw [h.1, h.2, add_comm]
  simp only [fuse, List.map_append, List.map_cons, List.map_nil, bag_fusion, hb]
  exact hr.append_right _

theorem unordered_eq (h : sides c' = sides c) :
    Fusion.unordered ⟨c'.first.units, c'.second.units, s⟩ = Fusion.unordered ⟨c.first.units, c.second.units, s⟩ := by
  have hf := congrArg (Sym2.map Multiset.toFinset) h
  exact congrArg (·, s) hf

theorem Untied.step {n : Nat} (h : Untied w (n + 1) ts) (hc : closest? w ts = some (c, s)) :
    Untied w n (fuse c s) := by
  intro i hi
  have hb := h (i + 1) (by omega)
  rwa [run, hc] at hb

theorem two_le_length (h : (bestChoices w ts).length = 1) : 2 ≤ ts.length := by
  obtain ⟨c, hc⟩ := List.length_eq_one_iff.mp h
  have hm : c ∈ bestChoices w ts := hc ▸ List.mem_singleton_self c
  have := Choice.length_rest_of_mem_all (mem_bestChoices.mp hm).1
  omega

theorem run_reordered (hw : w.IsCoupling) {n : Nat} (ht : (ts'.map bag).Perm (ts.map bag))
    (hu : Untied w n ts) :
    (run w n ts').1.map Fusion.unordered = (run w n ts).1.map Fusion.unordered := by
  induction n generalizing ts ts'
  case zero => rfl
  case succ n ih =>
    have hb : (bestChoices w ts).length = 1 := hu 0 (by omega)
    have hl : ts'.length = ts.length := by simpa using ht.length_eq
    obtain ⟨c, s, hc⟩   := exists_closest? (w := w) (two_le_length hb)
    obtain ⟨c', s', hc'⟩ := exists_closest? (w := w) (hl ▸ two_le_length hb)
    obtain ⟨hs, rfl, hr⟩ := closest?_reordered hw ht hb hc hc'
    simp only [run, hc, hc', List.map_cons, unordered_eq hs, ih (fuse_reordered hs hr) (hu.step hc)]

-- A run looks at weights and at nothing else of an affinity.
theorem run_of_weight_eq (h : w'.weight = w.weight) (n : Nat) (ts : List (Dendrogram Rat)) :
    run w' n ts = run w n ts := by
  have hc : closest? w' = closest? w := by
    cases w
    cases w'
    cases h
    rfl
  induction n generalizing ts
  case zero      => rfl
  case succ n ih => simp only [run, hc, ih]

end Agglomeration

open Agglomeration

section Cluster

variable {w w' : Affinity Rat}

theorem history_reordered (hw : w.IsCoupling) (hu : w'.units.Perm w.units) (he : w'.weight = w.weight)
    (hn : Untied w (w.units.length - 1) (w.units.map leaf)) :
    (cluster w').history.map Fusion.unordered = (cluster w).history.map Fusion.unordered := by
  have ht : ((w'.units.map leaf).map bag).Perm ((w.units.map leaf).map bag) := (hu.map leaf).map bag
  simp only [cluster, List.length_map, run_of_weight_eq he, hu.length_eq]
  exact run_reordered hw ht hn

-- The family of a dendrogram can be told from the units and the steps.
theorem families_of_root {t : Dendrogram Rat} (h : (cluster w).root = some t) :
    t.families = (w.units.map ({·})).toFinset ∪
      (((cluster w).history.map Fusion.unordered).map (·.1.sup)).toFinset := by
  have hn : w.units ≠ [] := fun hn => by simp [cluster_root_of_units_nil hn] at h
  obtain ⟨t', ht', hr⟩ := cluster_runs hn
  obtain rfl := Option.some.inj (h.symm.trans ht')
  have ha := (hr.activated .leaves).nodes.map List.toFinset
  have hl : List.toFinset ∘ ([·]) = fun u : UnitName => ({u} : Finset UnitName) :=
    funext fun u => List.toFinset_cons
  have hs : List.toFinset ∘ (fun f : Fusion Rat => f.left ++ f.right) = fun f => f.unordered.1.sup :=
    funext fun f => List.toFinset_append
  simp only [List.flatMap_singleton, Fusion.made, List.map_append, List.map_map, hl, hs] at ha
  rw [families, ← List.toFinset_append, List.map_map]
  exact List.toFinset_eq_of_perm _ _ ha.symm

theorem families_reordered (hu : w'.units.Perm w.units)
    (hh : (cluster w').history.map Fusion.unordered = (cluster w).history.map Fusion.unordered) :
    (cluster w').root.map families = (cluster w).root.map families := by
  by_cases hn : w.units = []
  case pos =>
    have hn' : w'.units = [] := (hn ▸ hu).eq_nil
    rw [cluster_root_of_units_nil hn, cluster_root_of_units_nil hn']
  case neg =>
    have hn' : w'.units ≠ [] := fun h => hn (h ▸ hu).symm.eq_nil
    obtain ⟨t, ht, -⟩   := cluster_runs hn
    obtain ⟨t', ht', -⟩ := cluster_runs hn'
    rw [ht, ht', Option.map_some, Option.map_some, families_of_root ht, families_of_root ht', hh,
      List.toFinset_eq_of_perm _ _ (hu.map _)]

end Cluster

section Calls

variable {g : CallGraph} {sep : Separator} {allowed allowed' us us' : List UnitName} {w w' : Affinity Rat}

-- Whether a call counts depends on which units are allowed, and not on their order.
theorem pairs_of_perm (h : allowed.Perm allowed') :
    Coupling.pairOf? sep allowed = Coupling.pairOf? sep allowed' := by
  funext c
  simp only [Coupling.pairOf?, h.mem_iff]

theorem weight?_of_perm (h : allowed.Perm allowed') (u v : UnitName) :
    (Coupling.ofCalls g allowed' sep).weight? (α := Rat) u v = (Coupling.ofCalls g allowed sep).weight? u v := by
  have hc : Coupling.ofCalls g allowed' sep =
      { Coupling.ofCalls g allowed sep with units := allowed'.eraseDups } := by
    simp only [Coupling.ofCalls, pairs_of_perm h]
  rw [hc]
  rfl

theorem weight_of_perm (ha : allowed.Perm allowed') (hu : us.Perm us')
    (hw : Affinity.ofCoupling? (Coupling.ofCalls g allowed sep) us = some w)
    (hw' : Affinity.ofCoupling? (Coupling.ofCalls g allowed' sep) us' = some w') : w'.weight = w.weight := by
  funext u v
  simp only [Affinity.weight_of_ofCoupling? hw, Affinity.weight_of_ofCoupling? hw', weight?_of_perm ha,
    Affinity.mem_units_of_ofCoupling? hw, Affinity.mem_units_of_ofCoupling? hw', hu.mem_iff]

theorem units_of_perm (hu : us.Perm us')
    (hw : Affinity.ofCoupling? (Coupling.ofCalls g allowed sep) us = some w)
    (hw' : Affinity.ofCoupling? (Coupling.ofCalls g allowed' sep) us' = some w') : w'.units.Perm w.units := by
  have hn  := Affinity.nodup_of_ofCoupling? hw
  have hn' := Affinity.nodup_of_ofCoupling? hw'
  refine (List.perm_ext_iff_of_nodup hn' hn).mpr fun u => ?_
  rw [Affinity.mem_units_of_ofCoupling? hw, Affinity.mem_units_of_ofCoupling? hw', hu.mem_iff]

end Calls

-- The runs hold the same clusters in different orders, each with its units and its two sides in some order. A mean
-- does not depend on any of these, so that as long as there is a single choice at the highest one, both runs have to
-- take it. The units may be all of the allowed ones or any others, and each of the two lists may be in another order.
theorem untied_clustering_ignores_order (g : CallGraph) (sep : Separator)
    {allowed allowed' us us' : List UnitName} (ha : allowed.Perm allowed') (hu : us.Perm us') :
    let c := Coupling.ofCalls g allowed sep
    ∃ w w' : Affinity Rat, Affinity.ofCoupling? c us = some w ∧
      Affinity.ofCoupling? (Coupling.ofCalls g allowed' sep) us' = some w' ∧
      (∀ u ∈ us, ∀ v ∈ us, w.weight u v = c.count u v / c.total) ∧
      (Untied w (w.units.length - 1) (w.units.map leaf) →
        (cluster w').history.map Fusion.unordered = (cluster w).history.map Fusion.unordered ∧
        (cluster w').root.map families = (cluster w).root.map families) := by
  intro c
  obtain ⟨w, hw⟩   := Affinity.exists_ofCalls g allowed us sep
  obtain ⟨w', hw'⟩ := Affinity.exists_ofCalls g allowed' us' sep
  have hp := units_of_perm hu hw hw'
  refine ⟨w, w', hw, hw', fun u hu v hv => Affinity.weight_ofCalls hw hu hv, fun hn => ?_⟩
  have hh := history_reordered (isCoupling_ofCalls hw) hp (weight_of_perm ha hu hw hw') hn
  exact ⟨hh, families_reordered hp hh⟩

-- Three units in order of their names and the other way round. The two that have two calls between them are fused
-- first.
theorem untied_clustering_ignores_order_three_units :
    let cs : List Call := [⟨"a.f", "b.g"⟩, ⟨"b.g", "a.f"⟩, ⟨"a.f", "c.k"⟩]
    let g   := (CallGraph.empty.merge cs).1
    let us  := ["a", "b", "c"]
    let us' := ["c", "b", "a"]
    us.Perm us' ∧ ∃ w w' : Affinity Rat,
      Affinity.ofCoupling? (Coupling.ofCalls g us .dot) us = some w ∧
      Affinity.ofCoupling? (Coupling.ofCalls g us' .dot) us' = some w' ∧
      Untied w 2 (w.units.map leaf) ∧
      (cluster w).history.map Fusion.unordered = [(s({"a"}, {"b"}), 2 / 3), (s({"c"}, {"a", "b"}), 1 / 6)] ∧
      (cluster w').history.map Fusion.unordered = (cluster w).history.map Fusion.unordered := by
  intro cs g us us'
  have hp : us.Perm us' := by decide
  obtain ⟨w, w', hw, hw', -, hu⟩ := untied_clustering_ignores_order g .dot hp hp
  have hn : (Affinity.ofCoupling? (Coupling.ofCalls g us .dot) us : Option (Affinity Rat)).all fun w =>
      w.units.length = 3 ∧ Untied w 2 (w.units.map leaf) ∧ (cluster w).history.map Fusion.unordered =
        [(s({"a"}, {"b"}), 2 / 3), (s({"c"}, {"a", "b"}), 1 / 6)] := by
    decide +kernel
  rw [hw, Option.all_some, decide_eq_true_eq] at hn
  obtain ⟨hl, hn, hh⟩ := hn
  exact ⟨hp, w, w', hw, hw', hn, hh, (hu (by rwa [hl])).1⟩

end ModuleDiscovery
