import Mathlib.Combinatorics.SimpleGraph.Connectivity.Connected
import ModuleDiscovery.Proofs.Clustering.CallShares

namespace ModuleDiscovery

open Dendrogram SimpleGraph

-- The units as vertices, with an edge between two units wherever there are calls between them.
def Coupling.graph (c : Coupling) (us : List UnitName) : SimpleGraph {u // u ∈ us} where
  Adj u v  := 0 < c.count u v
  symm     := ⟨fun _ _ h => c.count_comm ▸ h⟩
  loopless := ⟨fun _ h => by simp [Coupling.count, Pair.of?_eq_none_iff.mpr rfl] at h⟩

-- The edges of the graph are the pairs of units with a positive weight.
structure Affinity.HasGraph {us : List UnitName} (w : Affinity Rat) (G : SimpleGraph {u // u ∈ us}) : Prop
    extends w.IsCoupling where
  adj_iff : ∀ u v : {u // u ∈ us}, G.Adj u v ↔ 0 < w.weight u v

-- The units of a cluster as vertices.
def Dendrogram.vertices (us : List UnitName) (t : Dendrogram Rat) : Set {u // u ∈ us} :=
  {u | u.1 ∈ t.units}

namespace Affinity

variable {w : Affinity Rat} {us vs : List UnitName} {xs : List Rat}

theorem sum_pos_iff (h : ∀ x ∈ xs, 0 ≤ x) : 0 < xs.sum ↔ ∃ x ∈ xs, 0 < x := by
  constructor
  case mp =>
    intro hp
    by_contra! hn
    exact hp.ne' <| List.sum_eq_zero fun x hx => le_antisymm (hn x hx) (h x hx)
  case mpr =>
    rintro ⟨x, hx, hp⟩
    exact hp.trans_le <| List.single_le_sum h x hx

-- A mean of weights is positive if and only if one of them is.
theorem between_pos_iff (hw : ∀ u v, 0 ≤ w.weight u v) :
    0 < w.between us vs ↔ ∃ u ∈ us, ∃ v ∈ vs, 0 < w.weight u v := by
  have hrow (u : UnitName) : ∀ x ∈ vs.map (w.weight u), 0 ≤ x := List.forall_mem_map.mpr fun v _ => hw u v
  have hrows : ∀ x ∈ us.map fun u => (vs.map (w.weight u)).sum, 0 ≤ x :=
    List.forall_mem_map.mpr fun u _ => List.sum_nonneg (hrow u)
  have hsum : 0 < w.crossSum us vs ↔ ∃ u ∈ us, ∃ v ∈ vs, 0 < w.weight u v := by
    simp only [crossSum, sum_pos_iff hrows, sum_pos_iff (hrow _), List.mem_map, exists_exists_and_eq_and]
  rw [← hsum, between_eq]
  by_cases hu : us = []
  case pos => simp [hu, crossSum_nil_left]
  case neg =>
    by_cases hv : vs = []
    case pos => simp [hv, crossSum_nil_right]
    case neg => exact div_pos_iff_of_pos_right (mul_pos (length_pos hu) (length_pos hv))

end Affinity

namespace Agglomeration

section Run

variable {α : Type} [Score α] {w : Affinity α} {n : Nat} {ts : List (Dendrogram α)}

-- Each step makes one cluster out of two.
theorem length_run : (run w n ts).1.length + (run w n ts).2.length = ts.length := by
  induction n generalizing ts
  case zero => simp [run]
  case succ n ih =>
    unfold run
    split
    case h_1 => simp
    case h_2 c s hc =>
      have hf := length_fuse (s := s) (mem_all_of_closest? hc)
      have hr : (run w n (fuse c s)).1.length + (run w n (fuse c s)).2.length = (fuse c s).length := ih
      simp only [List.length_cons]
      omega

theorem run_units_perm : ((run w n ts).2.flatMap units).Perm (ts.flatMap units) := by
  induction n generalizing ts
  case zero => exact .refl _
  case succ n ih =>
    unfold run
    split
    case h_1        => exact .refl _
    case h_2 c s hc => exact ih.trans <| units_fuse_perm (mem_all_of_closest? hc)

end Run

variable {w : Affinity Rat} {ts : List (Dendrogram Rat)} {c : Choice (Dendrogram Rat)} {s : Rat}

section Split

-- The steps of a run from `ts` are first those at positive similarities, which end at the clusters `us`, and
-- then those at zero.
structure Split (w : Affinity Rat) (ts : List (Dendrogram Rat)) (ps zs : List (Fusion Rat))
    (us : List (Dendrogram Rat)) : Prop where
  positive : ∀ f ∈ ps, 0 < f.similarity
  zero     : ∀ f ∈ zs, f.similarity = 0
  reached  : run w ps.length ts = (ps, us)
  apart    : AllWithin w 0 us

variable {ps zs : List (Fusion Rat)} {us : List (Dendrogram Rat)}

theorem Split.step (h : Split w (fuse c s) ps zs us) (hc : closest? w ts = some (c, s)) (hs : 0 < s) :
    Split w ts (⟨c.first.units, c.second.units, s⟩ :: ps) zs us where
  positive := List.forall_mem_cons.mpr ⟨hs, h.positive⟩
  zero     := h.zero
  reached  := by simp only [List.length_cons, run, hc, h.reached]
  apart    := h.apart

theorem Split.length_eq (h : Split w ts ps zs us) : ps.length + us.length = ts.length := by
  have hl : (run w ps.length ts).1.length + (run w ps.length ts).2.length = ts.length := length_run
  rwa [h.reached] at hl

theorem Split.units_perm (h : Split w ts ps zs us) : (us.flatMap units).Perm (ts.flatMap units) := by
  have hp : ((run w ps.length ts).2.flatMap units).Perm (ts.flatMap units) := run_units_perm
  rwa [h.reached] at hp

variable {fs : List (Fusion Rat)} {t : Dendrogram Rat}

theorem nonneg_of_closest? (hw : w.IsCoupling) (hc : closest? w ts = some (c, s)) : 0 ≤ s := by
  obtain ⟨rfl, -⟩ := closest?_rat hw hc
  exact Affinity.between_nonneg hw.nonneg

theorem Runs.similarity_nonneg (h : Runs w ts fs t) (hw : w.IsCoupling) : ∀ f ∈ fs, 0 ≤ f.similarity := by
  induction h
  case done         => simp
  case step hc _ ih => exact List.forall_mem_cons.mpr ⟨nonneg_of_closest? hw hc, ih⟩

-- A step at zero leaves no two clusters that are closer, so that all steps behind it are at zero.
theorem Runs.exists_split (h : Runs w ts fs t) (hw : w.IsCoupling) :
    ∃ ps zs us, fs = ps ++ zs ∧ Split w ts ps zs us := by
  induction h
  case done t =>
    exact ⟨[], [], [t], rfl, ⟨by simp, by simp, rfl, List.pairwise_singleton ..⟩⟩
  case step ts c s fs t hc hr ih =>
    rcases (nonneg_of_closest? hw hc).lt_or_eq with hs | rfl
    case inl =>
      obtain ⟨ps, zs, us, rfl, hsplit⟩ := ih
      exact ⟨_ :: ps, zs, us, rfl, hsplit.step hc hs⟩
    case inr =>
      have ha : AllWithin w 0 ts := (closest?_rat hw hc).2
      have hrun : Runs w ts (⟨c.first.units, c.second.units, 0⟩ :: fs) t := .step hc hr
      refine ⟨[], _, ts, rfl, ⟨by simp, fun f hf => ?_, rfl, ha⟩⟩
      exact le_antisymm (hrun.similarity_le hw ha f hf) (hrun.similarity_nonneg hw f hf)

theorem exists_split_cluster (hw : w.IsCoupling) :
    ∃ ps zs us, (cluster w).history = ps ++ zs ∧ Split w (w.units.map leaf) ps zs us := by
  by_cases hn : w.units = []
  case pos =>
    exact ⟨[], [], [], by simp [cluster, hn, run], by simp, by simp, by simp [hn, run], .nil⟩
  case neg =>
    obtain ⟨t, -, hr⟩ := cluster_runs hn
    exact hr.exists_split hw

end Split

section Components

variable {us : List UnitName} {G : SimpleGraph {u // u ∈ us}} {l r t : Dendrogram Rat}

-- A cluster of units that are connected to each other.
structure WithinComponent (G : SimpleGraph {u // u ∈ us}) (t : Dendrogram Rat) : Prop where
  known     : t.units ⊆ us
  reachable : ∀ u ∈ t.vertices us, ∀ v ∈ t.vertices us, G.Reachable u v

theorem WithinComponent.leaf {u : UnitName} (hu : u ∈ us) : WithinComponent G (.leaf u) where
  known     := List.cons_subset.mpr ⟨hu, List.nil_subset us⟩
  reachable := by
    intro x hx y hy
    obtain rfl : x = y := Subtype.ext <| (List.mem_singleton.mp hx).trans (List.mem_singleton.mp hy).symm
    exact .refl x

-- Calls between two clusters connect all units of one with all units of the other.
theorem WithinComponent.fusion (hG : w.HasGraph G) (hl : WithinComponent G l) (hr : WithinComponent G r)
    (hp : 0 < w.between l.units r.units) : WithinComponent G (fusion l r s) := by
  obtain ⟨u, hu, v, hv, huv⟩ := (Affinity.between_pos_iff hG.nonneg).mp hp
  have hlr : G.Reachable ⟨u, hl.known hu⟩ ⟨v, hr.known hv⟩ := ((hG.adj_iff _ _).mpr huv).reachable
  have hall : ∀ x ∈ (Dendrogram.fusion l r s).vertices us, G.Reachable ⟨u, hl.known hu⟩ x := by
    intro x hx
    cases List.mem_append.mp hx
    case inl hx => exact hl.reachable _ hu x hx
    case inr hx => exact hlr.trans <| hr.reachable _ hv x hx
  constructor
  case known     => exact List.append_subset.mpr ⟨hl.known, hr.known⟩
  case reachable => exact fun x hx y hy => (hall x hx).symm.trans (hall y hy)

-- A step at a positive similarity stays within a component.
theorem withinComponent_fuse (hG : w.HasGraph G) (h : ∀ t ∈ ts, WithinComponent G t)
    (hc : c ∈ Choice.all ts) (hp : 0 < similarity w c) : ∀ t ∈ fuse c s, WithinComponent G t :=
  forall_mem_fuse h hc fun hfirst hsecond => hfirst.fusion hG hsecond hp

theorem withinComponent_run {n : Nat} (hG : w.HasGraph G) (h : ∀ t ∈ ts, WithinComponent G t)
    (hp : ∀ f ∈ (run w n ts).1, 0 < f.similarity) :
    ∀ t ∈ (run w n ts).2, WithinComponent G t := by
  induction n generalizing ts
  case zero => exact h
  case succ n ih =>
    unfold run at hp ⊢
    split at hp
    case h_1 => exact h
    case h_2 c s hc =>
      obtain ⟨hs, hp⟩ := List.forall_mem_cons.mp hp
      obtain ⟨rfl, -⟩ := closest?_rat hG.toIsCoupling hc
      exact ih (withinComponent_fuse hG h (mem_all_of_closest? hc) hs) hp

-- Clusters of all units, each of them within a component, of which no two have calls between them.
structure Components (w : Affinity Rat) (G : SimpleGraph {u // u ∈ us}) (ts : List (Dendrogram Rat)) :
    Prop where
  perm   : (ts.flatMap units).Perm us.eraseDups
  within : ∀ t ∈ ts, WithinComponent G t
  apart  : AllWithin w 0 ts

-- The clusters that a clustering has reached when all steps at positive similarities are made.
theorem components_of_split {ps zs : List (Fusion Rat)} (h : Split w (w.units.map leaf) ps zs ts)
    (hG : w.HasGraph G) (hu : w.units = us.eraseDups) : Components w G ts where
  perm := by simpa [List.flatMap_map, hu] using h.units_perm
  within := by
    have hleaves : ∀ t ∈ w.units.map leaf, WithinComponent G t :=
      List.forall_mem_map.mpr fun u hm => .leaf <| List.mem_eraseDups.mp (hu ▸ hm)
    have hp : ∀ f ∈ (run w ps.length (w.units.map leaf)).1, 0 < f.similarity := by
      rw [h.reached]
      exact h.positive
    have hrun := withinComponent_run hG hleaves hp
    rwa [h.reached] at hrun
  apart := h.apart

namespace Components

variable {u v : {u // u ∈ us}}

theorem exists_mem (h : Components w G ts) (u : {u // u ∈ us}) : ∃ t ∈ ts, u ∈ t.vertices us := by
  have hu : u.1 ∈ ts.flatMap units := h.perm.mem_iff.mpr (List.mem_eraseDups.mpr u.2)
  exact List.mem_flatMap.mp hu

-- An edge to another cluster would make the similarity of the two clusters positive.
theorem mem_of_adj (h : Components w G ts) (hG : w.HasGraph G) (ht : t ∈ ts) (hu : u ∈ t.vertices us)
    (ha : G.Adj u v) : v ∈ t.vertices us := by
  obtain ⟨t', ht', hv⟩ := h.exists_mem v
  by_cases he : t = t'
  case pos => exact he ▸ hv
  case neg =>
    have hs : Std.Symm fun t u : Dendrogram Rat => w.between t.units u.units ≤ 0 :=
      ⟨fun t u htu => by rwa [Affinity.between_comm hG.comm]⟩
    have hle : w.between t.units t'.units ≤ 0 := h.apart.forall ht ht' he
    have hpos : 0 < w.between t.units t'.units :=
      (Affinity.between_pos_iff hG.nonneg).mpr ⟨u, hu, v, hv, (hG.adj_iff u v).mp ha⟩
    exact absurd hpos hle.not_gt

theorem mem_of_reachable (h : Components w G ts) (hG : w.HasGraph G) (ht : t ∈ ts)
    (hu : u ∈ t.vertices us) (hr : G.Reachable u v) : v ∈ t.vertices us := by
  rw [reachable_iff_reflTransGen] at hr
  induction hr
  case refl       => exact hu
  case tail ha ih => exact h.mem_of_adj hG ht ih ha

-- A cluster lies within a component, which it cannot be left from.
theorem vertices_eq_supp (h : Components w G ts) (hG : w.HasGraph G) (ht : t ∈ ts)
    (hu : u ∈ t.vertices us) : t.vertices us = (G.connectedComponentMk u).supp := by
  ext v
  rw [ConnectedComponent.mem_supp_iff, ConnectedComponent.eq]
  constructor
  case mp  => exact fun hv => (h.within t ht).reachable v hv u hu
  case mpr => exact fun hr => h.mem_of_reachable hG ht hu hr.symm

theorem mem_vertices_iff (h : Components w G ts) (hG : w.HasGraph G) (S : Set {u // u ∈ us}) :
    S ∈ ts.map (vertices us) ↔ S ∈ Set.range (ConnectedComponent.supp (G := G)) := by
  rw [List.mem_map, Set.mem_range]
  constructor
  case mp =>
    rintro ⟨t, ht, rfl⟩
    obtain ⟨u, hu⟩ := List.exists_mem_of_ne_nil _ t.units_ne_nil
    exact ⟨G.connectedComponentMk ⟨u, (h.within t ht).known hu⟩, (h.vertices_eq_supp hG ht hu).symm⟩
  case mpr =>
    rintro ⟨C, rfl⟩
    obtain ⟨u, rfl⟩ := C.exists_rep
    obtain ⟨t, ht, hu⟩ := h.exists_mem u
    exact ⟨t, ht, h.vertices_eq_supp hG ht hu⟩

-- Clusters have units, and no two of them have a unit in common.
theorem nodup_vertices (h : Components w G ts) : (ts.map (vertices us)).Nodup := by
  have hn : (ts.flatMap units).Nodup := h.perm.nodup_iff.mpr (nodup_eraseDups us)
  refine List.pairwise_map.mpr <| (List.nodup_flatMap.mp hn).2.imp_of_mem ?_
  intro t t' ht _ hd he
  obtain ⟨u, hu⟩ := List.exists_mem_of_ne_nil _ t.units_ne_nil
  have hu' : ⟨u, (h.within t ht).known hu⟩ ∈ t'.vertices us := he ▸ hu
  exact hd hu hu'

theorem length_eq_card (h : Components w G ts) (hG : w.HasGraph G) :
    ts.length = Nat.card G.ConnectedComponent := by
  classical
  have hs : Set.range (ConnectedComponent.supp (G := G)) = ↑(ts.map (vertices us)).toFinset := by
    ext S
    rw [List.coe_toFinset, Set.mem_ofPred_eq, h.mem_vertices_iff hG]
  rw [← Set.ncard_range_of_injective ConnectedComponent.supp_injective, hs, Set.ncard_coe_finset,
    List.toFinset_card_of_nodup h.nodup_vertices, List.length_map]

end Components
end Components
end Agglomeration

section Calls

variable {g : CallGraph} {allowed us : List UnitName} {sep : Separator} {w : Affinity Rat}

-- A weight is positive if and only if there are calls, as then the total is positive as well.
theorem hasGraph_ofCalls (h : Affinity.ofCoupling? (Coupling.ofCalls g allowed sep) us = some w) :
    w.HasGraph ((Coupling.ofCalls g allowed sep).graph us) where
  toIsCoupling := isCoupling_ofCalls h
  adj_iff u v := by
    have hn := Coupling.count_ofCalls_nonneg g allowed sep u v
    have hl := Coupling.count_ofCalls_le g allowed sep u v
    rw [Affinity.weight_ofCalls h u.2 v.2]
    constructor
    case mp =>
      intro hp
      exact div_pos (Int.cast_pos.mpr hp) (Int.cast_pos.mpr (hp.trans_le hl))
    case mpr =>
      intro hp
      refine hn.lt_of_ne fun hz => ?_
      rw [← hz, Int.cast_zero, zero_div] at hp
      exact lt_irrefl _ hp

end Calls

open Agglomeration

-- The steps `ps` at positive similarities come before the steps `zs` at zero, and the clusters `ts` in between are
-- the components. The first fusion at zero takes the highest similarity, so that no calls are left between any two
-- clusters by then.
theorem positive_fusions_join_components (g : CallGraph) (allowed us : List UnitName) (sep : Separator) :
    let c := Coupling.ofCalls g allowed sep
    let G := c.graph us
    ∃ w : Affinity Rat, Affinity.ofCoupling? c us = some w ∧
      (∀ u ∈ us, ∀ v ∈ us, w.weight u v = c.count u v / c.total) ∧
      ∃ ps zs ts, (cluster w).history = ps ++ zs ∧
        ps.length + Nat.card G.ConnectedComponent = w.units.length ∧
        (∀ f ∈ ps, 0 < f.similarity) ∧ (∀ f ∈ zs, f.similarity = 0) ∧
        run w ps.length (w.units.map leaf) = (ps, ts) ∧
        (ts.flatMap units).Perm w.units ∧ (ts.map (vertices us)).Nodup ∧
        ∀ S, S ∈ ts.map (vertices us) ↔ S ∈ Set.range (ConnectedComponent.supp (G := G)) := by
  intro c G
  obtain ⟨w, hc⟩ := Affinity.exists_ofCalls g allowed us sep
  have hG : w.HasGraph G := hasGraph_ofCalls hc
  have hu := Affinity.units_of_ofCoupling? hc
  obtain ⟨ps, zs, ts, hist, hs⟩ := exists_split_cluster hG.toIsCoupling
  have hcomp : Components w G ts := components_of_split hs hG hu
  refine ⟨w, hc, fun u hu v hv => Affinity.weight_ofCalls hc hu hv, ps, zs, ts, hist, ?_, hs.positive,
    hs.zero, hs.reached, hu ▸ hcomp.perm, hcomp.nodup_vertices, hcomp.mem_vertices_iff hG⟩
  rw [← hcomp.length_eq_card hG, hs.length_eq, List.length_map]

end ModuleDiscovery
