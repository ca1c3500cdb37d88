import ModuleDiscovery.Proofs.Clustering.ExactMeans
import ModuleDiscovery.Proofs.Clustering.Nodes
import ModuleDiscovery.Proofs.Clustering.Run
import ModuleDiscovery.Proofs.Clustering.Weights

namespace ModuleDiscovery

namespace Dendrogram

-- The similarities of the fusions in a tree.
def similarities {α : Type} : Dendrogram α → List α
  | leaf _       => []
  | fusion l r s => s :: (l.similarities ++ r.similarities)

theorem similarity_mem {α : Type} {t l r : Dendrogram α} {s : α} (h : fusion l r s ∈ t.walk) :
    s ∈ t.similarities := by
  induction t
  case leaf => simp [walk_leaf] at h
  case fusion l' r' s' hl hr =>
    simp only [walk_fusion, List.mem_cons, fusion.injEq, List.mem_append] at h
    simp only [similarities, List.mem_cons, List.mem_append]
    exact h.imp (·.2.2) (·.imp hl hr)

end Dendrogram

-- The weights of any coupling are of this kind.
structure Affinity.IsCoupling (w : Affinity Rat) : Prop where
  comm   : ∀ u v, w.weight u v = w.weight v u
  nonneg : ∀ u v, 0 ≤ w.weight u v

namespace Agglomeration

open Dendrogram

variable {w : Affinity Rat} {ts : List (Dendrogram Rat)} {c : Choice (Dendrogram Rat)} {s x : Rat}

-- No two clusters are closer than `x`.
def AllWithin (w : Affinity Rat) (x : Rat) (ts : List (Dendrogram Rat)) : Prop :=
  ts.Pairwise fun t u => w.between t.units u.units ≤ x

theorem AllWithin.similarity_le (h : AllWithin w x ts) (hc : c ∈ Choice.all ts) : similarity w c ≤ x :=
  Choice.pairwise_iff_forall_all.mp h c hc

theorem AllWithin.perm {us : List (Dendrogram Rat)} (h : AllWithin w x ts) (hw : w.IsCoupling)
    (hp : ts.Perm us) : AllWithin w x us := by
  refine hp.pairwise h ?_
  intro t u htu
  rwa [Affinity.between_comm hw.comm]

-- The fused cluster is no closer to any other one than its two parts were.
theorem AllWithin.fuse (h : AllWithin w x ts) (hw : w.IsCoupling) (hc : c ∈ Choice.all ts) :
    AllWithin w x (fuse c s) := by
  have hp := h.perm hw (Choice.perm_of_mem_all hc).symm
  simp only [AllWithin, List.pairwise_cons, List.mem_cons, forall_eq_or_imp] at hp
  obtain ⟨⟨-, hl⟩, hr, hrest⟩ := hp
  refine List.pairwise_append.mpr ⟨hrest, List.pairwise_singleton .., ?_⟩
  simp only [List.mem_singleton, forall_eq]
  intro t ht
  refine Affinity.between_append_le c.first.units_ne_nil ?left ?right
  case left  => exact Affinity.between_comm hw.comm ▸ hl t ht
  case right => exact Affinity.between_comm hw.comm ▸ hr t ht

theorem closest?_rat (hw : w.IsCoupling) (h : closest? w ts = some (c, s)) :
    s = similarity w c ∧ AllWithin w s ts := by
  have hl : ∀ d ∈ Choice.all ts, (-1 : Rat) < similarity w d := by
    intro d _
    have : 0 ≤ similarity w d := Affinity.between_nonneg hw.nonneg
    linarith
  have ⟨hs, hm⟩ := closest?_firstMax (r := id) (fun _ _ _ => decide_eq_true_iff) hl h
  exact ⟨hs, Choice.pairwise_iff_forall_all.mpr fun d hd => hs ▸ hm.le hd⟩

-- The fusions of a tree are at the means of their two sides, and none is above those below it.
inductive Descends (w : Affinity Rat) : Dendrogram Rat → Prop
  | leaf {u} : Descends w (.leaf u)
  | fusion {l r s} : (s = w.between l.units r.units) →
      (∀ x ∈ l.similarities ++ r.similarities, s ≤ x) → (Descends w l) → (Descends w r) →
      Descends w (.fusion l r s)

-- No two of the clusters are closer than any two that have been fused. A step keeps this: it takes the highest mean
-- between any two clusters, and the mean to the fused cluster lies between the means to its two parts.
structure Settled (w : Affinity Rat) (ts : List (Dendrogram Rat)) : Prop where
  descends : ∀ t ∈ ts, Descends w t
  within   : ∀ t ∈ ts, ∀ x ∈ t.similarities, AllWithin w x ts

theorem Settled.leaves {us : List UnitName} : Settled w (us.map .leaf) where
  descends := by
    simp only [List.mem_map]
    rintro _ ⟨u, -, rfl⟩
    exact .leaf
  within := by
    simp only [List.mem_map]
    rintro _ ⟨u, -, rfl⟩
    simp [similarities]

theorem Settled.fuse (h : Settled w ts) (hw : w.IsCoupling) (hc : closest? w ts = some (c, s)) :
    Settled w (fuse c s) := by
  have hm := mem_all_of_closest? hc
  have ⟨hs, hle⟩ := closest?_rat hw hc
  have hp := Choice.perm_of_mem_all hm
  have hfirst : c.first ∈ ts := hp.mem_iff.mp (by simp)
  have hsecond : c.second ∈ ts := hp.mem_iff.mp (by simp)
  have hrest : ∀ t ∈ c.rest, t ∈ ts := fun t ht => hp.mem_iff.mp (by simp [ht])
  constructor
  case descends =>
    simp only [Agglomeration.fuse, List.mem_append, List.mem_singleton, or_imp, forall_and, forall_eq]
    refine ⟨fun t ht => h.descends t (hrest t ht), ?_⟩
    refine .fusion hs ?_ (h.descends _ hfirst) (h.descends _ hsecond)
    intro x hx
    have hx : AllWithin w x ts :=
      (List.mem_append.mp hx).elim (h.within _ hfirst x) (h.within _ hsecond x)
    exact hs ▸ hx.similarity_le hm
  case within =>
    simp only [Agglomeration.fuse, List.mem_append, List.mem_singleton, or_imp, forall_and, forall_eq]
    refine ⟨fun t ht x hx => (h.within t (hrest t ht) x hx).fuse hw hm, ?_⟩
    simp only [similarities, List.mem_cons, List.mem_append, or_imp, forall_and, forall_eq]
    exact ⟨hle.fuse hw hm, fun x hx => (h.within _ hfirst x hx).fuse hw hm,
      fun x hx => (h.within _ hsecond x hx).fuse hw hm⟩

namespace Runs

variable {fs : List (Fusion Rat)} {t : Dendrogram Rat}

theorem descends (h : Runs w ts fs t) (hw : w.IsCoupling) (hs : Settled w ts) : Descends w t := by
  induction h
  case done         => exact hs.descends _ (by simp)
  case step hc _ ih => exact ih (hs.fuse hw hc)

theorem similarity_le (h : Runs w ts fs t) (hw : w.IsCoupling) (hx : AllWithin w x ts) :
    ∀ f ∈ fs, f.similarity ≤ x := by
  induction h
  case done => simp
  case step hc _ ih =>
    have hm := mem_all_of_closest? hc
    rw [List.forall_mem_cons]
    exact ⟨(closest?_rat hw hc).1 ▸ hx.similarity_le hm, ih (hx.fuse hw hm)⟩

theorem pairwise_similarity (h : Runs w ts fs t) (hw : w.IsCoupling) :
    fs.Pairwise fun f f' => f'.similarity ≤ f.similarity := by
  induction h
  case done => exact .nil
  case step hc hr ih =>
    have ⟨_, hle⟩ := closest?_rat hw hc
    exact .cons (hr.similarity_le hw <| hle.fuse hw (mem_all_of_closest? hc)) ih

end Runs

namespace Descends

variable {t l r : Dendrogram Rat}

-- Every subtree of such a tree is one.
theorem subtree (h : Descends w t) : ∀ n ∈ t.walk, Descends w n := by
  induction h
  case leaf => simp [walk_leaf, Descends.leaf]
  case fusion hs hx hl hr ihl ihr =>
    simp only [walk_fusion, List.mem_cons, List.mem_append, or_imp, forall_and, forall_eq]
    exact ⟨.fusion hs hx hl hr, ihl, ihr⟩

-- The fusions of a tree account for each pair of its leaves once, at the mean of the pairs they bring.
theorem mul_choose_le (h : Descends w t) (hx : ∀ y ∈ t.similarities, x ≤ y) :
    x * t.units.length.choose 2 ≤ w.pairSum t.units := by
  induction h
  case leaf => simp [Affinity.pairSum]
  case fusion l r s hs _ _ _ ihl ihr =>
    simp only [similarities, List.mem_cons, List.mem_append, or_imp, forall_and, forall_eq] at hx
    obtain ⟨hxs, hxl, hxr⟩ := hx
    have hc : x * (l.units.length * r.units.length) ≤ w.crossSum l.units r.units := by
      rw [← Affinity.between_mul, ← hs]
      gcongr
    have hn : ((l.units.length + r.units.length).choose 2 : Rat) =
        l.units.length.choose 2 + r.units.length.choose 2 + l.units.length * r.units.length := by
      rw [Nat.cast_choose_two, Nat.cast_choose_two, Nat.cast_choose_two]
      push_cast
      ring
    rw [units_fusion, List.length_append, Affinity.pairSum_append, hn, mul_add, mul_add]
    exact add_le_add (add_le_add (ihl hxl) (ihr hxr)) hc

theorem similarity_le (h : Descends w (.fusion l r s)) :
    ∀ x ∈ (Dendrogram.fusion l r s).similarities, s ≤ x := by
  have .fusion _ hx _ _ := h
  exact List.forall_mem_cons.mpr ⟨le_rfl, hx⟩

theorem le_within (h : Descends w (.fusion l r s)) (hn : (l.units ++ r.units).Nodup)
    (hk : l.units ++ r.units ⊆ w.units) : s ≤ w.within (l.units ++ r.units) := by
  have hl : 2 ≤ (l.units ++ r.units).length := by
    have := List.length_pos_iff.mpr l.units_ne_nil
    have := List.length_pos_iff.mpr r.units_ne_nil
    rw [List.length_append]
    omega
  exact Affinity.le_within hn hk hl <| h.mul_choose_le h.similarity_le

end Descends
end Agglomeration

section Coupling

variable {g : CallGraph} {allowed us : List UnitName} {sep : Separator} {u v : UnitName}

-- A weight is a count as a share of the total, also where one of them is zero.
theorem weight?_ofCalls :
    let c := Coupling.ofCalls g allowed sep
    c.weight? u v = some ((c.count u v : Rat) / c.total) := by
  intro c
  unfold Coupling.weight? Coupling.share?
  split
  case isTrue h =>
    have hc : c.count u v = 0 := by rw [Coupling.count, Pair.of?_eq_none_iff.mpr h]
    simp [hc, Score.zero_rat]
  case isFalse =>
    split
    case isTrue ht  => simp [ht, Score.zero_rat]
    case isFalse ht => rfl

theorem isCoupling_ofCalls {w : Affinity Rat}
    (h : Affinity.ofCoupling? (Coupling.ofCalls g allowed sep) us = some w) : w.IsCoupling where
  comm _ _ := Affinity.weight_comm h
  nonneg u v := by
    rw [Affinity.weight_of_ofCoupling? h, weight?_ofCalls, Option.getD_some, Score.zero_rat]
    split
    case isTrue =>
      have hn := Coupling.count_ofCalls_nonneg g allowed sep u v
      have ht := hn.trans <| Coupling.count_ofCalls_le g allowed sep u v
      exact div_nonneg (Int.cast_nonneg hn) (Int.cast_nonneg ht)
    case isFalse => exact le_rfl

end Coupling

open Agglomeration Dendrogram

theorem similarities_descend (g : CallGraph) (allowed us : List UnitName) (sep : Separator) :
    let c := Coupling.ofCalls g allowed sep
    ∃ w : Affinity Rat, Affinity.ofCoupling? c us = some w ∧
      (∀ u ∈ us, ∀ v ∈ us, w.weight u v = c.count u v / c.total) ∧
      ((cluster w).history.map Fusion.similarity).Pairwise (· ≥ ·) ∧
      ∀ t, (cluster w).root = some t → ∀ l r s, fusion l r s ∈ t.walk →
        (∀ l' r' s', fusion l' r' s' ∈ (fusion l r s).walk → s ≤ s') ∧
        s ≤ w.within (fusion l r s).units := by
  intro c
  obtain ⟨w, hc⟩ : ∃ w : Affinity Rat, Affinity.ofCoupling? c us = some w :=
    Affinity.exists_ofCoupling? fun u v => ⟨_, weight?_ofCalls⟩
  have hw := isCoupling_ofCalls hc
  have hu := Affinity.units_of_ofCoupling? hc
  refine ⟨w, hc, ?weights, ?history, ?nodes⟩
  case weights =>
    intro u hu' v hv'
    have hm : u ∈ w.units ∧ v ∈ w.units := by simp [hu, hu', hv']
    rw [Affinity.weight_of_ofCoupling? hc, if_pos hm, weight?_ofCalls, Option.getD_some]
  case history =>
    by_cases hn : w.units = []
    case pos => simp [cluster, hn, run]
    case neg =>
      obtain ⟨_, -, hr⟩ := cluster_runs hn
      exact List.pairwise_map.mpr (hr.pairwise_similarity hw)
  case nodes =>
    intro t ht l r s hm
    have hn : w.units ≠ [] := fun hn => by simp [cluster_root_of_units_nil hn] at ht
    obtain ⟨t', ht', hr⟩ := cluster_runs hn
    obtain rfl := Option.some.inj (ht.symm.trans ht')
    have hd := (hr.descends hw .leaves).subtree _ hm
    have hp : t.units.Perm w.units := by simpa [List.flatMap_map] using hr.units_perm
    have hs := units_sublist hm
    refine ⟨fun _ _ _ hm' => hd.similarity_le _ (similarity_mem hm'), hd.le_within ?nodup ?known⟩
    case nodup => exact hs.nodup (hp.nodup_iff.mpr (Affinity.nodup_of_ofCoupling? hc))
    case known  => exact fun u hu => hp.subset (hs.subset hu)

end ModuleDiscovery
