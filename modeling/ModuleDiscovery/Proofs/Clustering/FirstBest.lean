import ModuleDiscovery.Proofs.Clustering.Run
import ModuleDiscovery.Proofs.Clustering.Weights
import ModuleDiscovery.Proofs.Graph.Shares
import ModuleDiscovery.Proofs.Number.Nonnegative

namespace ModuleDiscovery

open Number

section Means

namespace Affinity

variable {w : Affinity Float} {us vs : List UnitName} {gs : List (List UnitName)}

-- There are no two clusters of which the mean is a nan or too low for the search to start below it.
def AllAbove (w : Affinity Float) (gs : List (List UnitName)) : Prop :=
  gs.Pairwise fun us vs => -1.0 < w.between us vs

theorem nonneg_weight_ofCalls {g : CallGraph} {allowed : List UnitName} {sep : Separator}
    (h : ofCoupling? (Coupling.ofCalls g allowed sep) us = some w) (u v : UnitName) : 0.0 ≤ w.weight u v :=
  weight_ofCalls_cases h nonneg_zero (fun _ _ _ hn hd hx => nonneg_floatOfRatio hn (hn.trans hd) hx) u v

-- With so many pairs that their number is no finite double, the mean might be a nan.
theorem nonneg_between (hw : ∀ u v, 0.0 ≤ w.weight u v) (hl : (us.length * vs.length).log2 < 1023) :
    0.0 ≤ w.between us vs := by
  unfold between
  split
  case isTrue => exact nonneg_zero
  case isFalse hn =>
    simp only [Bool.or_eq_true, List.isEmpty_iff, not_or, ← List.length_eq_zero_iff] at hn
    refine nonneg_div_ofNat (nonneg_sum ?_) (Nat.mul_ne_zero hn.1 hn.2) hl
    simp only [List.mem_flatMap, List.mem_map]
    rintro _ ⟨u, -, v, -, rfl⟩
    exact hw u v

theorem AllAbove.of_nonneg (hw : ∀ u v, 0.0 ≤ w.weight u v) (hl : gs.flatten.length < 2 ^ 63) : AllAbove w gs := by
  refine List.pairwise_of_forall_mem_list fun us hus vs hvs => neg_one_lt_of_nonneg (nonneg_between hw ?_)
  have hu := (List.sublist_flatten_of_mem hus).length_le
  have hv := (List.sublist_flatten_of_mem hvs).length_le
  have hp : us.length * vs.length < 2 ^ 63 * 2 ^ 63 := Nat.mul_lt_mul'' (by omega) (by omega)
  rw [← Nat.pow_add] at hp
  by_cases hz : us.length * vs.length = 0
  case pos => rw [hz]; decide
  case neg => exact ((Nat.log2_lt hz).mpr hp).trans (by decide)

end Affinity
end Means

-- A step at the mean of the two clusters that it fuses, which no other two exceed and no earlier two attain. Two
-- clusters come earlier by the place of the first of them, or by that of the second if the first is the same.
structure Fusion.IsFirstBest (w : Affinity Float) (gs : List (List UnitName)) (i j : Nat) (f : Fusion Float) :
    Prop where
  mean     : f.similarity = w.between f.left f.right
  greatest : gs.Pairwise fun us vs => w.between us vs ≤ f.similarity
  first    : ∀ k l us vs, k < l → k < i ∨ k = i ∧ l < j → gs[k]? = some us → gs[l]? = some vs →
    w.between us vs < f.similarity

namespace Agglomeration

open Dendrogram

-- Steps that go on until no two clusters are left. Each one takes the clusters at two places out, and puts their
-- fusion behind all others. The property is one of the clusters before a step, of its two places and of the step.
inductive Steps {α : Type} (P : List (List UnitName) → Nat → Nat → Fusion α → Prop) :
    List (List UnitName) → List (Fusion α) → Prop
  | done {gs} : (gs.length ≤ 1) → Steps P gs []
  | step {gs i j f fs} : (i < j) → (gs[i]? = some f.left) → (gs[j]? = some f.right) → (P gs i j f) →
      (Steps P ((gs.eraseIdx j).eraseIdx i ++ [f.left ++ f.right]) fs) → Steps P gs (f :: fs)

theorem Steps.imp {α : Type} {P Q : List (List UnitName) → Nat → Nat → Fusion α → Prop}
    {gs : List (List UnitName)} {fs : List (Fusion α)} (h : Steps P gs fs)
    (hi : ∀ gs i j f, P gs i j f → Q gs i j f) : Steps Q gs fs := by
  induction h
  case done hl                      => exact .done hl
  case step hlt hleft hright hp _ ih => exact .step hlt hleft hright (hi _ _ _ _ hp) ih

variable {w : Affinity Float} {ts : List (Dendrogram Float)} {c : Choice (Dendrogram Float)} {s : Float}
  {fs : List (Fusion Float)} {t : Dendrogram Float}

theorem gt_iff_rank_lt (x y : Float) (h : rank Score.least ≤ rank y) : Score.gt x y ↔ rank y < rank x := by
  have hl : rank Score.least ≠ ⊥ := (rank_ne_bot_of_lt (neg_one_lt_of_nonneg nonneg_zero)).1
  rw [← float_lt_iff_rank_lt (ne_bot_of_le_ne_bot hl h)]
  exact decide_eq_true_iff

theorem map_units_fuse {i j : Nat} (h : Choice.At ts i j c) : (fuse c s).map units =
    ((ts.map units).eraseIdx j).eraseIdx i ++ [c.first.units ++ c.second.units] := by
  rw [fuse, List.map_append, h.rest, List.eraseIdx_map, List.eraseIdx_map]
  rfl

theorem exists_at_of_closest? (h : closest? w ts = some (c, s)) :
    ∃ i j, Choice.At ts i j c ∧
      (w.AllAbove (ts.map units) → Fusion.IsFirstBest w (ts.map units) i j ⟨c.first.units, c.second.units, s⟩) := by
  by_cases ha : w.AllAbove (ts.map units)
  case neg =>
    obtain ⟨n, hn⟩ := List.mem_iff_getElem?.mp (mem_all_of_closest? h)
    obtain ⟨i, j, hat, -⟩ := Choice.exists_at_of_getElem? hn
    exact ⟨i, j, hat, fun h => absurd h ha⟩
  case pos =>
    have hl : ∀ d ∈ Choice.all ts, -1.0 < similarity w d :=
      Choice.pairwise_iff_forall_all.mp (List.pairwise_map.mp ha)
    obtain ⟨hs, hm⟩ := closest?_firstMax gt_iff_rank_lt (fun d hd => rank_lt_of_lt (hl d hd)) h
    have hle : ∀ d ∈ Choice.all ts, similarity w d ≤ s := by
      intro d hd
      rw [hs, float_le_iff_rank_le (rank_ne_bot_of_lt (hl d hd)).2]
      exact hm.le hd
    obtain ⟨before, after, hall, hlt, -⟩ := hm
    have hn : (Choice.all ts)[before.length]? = some c := by simp [hall]
    obtain ⟨i, j, hat, hbefore⟩ := Choice.exists_at_of_getElem? hn
    simp only [hall, List.take_left] at hbefore
    refine ⟨i, j, hat, fun _ => ⟨hs, ?greatest, ?first⟩⟩
    case greatest => exact List.pairwise_map.mpr (Choice.pairwise_iff_forall_all.mpr hle)
    case first =>
      intro k l us vs hkl hearlier hus hvs
      simp only [List.getElem?_map, Option.map_eq_some_iff] at hus hvs
      obtain ⟨x, hx, rfl⟩ := hus
      obtain ⟨y, hy, rfl⟩ := hvs
      have hd := hbefore k l ⟨x, y, _⟩ ⟨hkl, hx, hy, rfl⟩ hearlier
      have hd' : _ ∈ Choice.all ts := hall ▸ List.mem_append_left _ hd
      refine (float_lt_iff_rank_lt (rank_ne_bot_of_lt (hl _ hd')).2).mpr ?_
      rw [hs]
      exact hlt _ hd

theorem Runs.steps {us : List UnitName} (h : Runs w ts fs t) (hp : (ts.flatMap units).Perm us) :
    Steps (fun gs i j f => gs.flatten.Perm us ∧ (w.AllAbove gs → f.IsFirstBest w gs i j)) (ts.map units) fs := by
  induction h
  case done => exact .done le_rfl
  case step hc _ ih =>
    obtain ⟨i, j, hat, hbest⟩ := exists_at_of_closest? hc
    have hi := ih ((units_fuse_perm (mem_all_of_closest? hc)).trans hp)
    rw [map_units_fuse hat] at hi
    refine .step hat.lt ?left ?right ⟨List.flatMap_def ▸ hp, hbest⟩ hi
    case left  => rw [List.getElem?_map, hat.first, Option.map_some]
    case right => rw [List.getElem?_map, hat.second, Option.map_some]

end Agglomeration

open Agglomeration

theorem cluster_steps (w : Affinity Float) :
    Steps (fun gs i j f => gs.flatten.Perm w.units ∧ (w.AllAbove gs → f.IsFirstBest w gs i j))
      (w.units.map ([·])) (cluster w).history := by
  by_cases hn : w.units = []
  case pos =>
    simp only [cluster, hn]
    exact .done (Nat.zero_le 1)
  case neg =>
    obtain ⟨t, -, hr⟩ := cluster_runs hn
    have hp : ((w.units.map Dendrogram.leaf).flatMap (Dendrogram.units (α := Float))).Perm w.units := by
      simp [List.flatMap_map]
    simpa [Function.comp_def] using hr.steps hp

-- The means of any affinity have to be above the least score only at the step in question. A list has no more
-- than so many units, which are too few for a mean of calls to be anything else.
theorem cluster_fuses_first_best :
    (∀ w : Affinity Float, Steps (fun gs i j f => w.AllAbove gs → f.IsFirstBest w gs i j)
      (w.units.map ([·])) (cluster w).history) ∧
    ∀ (g : CallGraph) (allowed us : List UnitName) (sep : Separator), us.length < 2 ^ 63 →
      ∃ w : Affinity Float, Affinity.ofCoupling? (Coupling.ofCalls g allowed sep) us = some w ∧
        w.units = us.eraseDups ∧
        Steps (fun gs i j f => w.AllAbove gs ∧ f.IsFirstBest w gs i j) (w.units.map ([·])) (cluster w).history := by
  refine ⟨fun w => (cluster_steps w).imp fun _ _ _ _ h => h.2, fun g allowed us sep hl => ?_⟩
  obtain ⟨w, hw⟩ : ∃ w : Affinity Float, Affinity.ofCoupling? (Coupling.ofCalls g allowed sep) us = some w :=
    Affinity.exists_ofCoupling? Coupling.exists_weight?
  have hu : w.units.length ≤ us.length :=
    ((Affinity.nodup_of_ofCoupling? hw).subperm fun _ => (Affinity.mem_units_of_ofCoupling? hw).mp).length_le
  refine ⟨w, hw, Affinity.units_of_ofCoupling? hw, (cluster_steps w).imp fun gs i j f h => ?_⟩
  have hgs : gs.flatten.length < 2 ^ 63 := by
    rw [h.1.length_eq]
    exact hu.trans_lt hl
  have ha := Affinity.AllAbove.of_nonneg (Affinity.nonneg_weight_ofCalls hw) hgs
  exact ⟨ha, h.2 ha⟩

-- Two pairs at the same mean, of which the one that comes first is fused first. Then these are the only clusters
-- that are left, in the order in which they were made.
theorem cluster_fuses_first_best_two_pairs :
    let cs : List Call := [⟨"a.f", "b.g"⟩, ⟨"c.k", "d.l"⟩]
    let g  := (CallGraph.empty.merge cs).1
    let us := ["c", "d", "a", "b"]
    us.length < 2 ^ 63 ∧ ∃ w : Affinity Float, Affinity.ofCoupling? (Coupling.ofCalls g us .dot) us = some w ∧
      Steps (fun gs i j f => w.AllAbove gs ∧ f.IsFirstBest w gs i j) [["c"], ["d"], ["a"], ["b"]]
        (cluster w).history ∧
      (cluster w).history.map (fun f => (f.left, f.right)) =
        [(["c"], ["d"]), (["a"], ["b"]), (["c", "d"], ["a", "b"])] ∧
      (cluster w).history.all fun f => f.similarity == if f.left.length = 1 then 0.5 else 0.0 := by
  intro cs g us
  have hl : us.length < 2 ^ 63 := by decide
  obtain ⟨w, hw, hu, hs⟩ := cluster_fuses_first_best.2 g us us .dot hl
  have hh : (Affinity.ofCoupling? (Coupling.ofCalls g us .dot) us : Option (Affinity Float)).all fun w =>
      (cluster w).history.map (fun f => (f.left, f.right)) =
        [(["c"], ["d"]), (["a"], ["b"]), (["c", "d"], ["a", "b"])] ∧
      (cluster w).history.all fun f => f.similarity == if f.left.length = 1 then 0.5 else 0.0 := by
    decide +kernel
  rw [hw, Option.all_some, decide_eq_true_eq] at hh
  rw [hu] at hs
  exact ⟨hl, w, hw, hs, hh⟩

end ModuleDiscovery
