import ModuleDiscovery.Proofs.Clustering.Accounting
import ModuleDiscovery.Proofs.Extraction.ThresholdCut
import ModuleDiscovery.Proofs.Extraction.Partition
import ModuleDiscovery.Proofs.Graph.Groups

namespace ModuleDiscovery

namespace Extraction

section Mean

variable {α : Type} [Score α] {w : Affinity α} {x : α} {m : Module α} {ms ms' : List (Module α)}
  {limit n : Nat}

-- The average of a module is the mean within its units, which may be listed in any order.
def IsMean (w : Affinity α) (m : Module α) : Prop :=
  ∃ us : List UnitName, us.Perm m.members ∧ m.average = w.within us

theorem isMean_join {m n : Module α} : IsMean w (join w m n) :=
  ⟨_, .refl _, rfl⟩

theorem isMean_cutModules {root : Option (Dendrogram α)} (h : (root.elim [] Dendrogram.units).Nodup) :
    ∀ m ∈ cutModules w x limit root, IsMean w m := by
  cases root
  case none => simp [cutModules]
  case some t =>
    rw [Option.elim_some, ← cut_units (w := w) (x := x) limit 0 t] at h
    simp only [cutModules, List.mem_map]
    rintro _ ⟨b, hb, rfl⟩
    exact ⟨_, (members_ofUnits_perm ((List.nodup_flatMap.mp h).1 b hb)).symm, rfl⟩

-- A join takes the average anew and leaves the other modules as they are.
theorem isMean_joinSmallest? (h : ∀ m ∈ ms, IsMean w m) (hj : joinSmallest? w ms = some ms') :
    ∀ m ∈ ms', IsMean w m := by
  have ⟨c, hc, he⟩ := joinSmallest?_eq_some hj
  simp only [he, List.mem_append, List.mem_singleton, or_imp, forall_and, forall_eq]
  exact ⟨fun m hm => h m ((Choice.rest_sublist_of_mem_all hc).subset hm), isMean_join⟩

theorem Repairs.isMean (h : Repairs w limit ms n ms') (hm : ∀ m ∈ ms, IsMean w m) :
    ∀ m ∈ ms', IsMean w m := by
  induction h
  case fits         => exact hm
  case join hj _ ih => exact ih (isMean_joinSmallest? hm hj)

end Mean

section Calls

variable {g : CallGraph} {us : List UnitName} {sep : Separator} {w : Affinity Rat} {m : Module Rat}
  {ms : List (Module Rat)}

theorem pairCount_eq (m : Module Rat) : m.pairCount = m.members.length.choose 2 := by
  rw [Nat.choose_two_right]
  rfl

-- The share of the calls within a module, also of a module without pairs.
theorem IsMean.average_mul (h : IsMean w m) (hc : Affinity.ofCoupling? (Coupling.ofCalls g us sep) us = some w)
    (hn : m.members.Nodup) (hu : m.members ⊆ us) :
    m.average * m.pairCount = (g.crossCalls sep m.members).ncard / (Coupling.ofCalls g us sep).total := by
  obtain ⟨vs, hp, ha⟩ := h
  have hvs : vs.Nodup := hp.nodup_iff.mpr hn
  have hvu : vs ⊆ us := List.Subset.trans hp.subset hu
  have hk : vs ⊆ w.units := fun v hv => (Affinity.mem_units_of_ofCoupling? hc).mpr (hvu hv)
  rw [ha, pairCount_eq, ← hp.length_eq, Affinity.within_mul hvs hk, Affinity.pairSum_ofCalls hc hvs hvu hvu,
    CallGraph.crossCalls_congr fun _ => hp.mem_iff]

theorem IsMean.average_eq (h : IsMean w m)
    (hc : Affinity.ofCoupling? (Coupling.ofCalls g us sep) us = some w) (hn : m.members.Nodup)
    (hu : m.members ⊆ us) :
    m.average = if 2 ≤ m.size then
      ((g.crossCalls sep m.members).ncard : Rat) / ((Coupling.ofCalls g us sep).total * m.pairCount)
      else 0 := by
  split
  case isTrue hl =>
    have hp : (m.pairCount : Rat) ≠ 0 := by
      rw [pairCount_eq]
      exact Nat.cast_ne_zero.mpr (Nat.choose_pos hl).ne'
    rw [← div_div, ← h.average_mul hc hn hu, mul_div_cancel_right₀ _ hp]
  case isFalse hl =>
    obtain ⟨vs, hp, ha⟩ := h
    have hvs : vs.length < 2 := hp.length_eq ▸ Nat.not_le.mp hl
    rw [ha, Affinity.within_of_length_lt (hp.nodup_iff.mpr hn) hvs]

-- A call that counts is either within a module or between two of them.
theorem Covers.sum_average (h : Covers w.units ms) (hm : ∀ m ∈ ms, IsMean w m)
    (hc : Affinity.ofCoupling? (Coupling.ofCalls g us sep) us = some w)
    (ht : 0 < (Coupling.ofCalls g us sep).total) :
    (ms.map fun m => m.average * (m.pairCount : Rat)).sum =
      1 - ((g.callsAcross sep (ms.map Module.members)).ncard : Rat) / (Coupling.ofCalls g us sep).total := by
  have hn := h.nodup (Affinity.nodup_of_ofCoupling? hc)
  have hu : ∀ u, u ∈ ms.flatMap Module.members ↔ u ∈ us :=
    fun u => h.perm.mem_iff.trans (Affinity.mem_units_of_ofCoupling? hc)
  have hsum : ((g.crossCalls sep us).ncard : Rat) =
      (ms.map fun m => ((g.crossCalls sep m.members).ncard : Rat)).sum +
        (g.callsAcross sep (ms.map Module.members)).ncard := by
    rw [← CallGraph.crossCalls_congr hu, List.flatMap, CallGraph.ncard_crossCalls_flatten hn, Nat.cast_add,
      Nat.cast_list_sum, List.map_map, List.map_map]
    rfl
  have hmap : ∀ m ∈ ms, m.average * (m.pairCount : Rat) =
      ((g.crossCalls sep m.members).ncard : Rat) * ((Coupling.ofCalls g us sep).total : Rat)⁻¹ := by
    intro m hmem
    have hsub : m.members ⊆ us := fun u hum => (hu u).mp (List.mem_flatMap_of_mem hmem hum)
    rw [(hm m hmem).average_mul hc ((List.nodup_flatMap.mp hn).1 m hmem) hsub, div_eq_mul_inv]
  have htr : ((Coupling.ofCalls g us sep).total : Rat) ≠ 0 := Int.cast_ne_zero.mpr ht.ne'
  rw [List.map_congr_left hmap, List.sum_map_mul_right, ← div_eq_mul_inv, eq_sub_iff_add_eq, ← add_div,
    ← hsum, ← Int.cast_natCast, ← Coupling.total_eq_ncard, div_self htr]

end Calls

end Extraction

open Agglomeration Extraction

-- A dendrogram that reaches the threshold as a whole is not split.
theorem extract_of_reaches {α : Type} [Score α] {w : Affinity α} {x : α} {t : Dendrogram α}
    (h : reaches w x t) :
    (extract w x (some t)).modules = [Module.ofUnits w t.units] ∧ (extract w x (some t)).repairs = 0 := by
  have hc : thresholdCut w x t = [t] := thresholdCut_of_reaches h
  have hl : ((some t).elim [] (thresholdCut w x)).length ≤ budget w.units.length := by
    rw [Option.elim_some, hc]
    exact budget_pos _
  simpa only [Option.elim_some, hc, List.map_singleton] using extract_of_length_le hl

-- The average that a module is shown with stands for calls within it, whether it was cut or joined.
theorem modules_average_calls (g : CallGraph) (us : List UnitName) (sep : Separator) (x : Rat)
    (ht : 0 < (Coupling.ofCalls g us sep).total) :
    let c := Coupling.ofCalls g us sep
    ∃ w : Affinity Rat, Affinity.ofCoupling? c us = some w ∧
      (∀ u ∈ us, ∀ v ∈ us, w.weight u v = c.count u v / c.total) ∧
      let n : Rat := w.units.length
      let e := extract w x (cluster w).root
      let sum := (e.modules.map fun m => m.average * (m.pairCount : Rat)).sum
      IsPartition w.units e.modules ∧
      (∀ m ∈ e.modules, m.members.Nodup ∧ m.average = if 2 ≤ m.size then
        ((g.crossCalls sep m.members).ncard : Rat) / (c.total * m.pairCount) else 0) ∧
      sum = 1 - ((g.callsAcross sep (e.modules.map Module.members)).ncard : Rat) / c.total ∧
      sum ≤ 1 ∧
      (2 ≤ w.units.length → x ≤ 2 / (n * (n - 1)) → ∃ m, e.modules = [m] ∧ ¬e.isRepaired ∧
        m.members.Perm w.units ∧ m.average = 2 / (n * (n - 1))) := by
  intro c
  obtain ⟨w, hc⟩ := Affinity.exists_ofCalls g us us sep
  have hn := Affinity.nodup_of_ofCoupling? hc
  have hp : ((cluster w).root.elim [] Dendrogram.units).Perm w.units := cluster_units_perm
  refine ⟨w, hc, fun u hu v hv => Affinity.weight_ofCalls hc hu hv, ?_⟩
  intro n e sum
  have hcov : Covers w.units e.modules := covers_extract hn hp x
  have hmean : ∀ m ∈ e.modules, IsMean w m :=
    (repairs_cutModules w x (cluster w).root).isMean <| isMean_cutModules (hp.nodup_iff.mpr hn)
  have hsum := hcov.sum_average hmean hc ht
  refine ⟨hcov.isPartition hn, ?averages, hsum, ?atMostOne, ?single⟩
  case averages =>
    intro m hm
    have hmn : m.members.Nodup := (List.nodup_flatMap.mp (hcov.nodup hn)).1 m hm
    have hmu : m.members ⊆ us := fun u hu =>
      (Affinity.mem_units_of_ofCoupling? hc).mp <| hcov.perm.subset (List.mem_flatMap_of_mem hm hu)
    exact ⟨hmn, (hmean m hm).average_eq hc hmn hmu⟩
  case atMostOne =>
    have htr : (0 : Rat) ≤ c.total := Int.cast_nonneg ht.le
    have : (0 : Rat) ≤ ((g.callsAcross sep (e.modules.map Module.members)).ncard : Rat) / c.total := by
      positivity
    linarith
  case single =>
    intro hl hx
    have hne : w.units ≠ [] := fun h => by simp [h] at hl
    obtain ⟨t, hroot, -⟩ := cluster_runs hne
    rw [hroot] at hp
    have hw : w.within t.units = 2 / (n * (n - 1)) := Affinity.within_units hc ht hl hp
    have hr : reaches w x t := decide_eq_true (hw ▸ hx)
    have ⟨hm, hrep⟩ := extract_of_reaches hr
    refine ⟨Module.ofUnits w t.units, ?modules, ?repairs, ?members, hw⟩
    case modules => simpa only [e, hroot] using hm
    case repairs => simp [e, hroot, isRepaired, hrep]
    case members => exact (members_ofUnits_perm (hp.nodup_iff.mpr hn)).trans hp

-- Three units with three calls between them, which are one for each pair on average.
theorem modules_average_three_units :
    let g  := (CallGraph.empty.merge [⟨"a.f", "b.g"⟩, ⟨"b.g", "a.f"⟩, ⟨"a.f", "c.h"⟩]).1
    let us := ["a", "b", "c"]
    let c  := Coupling.ofCalls g us .dot
    0 < c.total ∧ ∃ w : Affinity Rat, Affinity.ofCoupling? c us = some w ∧ 2 ≤ w.units.length ∧
      let e := extract w (1 / 4) (cluster w).root
      (e.modules.map fun m => m.average * (m.pairCount : Rat)).sum ≤ 1 ∧
      ∃ m, e.modules = [m] ∧ ¬e.isRepaired ∧ m.average = 1 / 3 := by
  intro g us c
  have ht : 0 < c.total := by decide +kernel
  obtain ⟨w, hc, -, -, -, -, hle, hsingle⟩ := modules_average_calls g us .dot (1 / 4) ht
  have hu : w.units = us := (Affinity.units_of_ofCoupling? hc).trans (by decide)
  have hl : w.units.length = 3 := by rw [hu]; rfl
  obtain ⟨m, hm, hr, -, ha⟩ := hsingle (by omega) (by rw [hl]; norm_num)
  exact ⟨ht, w, hc, by omega, hle, m, hm, hr, by rw [ha, hl]; norm_num⟩

end ModuleDiscovery
