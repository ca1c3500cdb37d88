import Mathlib.Algebra.BigOperators.Field
import ModuleDiscovery.Proofs.Clustering.Descent
import ModuleDiscovery.Proofs.Graph.Groups
import ModuleDiscovery.Proofs.Graph.Shares

namespace ModuleDiscovery.Affinity

variable {w : Affinity Rat} {us vs : List UnitName} {u v : UnitName}

section PairSum

-- Of two different units, one has the smaller name.
theorem ite_lt_add_ite_gt (hw : ∀ u v, w.weight u v = w.weight v u) (h : u ≠ v) :
    (if u < v then w.weight u v else 0) + (if v < u then w.weight v u else 0) = w.weight u v := by
  rcases lt_trichotomy u v with hl | he | hg
  case inl     => rw [if_pos hl, if_neg hl.not_gt, add_zero]
  case inr.inl => contradiction
  case inr.inr => rw [if_neg hg.not_gt, if_pos hg, zero_add, hw]

-- The order of the units in a list does not matter, as the pairs can be told by the order of names.
theorem pairSum_eq_sum (hw : ∀ u v, w.weight u v = w.weight v u) (hn : us.Nodup) :
    w.pairSum us = ∑ p ∈ us.toFinset ×ˢ us.toFinset with p.1 < p.2, w.weight p.1 p.2 := by
  rw [Finset.sum_filter, Finset.sum_product]
  induction us
  case nil => rfl
  case cons u us ih =>
    have ⟨hu, hus⟩ := List.nodup_cons.mp hn
    have hm : u ∉ us.toFinset := mt List.mem_toFinset.mp hu
    have hrow : (us.map (w.weight u)).sum = ∑ v ∈ us.toFinset,
        ((if u < v then w.weight u v else 0) + if v < u then w.weight v u else 0) := by
      rw [← List.sum_toFinset _ hus]
      refine Finset.sum_congr rfl fun v hv => (ite_lt_add_ite_gt hw ?_).symm
      rintro rfl
      exact hm hv
    simp only [List.toFinset_cons, Finset.sum_insert hm, lt_irrefl, if_false, zero_add,
      Finset.sum_add_distrib, pairSum, hrow, ih hus, add_assoc]

theorem pairSum_perm (hw : ∀ u v, w.weight u v = w.weight v u) (hn : us.Nodup) (h : us.Perm vs) :
    w.pairSum us = w.pairSum vs := by
  rw [pairSum_eq_sum hw hn, pairSum_eq_sum hw (h.nodup_iff.mp hn), List.toFinset_eq_of_perm _ _ h]

theorem within_of_length_lt (hn : us.Nodup) (h : us.length < 2) : w.within us = 0 := by
  have hk : (w.known us).length < 2 := by
    rw [known, eraseDups_of_nodup hn]
    exact (List.length_filter_le ..).trans_lt h
  simp only [within, if_pos hk, Score.zero_rat]

theorem pairSum_of_length_lt (h : us.length < 2) : w.pairSum us = 0 := by
  match us with
  | []          => rfl
  | [u]         => simp [pairSum]
  | u :: v :: _ => simp at h

theorem within_mul (hn : us.Nodup) (hk : us ⊆ w.units) :
    w.within us * us.length.choose 2 = w.pairSum us := by
  by_cases hl : us.length < 2
  case pos => rw [within_of_length_lt hn hl, pairSum_of_length_lt hl, zero_mul]
  case neg =>
    have hl : 2 ≤ us.length := Nat.not_lt.mp hl
    rw [within_eq hn hk hl]
    exact div_mul_cancel₀ _ (Nat.cast_pos.mpr (Nat.choose_pos hl)).ne'

end PairSum

section Calls

variable {g : CallGraph} {allowed : List UnitName} {sep : Separator}

-- Without rounding no weight is too large.
theorem exists_ofCalls (g : CallGraph) (allowed us : List UnitName) (sep : Separator) :
    ∃ w : Affinity Rat, ofCoupling? (Coupling.ofCalls g allowed sep) us = some w :=
  exists_ofCoupling? fun _ _ => ⟨_, weight?_ofCalls⟩

theorem weight_ofCalls (h : ofCoupling? (Coupling.ofCalls g allowed sep) us = some w) (hu : u ∈ us)
    (hv : v ∈ us) :
    w.weight u v = (Coupling.ofCalls g allowed sep).count u v / (Coupling.ofCalls g allowed sep).total := by
  have hm : u ∈ w.units ∧ v ∈ w.units :=
    ⟨(mem_units_of_ofCoupling? h).mpr hu, (mem_units_of_ofCoupling? h).mpr hv⟩
  rw [weight_of_ofCoupling? h, if_pos hm, weight?_ofCalls, Option.getD_some]

theorem pairSum_ofCalls {ms : List UnitName}
    (h : ofCoupling? (Coupling.ofCalls g allowed sep) us = some w) (hn : ms.Nodup) (hu : ms ⊆ us)
    (ha : ms ⊆ allowed) :
    w.pairSum ms = (g.crossCalls sep ms).ncard / (Coupling.ofCalls g allowed sep).total := by
  have hp : ∀ p ∈ {p ∈ ms.toFinset ×ˢ ms.toFinset | p.1 < p.2}, w.weight p.1 p.2 =
      (Coupling.ofCalls g ms sep).count p.1 p.2 / (Coupling.ofCalls g allowed sep).total := by
    rintro ⟨u, v⟩ hm
    simp only [Finset.mem_filter, Finset.mem_product, List.mem_toFinset] at hm
    obtain ⟨⟨hum, hvm⟩, hlt⟩ := hm
    rw [weight_ofCalls h (hu hum) (hu hvm), Coupling.count_eq_ncard (ha hum) (ha hvm) hlt.ne,
      Coupling.count_eq_ncard hum hvm hlt.ne]
  rw [pairSum_eq_sum (fun _ _ => weight_comm h) hn, Finset.sum_congr rfl hp, ← Finset.sum_div,
    ← Int.cast_sum, Coupling.sum_count, Coupling.total_eq_ncard, Int.cast_natCast]

-- All calls are between given units, so that their shares make one, unless there are no calls.
theorem pairSum_units (h : ofCoupling? (Coupling.ofCalls g us sep) us = some w) :
    w.pairSum w.units = if 0 < (Coupling.ofCalls g us sep).total then 1 else 0 := by
  have hu : ∀ u, u ∈ w.units ↔ u ∈ us := fun _ => mem_units_of_ofCoupling? h
  have hs : w.units ⊆ us := fun u => (hu u).mp
  rw [pairSum_ofCalls h (nodup_of_ofCoupling? h) hs hs, CallGraph.crossCalls_congr hu, Coupling.total_eq_ncard,
    Int.cast_natCast]
  split
  case isTrue hp => exact div_self (by exact_mod_cast hp.ne')
  case isFalse hp =>
    have hz : (g.crossCalls sep us).ncard = 0 := by omega
    rw [hz, Nat.cast_zero, zero_div]

theorem within_units {ms : List UnitName} (h : ofCoupling? (Coupling.ofCalls g us sep) us = some w)
    (ht : 0 < (Coupling.ofCalls g us sep).total) (hl : 2 ≤ w.units.length) (hm : ms.Perm w.units) :
    w.within ms = 2 / (w.units.length * (w.units.length - 1)) := by
  have hn : ms.Nodup := hm.nodup_iff.mpr (nodup_of_ofCoupling? h)
  rw [within_eq hn hm.subset (hm.length_eq ▸ hl), pairSum_perm (fun _ _ => weight_comm h) hn hm,
    pairSum_units h, if_pos ht, Nat.cast_choose_two, one_div_div, hm.length_eq]

end Calls

end ModuleDiscovery.Affinity
