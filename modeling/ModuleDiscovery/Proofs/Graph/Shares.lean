import Mathlib.Algebra.BigOperators.Ring.Finset
import ModuleDiscovery.Proofs.Clustering.Weights
import ModuleDiscovery.Proofs.Graph.CallCounts
import ModuleDiscovery.Proofs.Number.Quotient

namespace ModuleDiscovery
namespace Coupling

variable {g : CallGraph} {us : List UnitName} {sep : Separator} {u v : UnitName}

theorem total_nonneg : 0 ≤ (ofCalls g us sep).total := by
  simp [total_ofCalls]

section Sums

variable {cs : List (Pair × Int)}

theorem sum_addCount {p : Pair} {n : Int} :
    ((addCount p n cs).map (·.2)).sum = (cs.map (·.2)).sum + n := by
  induction cs
  case nil => simp [addCount]
  case cons c cs ih =>
    unfold addCount
    split
    case isTrue =>
      simp only [List.map_cons, List.sum_cons]
      omega
    case isFalse =>
      simp only [List.map_cons, List.sum_cons, ih]
      omega

theorem sum_addAll {ps : List Pair} :
    ((addAll ps cs).map (·.2)).sum = (cs.map (·.2)).sum + ps.length := by
  induction ps generalizing cs
  case nil => simp [addAll]
  case cons p ps ih =>
    rw [addAll, List.foldl_cons, ← addAll, ih, sum_addCount, List.length_cons]
    omega

theorem sum_counts : ((ofCalls g us sep).counts.map (·.2)).sum = (ofCalls g us sep).total := by
  rw [counts_ofCalls, sum_addAll, total_ofCalls]
  simp

-- The names of the units that calls join, the smaller one first.
def names (g : CallGraph) (us : List UnitName) (sep : Separator) : Multiset (UnitName × UnitName) :=
  (pairs g us sep : Multiset Pair).map fun p => (p.a, p.b)

theorem count_of_lt (h : u < v) : (ofCalls g us sep).count u v = (names g us sep).count (u, v) := by
  have hi : Function.Injective fun p : Pair => (p.a, p.b) := by
    rintro ⟨_, _, _⟩ ⟨_, _, _⟩ hp
    simpa using hp
  have hp : Pair.of? u v = some ⟨u, v, h⟩ := Pair.of?_self ⟨u, v, h⟩
  rw [count_ofCalls, hp, Option.elim_some, names, ← Multiset.coe_count]
  exact congrArg Nat.cast (Multiset.count_map_eq_count' _ _ hi ⟨u, v, h⟩).symm

-- No call joins two units of which one is not given.
theorem sum_count : ∑ p ∈ us.toFinset ×ˢ us.toFinset with p.1 < p.2, (ofCalls g us sep).count p.1 p.2 =
    (ofCalls g us sep).total := by
  have hm : ∀ n ∈ names g us sep, n ∈ {p ∈ us.toFinset ×ˢ us.toFinset | p.1 < p.2} := by
    intro n hn
    obtain ⟨p, hp, rfl⟩ := Multiset.mem_map.mp hn
    have ⟨ha, hb⟩ := mem_of_mem_pairs (Multiset.mem_coe.mp hp)
    exact Finset.mem_filter.mpr ⟨by simp [ha, hb], p.lt⟩
  calc ∑ p ∈ us.toFinset ×ˢ us.toFinset with p.1 < p.2, (ofCalls g us sep).count p.1 p.2
    _ = ∑ p ∈ us.toFinset ×ˢ us.toFinset with p.1 < p.2, ((names g us sep).count p : Int) :=
      Finset.sum_congr rfl fun _ hp => count_of_lt (Finset.mem_filter.mp hp).2
    _ = (names g us sep).card    := by rw [← Nat.cast_sum, Multiset.sum_count_eq_card hm]
    _ = (ofCalls g us sep).total := by simp [names, total_ofCalls]

end Sums

section Weights

-- A count is at most the total, so that no weight is too large.
theorem exists_weight? (u v : UnitName) : ∃ x : Float, (ofCalls g us sep).weight? u v = some x := by
  unfold weight? share?
  split
  case isTrue => exact ⟨_, rfl⟩
  case isFalse =>
    split
    case isTrue => exact ⟨_, rfl⟩
    case isFalse ht =>
      have hn := count_ofCalls_nonneg g us sep u v
      have hl := count_ofCalls_le g us sep u v
      exact Number.exists_floatOfRatio hn hl (by omega)

theorem share?_zero : (ofCalls g us sep).share? 0 = some (0.0 : Float) := by
  unfold share?
  split
  case isTrue  => rfl
  case isFalse => exact Number.floatOfRatio_zero total_nonneg

theorem weight?_of_not_mem (h : u ∉ us ∨ v ∉ us) :
    (ofCalls g us sep).weight? u v = some (0.0 : Float) := by
  unfold weight?
  split
  case isTrue  => rfl
  case isFalse => rw [count_eq_zero h, share?_zero]

theorem totalWeight?_eq : (ofCalls g us sep).totalWeight? =
    some (if 0 < (ofCalls g us sep).total then (1.0 : Float) else 0.0) := by
  have hs : (ofCalls g us sep).counts.foldl (fun n c => n + c.2) 0 = (ofCalls g us sep).total := by
    rw [← sum_counts, List.sum_eq_foldl, List.foldl_map]
  have hn : 0 ≤ (ofCalls g us sep).total := total_nonneg
  rw [totalWeight?, hs, share?]
  split
  case isTrue h  => rw [if_neg (by omega)]; rfl
  case isFalse h => rw [if_pos (by omega)]; exact Number.floatOfRatio_self (by omega)

end Weights

end Coupling

-- What holds of zero and of all shares that a double can hold is true of all weights of calls.
theorem Affinity.weight_ofCalls_cases {P : Float → Prop} {w : Affinity Float} {g : CallGraph}
    {allowed us : List UnitName} {sep : Separator} (h : ofCoupling? (Coupling.ofCalls g allowed sep) us = some w)
    (hz : P 0.0) (hr : ∀ (n d : Int) (x : Float), 0 ≤ n → n ≤ d → Number.floatOfRatio n d = some x → P x)
    (u v : UnitName) : P (w.weight u v) := by
  obtain ⟨x, hx⟩ : ∃ x : Float, (Coupling.ofCalls g allowed sep).weight? u v = some x := Coupling.exists_weight? u v
  rw [weight_of_ofCoupling? h, hx, Option.getD_some]
  unfold Coupling.weight? Coupling.share? at hx
  split
  case isFalse => exact hz
  case isTrue =>
    split at hx
    case isTrue => exact Option.some.inj hx ▸ hz
    case isFalse =>
      split at hx
      case isTrue  => exact Option.some.inj hx ▸ hz
      case isFalse => exact hr _ _ _ (Coupling.count_ofCalls_nonneg ..) (Coupling.count_ofCalls_le ..) hx

-- What the counts count, and with that what the weights are shares of.
theorem ofCalls_counts_calls (g : CallGraph) (us : List UnitName) (sep : Separator) :
    let c := Coupling.ofCalls g us sep
    Coupling.tally g us sep = .ok c ∧
    (∀ u ∈ us, ∀ v ∈ us, u ≠ v →
      c.count u v = (g.callsBetween sep u v).ncard ∧ c.count v u = c.count u v) ∧
    (c.counts.map (·.1)).Nodup ∧
    (∀ p n, (p, n) ∈ c.counts → p.a ∈ us ∧ p.b ∈ us ∧ p.a < p.b ∧ 1 ≤ n ∧ c.count p.a p.b = n) ∧
    c.total = (g.crossCalls sep us).ncard ∧
    (c.counts.map (·.2)).sum = c.total ∧
    ∑ p ∈ us.toFinset ×ˢ us.toFinset with p.1 < p.2, c.count p.1 p.2 = c.total ∧
    (∀ u v, ∃ x : Float, c.weight? u v = some x ∧ c.weight? v u = some x) ∧
    (∀ u v, u ∉ us ∨ v ∉ us → c.weight? u v = some (0.0 : Float)) ∧
    c.totalWeight? = some (if 0 < c.total then (1.0 : Float) else 0.0) := by
  intro c
  refine ⟨Coupling.tally_eq g us sep, ?counts, Coupling.nodup_counts_ofCalls, ?recorded,
    Coupling.total_eq_ncard, Coupling.sum_counts, Coupling.sum_count, ?weights,
    fun u v h => Coupling.weight?_of_not_mem h, Coupling.totalWeight?_eq⟩
  case counts => exact fun u hu v hv h => ⟨Coupling.count_eq_ncard hu hv h, c.count_comm⟩
  case recorded =>
    intro p n h
    have ⟨ha, hb, hn, hc⟩ := Coupling.mem_counts h
    exact ⟨ha, hb, p.lt, hn, hc⟩
  case weights =>
    intro u v
    have ⟨x, hx⟩ : ∃ x : Float, c.weight? u v = some x := Coupling.exists_weight? u v
    exact ⟨x, hx, c.weight?_comm.trans hx⟩

-- Calls in both directions, one of them twice, beside calls within a unit, to another unit and from a
-- method without a unit.
theorem ofCalls_counts_two_calls :
    let cs : List Call := [⟨"a.f", "b.g"⟩, ⟨"a.f", "a.h"⟩, ⟨"b.g", "a.f"⟩, ⟨"a.f", "c.k"⟩, ⟨"f", "b.g"⟩,
      ⟨"a.f", "b.g"⟩]
    let g  := (CallGraph.empty.merge cs).1
    let us := ["b", "a", "b"]
    let c  := Coupling.ofCalls g us .dot
    "a" ∈ us ∧ "b" ∈ us ∧ "a" ≠ "b" ∧ "c" ∉ us ∧ (⟨"a", "b", by decide⟩, 2) ∈ c.counts ∧
    Coupling.tally g us .dot = .ok c ∧ (g.callsBetween .dot "a" "b").ncard = 2 ∧ c.total = 2 ∧
    c.weight? "a" "c" = some (0.0 : Float) ∧ c.totalWeight? = some (1.0 : Float) := by
  intro cs g us c
  have ⟨ht, hn, _, hr, _, _, _, _, hz, hw⟩ := ofCalls_counts_calls g us .dot
  have hm : (⟨"a", "b", by decide⟩, 2) ∈ c.counts := by decide +kernel
  have hc : c.total = 2 := by decide +kernel
  have ⟨ha, hb, _, _, h₂⟩ := hr _ _ hm
  have ⟨hab, _⟩ := hn "a" ha "b" hb (by decide)
  refine ⟨ha, hb, by decide, by decide, hm, ht, ?both, hc, hz "a" "c" (by decide), ?whole⟩
  case both  => exact Int.natCast_inj.mp (hab.symm.trans h₂)
  case whole => exact hw.trans (by rw [hc]; rfl)

end ModuleDiscovery
