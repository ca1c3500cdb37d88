import ModuleDiscovery.Proofs.Clustering.Activation
import ModuleDiscovery.Proofs.Extraction.Partition

namespace ModuleDiscovery

open Dendrogram

theorem Dendrogram.two_le_length_units {α : Type} {t : Dendrogram α} (h : ¬t.isLeaf) :
    2 ≤ t.units.length := by
  cases t
  case leaf => simp [isLeaf] at h
  case fusion l r s =>
    have := List.length_pos_iff.mpr l.units_ne_nil
    have := List.length_pos_iff.mpr r.units_ne_nil
    rw [units_fusion, List.length_append]
    omega

theorem Dendrogram.length_le_length_flatMap_units {α : Type} (ts : List (Dendrogram α)) :
    ts.length ≤ (ts.flatMap units).length := by
  induction ts
  case nil => exact Nat.le_refl _
  case cons t ts ih =>
    have := List.length_pos_iff.mpr t.units_ne_nil
    rw [List.flatMap_cons, List.length_append, List.length_cons]
    omega

namespace Extraction

variable {α : Type} [Score α] {w : Affinity α} {x : α} {limit taken : Nat} {t : Dendrogram α}

theorem length_cut_of_isLeaf (h : t.isLeaf) : (cut w x limit taken t).length = 1 := by
  cases t
  case leaf   => rfl
  case fusion => simp [isLeaf] at h

theorem length_cut_le_units : (cut w x limit taken t).length ≤ t.units.length := by
  rw [← cut_units (w := w) (x := x) limit taken t]
  exact length_le_length_flatMap_units _

-- The induction carries a bound on the modules of a branch and those on its left, given that the branch
-- was split at all. If the last split was made on the right, all of the left is accounted for by its
-- units. If it was made on the left, the right is one module, of two units at least.
theorem two_mul_length_cut_le (h : t.AllFusions fun l r => r.isLeaf → l.isLeaf)
    (hc : 2 ≤ (cut w x limit taken t).length) :
    2 * (cut w x limit taken t).length + taken ≤ t.units.length + limit := by
  induction t generalizing taken
  case leaf => simp [cut] at hc
  case fusion l r s hl hr =>
    obtain ⟨hlr, hfl, hfr⟩ := allFusions_fusion.mp h
    rw [cut] at hc ⊢
    split at hc
    case isTrue => simp at hc
    case isFalse hs =>
      have hroom : taken + 2 ≤ limit := by
        simp only [Bool.or_eq_true, decide_eq_true_eq, not_or, not_lt] at hs
        exact hs.2
      have hlu : (cut w x limit taken l).length ≤ l.units.length := length_cut_le_units
      have hru := List.length_pos_iff.mpr r.units_ne_nil
      rw [if_neg hs, units_fusion]
      simp only [List.length_append]
      by_cases hcr : 2 ≤ (cut w x limit (taken + (cut w x limit taken l).length) r).length
      case pos =>
        have := hr hfr hcr
        omega
      case neg =>
        by_cases hcl : 2 ≤ (cut w x limit taken l).length
        case pos =>
          have hrl : ¬r.isLeaf := fun hrl => by
            rw [length_cut_of_isLeaf (hlr hrl)] at hcl
            contradiction
          have := two_le_length_units hrl
          have := hl hfl hcl
          omega
        case neg => omega

end Extraction

open Agglomeration Extraction

theorem cluster_root_allFusions {α : Type} [Score α] {w : Affinity α} {t : Dendrogram α}
    (h : (cluster w).root = some t) : t.AllFusions fun l r => r.isLeaf → l.isLeaf := by
  have hn : w.units ≠ [] := fun hn => by simp [cluster_root_of_units_nil hn] at h
  obtain ⟨t', ht', hr⟩ := cluster_runs hn
  obtain rfl := Option.some.inj (h.symm.trans ht')
  exact hr.leavesFirst .leaves

-- A cut splits a branch if both halves fit, without regard to the branches on its right that are still to come. In a
-- dendrogram of the clustering such a branch has at least two units, as it stands to the right of a fused cluster.
-- The loop of joins ends after the joins that are counted.
theorem repairs_le_quarter {α : Type} [Score α] (w : Affinity α) (x : α) :
    let n     := w.units.length
    let limit := max 1 (n / 2)
    let root  := (cluster w).root
    let e     := extract w x root
    Repairs w limit (cutModules w x limit root) e.repairs e.modules ∧ e.repairs ≤ (n + 1) / 2 / 2 := by
  intro n limit root e
  refine ⟨repairs_cutModules w x root, ?_⟩
  have hr : e.repairs = (cutModules w x limit root).length - limit := extract_repairs w x root
  cases ht : root
  case none => simp [hr, ht, cutModules]
  case some t =>
    have hu : t.units.length = n := by
      have := (cluster_units_perm (w := w)).length_eq
      rwa [show (cluster w).root = some t from ht] at this
    have hl : (cutModules w x limit root).length = (cut w x limit 0 t).length := by
      simp [ht, cutModules]
    by_cases hc : 2 ≤ (cut w x limit 0 t).length
    case pos =>
      have := two_mul_length_cut_le (cluster_root_allFusions ht) hc
      have : (cut w x limit 0 t).length ≤ t.units.length := length_cut_le_units
      omega
    case neg => omega

end ModuleDiscovery
