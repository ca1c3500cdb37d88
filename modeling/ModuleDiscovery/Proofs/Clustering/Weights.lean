import Mathlib.Data.List.Basic
import ModuleDiscovery.Clustering.Affinity
import ModuleDiscovery.Proofs.Distinct
import ModuleDiscovery.Proofs.Graph.Tally

namespace ModuleDiscovery

-- A table made of keys and their values has a value for each of the keys, and finds it by its key.
theorem lookup_of_mapM {γ : Type} {f : UnitName → Option γ} {ks : List UnitName}
    {es : List (UnitName × γ)} (h : (ks.mapM fun k => (f k).map (k, ·)) = some es) :
    (∀ k ∈ ks, ∃ y, f k = some y) ∧ ∀ k, es.lookup k = if k ∈ ks then f k else none := by
  induction ks generalizing es
  case nil =>
    cases h
    simp
  case cons j ks ih =>
    simp only [List.mapM_cons, Option.bind_eq_bind, Option.bind_eq_some_iff, Option.map_eq_some_iff,
      Option.pure_def, Option.some.injEq] at h
    obtain ⟨_, ⟨y, hy, rfl⟩, es, hes, rfl⟩ := h
    have ⟨hs, hl⟩ := ih hes
    refine ⟨List.forall_mem_cons.mpr ⟨⟨y, hy⟩, hs⟩, fun k => ?_⟩
    rw [List.lookup_cons]
    by_cases hj : k = j
    case pos => simp [hj, hy]
    case neg => simp [hj, hl, beq_false_of_ne]

theorem exists_mapM {β γ : Type} {f : β → Option γ} {xs : List β} (h : ∀ x, ∃ y, f x = some y) :
    ∃ ys, xs.mapM f = some ys := by
  induction xs
  case nil => exact ⟨[], rfl⟩
  case cons x xs ih =>
    have ⟨y, hy⟩   := h x
    have ⟨ys, hys⟩ := ih
    exact ⟨y :: ys, by simp [List.mapM_cons, hy, hys]⟩

namespace Coupling

variable {α : Type} [Score α] {u v : UnitName}

theorem weight?_comm (g : Coupling) : g.weight? (α := α) u v = g.weight? v u := by
  simp only [weight?, g.count_comm (u := u), eq_comm]

end Coupling

namespace Affinity

variable {α : Type} [Score α] {g : Coupling} {us : List UnitName} {w : Affinity α} {u v : UnitName}

theorem units_of_ofCoupling? (h : ofCoupling? g us = some w) : w.units = us.eraseDups := by
  obtain ⟨rs, -, rfl⟩ := Option.map_eq_some_iff.mp h
  rfl

theorem nodup_of_ofCoupling? (h : ofCoupling? g us = some w) : w.units.Nodup := by
  rw [units_of_ofCoupling? h]
  exact nodup_eraseDups us

theorem mem_units_of_ofCoupling? (h : ofCoupling? g us = some w) : u ∈ w.units ↔ u ∈ us := by
  rw [units_of_ofCoupling? h, List.mem_eraseDups]

theorem weight_of_ofCoupling? (h : ofCoupling? g us = some w) (u v : UnitName) :
    w.weight u v =
      if u ∈ w.units ∧ v ∈ w.units then (g.weight? u v).getD Score.zero else Score.zero := by
  rw [units_of_ofCoupling? h]
  obtain ⟨rs, hrs, rfl⟩ := Option.map_eq_some_iff.mp h
  have ⟨hs, hl⟩ := lookup_of_mapM hrs
  simp only [ofRows, hl]
  by_cases hu : u ∈ us.eraseDups
  case neg => simp [hu]
  case pos =>
    have ⟨r, hr⟩ := hs u hu
    have ⟨_, hlr⟩ := lookup_of_mapM hr
    by_cases hv : v ∈ us.eraseDups <;> simp [hu, hv, hr, hlr]

-- An affinity fails to exist only by a weight that is too large.
theorem exists_ofCoupling? (h : ∀ u v, ∃ x : α, g.weight? u v = some x) :
    ∃ w : Affinity α, ofCoupling? g us = some w := by
  have hr : ∀ u, ∃ r : List (UnitName × α),
      (us.eraseDups.mapM fun v => (g.weight? u v).map (v, ·)) = some r := by
    intro u
    refine exists_mapM fun v => ?_
    have ⟨x, hx⟩ := h u v
    exact ⟨(v, x), by rw [hx, Option.map_some]⟩
  have ⟨rs, hrs⟩ : ∃ rs : Rows α, rows? g us.eraseDups = some rs := by
    refine exists_mapM fun u => ?_
    have ⟨r, hr⟩ := hr u
    exact ⟨(u, r), by rw [hr, Option.map_some]⟩
  exact ⟨ofRows us.eraseDups rs, by rw [ofCoupling?, hrs, Option.map_some]⟩

theorem weight_comm (h : ofCoupling? g us = some w) : w.weight u v = w.weight v u := by
  rw [weight_of_ofCoupling? h, weight_of_ofCoupling? h, g.weight?_comm]
  simp only [and_comm]

end Affinity
end ModuleDiscovery
