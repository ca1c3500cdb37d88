import ModuleDiscovery.Proofs.Graph.CrossCalls
import ModuleDiscovery.Proofs.Graph.Shares
import ModuleDiscovery.Proofs.Results
import ModuleDiscovery.Report.Csv

namespace ModuleDiscovery

variable {g : Coupling} {ws : List (Pair × Float)} {calls : CallGraph} {us : List UnitName} {sep : Separator}

-- Each counted pair comes with its weight.
theorem forall₂_of_rankedWeights (h : g.rankedWeights = .ok ws) :
    List.Forall₂ (fun c p => p.1 = c.1 ∧ g.weight? c.1.a c.1.b = some p.2) g.ranked ws := by
  unfold Coupling.rankedWeights Coupling.rankedWeights? at h
  split at h
  case h_2 => contradiction
  case h_1 ws' hws =>
    cases h
    generalize g.ranked = cs at hws
    induction cs generalizing ws
    case nil =>
      cases hws
      exact .nil
    case cons c cs ih =>
      rw [List.mapM_cons] at hws
      have ⟨_, hp, h⟩  := Option.bind_eq_some_iff.mp hws
      have ⟨vs, hv, h⟩ := Option.bind_eq_some_iff.mp h
      obtain ⟨w, hw, rfl⟩ := Option.map_eq_some_iff.mp hp
      cases h
      exact .cons ⟨rfl, hw⟩ (ih hv)

theorem rankedWeights_pairs (h : g.rankedWeights = .ok ws) : ws.map (·.1) = g.ranked.map (·.1) := by
  have hf : List.Forall₂ (· = ·) (g.ranked.map (·.1)) (ws.map (·.1)) := by
    rw [List.forall₂_map_left_iff, List.forall₂_map_right_iff]
    exact (forall₂_of_rankedWeights h).imp fun _ _ hc => hc.1.symm
  rw [List.forall₂_eq_eq_eq] at hf
  exact hf.symm

theorem weight?_of_mem_rankedWeights (h : g.rankedWeights = .ok ws) {p : Pair × Float} (hp : p ∈ ws) :
    g.weight? p.1.a p.1.b = some p.2 := by
  have hf := forall₂_of_rankedWeights h
  generalize g.ranked = cs at hf
  clear h
  induction hf
  case nil => cases hp
  case cons hc _ ih =>
    rcases List.mem_cons.mp hp with rfl | hp
    case inl => exact hc.1 ▸ hc.2
    case inr => exact ih hp

-- Heavier pairs come first, and pairs of the same count by name.
theorem pairwise_ranked (g : Coupling) :
    g.ranked.Pairwise fun c d => d.2 < c.2 ∨ c.2 = d.2 ∧ c.1.le d.1 := by
  have hs : g.ranked.Pairwise fun c d => Coupling.rank c ≤ Coupling.rank d :=
    pairwise_mergeSort_of_rank (fun a b => Coupling.rankLe_iff (c := a) (d := b)) g.counts
  refine hs.imp fun h => ?_
  simpa [Coupling.rankLe] using Coupling.rankLe_iff.mpr h

theorem eq_nil_iff_of_rankedWeights (h : g.rankedWeights = .ok ws) : ws = [] ↔ g.counts = [] := by
  have hp : g.ranked.Perm g.counts := List.mergeSort_perm ..
  have hl := congrArg List.length (rankedWeights_pairs h)
  rw [List.length_map, List.length_map, hp.length_eq] at hl
  rw [← List.length_eq_zero_iff, hl, List.length_eq_zero_iff]

theorem isOk_rankedWeights : (Coupling.ofCalls calls us sep).rankedWeights.isOk := by
  have ⟨ws, hw⟩ : ∃ ws : List (Pair × Float), (Coupling.ofCalls calls us sep).rankedWeights? = some ws := by
    refine exists_mapM fun p => ?_
    have ⟨x, hx⟩ : ∃ x : Float, (Coupling.ofCalls calls us sep).weight? p.1.a p.1.b = some x :=
      Coupling.exists_weight? p.1.a p.1.b
    exact ⟨(p.1, x), by simp [hx]⟩
  simp [Coupling.rankedWeights, hw]

end ModuleDiscovery
