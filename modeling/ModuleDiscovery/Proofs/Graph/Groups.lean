import ModuleDiscovery.Proofs.Graph.CallCounts

namespace ModuleDiscovery.CallGraph

-- The calls whose methods belong to units in a relation.
def callsRelating (g : CallGraph) (sep : Separator) (R : UnitName → UnitName → Prop) : Set Call :=
  {c | c ∈ g.calls ∧ ∃ u v, owningUnit sep c.caller = some u ∧ owningUnit sep c.callee = some v ∧ R u v}

-- The calls from a unit in one group to a unit in another group.
def callsAcross (g : CallGraph) (sep : Separator) (groups : List (List UnitName)) : Set Call :=
  g.callsRelating sep fun u v => ∃ us ∈ groups, ∃ vs ∈ groups, us ≠ vs ∧ u ∈ us ∧ v ∈ vs

variable {g : CallGraph} {sep : Separator} {R S : UnitName → UnitName → Prop} {us vs : List UnitName}
  {groups : List (List UnitName)}

theorem finite_callsRelating : (g.callsRelating sep R).Finite :=
  (List.finite_toSet g.calls).subset fun _ h => h.1

theorem callsRelating_congr (h : ∀ u v, R u v ↔ S u v) :
    g.callsRelating sep R = g.callsRelating sep S := by
  simp only [callsRelating, h]

-- No call is counted twice, as the units of its methods are the only ones it has.
theorem ncard_callsRelating_or (h : ∀ u v, R u v → ¬S u v) :
    (g.callsRelating sep fun u v => R u v ∨ S u v).ncard =
      (g.callsRelating sep R).ncard + (g.callsRelating sep S).ncard := by
  rw [← Set.ncard_union_eq ?disjoint finite_callsRelating finite_callsRelating]
  case disjoint =>
    rw [Set.disjoint_left]
    rintro c ⟨-, u, v, hu, hv, hr⟩ ⟨-, u', v', hu', hv', hs⟩
    obtain rfl := Option.some.inj (hu.symm.trans hu')
    obtain rfl := Option.some.inj (hv.symm.trans hv')
    exact h u v hr hs
  congr 1
  ext c
  simp only [callsRelating, Set.mem_union, Set.mem_ofPred_eq, and_or_left, exists_or]

theorem crossCalls_eq :
    g.crossCalls sep us = g.callsRelating sep fun u v => u ∈ us ∧ v ∈ us ∧ u ≠ v := by
  ext c
  simp only [crossCalls, callsRelating, Set.mem_ofPred_eq]
  refine and_congr_right fun _ => ⟨?_, ?_⟩
  case refine_1 =>
    rintro ⟨u, hu, v, hv, hn, hcu, hcv⟩
    exact ⟨u, v, hcu, hcv, hu, hv, hn⟩
  case refine_2 =>
    rintro ⟨u, v, hcu, hcv, hu, hv, hn⟩
    exact ⟨u, hu, v, hv, hn, hcu, hcv⟩

theorem crossCalls_congr (h : ∀ u, u ∈ us ↔ u ∈ vs) : g.crossCalls sep us = g.crossCalls sep vs := by
  simp only [crossCalls_eq, h]

-- The calls between two groups, in either direction.
def callsBetweenGroups (g : CallGraph) (sep : Separator) (us vs : List UnitName) : Set Call :=
  g.callsRelating sep fun u v => u ∈ us ∧ v ∈ vs ∨ u ∈ vs ∧ v ∈ us

theorem ncard_crossCalls_append (h : us.Disjoint vs) :
    (g.crossCalls sep (us ++ vs)).ncard = (g.crossCalls sep us).ncard + (g.crossCalls sep vs).ncard +
      (g.callsBetweenGroups sep us vs).ncard := by
  have hd : ∀ u, u ∈ us → u ∉ vs := fun u hu hv => h hu hv
  have hs : ∀ u v, (u ∈ us ++ vs ∧ v ∈ us ++ vs ∧ u ≠ v) ↔
      ((u ∈ us ∧ v ∈ us ∧ u ≠ v) ∨ (u ∈ vs ∧ v ∈ vs ∧ u ≠ v)) ∨ (u ∈ us ∧ v ∈ vs ∨ u ∈ vs ∧ v ∈ us) := by
    grind
  rw [crossCalls_eq, callsRelating_congr hs, ncard_callsRelating_or (by grind),
    ncard_callsRelating_or (by grind), ← crossCalls_eq, ← crossCalls_eq, callsBetweenGroups]

theorem ncard_callsAcross_cons (h : us.Disjoint groups.flatten) :
    (g.callsAcross sep (us :: groups)).ncard =
      (g.callsBetweenGroups sep us groups.flatten).ncard + (g.callsAcross sep groups).ncard := by
  have hd : ∀ u ∈ us, ∀ vs ∈ groups, u ∉ vs :=
    fun u hu vs hvs hv => h hu (List.mem_flatten_of_mem hvs hv)
  have hs : ∀ u v, (∃ ls ∈ us :: groups, ∃ rs ∈ us :: groups, ls ≠ rs ∧ u ∈ ls ∧ v ∈ rs) ↔
      (u ∈ us ∧ v ∈ groups.flatten ∨ u ∈ groups.flatten ∧ v ∈ us) ∨
        ∃ ls ∈ groups, ∃ rs ∈ groups, ls ≠ rs ∧ u ∈ ls ∧ v ∈ rs := by
    simp only [List.mem_cons, List.mem_flatten]
    grind
  have hor : ∀ u v, (u ∈ us ∧ v ∈ groups.flatten ∨ u ∈ groups.flatten ∧ v ∈ us) →
      ¬∃ ls ∈ groups, ∃ rs ∈ groups, ls ≠ rs ∧ u ∈ ls ∧ v ∈ rs := by
    rintro u v (⟨hu, -⟩ | ⟨-, hv⟩) ⟨ls, hls, rs, hrs, -, hul, hvr⟩
    case inl => exact hd u hu ls hls hul
    case inr => exact hd v hv rs hrs hvr
  rw [callsAcross, callsRelating_congr hs, ncard_callsRelating_or hor, callsBetweenGroups, callsAcross]

theorem ncard_crossCalls_flatten (h : groups.flatten.Nodup) :
    (g.crossCalls sep groups.flatten).ncard =
      (groups.map fun us => (g.crossCalls sep us).ncard).sum + (g.callsAcross sep groups).ncard := by
  induction groups
  case nil => simp [crossCalls, callsAcross, callsRelating]
  case cons us groups ih =>
    rw [List.flatten_cons, List.nodup_append'] at h
    obtain ⟨-, hn, hd⟩ := h
    rw [List.flatten_cons, ncard_crossCalls_append hd, ncard_callsAcross_cons hd, ih hn, List.map_cons,
      List.sum_cons]
    omega

end ModuleDiscovery.CallGraph
