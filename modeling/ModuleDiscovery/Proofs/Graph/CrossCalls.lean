import Mathlib.Data.Prod.Lex
import Mathlib.Data.Set.Basic
import Mathlib.Data.String.Basic
import ModuleDiscovery.Proofs.Distinct
import ModuleDiscovery.Proofs.Graph.Calls
import ModuleDiscovery.Proofs.Graph.Tally

namespace ModuleDiscovery

-- The calls whose methods belong to two different ones of the given units.
def CallGraph.crossCalls (g : CallGraph) (sep : Separator) (us : List UnitName) : Set Call :=
  {c | c ∈ g.calls ∧ ∃ u ∈ us, ∃ v ∈ us,
    u ≠ v ∧ owningUnit sep c.caller = some u ∧ owningUnit sep c.callee = some v}

namespace Coupling

section Pairs

variable {g h : CallGraph} {us : List UnitName} {sep : Separator} {c : Call} {p : Pair}

theorem pairOf?_eq_some_iff : pairOf? sep us c = some p ↔ p.a ∈ us ∧ p.b ∈ us ∧
    (owningUnit sep c.caller = some p.a ∧ owningUnit sep c.callee = some p.b ∨
      owningUnit sep c.caller = some p.b ∧ owningUnit sep c.callee = some p.a) := by
  unfold pairOf?
  cases hu : owningUnit sep c.caller
  case none => simp
  case some x =>
    cases hv : owningUnit sep c.callee
    case none => simp
    case some y =>
      simp only [Option.bind_eq_bind, Option.bind_some, Option.ite_none_right_eq_some,
        Pair.of?_eq_some_iff, Option.some.injEq]
      constructor
      case mp =>
        rintro ⟨⟨hx, hy⟩, ⟨rfl, rfl⟩ | ⟨rfl, rfl⟩⟩
        case inl => exact ⟨hx, hy, .inl ⟨rfl, rfl⟩⟩
        case inr => exact ⟨hy, hx, .inr ⟨rfl, rfl⟩⟩
      case mpr =>
        rintro ⟨ha, hb, ⟨rfl, rfl⟩ | ⟨rfl, rfl⟩⟩
        case inl => exact ⟨⟨ha, hb⟩, .inl ⟨rfl, rfl⟩⟩
        case inr => exact ⟨⟨hb, ha⟩, .inr ⟨rfl, rfl⟩⟩

theorem isSome_pairOf? : (pairOf? sep us c).isSome ↔ ∃ u ∈ us, ∃ v ∈ us,
    u ≠ v ∧ owningUnit sep c.caller = some u ∧ owningUnit sep c.callee = some v := by
  simp only [Option.isSome_iff_exists, pairOf?_eq_some_iff]
  constructor
  case mp =>
    rintro ⟨p, ha, hb, ⟨hu, hv⟩ | ⟨hu, hv⟩⟩
    case inl => exact ⟨p.a, ha, p.b, hb, p.ne, hu, hv⟩
    case inr => exact ⟨p.b, hb, p.a, ha, p.ne.symm, hu, hv⟩
  case mpr =>
    rintro ⟨u, hu, v, hv, hn, hcu, hcv⟩
    have ⟨p, hp⟩ := Pair.exists_of? hn
    obtain ⟨rfl, rfl⟩ | ⟨rfl, rfl⟩ := Pair.of?_eq_some_iff.mp hp
    case inl => exact ⟨p, hu, hv, .inl ⟨hcu, hcv⟩⟩
    case inr => exact ⟨p, hv, hu, .inr ⟨hcu, hcv⟩⟩

-- Calls that are not counted leave no trace, and the other ones are the same calls in some order.
theorem pairs_perm (hc : g.crossCalls sep us = h.crossCalls sep us) :
    (pairs g us sep).Perm (pairs h us sep) := by
  have hf (g : CallGraph) : pairs g us sep =
      (g.calls.filter fun c => (pairOf? sep us c).isSome).filterMap (pairOf? sep us) := by
    rw [pairs, List.filterMap_filter]
    congr 1
    funext c
    cases pairOf? sep us c <;> rfl
  have hp : (g.calls.filter fun c => (pairOf? sep us c).isSome).Perm
      (h.calls.filter fun c => (pairOf? sep us c).isSome) := by
    refine (List.perm_ext_iff_of_nodup (g.calls_nodup.filter _) (h.calls_nodup.filter _)).mpr ?_
    intro c
    simp only [List.mem_filter, isSome_pairOf?]
    exact iff_of_eq (congrArg (c ∈ ·) hc)
  rw [hf g, hf h]
  exact hp.filterMap _

end Pairs

section Ranking

variable {c d e : Pair × Int}

-- The place of a count in a ranking.
def rank (c : Pair × Int) : Int ×ₗ UnitName ×ₗ UnitName :=
  toLex (-c.2, toLex (c.1.a, c.1.b))

theorem rankLe_iff : rankLe c d ↔ rank c ≤ rank d := by
  simp only [rankLe, Pair.le, rank, Prod.Lex.toLex_le_toLex, Bool.or_eq_true, Bool.and_eq_true,
    decide_eq_true_eq, Int.neg_lt_neg_iff, Int.neg_inj]

theorem rank_injective : Function.Injective rank := by
  rintro ⟨⟨a, b, _⟩, n⟩ ⟨⟨a', b', _⟩, m⟩ h
  simp only [rank, toLex_inj, Prod.mk.injEq, Int.neg_inj] at h
  obtain ⟨rfl, rfl, rfl⟩ := h
  rfl

-- As a ranking leaves no choice, it depends only on what is ranked.
theorem mergeSort_rankLe_of_perm {cs ds : List (Pair × Int)} (h : cs.Perm ds) :
    cs.mergeSort rankLe = ds.mergeSort rankLe :=
  mergeSort_of_perm rank_injective (fun _ _ => rankLe_iff) h

end Ranking

-- Two couplings that agree in all but the order of their counts.
structure Same (c d : Coupling) : Prop where
  units  : c.units = d.units
  total  : c.total = d.total
  count  : ∀ u v, c.count u v = d.count u v
  ranked : c.ranked = d.ranked

theorem nodup_counts_ofCalls {g : CallGraph} {us : List UnitName} {sep : Separator} :
    ((ofCalls g us sep).counts.map (·.1)).Nodup :=
  nodup_addAll (by simp)

theorem mem_counts_ofCalls {g : CallGraph} {us : List UnitName} {sep : Separator} {p : Pair} {n : Int} :
    (p, n) ∈ (ofCalls g us sep).counts ↔ p ∈ pairs g us sep ∧ ((pairs g us sep).count p : Int) = n := by
  rw [mem_iff_countIn nodup_counts_ofCalls, counts_ofCalls, mem_keys_addAll, countIn_addAll]
  simp [countIn]

theorem same_ofCalls {g h : CallGraph} {us : List UnitName} {sep : Separator}
    (hc : g.crossCalls sep us = h.crossCalls sep us) : Same (ofCalls g us sep) (ofCalls h us sep) := by
  have hp := pairs_perm hc
  constructor
  case units => rfl
  case total => rw [total_ofCalls, total_ofCalls, hp.length_eq]
  case count =>
    intro u v
    simp only [count_ofCalls, hp.count_eq]
  case ranked =>
    have hn (g : CallGraph) : (ofCalls g us sep).counts.Nodup :=
      .of_map _ nodup_counts_ofCalls
    refine mergeSort_rankLe_of_perm ((List.perm_ext_iff_of_nodup (hn g) (hn h)).mpr ?_)
    rintro ⟨p, n⟩
    rw [mem_counts_ofCalls, mem_counts_ofCalls, hp.mem_iff, hp.count_eq]

-- Without entries there is nothing to separate.
theorem ofCalls_of_entries_nil {g : CallGraph} (h : g.entries = []) (us : List UnitName)
    (sep sep' : Separator) : ofCalls g us sep = ofCalls g us sep' := by
  simp [ofCalls, CallGraph.calls, h]

end Coupling
end ModuleDiscovery
