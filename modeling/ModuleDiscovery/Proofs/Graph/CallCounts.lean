import Mathlib.Data.Set.Card
import ModuleDiscovery.Proofs.Graph.CrossCalls

namespace ModuleDiscovery

-- The calls between the methods of two units, in either direction.
def CallGraph.callsBetween (g : CallGraph) (sep : Separator) (u v : UnitName) : Set Call :=
  {c | c ∈ g.calls ∧
    (owningUnit sep c.caller = some u ∧ owningUnit sep c.callee = some v ∨
      owningUnit sep c.caller = some v ∧ owningUnit sep c.callee = some u)}

-- The number of elements of a list that have a property, where each element stands in it once.
theorem ncard_setOf_mem_and {α : Type} {xs : List α} (h : xs.Nodup) {p : α → Prop} [DecidablePred p] :
    {x | x ∈ xs ∧ p x}.ncard = xs.countP p := by
  classical
  have hs : {x | x ∈ xs ∧ p x} = ↑(xs.filter p).toFinset := by
    ext x
    simp
  rw [hs, Set.ncard_coe_finset, List.toFinset_card_of_nodup (h.filter _), List.countP_eq_length_filter]

namespace Coupling

section Tally

variable {g : CallGraph} {us : List UnitName} {sep : Separator}

-- A coupling with further pairs counted.
def addPairs (ps : List Pair) (c : Coupling) : Coupling :=
  { c with counts := addAll ps c.counts, total := c.total + ps.length }

-- Counts a call that a unit makes. It counts if it goes to another one of the given units, and then the
-- two make a pair.
def countCallee (us : List UnitName) (sep : Separator) (u : UnitName) (c : Coupling) (k : MethodKey) :
    Except PairFault Coupling :=
  match owningUnit sep k with
  | none   => .ok c
  | some v => if v ∉ us ∨ v = u then .ok c else (Pair.of u v).map fun p => addPairs [p] c

-- Counts the calls of a caller, if one of the given units owns it.
def countCaller (us : List UnitName) (sep : Separator) (c : Coupling)
    (e : MethodKey × List MethodKey) : Except PairFault Coupling :=
  match owningUnit sep e.1 with
  | none   => .ok c
  | some u => if u ∉ us then .ok c else e.2.foldlM (countCallee us sep u) c

-- The coupling of a call graph by going through its callers and their callees.
def tally (g : CallGraph) (us : List UnitName) (sep : Separator) : Except PairFault Coupling :=
  g.entries.foldlM (countCaller us sep) { units := us.eraseDups, counts := [], total := 0 }

theorem addPairs_append {ps qs : List Pair} {c : Coupling} :
    addPairs (ps ++ qs) c = addPairs qs (addPairs ps c) := by
  simp [addPairs, addAll, Int.add_assoc]

-- Steps that each count some pairs and do not fail count all these pairs, one after the other.
theorem foldlM_addPairs {β : Type} {f : Coupling → β → Except PairFault Coupling} {ps : β → List Pair}
    {xs : List β} (h : ∀ x ∈ xs, ∀ c, f c x = .ok (addPairs (ps x) c)) (c : Coupling) :
    xs.foldlM f c = .ok (addPairs (xs.flatMap ps) c) := by
  induction xs generalizing c
  case nil => simp [addPairs, addAll, pure, Except.pure]
  case cons x xs ih =>
    obtain ⟨hx, hxs⟩ := List.forall_mem_cons.mp h
    rw [List.foldlM_cons, hx, List.flatMap_cons, addPairs_append]
    exact ih hxs _

theorem addPairs_nil {c : Coupling} : addPairs [] c = c := by
  simp [addPairs, addAll]

-- Where a call makes a pair, its units are different, so that the pair exists.
theorem countCallee_eq {u : UnitName} {k k' : MethodKey} (hu : owningUnit sep k = some u)
    (hm : u ∈ us) (c : Coupling) :
    countCallee us sep u c k' = .ok (addPairs (pairOf? sep us ⟨k, k'⟩).toList c) := by
  unfold countCallee pairOf?
  cases hv : owningUnit sep k'
  case none => simp [hu, addPairs_nil]
  case some v =>
    by_cases hvm : v ∈ us
    case neg => simp [hu, hvm, addPairs_nil]
    case pos =>
      by_cases he : v = u
      case pos => simp [hu, he, Pair.of?_eq_none_iff.mpr rfl, addPairs_nil]
      case neg =>
        have ⟨p, hp⟩ := Pair.exists_of? (Ne.symm he)
        simp [hu, hm, hvm, he, hp, Pair.of, Except.map]

theorem countCaller_eq (e : MethodKey × List MethodKey) (c : Coupling) :
    countCaller us sep c e =
      .ok (addPairs ((e.2.map (Call.mk e.1)).flatMap fun d => (pairOf? sep us d).toList) c) := by
  have hnone (h : ∀ k, pairOf? sep us ⟨e.1, k⟩ = none) :
      ((e.2.map (Call.mk e.1)).flatMap fun d => (pairOf? sep us d).toList) = [] := by
    simp [h]
  unfold countCaller
  cases hu : owningUnit sep e.1
  case none => rw [hnone fun k => by simp [pairOf?, hu], addPairs_nil]
  case some u =>
    by_cases hm : u ∈ us
    case neg =>
      rw [hnone fun k => by cases hk : owningUnit sep k <;> simp [pairOf?, hu, hk, hm], addPairs_nil]
      simp [hm]
    case pos =>
      simp only [hm, not_true_eq_false, if_false, List.flatMap_map]
      exact foldlM_addPairs (fun k _ => countCallee_eq hu hm) c

-- No pair that is asked for fails to exist.
theorem tally_eq (g : CallGraph) (us : List UnitName) (sep : Separator) :
    tally g us sep = .ok (ofCalls g us sep) := by
  have hp : pairs g us sep =
      g.entries.flatMap fun e => (e.2.map (Call.mk e.1)).flatMap fun d => (pairOf? sep us d).toList := by
    rw [pairs, CallGraph.calls, List.filterMap_eq_flatMap_toList, List.flatMap_assoc]
  have hc : ∀ e ∈ g.entries, ∀ c, countCaller us sep c e =
      .ok (addPairs ((e.2.map (Call.mk e.1)).flatMap fun d => (pairOf? sep us d).toList) c) :=
    fun e _ => countCaller_eq e
  rw [tally, foldlM_addPairs hc, ← hp]
  simp [addPairs, ofCalls, pairs, addAll]

end Tally

section Counts

variable {g : CallGraph} {us : List UnitName} {sep : Separator} {u v : UnitName} {p : Pair} {c : Call}

-- The pairs that are counted join two of the units.
theorem mem_of_mem_pairs (h : p ∈ pairs g us sep) : p.a ∈ us ∧ p.b ∈ us := by
  have ⟨c, _, hc⟩ := List.mem_filterMap.mp h
  have ⟨ha, hb, _⟩ := pairOf?_eq_some_iff.mp hc
  exact ⟨ha, hb⟩

theorem count_pairs (ha : p.a ∈ us) (hb : p.b ∈ us) :
    (pairs g us sep).count p = (g.callsBetween sep p.a p.b).ncard := by
  rw [CallGraph.callsBetween, ncard_setOf_mem_and g.calls_nodup, pairs, List.count_filterMap]
  refine List.countP_congr fun c _ => ?_
  simp [pairOf?_eq_some_iff, ha, hb]

theorem callsBetween_comm : g.callsBetween sep u v = g.callsBetween sep v u := by
  ext c
  simp only [CallGraph.callsBetween, Set.mem_ofPred_eq, or_comm]

theorem count_eq_ncard (hu : u ∈ us) (hv : v ∈ us) (h : u ≠ v) :
    (ofCalls g us sep).count u v = (g.callsBetween sep u v).ncard := by
  have ⟨p, hp⟩ := Pair.exists_of? h
  rw [count_ofCalls, hp, Option.elim_some]
  obtain ⟨rfl, rfl⟩ | ⟨rfl, rfl⟩ := Pair.of?_eq_some_iff.mp hp
  case inl => rw [count_pairs hu hv]
  case inr => rw [count_pairs hv hu, callsBetween_comm]

theorem count_eq_zero (h : u ∉ us ∨ v ∉ us) : (ofCalls g us sep).count u v = 0 := by
  rw [count_ofCalls]
  cases hp : Pair.of? u v
  case none => rfl
  case some p =>
    refine Int.natCast_eq_zero.mpr <| List.count_eq_zero.mpr fun hm => ?_
    have ⟨ha, hb⟩ := mem_of_mem_pairs hm
    obtain ⟨rfl, rfl⟩ | ⟨rfl, rfl⟩ := Pair.of?_eq_some_iff.mp hp
    case inl => exact h.elim (· ha) (· hb)
    case inr => exact h.elim (· hb) (· ha)

theorem total_eq_ncard : (ofCalls g us sep).total = (g.crossCalls sep us).ncard := by
  have hs : g.crossCalls sep us = {c | c ∈ g.calls ∧ (pairOf? sep us c).isSome} :=
    Set.ext fun c => and_congr_right fun _ => isSome_pairOf?.symm
  rw [total_ofCalls, hs, ncard_setOf_mem_and g.calls_nodup, pairs, List.length_filterMap_eq_countP]
  simp

-- What is recorded is what has been counted at least once.
theorem mem_counts {n : Int} (h : (p, n) ∈ (ofCalls g us sep).counts) :
    p.a ∈ us ∧ p.b ∈ us ∧ 1 ≤ n ∧ (ofCalls g us sep).count p.a p.b = n := by
  have ⟨hp, hn⟩ := mem_counts_ofCalls.mp h
  have ⟨ha, hb⟩ := mem_of_mem_pairs hp
  have hc := List.count_pos_iff.mpr hp
  exact ⟨ha, hb, by omega, by rw [count_ofCalls, Pair.of?_self, Option.elim_some, hn]⟩

end Counts

end Coupling
end ModuleDiscovery
