import Mathlib.Data.List.Lattice
import ModuleDiscovery.Proofs.Graph.CallCounts
import ModuleDiscovery.Proofs.Graph.Merging

namespace ModuleDiscovery
namespace CallGraph

variable {g : CallGraph} {sep : Separator} {us : List UnitName} {k : MethodKey} {ks : List MethodKey}

theorem isOwnedBy_iff : isOwnedBy sep us k ↔ ∃ u ∈ us, owningUnit sep k = some u := by
  unfold isOwnedBy
  cases owningUnit sep k <;> simp

theorem isOwnedBy_inter {vs : List UnitName} :
    isOwnedBy sep (us ∩ vs) k = (isOwnedBy sep us k && isOwnedBy sep vs k) := by
  unfold isOwnedBy
  cases owningUnit sep k <;> simp

theorem callsOfEntries_filter {p : MethodKey → Bool} {es : List (MethodKey × List MethodKey)} :
    callsOfEntries ((es.filter (p ·.1)).map fun e => (e.1, e.2.filter p)) =
      (callsOfEntries es).filter fun c => p c.caller && p c.callee := by
  induction es
  case nil => rfl
  case cons e es ih =>
    have hcons (d : MethodKey × List MethodKey) (ds : List (MethodKey × List MethodKey)) :
        callsOfEntries (d :: ds) = d.2.map (Call.mk d.1) ++ callsOfEntries ds := List.flatMap_cons
    rw [hcons, List.filter_append, ← ih, List.filter_map, List.filter_cons]
    by_cases he : p e.1
    case pos => simp [he, hcons, Function.comp_def]
    case neg => simp [he, Function.comp_def]

theorem calls_restrict :
    (g.restrict sep us).calls = g.calls.filter fun c => isOwnedBy sep us c.caller && isOwnedBy sep us c.callee :=
  callsOfEntries_filter

theorem callers_restrict : (g.restrict sep us).callers = g.callers.filter (isOwnedBy sep us) := by
  simp [callers, restrict, List.filter_map, Function.comp_def]

-- Only units that are in both lists are left.
theorem restrict_restrict (vs : List UnitName) :
    (g.restrict sep us).restrict sep vs = g.restrict sep (us ∩ vs) := by
  have hp : isOwnedBy sep (us ∩ vs) = fun k => isOwnedBy sep us k && isOwnedBy sep vs k :=
    funext fun _ => isOwnedBy_inter
  refine ext_entries ?_
  simp only [restrict, List.filter_map, List.map_map, List.filter_filter, Function.comp_def, hp, Bool.and_comm]

section ByMerging

variable {h : CallGraph} {es : List (MethodKey × List MethodKey)}

theorem callers_mergeTable_new (hk : k ∉ g.callers) : (g.mergeTable [(k, ks)]).1.callers = g.callers ++ [k] := by
  have ha : (Source.table [(k, ks)]).arriving = k :: ks.map fun _ => k := by
    simp [Source.arriving, callsOfEntries, Function.comp_def]
  have hr : (k :: ks.map fun _ => k).removeAll g.callers = k :: ks.map fun _ => k := by
    simp [List.removeAll, hk]
  refine (Source.callers_mergeInto g (.table [(k, ks)])).trans ?_
  rw [ha, List.eraseDups_append, hr, eraseDups_of_nodup g.callers_nodup, List.eraseDups_cons]
  simp

theorem callees_mergeTable_new (hk : k ∉ g.callers) (hn : ks.Nodup) (j : MethodKey) :
    (g.mergeTable [(k, ks)]).1.callees j = if k = j then ks else g.callees j := by
  have hf : calleesOf j (Source.table [(k, ks)]).fed = if k = j then ks else [] := by
    by_cases hj : k = j <;>
      simp [Source.fed, callsOfEntries, calleesOf, List.filter_map, Function.comp_def, hj]
  refine (Source.callees_mergeInto g (.table [(k, ks)])).trans ?_
  rw [hf]
  split
  case isTrue hj =>
    have hg : g.callees j = [] := calleesIn_eq_nil (hj ▸ hk)
    rw [hg, List.nil_append, eraseDups_of_nodup hn]
  case isFalse => rw [List.append_nil, eraseDups_of_nodup (g.callees_nodup j)]

-- A caller that is new comes last, with all its callees.
theorem entries_mergeTable_new (hk : k ∉ g.callers) (hn : ks.Nodup) :
    (g.mergeTable [(k, ks)]).1.entries = g.entries ++ [(k, ks)] := by
  rw [entries_eq, callers_mergeTable_new hk, List.map_append, entries_eq g]
  refine congrArg₂ _ (List.map_congr_left fun j hj => ?old) ?new
  case old =>
    have hne : k ≠ j := fun h => hk (h ▸ hj)
    rw [callees_mergeTable_new hk hn, if_neg hne]
  case new => rw [List.map_singleton, callees_mergeTable_new hk hn, if_pos rfl]

-- Merges a caller into a graph, with those of its callees that the units own, if they own it.
def mergeOwned (sep : Separator) (us : List UnitName) (h : CallGraph) (e : MethodKey × List MethodKey) :
    CallGraph :=
  if isOwnedBy sep us e.1 then (h.mergeTable [(e.1, e.2.filter (isOwnedBy sep us))]).1 else h

-- The restriction as it is made by merging, one caller after the other.
def restrictByMerging (g : CallGraph) (sep : Separator) (us : List UnitName) : CallGraph :=
  g.entries.foldl (mergeOwned sep us) empty

-- Whatever has been made so far, the callers that follow have to be new to it.
theorem entries_foldl_mergeOwned (hn : (h.callers ++ es.map (·.1)).Nodup) (hv : ∀ e ∈ es, e.2.Nodup) :
    (es.foldl (mergeOwned sep us) h).entries =
      h.entries ++ (es.filter (isOwnedBy sep us ·.1)).map fun e => (e.1, e.2.filter (isOwnedBy sep us)) := by
  induction es generalizing h
  case nil => simp
  case cons e es ih =>
    have ⟨he, hes⟩ := List.forall_mem_cons.mp hv
    rw [List.map_cons] at hn
    rw [List.foldl_cons, mergeOwned]
    by_cases ho : isOwnedBy sep us e.1
    case pos =>
      have hk : e.1 ∉ h.callers := fun hk => (List.nodup_append.mp hn).2.2 _ hk _ List.mem_cons_self rfl
      have hc : ((h.mergeTable [(e.1, e.2.filter (isOwnedBy sep us))]).1.callers ++ es.map (·.1)).Nodup := by
        rwa [callers_mergeTable_new hk, List.append_assoc]
      rw [if_pos ho, ih hc hes, entries_mergeTable_new hk (he.filter _), List.append_assoc]
      simp [ho]
    case neg =>
      have hc : (h.callers ++ es.map (·.1)).Nodup :=
        hn.sublist (List.Sublist.append_left (List.sublist_cons_self ..) _)
      rw [if_neg ho, ih hc hes]
      simp [ho]

theorem restrictByMerging_eq : g.restrictByMerging sep us = g.restrict sep us :=
  ext_entries (entries_foldl_mergeOwned g.callers_nodup g.calleesNodup)

end ByMerging
end CallGraph

namespace Coupling

open CallGraph

variable {g : CallGraph} {sep : Separator} {us : List UnitName} {c : Call}

-- A call that joins two of the units has its methods owned by them.
theorem isOwnedBy_of_isSome_pairOf? (h : (pairOf? sep us c).isSome) :
    isOwnedBy sep us c.caller ∧ isOwnedBy sep us c.callee := by
  have ⟨u, hu, v, hv, _, hcu, hcv⟩ := isSome_pairOf?.mp h
  exact ⟨isOwnedBy_iff.mpr ⟨u, hu, hcu⟩, isOwnedBy_iff.mpr ⟨v, hv, hcv⟩⟩

theorem pairs_restrict : pairs (g.restrict sep us) us sep = pairs g us sep := by
  rw [pairs, calls_restrict, List.filterMap_filter, pairs]
  refine List.filterMap_congr fun c _ => ?_
  split
  case isTrue => rfl
  case isFalse h =>
    rw [Bool.and_eq_true] at h
    exact (Option.not_isSome_iff_eq_none.mp (mt isOwnedBy_of_isSome_pairOf? h)).symm

theorem ofCalls_restrict : ofCalls (g.restrict sep us) us sep = ofCalls g us sep := by
  change Coupling.mk _ (addAll (pairs (g.restrict sep us) us sep) []) (pairs (g.restrict sep us) us sep).length = _
  rw [pairs_restrict]
  rfl

-- Where all calls are between methods of the units, those that join different ones are counted.
theorem countP_calls_restrict : (((g.restrict sep us).calls.countP fun c =>
    owningUnit sep c.caller ≠ owningUnit sep c.callee : Nat) : Int) = (ofCalls g us sep).total := by
  rw [← ofCalls_restrict, total_ofCalls, pairs, List.length_filterMap_eq_countP]
  refine congrArg Nat.cast (List.countP_congr fun c hc => ?_)
  rw [calls_restrict, List.mem_filter, Bool.and_eq_true, isOwnedBy_iff, isOwnedBy_iff] at hc
  obtain ⟨_, ⟨u, hu, hcu⟩, v, hv, hcv⟩ := hc
  rw [decide_eq_true_iff, isSome_pairOf?]
  constructor
  case mp => exact fun hne => ⟨u, hu, v, hv, fun h => hne (by rw [hcu, hcv, h]), hcu, hcv⟩
  case mpr =>
    rintro ⟨u', -, v', -, hne, hu', hv'⟩ he
    rw [hu', hv'] at he
    exact hne (Option.some.inj he)

end Coupling
end ModuleDiscovery
