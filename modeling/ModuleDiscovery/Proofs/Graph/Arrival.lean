import Mathlib.Data.Finset.Card
import Mathlib.Data.Finset.Dedup
import ModuleDiscovery.Proofs.Distinct
import ModuleDiscovery.Proofs.Graph.Calls

namespace ModuleDiscovery

section EraseDups

variable {α : Type} [BEq α] [LawfulBEq α] {xs : List α}

-- To erase repetitions early makes no difference later.
theorem eraseDups_eraseDups_append (xs ys : List α) : (xs.eraseDups ++ ys).eraseDups = (xs ++ ys).eraseDups := by
  have hr : ys.removeAll xs.eraseDups = ys.removeAll xs := by
    refine List.filter_congr fun y _ => ?_
    rw [Bool.eq_iff_iff]
    simp
  rw [List.eraseDups_append, List.eraseDups_append, eraseDups_of_nodup (nodup_eraseDups xs), hr]

-- Steps that append what is not there yet keep everything where it came first.
theorem foldl_append_eraseDups {σ β : Type} {op : σ → β → σ} {view : σ → List α} {new : β → List α}
    (hn : ∀ s, (view s).Nodup) (h : ∀ s b, view (op s b) = (view s ++ new b).eraseDups) (s : σ) (bs : List β) :
    view (bs.foldl op s) = (view s ++ bs.flatMap new).eraseDups := by
  induction bs generalizing s
  case nil => simp [eraseDups_of_nodup (hn s)]
  case cons b bs ih =>
    rw [List.foldl_cons, ih, h, eraseDups_eraseDups_append, List.append_assoc, List.flatMap_cons]

end EraseDups

namespace CallGraph

section Entries

variable {j k : MethodKey} {ks : List MethodKey} {f : List MethodKey → List MethodKey}
  {e : MethodKey × List MethodKey} {es : List (MethodKey × List MethodKey)}

-- What stands beside a key in entries, nothing if it is not among them.
def calleesIn (es : List (MethodKey × List MethodKey)) (k : MethodKey) : List MethodKey :=
  ((es.find? (·.1 = k)).map (·.2)).getD []

theorem calleesIn_cons : calleesIn (e :: es) k = if e.1 = k then e.2 else calleesIn es k := by
  unfold calleesIn
  by_cases h : e.1 = k <;> simp [h]

theorem calleesIn_of_mem (h : (es.map (·.1)).Nodup) (he : e ∈ es) : calleesIn es e.1 = e.2 := by
  induction es
  case nil => contradiction
  case cons d es ih =>
    have ⟨hd, hes⟩ := List.nodup_cons.mp h
    rw [calleesIn_cons]
    cases he
    case head => rw [if_pos rfl]
    case tail he =>
      have hne : d.1 ≠ e.1 := fun hk => hd (List.mem_map.mpr ⟨e, he, hk.symm⟩)
      rw [if_neg hne, ih hes he]

theorem calleesIn_eq_nil (h : k ∉ es.map (·.1)) : calleesIn es k = [] := by
  induction es
  case nil => rfl
  case cons e es ih =>
    rw [List.map_cons, List.mem_cons, not_or] at h
    rw [calleesIn_cons, if_neg (Ne.symm h.1), ih h.2]

theorem calleesIn_updateEntry :
    calleesIn (updateEntry k f es) j = if k = j then f (calleesIn es k) else calleesIn es j := by
  induction es
  case nil => by_cases h : k = j <;> simp [updateEntry, calleesIn, h]
  case cons e es ih =>
    unfold updateEntry
    split
    case isTrue he =>
      simp only [calleesIn_cons, he, if_pos]
      split <;> rfl
    case isFalse he =>
      by_cases hj : e.1 = j
      case pos =>
        have hk : k ≠ j := fun hk => he (hj.trans hk.symm)
        rw [calleesIn_cons, if_pos hj, if_neg hk, calleesIn_cons, if_pos hj]
      case neg => rw [calleesIn_cons, if_neg hj, ih, calleesIn_cons, if_neg he, calleesIn_cons, if_neg hj]

theorem keys_updateEntry : (updateEntry k f es).map (·.1) = addCallee k (es.map (·.1)) := by
  induction es
  case nil => simp [updateEntry, addCallee]
  case cons e es ih =>
    unfold updateEntry
    split
    case isTrue he  => simp [addCallee, he]
    case isFalse he =>
      rw [List.map_cons, ih]
      unfold addCallee
      by_cases hk : k ∈ es.map (·.1)
      case pos => rw [if_pos hk, if_pos (.tail _ hk), List.map_cons]
      case neg =>
        have hn : k ∉ (e :: es).map (·.1) := fun h => (List.mem_cons.mp h).elim (he ∘ Eq.symm) hk
        rw [if_neg hk, if_neg hn, List.map_cons, List.cons_append]

theorem addCallee_eq (h : ks.Nodup) : addCallee k ks = (ks ++ [k]).eraseDups := by
  rw [List.eraseDups_append, eraseDups_of_nodup h]
  unfold addCallee
  by_cases hk : k ∈ ks <;> simp [List.removeAll, List.eraseDups_cons, hk]

end Entries

variable {g h : CallGraph} {c d : Call} {cs ds : List Call} {j k : MethodKey} {ks : List MethodKey}

section Callees

theorem callers_nodup (g : CallGraph) : g.callers.Nodup :=
  g.callersNodup

theorem callees_nodup (g : CallGraph) (k : MethodKey) : (g.callees k).Nodup := by
  by_cases hk : k ∈ g.callers
  case pos =>
    obtain ⟨e, he, rfl⟩ := List.mem_map.mp hk
    rw [show g.callees e.1 = e.2 from calleesIn_of_mem g.callersNodup he]
    exact g.calleesNodup e he
  case neg =>
    rw [show g.callees k = [] from calleesIn_eq_nil hk]
    exact List.nodup_nil

theorem entries_eq (g : CallGraph) : g.entries = g.callers.map fun k => (k, g.callees k) := by
  rw [callers, List.map_map, List.map_congr_left (g := id), List.map_id]
  intro e he
  exact Prod.ext rfl (calleesIn_of_mem g.callersNodup he)

theorem ext_entries (he : g.entries = h.entries) : g = h := by
  cases g
  cases h
  cases he
  rfl

theorem ext_callees (hk : g.callers = h.callers) (hc : ∀ k, g.callees k = h.callees k) : g = h := by
  refine ext_entries ?_
  rw [entries_eq g, entries_eq h, hk]
  exact List.map_congr_left fun k _ => by rw [hc]

theorem mem_calls : c ∈ g.calls ↔ c.callee ∈ g.callees c.caller := by
  rw [show g.calls = callsOfEntries g.entries from rfl, mem_callsOfEntries]
  constructor
  case mp =>
    rintro ⟨e, he, hk, hv⟩
    rw [← hk, show g.callees e.1 = e.2 from calleesIn_of_mem g.callersNodup he]
    exact hv
  case mpr =>
    intro hc
    have hk : c.caller ∈ g.callers := by
      by_contra hk
      rw [show g.callees c.caller = [] from calleesIn_eq_nil hk] at hc
      contradiction
    obtain ⟨e, he, hk⟩ := List.mem_map.mp hk
    rw [← hk, show g.callees e.1 = e.2 from calleesIn_of_mem g.callersNodup he] at hc
    exact ⟨e, he, hk, hc⟩

theorem caller_mem_callers (hc : c ∈ g.calls) : c.caller ∈ g.callers := by
  have ⟨e, he, hk, _⟩ := mem_callsOfEntries.mp hc
  exact List.mem_map.mpr ⟨e, he, hk⟩

theorem contains_iff : g.contains c = true ↔ c ∈ g.calls := by
  rw [mem_calls, contains, decide_eq_true_iff]

theorem mem_nodes : k ∈ g.nodes ↔ k ∈ g.callers ∨ ∃ c ∈ g.calls, c.callee = k := by
  simp [nodes]

theorem callCount_congr (hc : ∀ c, c ∈ g.calls ↔ c ∈ h.calls) : g.callCount = h.callCount :=
  ((List.perm_ext_iff_of_nodup g.calls_nodup h.calls_nodup).mpr hc).length_eq

end Callees

section Operations

theorem callers_record (g : CallGraph) (k : MethodKey) : (g.record k).callers = (g.callers ++ [k]).eraseDups :=
  keys_updateEntry.trans (addCallee_eq g.callersNodup)

theorem callees_record : (g.record k).callees j = g.callees j := by
  refine calleesIn_updateEntry.trans ?_
  split
  case isTrue hk  => rw [← hk]; rfl
  case isFalse hk => rfl

theorem callers_insert (g : CallGraph) (c : Call) : (g.insert c).callers = (g.callers ++ [c.caller]).eraseDups :=
  keys_updateEntry.trans (addCallee_eq g.callersNodup)

-- The callees that a caller has in a list of calls.
def calleesOf (k : MethodKey) (cs : List Call) : List MethodKey :=
  (cs.filter (·.caller = k)).map (·.callee)

theorem mem_calleesOf : c.callee ∈ calleesOf c.caller cs ↔ c ∈ cs := by
  simp only [calleesOf, List.mem_map, List.mem_filter, decide_eq_true_eq]
  constructor
  case mp =>
    rintro ⟨d, ⟨hd, hk⟩, hv⟩
    cases c
    cases d
    cases hk
    cases hv
    exact hd
  case mpr => exact fun hc => ⟨c, ⟨hc, rfl⟩, rfl⟩

theorem calleesOf_flatMap {α : Type} {f : α → List Call} {xs : List α} :
    calleesOf k (xs.flatMap f) = xs.flatMap fun x => calleesOf k (f x) := by
  simp [calleesOf, List.filter_flatMap, List.map_flatMap]

theorem callees_insert (g : CallGraph) (c : Call) :
    (g.insert c).callees j = (g.callees j ++ calleesOf j [c]).eraseDups := by
  refine calleesIn_updateEntry.trans ?_
  by_cases hk : c.caller = j
  case pos =>
    simp only [hk, if_true, calleesOf, List.filter_cons, decide_true, List.filter_nil, List.map_cons, List.map_nil]
    exact addCallee_eq (callees_nodup g j)
  case neg =>
    simp only [hk, if_false, calleesOf, List.filter_cons, decide_false, List.filter_nil, List.map_nil,
      List.append_nil, Bool.false_eq_true]
    exact (eraseDups_of_nodup (callees_nodup g j)).symm

theorem insert_of_mem (hc : c ∈ g.calls) : g.insert c = g := by
  refine ext_callees ?_ fun j => ?_
  case refine_1 =>
    rw [callers_insert, ← addCallee_eq g.callers_nodup, addCallee, if_pos (caller_mem_callers hc)]
  case refine_2 =>
    refine calleesIn_updateEntry.trans ?_
    split
    case isTrue hk  => rw [← hk]; exact if_pos (mem_calls.mp hc)
    case isFalse hk => rfl

theorem callCount_insert (hc : c ∉ g.calls) : (g.insert c).callCount = g.callCount + 1 := by
  have hp : (g.insert c).calls.Perm (c :: g.calls) := by
    refine (List.perm_ext_iff_of_nodup (g.insert c).calls_nodup (List.nodup_cons.mpr ⟨hc, g.calls_nodup⟩)).mpr ?_
    intro d
    rw [mem_calls_insert, List.mem_cons]
  exact hp.length_eq

theorem merge_cons : g.merge (c :: cs) =
    (((g.insert c).merge cs).1, ((g.insert c).merge cs).2 + if c ∈ g.calls then 0 else 1) := by
  by_cases hc : c ∈ g.calls
  case pos => simp [merge, hc, contains_iff.mpr hc]
  case neg =>
    have hn : g.contains c = false := Bool.eq_false_iff.mpr (mt contains_iff.mp hc)
    simp [merge, hc, hn]

theorem merge_eq_foldl : (g.merge cs).1 = cs.foldl insert g := by
  induction cs generalizing g
  case nil          => rfl
  case cons c cs ih => rw [merge_cons, ih, List.foldl_cons]

theorem callers_merge : (g.merge cs).1.callers = (g.callers ++ cs.map (·.caller)).eraseDups := by
  rw [merge_eq_foldl, List.map_eq_flatMap]
  exact foldl_append_eraseDups callers_nodup callers_insert g cs

theorem callees_merge : (g.merge cs).1.callees k = (g.callees k ++ calleesOf k cs).eraseDups := by
  have hc : calleesOf k cs = cs.flatMap fun c => calleesOf k [c] := by
    rw [← calleesOf_flatMap, List.flatMap_singleton']
  rw [merge_eq_foldl, hc]
  exact foldl_append_eraseDups (callees_nodup · k) (fun g c => callees_insert g c) g cs

-- The number of a merge is that of the calls it adds.
theorem callCount_merge : (g.merge cs).1.callCount = g.callCount + (g.merge cs).2 := by
  induction cs generalizing g
  case nil => rfl
  case cons c cs ih =>
    rw [merge_cons, ih]
    by_cases hc : c ∈ g.calls
    case pos => simp only [hc, if_true, insert_of_mem hc, Nat.add_zero]
    case neg =>
      simp only [hc, if_false, callCount_insert hc]
      omega

theorem merge_append : g.merge (cs ++ ds) =
    (((g.merge cs).1.merge ds).1, (g.merge cs).2 + ((g.merge cs).1.merge ds).2) := by
  induction cs generalizing g
  case nil => simp [merge]
  case cons c cs ih =>
    rw [List.cons_append, merge_cons, ih, merge_cons]
    simp only [Prod.mk.injEq, true_and]
    omega

theorem merge_of_subset (hc : ∀ c ∈ cs, c ∈ g.calls) : g.merge cs = (g, 0) := by
  induction cs
  case nil => rfl
  case cons c cs ih =>
    have ⟨hd, hcs⟩ := List.forall_mem_cons.mp hc
    rw [merge_cons, insert_of_mem hd, ih hcs, if_pos hd]

theorem callers_foldl_record : (ks.foldl record g).callers = (g.callers ++ ks).eraseDups := by
  have h := foldl_append_eraseDups callers_nodup callers_record g ks
  rwa [List.flatMap_singleton'] at h

theorem callees_foldl_record : (ks.foldl record g).callees j = g.callees j := by
  induction ks generalizing g
  case nil          => rfl
  case cons k ks ih => rw [List.foldl_cons, ih, callees_record]

theorem mem_calls_foldl_record : c ∈ (ks.foldl record g).calls ↔ c ∈ g.calls := by
  rw [mem_calls, mem_calls, callees_foldl_record]

theorem mergeTable_eq (t : List (MethodKey × List MethodKey)) :
    g.mergeTable t = ((t.map (·.1)).foldl record g).merge (callsOfEntries t) := by
  rw [List.foldl_map]
  rfl

end Operations

end CallGraph
end ModuleDiscovery
