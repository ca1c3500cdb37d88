import ModuleDiscovery.Proofs.Graph.Arrival

namespace ModuleDiscovery
namespace CallGraph

-- What is merged at once: calls, or a table of callers with their callees.
inductive Source
  | calls (cs : List Call)
  | table (t : List (MethodKey × List MethodKey))

variable {g : CallGraph} {c : Call} {k : MethodKey} {s : Source} {ss : List Source}

namespace Source

-- The calls of a source, in order.
def fed : Source → List Call
  | calls cs => cs
  | table t  => callsOfEntries t

-- The callers of a source as they arrive. Those of a table are all there before its first call.
def arriving : Source → List MethodKey
  | calls cs => cs.map (·.caller)
  | table t  => t.map (·.1) ++ (callsOfEntries t).map (·.caller)

def mergeInto (g : CallGraph) : Source → CallGraph × Nat
  | calls cs => g.merge cs
  | table t  => g.mergeTable t

theorem callers_mergeInto (g : CallGraph) (s : Source) :
    (s.mergeInto g).1.callers = (g.callers ++ s.arriving).eraseDups := by
  cases s
  case calls cs => exact callers_merge
  case table t =>
    rw [mergeInto, mergeTable_eq, callers_merge, callers_foldl_record, eraseDups_eraseDups_append,
      List.append_assoc, arriving]

theorem callees_mergeInto (g : CallGraph) (s : Source) :
    (s.mergeInto g).1.callees k = (g.callees k ++ calleesOf k s.fed).eraseDups := by
  cases s
  case calls cs => exact callees_merge
  case table t  => rw [mergeInto, mergeTable_eq, callees_merge, callees_foldl_record, fed]

theorem callCount_mergeInto (g : CallGraph) (s : Source) :
    (s.mergeInto g).1.callCount = g.callCount + (s.mergeInto g).2 := by
  cases s
  case calls cs => exact callCount_merge
  case table t =>
    rw [mergeInto, mergeTable_eq, callCount_merge, callCount_congr fun _ => mem_calls_foldl_record]

-- A source that brings nothing new changes nothing.
theorem mergeInto_of_held (hk : ∀ k ∈ s.arriving, k ∈ g.callers) (hc : ∀ c ∈ s.fed, c ∈ g.calls) :
    s.mergeInto g = (g, 0) := by
  cases s
  case calls cs => exact merge_of_subset hc
  case table t =>
    have hr : (t.map (·.1)).foldl record g = g := by
      refine ext_callees ?_ fun j => callees_foldl_record
      have hn : (t.map (·.1)).removeAll g.callers = [] := by
        rw [List.removeAll, List.filter_eq_nil_iff]
        intro k hkt
        simpa using hk k (List.mem_append_left _ hkt)
      rw [callers_foldl_record, List.eraseDups_append, hn, eraseDups_of_nodup g.callers_nodup, List.eraseDups_nil,
        List.append_nil]
    rw [mergeInto, mergeTable_eq, hr]
    exact merge_of_subset hc

-- A graph knows its own calls.
theorem mergeInto_calls : (calls g.calls).mergeInto g = (g, 0) :=
  merge_of_subset fun _ => id

end Source

-- A graph into which sources are merged one after the other.
def mergeAll (g : CallGraph) (ss : List Source) : CallGraph :=
  ss.foldl (fun g s => (s.mergeInto g).1) g

theorem mergeAll_concat : mergeAll g (ss ++ [s]) = (s.mergeInto (mergeAll g ss)).1 :=
  List.foldl_concat ..

theorem callers_mergeAll : (mergeAll g ss).callers = (g.callers ++ ss.flatMap Source.arriving).eraseDups :=
  foldl_append_eraseDups callers_nodup Source.callers_mergeInto g ss

theorem callees_mergeAll :
    (mergeAll g ss).callees k = (g.callees k ++ calleesOf k (ss.flatMap Source.fed)).eraseDups := by
  rw [calleesOf_flatMap]
  exact foldl_append_eraseDups (callees_nodup · k) Source.callees_mergeInto g ss

theorem mem_callers_mergeAll : k ∈ (mergeAll g ss).callers ↔ k ∈ g.callers ∨ k ∈ ss.flatMap Source.arriving := by
  rw [callers_mergeAll, List.mem_eraseDups, List.mem_append]

theorem mem_calls_mergeAll : c ∈ (mergeAll g ss).calls ↔ c ∈ g.calls ∨ c ∈ ss.flatMap Source.fed := by
  rw [mem_calls, callees_mergeAll, List.mem_eraseDups, List.mem_append, mem_calleesOf, ← mem_calls]

-- What was merged at some time is still there at the end.
theorem mergeInto_of_mem (hs : s ∈ ss) : s.mergeInto (mergeAll g ss) = (mergeAll g ss, 0) := by
  refine Source.mergeInto_of_held (fun k hk => ?callers) fun c hc => ?calls
  case callers => exact mem_callers_mergeAll.mpr (.inr (List.mem_flatMap.mpr ⟨s, hs, hk⟩))
  case calls   => exact mem_calls_mergeAll.mpr (.inr (List.mem_flatMap.mpr ⟨s, hs, hc⟩))

section FromEmpty

theorem mem_callers_mergeAll_empty : k ∈ (mergeAll empty ss).callers ↔ k ∈ ss.flatMap Source.arriving :=
  mem_callers_mergeAll.trans (or_iff_right List.not_mem_nil)

theorem mem_calls_mergeAll_empty : c ∈ (mergeAll empty ss).calls ↔ c ∈ ss.flatMap Source.fed :=
  mem_calls_mergeAll.trans (or_iff_right List.not_mem_nil)

theorem entries_mergeAll (ss : List Source) : (mergeAll empty ss).entries =
    (ss.flatMap Source.arriving).eraseDups.map fun k => (k, (calleesOf k (ss.flatMap Source.fed)).eraseDups) := by
  rw [entries_eq, callers_mergeAll]
  refine List.map_congr_left fun k _ => ?_
  rw [callees_mergeAll]
  rfl

theorem callCount_mergeAll (ss : List Source) :
    (mergeAll empty ss).callCount = (ss.flatMap Source.fed).toFinset.card := by
  have hc : (mergeAll empty ss).calls.toFinset = (ss.flatMap Source.fed).toFinset := by
    ext c
    rw [List.mem_toFinset, List.mem_toFinset, mem_calls_mergeAll_empty]
  rw [callCount, ← hc, List.toFinset_card_of_nodup (calls_nodup _)]

theorem mem_nodes_mergeAll : k ∈ (mergeAll empty ss).nodes ↔
    k ∈ ss.flatMap Source.arriving ∨ k ∈ (ss.flatMap Source.fed).map (·.callee) := by
  simp only [mem_nodes, mem_callers_mergeAll_empty, mem_calls_mergeAll_empty, List.mem_map]

theorem size_eq_card (g : CallGraph) : g.size = g.nodes.toFinset.card :=
  (List.toFinset_card_of_nodup (nodup_eraseDups _)).symm

theorem hasNode_text (g : CallGraph) (k : MethodKey) : g.hasNode (.text k) = .ok (decide (k ∈ g.nodes)) := by
  rw [hasNode, show (Value.text k).checkKey = .ok () from rfl, Except.map, List.contains_eq_mem]

-- A table leaves more than its calls would: its callers arrive before them, also those that call nothing.
theorem merges_keep_first_arrivals (ss : List Source) :
    let g := mergeAll empty ss
    let arrived := ss.flatMap Source.arriving
    let fed := ss.flatMap Source.fed
    g.entries = arrived.eraseDups.map (fun k => (k, (calleesOf k fed).eraseDups)) ∧
    g.callCount = fed.toFinset.card ∧
    (∀ s : Source, mergeAll empty (ss ++ [s]) = (s.mergeInto g).1 ∧
      (s.mergeInto g).1.callCount = g.callCount + (s.mergeInto g).2) ∧
    (∀ k, k ∈ g.nodes ↔ k ∈ arrived ∨ k ∈ fed.map (·.callee)) ∧
    g.size = (arrived ++ fed.map (·.callee)).toFinset.card ∧
    (∀ k, g.hasNode (.text k) = .ok (decide (k ∈ g.nodes))) ∧
    (∀ s ∈ ss, s.mergeInto g = (g, 0)) ∧
    (Source.calls g.calls).mergeInto g = (g, 0) ∧
    (∀ xs ys, g.merge (xs ++ ys) =
      (((g.merge xs).1.merge ys).1, (g.merge xs).2 + ((g.merge xs).1.merge ys).2)) := by
  intro g arrived fed
  have hn : ∀ k, k ∈ g.nodes ↔ k ∈ arrived ∨ k ∈ fed.map (·.callee) := fun k => mem_nodes_mergeAll
  refine ⟨entries_mergeAll ss, callCount_mergeAll ss,
    fun s => ⟨mergeAll_concat, Source.callCount_mergeInto g s⟩, hn, ?size, hasNode_text g,
    fun s hs => mergeInto_of_mem hs, Source.mergeInto_calls, fun xs ys => merge_append⟩
  case size =>
    have hs : g.nodes.toFinset = (arrived ++ fed.map (·.callee)).toFinset := by
      ext k
      rw [List.mem_toFinset, List.mem_toFinset, hn, List.mem_append]
    rw [size_eq_card, hs]

-- A call twice, then a table with a caller that calls nothing and one that is known, then calls of both.
theorem merges_keep_first_arrivals_three_sources :
    let t : Source := .table [("c.h", []), ("b.g", ["a.f", "c.h"])]
    let ss : List Source := [.calls [⟨"b.g", "a.f"⟩, ⟨"b.g", "a.f"⟩], t, .calls [⟨"a.f", "b.g"⟩, ⟨"c.h", "b.g"⟩]]
    let g := mergeAll empty ss
    t ∈ ss ∧ t.mergeInto g = (g, 0) ∧ g.callCount = 4 ∧ g.size = 3 ∧
    g.entries = [("b.g", ["a.f", "c.h"]), ("c.h", ["b.g"]), ("a.f", ["b.g"])] := by
  intro t ss g
  have ⟨he, hc, _, _, hz, _, hm, _⟩ := merges_keep_first_arrivals ss
  have ht : t ∈ ss := .tail _ (.head _)
  exact ⟨ht, hm t ht, hc.trans (by decide), hz.trans (by decide), he.trans (by decide +kernel)⟩

end FromEmpty
end CallGraph
end ModuleDiscovery
