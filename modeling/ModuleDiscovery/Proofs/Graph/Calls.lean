import Mathlib.Data.List.Nodup
import ModuleDiscovery.EdgeFile.Load

namespace ModuleDiscovery.CallGraph

section Entries

variable {k v : MethodKey} {es : List (MethodKey × List MethodKey)} {c : Call}

def callsOfEntries (es : List (MethodKey × List MethodKey)) : List Call :=
  es.flatMap fun e => e.2.map (Call.mk e.1)

theorem mem_callsOfEntries : c ∈ callsOfEntries es ↔ ∃ e ∈ es, e.1 = c.caller ∧ c.callee ∈ e.2 := by
  simp only [callsOfEntries, List.mem_flatMap, List.mem_map]
  constructor
  case mp =>
    rintro ⟨e, he, v, hv, rfl⟩
    exact ⟨e, he, rfl, hv⟩
  case mpr =>
    rintro ⟨e, he, hk, hv⟩
    exact ⟨e, he, c.callee, hv, by rw [hk]⟩

theorem mem_addCallee {j : MethodKey} {ks : List MethodKey} : j ∈ addCallee k ks ↔ j = k ∨ j ∈ ks := by
  unfold addCallee
  split
  case isTrue h  => exact ⟨.inr, fun hj => hj.elim (· ▸ h) id⟩
  case isFalse h => rw [List.mem_append, List.mem_singleton, or_comm]

theorem mem_callsOfEntries_cons {e : MethodKey × List MethodKey} :
    c ∈ callsOfEntries (e :: es) ↔ (e.1 = c.caller ∧ c.callee ∈ e.2) ∨ c ∈ callsOfEntries es := by
  simp [mem_callsOfEntries]

theorem mem_callsOfEntries_updateEntry :
    c ∈ callsOfEntries (updateEntry k (addCallee v) es) ↔ c = ⟨k, v⟩ ∨ c ∈ callsOfEntries es := by
  have hc : c = ⟨k, v⟩ ↔ k = c.caller ∧ c.callee = v := by
    cases c
    rw [Call.mk.injEq, eq_comm]
  induction es
  case nil => simp [updateEntry, mem_callsOfEntries_cons, mem_addCallee, hc]
  case cons e es ih =>
    unfold updateEntry
    split
    case isTrue h =>
      simp only [mem_callsOfEntries_cons, mem_addCallee, hc, h]
      rw [and_or_left, or_assoc]
    case isFalse h =>
      rw [mem_callsOfEntries_cons, mem_callsOfEntries_cons, or_left_comm]
      exact or_congr_right ih

end Entries

variable {g : CallGraph} {c d : Call} {cs : List Call}

theorem calls_nodup (g : CallGraph) : g.calls.Nodup := by
  refine List.nodup_flatMap.mpr ⟨?_, ?_⟩
  · intro e he
    exact (g.calleesNodup e he).map fun _ _ h => (Call.mk.inj h).2
  · refine (List.pairwise_map.mp g.callersNodup).imp ?_
    intro e e' hne
    simp only [Function.onFun, List.disjoint_left, List.mem_map]
    rintro _ ⟨v, -, rfl⟩ ⟨v', -, h⟩
    exact hne (Call.mk.inj h).1.symm

theorem mem_calls_insert : c ∈ (g.insert d).calls ↔ c = d ∨ c ∈ g.calls :=
  mem_callsOfEntries_updateEntry

theorem mem_calls_merge : c ∈ (g.merge cs).1.calls ↔ c ∈ cs ∨ c ∈ g.calls := by
  induction cs generalizing g
  case nil => simp [merge]
  case cons d cs ih =>
    change c ∈ ((g.insert d).merge cs).1.calls ↔ _
    rw [ih, mem_calls_insert, List.mem_cons, or_assoc, or_left_comm]

-- A graph all of whose callers call something.
def IsMerged (g : CallGraph) : Prop :=
  g.calls = [] → g.entries = []

theorem IsMerged.entries_iff (h : g.IsMerged) : g.entries = [] ↔ g.calls = [] :=
  ⟨fun he => by simp [calls, he], h⟩

theorem isMerged_merge (h : g.IsMerged) : (g.merge cs).1.IsMerged := by
  induction cs generalizing g
  case nil => exact h
  case cons d cs ih =>
    refine ih (g := g.insert d) fun hn => ?_
    have hd : d ∈ (g.insert d).calls := mem_calls_insert.mpr (.inl rfl)
    rw [hn] at hd
    contradiction

section Load

variable {files : Files.Tree} {start : Files.Location} {ps : List String} {rs : List Record}

-- A step of the loading: the calls of one more file.
def loadStep (files : Files.Tree) (start : Files.Location) (s : CallGraph × List Record) (p : String) :
    Except Failure (CallGraph × List Record) :=
  (EdgeFile.load files start p).map fun cs =>
    let m := s.1.merge cs
    (m.1, s.2 ++ [EdgeFile.record p cs, m.1.mergeRecord m.2])

theorem load_eq_foldlM : load files start ps = ps.foldlM (loadStep files start) (empty, []) := by
  unfold load
  refine congrArg (fun f => ps.foldlM f (empty, [])) ?_
  funext s p
  unfold loadStep
  cases EdgeFile.load files start p <;> rfl

-- The calls that the given files state.
def IsStated (files : Files.Tree) (start : Files.Location) (ps : List String) (c : Call) : Prop :=
  ∃ p ∈ ps, ∃ cs, EdgeFile.load files start p = .ok cs ∧ c ∈ cs

theorem loadStep_ok {s s' : CallGraph × List Record} {p : String}
    (h : loadStep files start s p = .ok s') :
    ∃ cs, EdgeFile.load files start p = .ok cs ∧ s'.1 = (s.1.merge cs).1 := by
  unfold loadStep at h
  cases hc : EdgeFile.load files start p
  case error f => simp [hc, Except.map] at h
  case ok cs =>
    simp only [hc, Except.map, Except.ok.injEq] at h
    exact ⟨cs, rfl, by rw [← h]⟩

-- What a run over files makes of a graph: it adds what the files state.
theorem foldlM_loadStep {s s' : CallGraph × List Record}
    (h : ps.foldlM (loadStep files start) s = .ok s') :
    (∀ p ∈ ps, ∃ cs, EdgeFile.load files start p = .ok cs) ∧
    (∀ c, c ∈ s'.1.calls ↔ IsStated files start ps c ∨ c ∈ s.1.calls) ∧
    (s.1.IsMerged → s'.1.IsMerged) := by
  induction ps generalizing s
  case nil =>
    cases h
    simp [IsStated]
  case cons p ps ih =>
    rw [List.foldlM_cons] at h
    cases hp : loadStep files start s p
    case error f => simp [hp, bind, Except.bind] at h
    case ok s₁ =>
      have ⟨cs, hcs, hg⟩ := loadStep_ok hp
      rw [hp] at h
      have ⟨hl, hm, hi⟩ := ih h
      refine ⟨List.forall_mem_cons.mpr ⟨⟨cs, hcs⟩, hl⟩, ?_, fun hs => hi (hg ▸ isMerged_merge hs)⟩
      intro c
      rw [hm, hg, mem_calls_merge]
      simp [IsStated, hcs, or_assoc, or_left_comm]

theorem exists_foldlM_loadStep (h : ∀ p ∈ ps, ∃ cs, EdgeFile.load files start p = .ok cs)
    (s : CallGraph × List Record) : ∃ s', ps.foldlM (loadStep files start) s = .ok s' := by
  induction ps generalizing s
  case nil => exact ⟨s, rfl⟩
  case cons p ps ih =>
    have ⟨⟨cs, hcs⟩, hps⟩ := List.forall_mem_cons.mp h
    have ⟨s₁, hs₁⟩ : ∃ s₁, loadStep files start s p = .ok s₁ := by
      rw [loadStep, hcs]
      exact ⟨_, rfl⟩
    have ⟨s', hs'⟩ := ih hps s₁
    exact ⟨s', by rw [List.foldlM_cons, hs₁]; exact hs'⟩

theorem load_calls (h : load files start ps = .ok (g, rs)) :
    (∀ c, c ∈ g.calls ↔ IsStated files start ps c) ∧ g.IsMerged := by
  rw [load_eq_foldlM] at h
  have ⟨_, hm, hi⟩ := foldlM_loadStep h
  exact ⟨fun c => (hm c).trans (by simp [empty, calls]), hi fun _ => rfl⟩

-- Files that can be loaded in some order can be loaded in any order, also several times.
theorem load_of_mem_iff {qs : List String} (h : load files start ps = .ok (g, rs))
    (hq : ∀ p, p ∈ qs ↔ p ∈ ps) :
    ∃ g' rs', load files start qs = .ok (g', rs') ∧ ∀ c, c ∈ g'.calls ↔ c ∈ g.calls := by
  have hl := h
  rw [load_eq_foldlM] at hl
  have ⟨hp, _, _⟩ := foldlM_loadStep hl
  have ⟨⟨g', rs'⟩, hs⟩ := exists_foldlM_loadStep (fun p hm => hp p ((hq p).mp hm)) (empty, [])
  have hs : load files start qs = .ok (g', rs') := by rw [load_eq_foldlM, hs]
  refine ⟨g', rs', hs, fun c => ?_⟩
  rw [(load_calls hs).1, (load_calls h).1]
  simp only [IsStated, hq]

end Load
end ModuleDiscovery.CallGraph
