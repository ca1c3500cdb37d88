import Mathlib.Data.List.Perm.Basic
import ModuleDiscovery.Clustering.Agglomeration
import ModuleDiscovery.Proofs.Clustering.Selection

namespace ModuleDiscovery.Agglomeration

-- A run that ends at the tree `t`. There is no run that gets stuck: where several clusters are left, the
-- next step needs a choice of two of them.
inductive Runs {α : Type} [Score α] (w : Affinity α) :
    List (Dendrogram α) → List (Fusion α) → Dendrogram α → Prop
  | done {t} : Runs w [t] [] t
  | step {ts c s fs t} : (closest? w ts = some (c, s)) → (Runs w (fuse c s) fs t) →
      Runs w ts (⟨c.first.units, c.second.units, s⟩ :: fs) t

variable {α : Type} {ts : List (Dendrogram α)} {c : Choice (Dendrogram α)} {s : α}

theorem length_fuse (h : c ∈ Choice.all ts) : (fuse c s).length + 1 = ts.length := by
  have := Choice.length_rest_of_mem_all h
  simp [fuse]
  omega

theorem units_fuse_perm (h : c ∈ Choice.all ts) :
    ((fuse c s).flatMap Dendrogram.units).Perm (ts.flatMap Dendrogram.units) := by
  have hp := (Choice.perm_of_mem_all h).flatMap_right Dendrogram.units
  refine List.Perm.trans ?_ hp
  simp only [fuse, List.flatMap_append, List.flatMap_cons, List.flatMap_nil, List.append_nil,
    Dendrogram.units_fusion, ← List.append_assoc]
  rw [List.append_assoc]
  exact List.perm_append_comm

-- What holds of all clusters goes on to hold if it carries over from two clusters to their fusion.
theorem forall_mem_fuse {P : Dendrogram α → Prop} (h : ∀ t ∈ ts, P t) (hc : c ∈ Choice.all ts)
    (hf : P c.first → P c.second → P (.fusion c.first c.second s)) : ∀ t ∈ fuse c s, P t := by
  have hold : ∀ t ∈ c.first :: c.second :: c.rest, P t :=
    fun t ht => h t <| (Choice.perm_of_mem_all hc).mem_iff.mp ht
  simp only [List.forall_mem_cons] at hold
  obtain ⟨hfirst, hsecond, hrest⟩ := hold
  simp only [fuse, List.forall_mem_append, List.forall_mem_singleton]
  exact ⟨hrest, hf hfirst hsecond⟩

variable [Score α] {w : Affinity α} {fs : List (Fusion α)} {t : Dendrogram α}

theorem better_eq_or (b : Choice (Dendrogram α) × α) (c : Choice (Dendrogram α)) :
    (better w b c).1 = b.1 ∨ (better w b c).1 = c := by
  unfold better
  split <;> simp

theorem mem_all_of_closest? (h : closest? w ts = some (c, s)) : c ∈ Choice.all ts := by
  unfold closest? at h
  split at h
  case h_1 => contradiction
  case h_2 d ds hd =>
    injection h with h
    have hm : ((d :: ds).foldl (better w) (d, Score.least)).1 ∈ d :: d :: ds :=
      Choice.foldl_mem better_eq_or
    rw [h] at hm
    simpa [hd] using hm

-- The scan finds a choice as long as there is one to make.
theorem exists_closest? (h : 2 ≤ ts.length) : ∃ c s, closest? w ts = some (c, s) := by
  have hn : Choice.all ts ≠ [] := mt Choice.all_eq_nil.mp (by omega)
  unfold closest?
  split
  case h_1 hd   => exact absurd hd hn
  case h_2 d ds => exact ⟨_, _, rfl⟩

section FirstMax

variable {β : Type} [LinearOrder β] {r : α → β}

-- The scan finds the first of the most similar clusters. It starts below all similarities, so that it never ends
-- with what it started with.
theorem closest?_firstMax (hg : ∀ x y, r Score.least ≤ r y → (Score.gt x y ↔ r y < r x))
    (hl : ∀ d ∈ Choice.all ts, r Score.least < r (similarity w d)) (h : closest? w ts = some (c, s)) :
    s = similarity w c ∧ Choice.FirstMax (fun d => r (similarity w d)) (Choice.all ts) c := by
  unfold closest? at h
  split at h
  case h_1 => contradiction
  case h_2 d ds hd =>
    let found (e : Choice (Dendrogram α)) := (e, similarity w e)
    have hm : Choice.FirstMax (fun p => r p.2) ((d, Score.least) :: (d :: ds).map found) (c, s) := by
      rw [← Option.some.inj h]
      change Choice.FirstMax _ _ ((d :: ds).foldl (fun p e => if Score.gt (found e).2 p.2 then found e else p) _)
      rw [← List.foldl_map (f := found) (g := fun p q => if Score.gt q.2 p.2 then q else p)]
      exact Choice.foldl_firstMax fun p q hp => if_congr (hg q.2 p.2 hp) rfl rfl
    rw [hd] at hl
    have ⟨e, he, hfirst⟩ := (hm.of_cons List.mem_cons_self (hl d List.mem_cons_self)).of_map
    cases he
    exact ⟨rfl, hd ▸ hfirst⟩

end FirstMax

theorem run_runs {n : Nat} (h : ts.length = n + 1) :
    ∃ t, (run w n ts).2 = [t] ∧ Runs w ts (run w n ts).1 t := by
  induction n generalizing ts
  case zero =>
    obtain ⟨t, rfl⟩ := List.length_eq_one_iff.mp h
    exact ⟨t, rfl, .done⟩
  case succ n ih =>
    have hl : 2 ≤ ts.length := by omega
    have ⟨c, s, hc⟩ := exists_closest? (w := w) hl
    have hf : (fuse c s).length = n + 1 := by
      have := length_fuse (s := s) (mem_all_of_closest? hc)
      omega
    have ⟨t, ht, hr⟩ := ih hf
    simp only [run, hc]
    exact ⟨t, ht, .step hc hr⟩

namespace Runs

theorem units_perm (h : Runs w ts fs t) : t.units.Perm (ts.flatMap Dendrogram.units) := by
  induction h
  case done         => simp
  case step hc _ ih => exact ih.trans <| units_fuse_perm (mem_all_of_closest? hc)

end Runs
end Agglomeration

open Agglomeration

variable {α : Type} [Score α] {w : Affinity α}

theorem cluster_root_of_units_nil (h : w.units = []) : (cluster w).root = none := by
  simp [cluster, h, run]

theorem cluster_runs (h : w.units ≠ []) :
    ∃ t, (cluster w).root = some t ∧ Runs w (w.units.map .leaf) (cluster w).history t := by
  have hl : (w.units.map (Dendrogram.leaf (α := α))).length = w.units.length - 1 + 1 := by
    have := List.length_pos_iff.mpr h
    simp
    omega
  have ⟨t, ht, hr⟩ := run_runs (w := w) hl
  refine ⟨t, ?root, ?run⟩
  case root => simp [cluster, ht]
  case run  => simpa [cluster] using hr

-- The leaves of the dendrogram, of which there are none where there is no dendrogram.
theorem cluster_units_perm : ((cluster w).root.elim [] Dendrogram.units).Perm w.units := by
  by_cases h : w.units = []
  case pos => simp [h, cluster_root_of_units_nil h]
  case neg =>
    have ⟨t, ht, hr⟩ := cluster_runs h
    simpa [ht, List.flatMap_map] using hr.units_perm

end ModuleDiscovery
