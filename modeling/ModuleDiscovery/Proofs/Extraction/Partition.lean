import ModuleDiscovery.Proofs.Clustering.Run
import ModuleDiscovery.Proofs.Distinct
import ModuleDiscovery.Proofs.Extraction.Repair

namespace ModuleDiscovery

structure IsPartition {α : Type} (us : List UnitName) (ms : List (Module α)) : Prop where
  nonempty : ∀ m ∈ ms, m.members ≠ []
  disjoint : ms.Pairwise fun m n => m.members.Disjoint n.members
  union    : ∀ u, u ∈ us ↔ ∃ m ∈ ms, u ∈ m.members

namespace Extraction

-- Every unit stands in exactly one module, once.
structure Covers {α : Type} (us : List UnitName) (ms : List (Module α)) : Prop where
  nonempty : ∀ m ∈ ms, m.members ≠ []
  perm     : (ms.flatMap Module.members).Perm us

section Cut

variable {α : Type} [Score α] {w : Affinity α} {x : α}

-- The branches of a cut have the leaves of the tree, in the same order.
theorem cut_units (limit taken : Nat) (t : Dendrogram α) :
    (cut w x limit taken t).flatMap Dendrogram.units = t.units := by
  induction t generalizing taken
  case leaf => simp [cut]
  case fusion l r s hl hr =>
    unfold cut
    split
    case isTrue  => simp
    case isFalse => simp [hl, hr]

theorem members_ofUnits_perm {us : List UnitName} (h : us.Nodup) :
    (Module.ofUnits w us).members.Perm us :=
  sortedUnits_perm h

theorem flatMap_members_perm {bs : List (Dendrogram α)} (h : (bs.flatMap Dendrogram.units).Nodup) :
    ((bs.map fun b => Module.ofUnits w b.units).flatMap Module.members).Perm
      (bs.flatMap Dendrogram.units) := by
  have hb := (List.nodup_flatMap.mp h).1
  rw [List.flatMap_map]
  exact List.Perm.flatMap_left _ fun b hm => members_ofUnits_perm (hb b hm)

theorem covers_cutModules {us : List UnitName} {root : Option (Dendrogram α)} (hu : us.Nodup)
    (hr : (root.elim [] Dendrogram.units).Perm us) (limit : Nat) :
    Covers us (cutModules w x limit root) := by
  cases root
  case none => exact ⟨by simp [cutModules], hr⟩
  case some t =>
    constructor
    case nonempty =>
      simp only [cutModules, List.mem_map]
      rintro m ⟨b, -, rfl⟩
      exact sortedUnits_ne_nil b.units_ne_nil
    case perm =>
      have hn : ((cut w x limit 0 t).flatMap Dendrogram.units).Nodup := by
        rw [cut_units]
        exact hr.nodup_iff.mpr hu
      have hp := flatMap_members_perm (w := w) hn
      rw [cut_units] at hp
      exact hp.trans hr

end Cut

namespace Covers

variable {α : Type} {us : List UnitName} {ms ms' : List (Module α)}

theorem nodup (h : Covers us ms) (hu : us.Nodup) : (ms.flatMap Module.members).Nodup :=
  h.perm.nodup_iff.mpr hu

theorem isPartition (h : Covers us ms) (hu : us.Nodup) : IsPartition us ms where
  nonempty := h.nonempty
  disjoint := (List.nodup_flatMap.mp (h.nodup hu)).2
  union u  := by rw [← h.perm.mem_iff, List.mem_flatMap]

theorem eq_nil_iff (h : Covers us ms) : ms = [] ↔ us = [] := by
  constructor
  case mp =>
    rintro rfl
    exact h.perm.symm.eq_nil
  case mpr =>
    rintro rfl
    have hf := h.perm.eq_nil
    cases ms
    case nil => rfl
    case cons m ms =>
      rw [List.flatMap_cons, List.append_eq_nil_iff] at hf
      exact absurd hf.1 (h.nonempty m (by simp))

variable [Score α] {w : Affinity α}

-- Two modules that have no unit in common are joined without loss.
theorem join_members_perm {c : Choice (Module α)} (h : Covers us ms) (hu : us.Nodup)
    (hc : c ∈ Choice.all ms) :
    (join w c.first c.second).members.Perm (c.first.members ++ c.second.members) := by
  have hf := (Choice.perm_of_mem_all hc).flatMap_right Module.members
  simp only [List.flatMap_cons, ← List.append_assoc] at hf
  exact sortedUnits_perm (hf.nodup_iff.mpr (h.nodup hu)).of_append_left

theorem joinSmallest? (h : Covers us ms) (hu : us.Nodup)
    (hj : Extraction.joinSmallest? w ms = some ms') : Covers us ms' := by
  have ⟨c, hc, he⟩ := joinSmallest?_eq_some hj
  have hp := Choice.perm_of_mem_all hc
  have hf := hp.flatMap_right Module.members
  have hcs := h.join_members_perm (w := w) hu hc
  simp only [List.flatMap_cons] at hf
  constructor
  case nonempty =>
    intro m hm
    simp only [he, List.mem_append, List.mem_singleton] at hm
    cases hm
    case inl hm => exact h.nonempty m (hp.mem_iff.mp (by simp [hm]))
    case inr hm =>
      subst hm
      have hne := h.nonempty c.first (hp.mem_iff.mp (by simp))
      exact sortedUnits_ne_nil (by simp [hne])
  case perm =>
    refine List.Perm.trans ?_ (hf.trans h.perm)
    simp only [he, List.flatMap_append, List.flatMap_cons, List.flatMap_nil, List.append_nil,
      ← List.append_assoc]
    exact List.perm_append_comm.trans (hcs.append_right _)

end Covers

theorem Repairs.covers {α : Type} [Score α] {w : Affinity α} {limit n : Nat} {us : List UnitName}
    {ms ms' : List (Module α)} (h : Repairs w limit ms n ms') (hu : us.Nodup) (hc : Covers us ms) :
    Covers us ms' := by
  induction h
  case fits         => exact hc
  case join hj _ ih => exact ih (hc.joinSmallest? hu hj)

end Extraction

open Agglomeration Extraction

variable {α : Type} [Score α] {w : Affinity α}

theorem length_extract (x : α) (root : Option (Dendrogram α)) :
    let limit := budget w.units.length
    (extract w x root).modules.length = min (cutModules w x limit root).length limit :=
  (repairs_cutModules w x root).length_eq

theorem length_extract_of_isRepaired {x : α} {root : Option (Dendrogram α)}
    (h : (extract w x root).isRepaired) :
    (extract w x root).modules.length = budget w.units.length := by
  have hl := length_extract (w := w) x root
  simp only [isRepaired, extract_repairs, decide_eq_true_eq] at h
  omega

theorem covers_extract {us : List UnitName} {root : Option (Dendrogram α)} (hu : us.Nodup)
    (hr : (root.elim [] Dendrogram.units).Perm us) (x : α) : Covers us (extract w x root).modules :=
  (repairs_cutModules w x root).covers hu (covers_cutModules hu hr _)

-- The weights may be any, also such that no coupling has. The dendrogram may be that of the clustering or
-- any other one over the same units. Both loops come to their end, as `Runs` and `Repairs` say.
theorem extract_partitions_units (hu : w.units.Nodup) (x : α) (root : Option (Dendrogram α))
    (hr : root = (cluster w).root ∨ ∃ t, root = some t ∧ t.units.Perm w.units) :
    let limit := max 1 (w.units.length / 2)
    let ms    := cutModules w x limit root
    let e     := extract w x root
    (w.units = [] → (cluster w).root = none) ∧
    (w.units ≠ [] → ∃ t, (cluster w).root = some t ∧
      Runs w (w.units.map .leaf) (cluster w).history t) ∧
    IsPartition w.units e.modules ∧
    (w.units = [] → e.modules = []) ∧
    (w.units ≠ [] → 1 ≤ e.modules.length ∧ e.modules.length ≤ limit) ∧
    Repairs w limit ms e.repairs e.modules ∧
    e.repairs = ms.length - limit ∧
    (e.isRepaired ↔ 0 < e.repairs) ∧
    (e.isRepaired → e.modules.length = limit) := by
  intro limit ms e
  have hp : (root.elim [] Dendrogram.units).Perm w.units := by
    cases hr
    case inl hr => exact hr ▸ cluster_units_perm
    case inr hr =>
      have ⟨t, ht, hp⟩ := hr
      rwa [ht]
  have hc : Covers w.units e.modules := covers_extract hu hp x
  have hl : e.modules.length = min ms.length limit := length_extract x root
  refine ⟨cluster_root_of_units_nil, cluster_runs, hc.isPartition hu, hc.eq_nil_iff.mpr, ?bounds,
    repairs_cutModules w x root, extract_repairs w x root, by simp [isRepaired],
    length_extract_of_isRepaired⟩
  case bounds =>
    intro hn
    have := List.length_pos_iff.mpr (mt hc.eq_nil_iff.mp hn)
    omega

-- Four units in two pairs: the cut splits the first pair, has no room to split the second one, and is
-- left with one module too many.
theorem extract_partitions_four_units :
    let w : Affinity Float := ⟨["a", "b", "c", "d"], fun _ _ => 0.25⟩
    let e := extract w 0.5 (cluster w).root
    w.units.Nodup ∧ IsPartition w.units e.modules ∧ e.repairs = 1 ∧ e.modules.length = 2 := by
  intro w e
  have hu : w.units.Nodup := by decide
  have hr : e.repairs = 1 := by decide +kernel
  have ⟨_, _, hp, _, _, _, _, hi, hl⟩ := extract_partitions_units hu 0.5 _ (.inl rfl)
  have hn := hl (hi.mpr (hr ▸ Nat.one_pos))
  exact ⟨hu, hp, hr, hn.trans (by simp [w])⟩

end ModuleDiscovery
