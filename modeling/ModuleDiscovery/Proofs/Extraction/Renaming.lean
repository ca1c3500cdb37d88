import Mathlib.Logic.Equiv.Basic
import ModuleDiscovery.Proofs.Clustering.Renaming
import ModuleDiscovery.Proofs.Extraction.Partition

namespace ModuleDiscovery

open Function Relator

namespace Extraction

section Unsplit

variable {α : Type} {us : List UnitName} {ks ms : List (Module α)} {c : Choice (Module α)}

-- Each of the modules `ks` is as a whole in a module of `ms`, or not at all. Only joined modules list their units by
-- name, so that the last digits of their averages may depend on the names.
def Unsplit (ks ms : List (Module α)) : Prop :=
  ∀ m ∈ ms, ∀ k ∈ ks, ∀ u ∈ k.members, u ∈ m.members → k.members ⊆ m.members

theorem unsplit_of_isPartition (h : IsPartition us ms) : Unsplit ms ms := by
  intro m hm k hk u huk hum
  by_cases he : k = m
  case pos => exact he ▸ List.Subset.refl _
  case neg =>
    have : Std.Symm fun m n : Module α => m.members.Disjoint n.members := ⟨fun _ _ => List.Disjoint.symm⟩
    exact absurd hum (h.disjoint.forall hk hm he huk)

variable [Score α] {w : Affinity α}

theorem mem_join {m n : Module α} {u : UnitName} :
    u ∈ (join w m n).members ↔ u ∈ m.members ∨ u ∈ n.members := by
  rw [join, mem_sortedUnits, List.mem_append]

theorem Unsplit.joinSmallest? {ms' : List (Module α)} (h : Unsplit ks ms)
    (hj : Extraction.joinSmallest? w ms = some ms') : Unsplit ks ms' := by
  have ⟨c, hc, he⟩ := joinSmallest?_eq_some hj
  have hold : Unsplit ks (c.first :: c.second :: c.rest) :=
    fun m hm => h m ((Choice.perm_of_mem_all hc).mem_iff.mp hm)
  simp only [Unsplit, List.forall_mem_cons] at hold
  simp only [Unsplit, he, List.forall_mem_append, List.forall_mem_singleton]
  refine ⟨hold.2.2, fun k hk u huk hum => ?_⟩
  cases mem_join.mp hum
  case inl hu => exact fun v hv => mem_join.mpr (.inl (hold.1 k hk u huk hu hv))
  case inr hu => exact fun v hv => mem_join.mpr (.inr (hold.2.1 k hk u huk hu hv))

-- A join has the units of two modules, of which no module in one piece has a unit each.
theorem Unsplit.join_not_mem (h : Unsplit ks ms) (hp : IsPartition us ms) (hc : c ∈ Choice.all ms) :
    join w c.first c.second ∉ ks := by
  intro hj
  have hd : c.first.members.Disjoint c.second.members := Choice.pairwise_iff_forall_all.mp hp.disjoint c hc
  have hm := (Choice.perm_of_mem_all hc).subset
  simp only [List.cons_subset] at hm
  obtain ⟨u, hu⟩ := List.exists_mem_of_ne_nil _ (hp.nonempty _ hm.1)
  obtain ⟨v, hv⟩ := List.exists_mem_of_ne_nil _ (hp.nonempty _ hm.2.1)
  have hs := h _ hm.1 _ hj u (mem_join.mpr (.inl hu)) hu
  exact hd (hs (mem_join.mpr (.inr hv))) hv

end Unsplit

section Related

variable {α : Type} {f : UnitName → UnitName} {ks ms ms' : List (Module α)} {m m' : Module α}
  {c c' : Choice (Module α)}

-- Modules that are the same up to the names of their units. Those among `ks` also have the same average.
structure SameUpTo (f : UnitName → UnitName) (ks : List (Module α)) (m m' : Module α) : Prop where
  nodup   : m.members.Nodup
  members : m'.members = sortedUnits (m.members.map f)
  average : m ∈ ks → m'.average = m.average

theorem SameUpTo.size (h : SameUpTo f ks m m') (hf : Injective f) : m'.size = m.size := by
  have hp : m'.members.Perm (m.members.map f) := h.members ▸ sortedUnits_perm (h.nodup.map hf)
  rw [Module.size, hp.length_eq, List.length_map, Module.size]

theorem SameUpTo.mem {u : UnitName} (h : SameUpTo f ks m m') : u ∈ m'.members ↔ ∃ v ∈ m.members, f v = u := by
  rw [h.members, mem_sortedUnits, List.mem_map]

theorem smaller_renamed (hf : Injective f) :
    (Choice.Related (SameUpTo f ks) ⇒ Choice.Related (SameUpTo f ks) ⇒ Choice.Related (SameUpTo f ks))
      smaller smaller := by
  intro c c' hc d d' hd
  unfold smaller
  rw [hc.first.size hf, hc.second.size hf, hd.first.size hf, hd.second.size hf]
  split
  case isTrue  => exact hd
  case isFalse => exact hc

theorem smallest?_renamed (hf : Injective f) (h : List.Forall₂ (SameUpTo f ks) ms ms') :
    Option.Rel (Choice.Related (SameUpTo f ks)) (smallest? ms) (smallest? ms') := by
  have ha := Choice.forall₂_all h
  unfold smallest?
  generalize Choice.all ms = cs, Choice.all ms' = cs' at ha
  cases ha
  case nil         => exact .none
  case cons hc hcs => exact .some <| List.rel_foldl (smaller_renamed hf) hc hcs

variable [Score α] {w w' : Affinity α} {x : α} {limit taken : Nat}

theorem join_renamed (hc : Choice.Related (SameUpTo f ks) c c') (hk : join w c.first c.second ∉ ks) :
    SameUpTo f ks (join w c.first c.second) (join w' c'.first c'.second) where
  nodup   := nodup_sortedUnits _
  members := by
    refine sortedUnits_congr fun u => ?_
    simp only [List.mem_append, List.mem_map, hc.first.mem, hc.second.mem, mem_join, or_and_right, exists_or]
  average := (absurd · hk)

theorem joinSmallest?_renamed (hf : Injective f) {us : List UnitName} (hk : Unsplit ks ms)
    (hp : IsPartition us ms) (h : List.Forall₂ (SameUpTo f ks) ms ms') :
    Option.Rel (List.Forall₂ (SameUpTo f ks)) (joinSmallest? w ms) (joinSmallest? w' ms') := by
  have hc := smallest?_renamed hf h
  unfold joinSmallest?
  generalize hs : smallest? ms = o, smallest? ms' = o' at hc
  cases hc
  case none => exact .none
  case some hc =>
    have hj := hk.join_not_mem (w := w) hp (mem_all_of_smallest? hs)
    exact .some <| List.rel_append hc.rest (.cons (join_renamed hc hj) .nil)

theorem repair_renamed (hf : Injective f) {us : List UnitName} {n : Nat} (hu : us.Nodup)
    (hk : Unsplit ks ms) (hms : Covers us ms) (h : List.Forall₂ (SameUpTo f ks) ms ms') :
    List.Forall₂ (SameUpTo f ks) (repair w n ms) (repair w' n ms') := by
  induction n generalizing ms ms'
  case zero => exact h
  case succ n ih =>
    have hj : Option.Rel (List.Forall₂ (SameUpTo f ks)) (joinSmallest? w ms) (joinSmallest? w' ms') :=
      joinSmallest?_renamed hf hk (hms.isPartition hu) h
    unfold repair
    generalize hs : joinSmallest? w ms = o, joinSmallest? w' ms' = o' at hj
    cases hj
    case none    => exact h
    case some hj => exact ih (hk.joinSmallest? hs) (hms.joinSmallest? hu hs) hj

theorem stands_renamed (h : w.Renamed f w') (hf : Injective f) (t : Dendrogram α) :
    stands w' x (t.rename f) = stands w x t := by
  rw [stands, Dendrogram.units_rename, h.within hf, Dendrogram.isLeaf_rename, stands]

theorem cut_renamed (h : w.Renamed f w') (hf : Injective f) (t : Dendrogram α) :
    cut w' x limit taken (t.rename f) = (cut w x limit taken t).map (Dendrogram.rename f) := by
  induction t generalizing taken
  case leaf => rfl
  case fusion l r s hl hr =>
    have hs := stands_renamed (x := x) h hf (.fusion l r s)
    simp only [Dendrogram.rename, cut] at hs ⊢
    rw [hs, hl, hr, List.length_map]
    split
    case isTrue  => rfl
    case isFalse => rw [List.map_append]

theorem ofUnits_renamed (h : w.Renamed f w') (hf : Injective f) {us : List UnitName} :
    SameUpTo f ks (Module.ofUnits w us) (Module.ofUnits w' (us.map f)) where
  nodup     := nodup_sortedUnits us
  members   := sortedUnits_congr fun u => by simp [Module.ofUnits]
  average _ := h.within hf

theorem cutModules_renamed (h : w.Renamed f w') (hf : Injective f) (root : Option (Dendrogram α)) :
    List.Forall₂ (SameUpTo f ks) (cutModules w x limit root)
      (cutModules w' x limit (root.map (Dendrogram.rename f))) := by
  cases root
  case none => exact .nil
  case some t =>
    simp only [cutModules, Option.map_some, cut_renamed h hf, List.map_map, List.forall₂_map_left_iff,
      List.forall₂_map_right_iff, Function.comp_apply, Dendrogram.units_rename]
    exact List.forall₂_same.mpr fun _ _ => ofUnits_renamed h hf

end Related
end Extraction

open Extraction

section Extract

variable {α : Type} [Score α] {f : UnitName → UnitName} {w w' : Affinity α} {root : Option (Dendrogram α)}

theorem extract_renamed (h : w.Renamed f w') (hf : Injective f) (hu : w.units.Nodup)
    (hr : (root.elim [] Dendrogram.units).Perm w.units) (x : α) :
    let e  := extract w x root
    let e' := extract w' x (root.map (Dendrogram.rename f))
    e'.budget = e.budget ∧ e'.repairs = e.repairs ∧
      List.Forall₂ (SameUpTo f (cutModules w x e.budget root)) e.modules e'.modules := by
  intro e e'
  have hl : w'.units.length = w.units.length := by rw [h.units, List.length_map]
  have hms := covers_cutModules (w := w) (x := x) hu hr (budget w.units.length)
  have hc : List.Forall₂ (SameUpTo f (cutModules w x (budget w.units.length) root))
      (cutModules w x (budget w.units.length) root) _ := cutModules_renamed h hf root
  simp only [e, e', extract_budget, extract_repairs, extract_modules, hl, ← hc.length_eq, true_and]
  exact repair_renamed hf hu (unsplit_of_isPartition (hms.isPartition hu)) hms hc

-- The counts and the total may be any, also such that no calls make. The modules of the cut are those that no
-- join has made.
theorem renamed_units_group_alike (hf : Injective f) (c : Coupling) (us : List UnitName) :
    Option.Rel
      (fun w w' : Affinity α =>
        let k  := cluster w
        let k' := cluster w'
        k'.history = k.history.map (Fusion.rename f) ∧
        k'.root = k.root.map (Dendrogram.rename f) ∧
        ∀ x : α,
          let e  := extract w x k.root
          let e' := extract w' x k'.root
          e'.budget = e.budget ∧
          e'.repairs = e.repairs ∧
          e'.isRepaired = e.isRepaired ∧
          List.Forall₂
            (fun m m' => m'.members = sortedUnits (m.members.map f) ∧
              (m ∈ cutModules w x e.budget k.root → m'.average = m.average))
            e.modules e'.modules)
      (Affinity.ofCoupling? c us) (Affinity.ofCoupling? (c.rename f) (us.map f)) := by
  have hw : Option.Rel _ (Affinity.ofCoupling? c us : Option (Affinity α)) _ := Affinity.renamed_ofCoupling? hf
  generalize hs : (Affinity.ofCoupling? c us : Option (Affinity α)) = o,
    (Affinity.ofCoupling? (c.rename f) (us.map f) : Option (Affinity α)) = o' at hw
  cases hw
  case none => exact .none
  case some w w' h =>
    refine .some ?_
    intro k k'
    have hu := Affinity.nodup_of_ofCoupling? hs
    have ⟨hh, hr⟩ := cluster_renamed h
    refine ⟨hh, hr, fun x => ?_⟩
    intro e e'
    have ⟨hb, hn, hm⟩ := extract_renamed h hf hu cluster_units_perm x
    rw [← hr] at hb hn hm
    exact ⟨hb, hn, by rw [isRepaired, hn, isRepaired], hm.imp fun _ _ h => ⟨h.members, h.average⟩⟩

-- Four units, of which the first one by name becomes the last one. The cut is one module too many, and its two
-- single units are joined.
theorem renamed_units_group_alike_swap :
    let f := Equiv.swap "a" "d"
    let c : Coupling := ⟨["a", "b", "c", "d"], [(⟨"a", "b", by decide⟩, 1), (⟨"c", "d", by decide⟩, 3)], 4⟩
    Injective f ∧ c.units.map f = ["d", "b", "c", "a"] ∧ ∃ w w' : Affinity Float,
      Affinity.ofCoupling? c c.units = some w ∧
      Affinity.ofCoupling? (c.rename f) (c.units.map f) = some w' ∧
      (cluster w').root = (cluster w).root.map (Dendrogram.rename f) ∧
      let e  := extract w 0.9 (cluster w).root
      let e' := extract w' 0.9 (cluster w').root
      e.repairs = 1 ∧ e'.repairs = 1 ∧
        List.Forall₂ (fun m m' => m'.members = sortedUnits (m.members.map f)) e.modules e'.modules := by
  intro f c
  have hf : Injective f := f.injective
  have hw := renamed_units_group_alike (α := Float) hf c c.units
  have hr : (Affinity.ofCoupling? c c.units : Option (Affinity Float)).map
      (fun w => (extract w 0.9 (cluster w).root).repairs) = some 1 := by decide +kernel
  refine ⟨hf, by decide +kernel, ?_⟩
  generalize (Affinity.ofCoupling? c c.units : Option (Affinity Float)) = o,
    (Affinity.ofCoupling? (c.rename f) (c.units.map f) : Option (Affinity Float)) = o' at hw hr ⊢
  cases hw
  case none => simp at hr
  case some w w' h =>
    have ⟨_, ht, he⟩ := h
    have ⟨_, hn, _, hm⟩ := he 0.9
    have hr : (extract w 0.9 (cluster w).root).repairs = 1 := by simpa using hr
    exact ⟨w, w', rfl, rfl, ht, hr, hn.trans hr, hm.imp fun _ _ h => h.1⟩

end Extract
end ModuleDiscovery
