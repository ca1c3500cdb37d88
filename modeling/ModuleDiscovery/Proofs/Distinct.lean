import Mathlib.Data.List.Nodup
import Mathlib.Data.List.Sort
import Mathlib.Data.String.Basic
import ModuleDiscovery.Clustering.Dendrogram

namespace ModuleDiscovery

section EraseDups

variable {α : Type} [BEq α] [LawfulBEq α] {xs : List α}

theorem nodup_eraseDups (xs : List α) : xs.eraseDups.Nodup := by
  induction h : xs.length using Nat.strongRecOn generalizing xs
  case ind n ih =>
    cases xs
    case nil => simp
    case cons x xs =>
      rw [List.eraseDups_cons, List.nodup_cons]
      refine ⟨by simp, ih _ ?_ _ rfl⟩
      have := List.length_filter_le (fun y => !y == x) xs
      simp at h
      omega

theorem eraseDups_of_nodup (h : xs.Nodup) : xs.eraseDups = xs := by
  induction xs
  case nil => rfl
  case cons x xs ih =>
    have ⟨hx, hxs⟩ := List.nodup_cons.mp h
    have hf : xs.filter (fun y => !y == x) = xs := by
      simp only [List.filter_eq_self, Bool.not_eq_true', beq_eq_false_iff_ne]
      rintro y hy rfl
      exact hx hy
    rw [List.eraseDups_cons, hf, ih hxs]

-- Repetitions stay repetitions and no new ones come about if no two elements are taken to the same one.
theorem eraseDups_map {β : Type} [BEq β] [LawfulBEq β] {f : α → β} (hf : Function.Injective f)
    (xs : List α) : (xs.map f).eraseDups = xs.eraseDups.map f := by
  induction h : xs.length using Nat.strongRecOn generalizing xs
  case ind n ih =>
    cases xs
    case nil => simp
    case cons x xs =>
      have hne : ((fun y => !y == f x) ∘ f) = fun y => !y == x := by
        funext y
        simp [hf.eq_iff]
      have := List.length_filter_le (fun y => !y == x) xs
      rw [List.map_cons, List.eraseDups_cons, List.eraseDups_cons, List.map_cons, List.filter_map, hne,
        ih _ ?_ _ rfl]
      simp at h
      omega

theorem eraseDups_filter (p : α → Bool) (xs : List α) : (xs.filter p).eraseDups = xs.eraseDups.filter p := by
  induction xs generalizing p
  case nil => rfl
  case cons x xs ih =>
    rw [List.eraseDups_cons, ih]
    cases hp : p x
    case false =>
      have hx : ∀ y ∈ xs.eraseDups, (p y && !y == x) = p y := by
        intro y _
        by_cases hy : y = x
        case pos => rw [hy, hp, Bool.false_and]
        case neg => simp [hy]
      rw [List.filter_cons_of_neg (by simp [hp]), List.filter_cons_of_neg (by simp [hp]), ih, List.filter_filter,
        List.filter_congr hx]
    case true =>
      rw [List.filter_cons_of_pos hp, List.filter_cons_of_pos hp, List.eraseDups_cons, List.filter_filter, ih,
        List.filter_filter]
      simp only [Bool.and_comm]

-- What is left of a list is in the order in which it appears first.
theorem pairwise_eraseDups {β : Type} (f : β → Option α) (bs : List β) : (bs.filterMap f).eraseDups.Pairwise fun x y =>
    bs.findIdx (f · == some x) < bs.findIdx (f · == some y) := by
  induction bs
  case nil => exact .nil
  case cons b bs ih =>
    have hs : ∀ x, f b ≠ some x → (b :: bs).findIdx (f · == some x) = bs.findIdx (f · == some x) + 1 := by
      intro x hx
      rw [List.findIdx_cons, beq_eq_false_iff_ne.mpr hx, cond_false]
    cases hb : f b
    case none =>
      rw [List.filterMap_cons_none hb]
      refine ih.imp fun {x y} h => ?_
      rw [hs x (by simp [hb]), hs y (by simp [hb])]
      exact Nat.succ_lt_succ h
    case some z =>
      have hn : ∀ x ∈ (bs.filterMap f).eraseDups.filter fun y => !y == z, f b ≠ some x := by
        rintro x hx he
        cases hb.symm.trans he
        simpa using (List.mem_filter.mp hx).2
      rw [List.filterMap_cons_some hb, List.eraseDups_cons, eraseDups_filter, List.pairwise_cons]
      constructor
      case left =>
        intro x hx
        rw [hs x (hn x hx), List.findIdx_cons, beq_iff_eq.mpr hb, cond_true]
        exact Nat.succ_pos _
      case right =>
        refine (ih.filter _).imp_of_mem fun {x y} hx hy h => ?_
        rw [hs x (hn x hx), hs y (hn y hy)]
        exact Nat.succ_lt_succ h

theorem pairwise_idxOf_eraseDups (xs : List α) :
    xs.eraseDups.Pairwise fun x y => xs.idxOf x < xs.idxOf y := by
  simpa [List.idxOf] using pairwise_eraseDups some xs

end EraseDups

section Sorting

variable {α κ : Type} [LinearOrder κ] {rank : α → κ} {le : α → α → Bool} {xs ys : List α}

theorem pairwise_mergeSort_of_rank (hle : ∀ a b, le a b ↔ rank a ≤ rank b) (xs : List α) :
    (xs.mergeSort le).Pairwise fun a b => rank a ≤ rank b := by
  refine (List.pairwise_mergeSort ?trans ?total xs).imp (hle _ _).mp
  case trans =>
    intro a b c
    simp only [hle]
    exact le_trans
  case total =>
    intro a b
    rw [Bool.or_eq_true, hle, hle]
    exact le_total _ _

-- Sorting by a rank that no two elements share leaves no choice.
theorem mergeSort_of_perm (hr : Function.Injective rank) (hle : ∀ a b, le a b ↔ rank a ≤ rank b) (h : xs.Perm ys) :
    xs.mergeSort le = ys.mergeSort le := by
  have hs := pairwise_mergeSort_of_rank hle
  refine List.Perm.eq_of_pairwise ?antisymm (hs xs) (hs ys) ?perm
  case antisymm => exact fun a b _ _ hab hba => hr (le_antisymm hab hba)
  case perm     => exact (List.mergeSort_perm xs le).trans (h.trans (List.mergeSort_perm ys le).symm)

theorem pairwise_lt_mergeSort (hr : Function.Injective rank) (hle : ∀ a b, le a b ↔ rank a ≤ rank b) (h : xs.Nodup) :
    (xs.mergeSort le).Pairwise fun a b => rank a < rank b := by
  have hn : (xs.mergeSort le).Nodup := (List.mergeSort_perm xs le).nodup_iff.mpr h
  exact (pairwise_mergeSort_of_rank hle xs).and hn |>.imp fun ⟨hle, hne⟩ => hle.lt_of_ne (hr.ne hne)

end Sorting

section SortedUnits

variable {us : List UnitName} {u : UnitName}

@[simp]
theorem mem_sortedUnits : u ∈ sortedUnits us ↔ u ∈ us := by
  simp [sortedUnits]

theorem sortedUnits_ne_nil (h : us ≠ []) : sortedUnits us ≠ [] := by
  have ⟨u, hu⟩ := List.exists_mem_of_ne_nil us h
  exact List.ne_nil_of_mem (mem_sortedUnits.mpr hu)

theorem sortedUnits_perm (h : us.Nodup) : (sortedUnits us).Perm us := by
  rw [sortedUnits, eraseDups_of_nodup h]
  exact List.mergeSort_perm ..

theorem nodup_sortedUnits (us : List UnitName) : (sortedUnits us).Nodup :=
  (List.mergeSort_perm ..).nodup_iff.mpr (nodup_eraseDups us)

theorem pairwise_sortedUnits (us : List UnitName) : (sortedUnits us).Pairwise (· < ·) :=
  pairwise_lt_mergeSort Function.injective_id (fun _ _ => decide_eq_true_iff) (nodup_eraseDups us)

-- As no two units have one name, the order of names leaves no choice.
theorem sortedUnits_congr {vs : List UnitName} (h : ∀ u, u ∈ us ↔ u ∈ vs) :
    sortedUnits us = sortedUnits vs := by
  refine mergeSort_of_perm Function.injective_id (fun _ _ => decide_eq_true_iff) ?_
  refine (List.perm_ext_iff_of_nodup (nodup_eraseDups us) (nodup_eraseDups vs)).mpr fun u => ?_
  rw [List.mem_eraseDups, List.mem_eraseDups, h]

end SortedUnits
end ModuleDiscovery
