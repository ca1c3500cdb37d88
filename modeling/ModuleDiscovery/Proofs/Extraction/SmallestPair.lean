import Mathlib.Order.OrderDual
import ModuleDiscovery.Proofs.Clustering.Selection
import ModuleDiscovery.Proofs.Distinct
import ModuleDiscovery.Proofs.Extraction.Repair

namespace ModuleDiscovery

namespace Extraction

variable {α : Type} {ms : List (Module α)} {c : Choice (Module α)}

-- Modules at two places that have no more units than any other two, and fewer than any earlier two. Two modules come
-- earlier than two others by the place of the first of them, or by that of the second if the first is the same.
structure FirstSmallest (ms : List (Module α)) (i j : Nat) (m n : Module α) : Prop where
  lt     : i < j
  first  : ms[i]? = some m
  second : ms[j]? = some n
  least  : ms.Pairwise fun k l => m.size + n.size ≤ k.size + l.size
  before : ∀ p q k l, p < q → p < i ∨ p = i ∧ q < j → ms[p]? = some k → ms[q]? = some l →
    m.size + n.size < k.size + l.size

-- There is only one such pair of places.
theorem FirstSmallest.unique {i₁ j₁ i₂ j₂ : Nat} {m₁ n₁ m₂ n₂ : Module α} (h₁ : FirstSmallest ms i₁ j₁ m₁ n₁)
    (h₂ : FirstSmallest ms i₂ j₂ m₂ n₂) : i₁ = i₂ ∧ j₁ = j₂ := by
  have hle {i j k l : Nat} {m n m' n' : Module α} (h : FirstSmallest ms i j m n)
      (h' : FirstSmallest ms k l m' n') : m.size + n.size ≤ m'.size + n'.size := by
    obtain ⟨hk, hm⟩ := List.getElem?_eq_some_iff.mp h'.first
    obtain ⟨hl, hn⟩ := List.getElem?_eq_some_iff.mp h'.second
    rw [← hm, ← hn]
    exact List.pairwise_iff_getElem.mp h.least _ _ hk hl h'.lt
  have hlt₁ := mt (h₁.before i₂ j₂ m₂ n₂ h₂.lt · h₂.first h₂.second) (Nat.not_lt.mpr (hle h₂ h₁))
  have hlt₂ := mt (h₂.before i₁ j₁ m₁ n₁ h₁.lt · h₁.first h₁.second) (Nat.not_lt.mpr (hle h₁ h₂))
  omega

-- The fewest units are the highest value in the reverse order.
theorem smallest?_firstMax (h : smallest? ms = some c) :
    Choice.FirstMax (fun d => OrderDual.toDual (chosenSize d)) (Choice.all ms) c := by
  unfold smallest? at h
  split at h
  case h_1 => contradiction
  case h_2 d ds hd =>
    injection h with h
    rw [hd, ← h]
    refine Choice.foldl_firstMax fun x y _ => ?_
    simp only [smaller, chosenSize, OrderDual.toDual_lt_toDual]

theorem exists_firstSmallest (h : smallest? ms = some c) :
    ∃ i j, FirstSmallest ms i j c.first c.second ∧ c.rest = (ms.eraseIdx j).eraseIdx i := by
  have hm := smallest?_firstMax h
  have hle : ∀ d ∈ Choice.all ms, chosenSize c ≤ chosenSize d := fun d hd => hm.le hd
  obtain ⟨before, after, hall, hlt, -⟩ := hm
  have hn : (Choice.all ms)[before.length]? = some c := by simp [hall]
  obtain ⟨i, j, hat, hbefore⟩ := Choice.exists_at_of_getElem? hn
  rw [hall, List.take_left] at hbefore
  refine ⟨i, j, ⟨hat.lt, hat.first, hat.second, Choice.pairwise_iff_forall_all.mpr hle, ?before⟩, hat.rest⟩
  case before =>
    intro p q k l hpq hearlier hk hl
    exact hlt _ (hbefore p q ⟨k, l, _⟩ ⟨hpq, hk, hl, rfl⟩ hearlier)

section Join

variable [Score α] {w : Affinity α}

theorem joinSmallest?_eq_none : joinSmallest? w ms = none ↔ ms.length < 2 := by
  rw [joinSmallest?, Option.map_eq_none_iff]
  constructor
  case mp =>
    intro h
    by_contra hl
    obtain ⟨c, hc⟩ := exists_smallest? (Nat.not_lt.mp hl)
    simp [h] at hc
  case mpr =>
    intro h
    simp [smallest?, Choice.all_eq_nil.mpr h]

theorem joinSmallest?_firstSmallest (w : Affinity α) (h : 2 ≤ ms.length) :
    ∃ i j m n, FirstSmallest ms i j m n ∧
      joinSmallest? w ms = some ((ms.eraseIdx j).eraseIdx i ++ [join w m n]) := by
  obtain ⟨c, hc⟩ := exists_smallest? h
  obtain ⟨i, j, hs, hr⟩ := exists_firstSmallest hc
  exact ⟨i, j, c.first, c.second, hs, by rw [joinSmallest?, hc, Option.map_some, hr]⟩

-- With room for at least one module, a list that is too long has two modules to be joined.
theorem two_le_length_repair {limit i : Nat} (hl : 0 < limit) (hi : i < ms.length - limit) :
    2 ≤ (repair w i ms).length := by
  have : (repair w i ms).length + i = ms.length := length_repair (by omega)
  omega

end Join
end Extraction

open Extraction

-- There is no join of fewer than two modules, and no list of a repair that asks for one.
theorem join_takes_first_smallest {α : Type} [Score α] (w : Affinity α) :
    (∀ ms : List (Module α), 2 ≤ ms.length →
      ∃ i j m n, FirstSmallest ms i j m n ∧
        let us  := sortedUnits (m.members ++ n.members)
        let ms' := (ms.eraseIdx j).eraseIdx i ++ [(⟨us, w.within us⟩ : Module α)]
        joinSmallest? w ms = some ms' ∧ ms'.length + 1 = ms.length ∧
        us.Pairwise (· < ·) ∧ ∀ u, u ∈ us ↔ u ∈ m.members ∨ u ∈ n.members) ∧
    (∀ ms : List (Module α), joinSmallest? w ms = none ↔ ms.length < 2) ∧
    ∀ (x : α) (root : Option (Dendrogram α)),
      let e  := extract w x root
      let ms := cutModules w x e.budget root
      Repairs w e.budget ms e.repairs e.modules ∧ e.modules.length ≤ e.budget ∧
      e.modules = repair w e.repairs ms ∧
      ∀ i < e.repairs, 2 ≤ (repair w i ms).length ∧
        joinSmallest? w (repair w i ms) = some (repair w (i + 1) ms) ∧
        (repair w (i + 1) ms).length + 1 = (repair w i ms).length := by
  refine ⟨fun ms h => ?join, fun ms => joinSmallest?_eq_none, fun x root => ?repair⟩
  case join =>
    obtain ⟨i, j, m, n, hs, hj⟩ := joinSmallest?_firstSmallest w h
    refine ⟨i, j, m, n, hs, ?_⟩
    exact ⟨hj, length_joinSmallest? hj, pairwise_sortedUnits _, fun u => by rw [mem_sortedUnits, List.mem_append]⟩
  case repair =>
    intro e ms
    have hb : e.budget = budget w.units.length := extract_budget w x root
    have hr : Repairs w e.budget ms e.repairs e.modules := by
      simp only [ms, hb]
      exact repairs_cutModules w x root
    have hn : e.repairs = ms.length - e.budget := by
      simp only [ms, hb]
      exact extract_repairs w x root
    have hm : e.modules = repair w e.repairs ms := by
      rw [hn]
      simp only [ms, hb]
      exact extract_modules w x root
    refine ⟨hr, hr.length_eq.trans_le (Nat.min_le_right ..), hm, fun i hi => ?_⟩
    have hl : 2 ≤ (repair w i ms).length := two_le_length_repair (hb ▸ budget_pos _) (hn ▸ hi)
    have hj : joinSmallest? w (repair w i ms) = some (repair w (i + 1) ms) := by
      refine joinSmallest?_repair ?_
      have : (repair w i ms).length + i = ms.length := length_repair (by omega)
      omega
    exact ⟨hl, hj, length_joinSmallest? hj⟩

-- Of modules with three units, one, two and one the second and the fourth are joined, and four units in
-- two pairs take one join.
theorem join_takes_first_smallest_four_modules :
    let w : Affinity Float := ⟨["a", "b", "c", "d", "e", "f", "g"], fun _ _ => 0.25⟩
    let ms : List (Module Float) := [⟨["a", "b", "c"], 0.25⟩, ⟨["d"], 0⟩, ⟨["e", "f"], 0.25⟩, ⟨["g"], 0⟩]
    let v : Affinity Float := ⟨["a", "b", "c", "d"], fun _ _ => 0.25⟩
    let e := extract v 0.5 (cluster v).root
    2 ≤ ms.length ∧ FirstSmallest ms 1 3 ⟨["d"], 0⟩ ⟨["g"], 0⟩ ∧
    joinSmallest? w ms = some [⟨["a", "b", "c"], 0.25⟩, ⟨["e", "f"], 0.25⟩, ⟨["d", "g"], 0.25⟩] ∧
    0 < e.repairs ∧ joinSmallest? v (cutModules v 0.5 e.budget (cluster v).root) = some e.modules := by
  intro w ms v e
  have hl : 2 ≤ ms.length := by decide
  have hr : e.repairs = 1 := by decide +kernel
  obtain ⟨i, j, m, n, hs, hj, -⟩ := (join_takes_first_smallest w).1 ms hl
  obtain ⟨-, -, hm, hv⟩ := (join_takes_first_smallest v).2.2 0.5 (cluster v).root
  have hf : FirstSmallest ms 1 3 ⟨["d"], 0⟩ ⟨["g"], 0⟩ := by
    refine ⟨by decide, rfl, rfl, by simp [ms, Module.size], ?before⟩
    intro p q k l hpq hearlier hk hl
    have hq : q < 4 := (List.getElem?_eq_some_iff.mp hl).1
    have : p = 0 ∨ p = 1 ∧ q = 2 := by omega
    rcases this with rfl | ⟨rfl, rfl⟩ <;> simp only [ms] at hk hl <;> grind [Module.size]
  have hj : joinSmallest? w ms =
      some [⟨["a", "b", "c"], 0.25⟩, ⟨["e", "f"], 0.25⟩, ⟨["d", "g"], 0.25⟩] := by
    obtain ⟨rfl, rfl⟩ := hf.unique hs
    obtain rfl : _ = m := Option.some.inj (hf.first.symm.trans hs.first)
    obtain rfl : _ = n := Option.some.inj (hf.second.symm.trans hs.second)
    have hu : sortedUnits ["d", "g"] = ["d", "g"] := List.mergeSort_of_pairwise (by decide)
    have ha : w.within ["d", "g"] = 0.25 := by decide +kernel
    rw [hj]
    simp [ms, hu, ha]
  have hv := (hv 0 (hr ▸ Nat.one_pos)).2.1
  refine ⟨hl, hf, hj, hr ▸ Nat.one_pos, ?_⟩
  rw [hm, hr]
  exact hv

end ModuleDiscovery
