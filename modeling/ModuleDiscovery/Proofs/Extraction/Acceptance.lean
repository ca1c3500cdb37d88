import ModuleDiscovery.Proofs.Extraction.Partition
import ModuleDiscovery.Proofs.Extraction.ThresholdCut

namespace ModuleDiscovery

namespace Dendrogram

-- The way from a fusion to one of its two subtrees.
inductive Side
  | left
  | right
deriving DecidableEq, Repr

-- The way from a tree to one of its nodes.
abbrev Position := List Side

-- The node at a position, if there is one.
def subtree? {α : Type} : Dendrogram α → Position → Option (Dendrogram α)
  | t, []                     => some t
  | fusion l _ _, .left :: p  => l.subtree? p
  | fusion _ r _, .right :: p => r.subtree? p
  | leaf _, _ :: _            => none

-- The ways part at a fusion, from which `p` goes to the left and `q` to the right.
def IsLeftOf (p q : Position) : Prop :=
  ∃ a p' q', p = a ++ .left :: p' ∧ q = a ++ .right :: q'

variable {α : Type} {P : Dendrogram α → Prop} {t l r : Dendrogram α} {s : α} {p q : Position}
  {side : Side} {ps qs : List Position} {ts us : List (Dendrogram α)}

theorem IsLeftOf.cons (h : IsLeftOf p q) : IsLeftOf (side :: p) (side :: q) := by
  obtain ⟨a, p', q', rfl, rfl⟩ := h
  exact ⟨side :: a, p', q', rfl, rfl⟩

theorem isLeftOf_left_right : IsLeftOf (.left :: p) (.right :: q) :=
  ⟨[], p, q, rfl, rfl⟩

-- Of two such nodes, neither one is below the other.
theorem IsLeftOf.not_prefix (h : IsLeftOf p q) : ¬p <+: q ∧ ¬q <+: p := by
  obtain ⟨a, p', q', rfl, rfl⟩ := h
  simp [List.prefix_append_right_inj, List.cons_prefix_cons]

-- Nodes of a tree with their positions, from left to right and none of them below another one, where `P`
-- holds of all nodes above them.
structure Branches (P : Dendrogram α → Prop) (t : Dendrogram α) (ps : List Position)
    (ts : List (Dendrogram α)) : Prop where
  found  : ps.map t.subtree? = ts.map some
  beside : ps.Pairwise IsLeftOf
  above  : ∀ p ∈ ps, ∀ a, a <+: p → a ≠ p → ∃ u, t.subtree? a = some u ∧ P u

theorem Branches.whole : Branches P t [[]] [t] where
  found  := by simp [subtree?]
  beside := List.pairwise_singleton ..
  above  := by simp

theorem Branches.split (hl : Branches P l ps ts) (hr : Branches P r qs us) (h : P (fusion l r s)) :
    Branches P (fusion l r s) (ps.map (.left :: ·) ++ qs.map (.right :: ·)) (ts ++ us) where
  found := by
    rw [List.map_append, List.map_append, ← hl.found, ← hr.found, List.map_map, List.map_map]
    rfl
  beside := by
    simp only [List.pairwise_append, List.pairwise_map, List.mem_map]
    refine ⟨hl.beside.imp .cons, hr.beside.imp .cons, ?_⟩
    rintro _ ⟨p, -, rfl⟩ _ ⟨q, -, rfl⟩
    exact isLeftOf_left_right
  above := by
    simp only [List.mem_append, List.mem_map]
    rintro _ (⟨p, hp, rfl⟩ | ⟨p, hp, rfl⟩) a ha hne
    all_goals obtain rfl | ⟨b, rfl, hb⟩ := List.prefix_cons_iff.mp ha
    case inl.inl => exact ⟨_, rfl, h⟩
    case inl.inr => exact hl.above p hp b hb fun he => hne (he ▸ rfl)
    case inr.inl => exact ⟨_, rfl, h⟩
    case inr.inr => exact hr.above p hp b hb fun he => hne (he ▸ rfl)

end Dendrogram

open Dendrogram

-- Where a property holds of the last element at most, it holds of one element at most.
theorem length_filter_le_one {β : Type} {p : β → Bool} {xs : List β}
    (h : ∀ i y, xs[i]? = some y → p y → i + 1 = xs.length) : (xs.filter p).length ≤ 1 := by
  obtain rfl | ⟨ys, y, rfl⟩ := List.eq_nil_or_concat' xs
  case inl => simp
  case inr =>
    have hys : ys.filter p = [] := by
      rw [List.filter_eq_nil_iff]
      intro z hz hp
      have ⟨i, hi, he⟩ := List.mem_iff_getElem.mp hz
      have := h i z (by rw [List.getElem?_append_left hi, List.getElem?_eq_getElem hi, he]) hp
      simp only [List.length_append, List.length_singleton] at this
      omega
    rw [List.filter_append, hys, List.nil_append]
    exact List.length_filter_le ..

namespace Extraction

section Cut

variable {α : Type} [Score α] {w : Affinity α} {x : α} {limit taken i : Nat} {t u : Dendrogram α}

-- A cut goes down from a node only if that misses the threshold.
theorem exists_branches_cut (limit taken : Nat) (t : Dendrogram α) :
    ∃ ps, Branches (fun u => ¬reaches w x u) t ps (cut w x limit taken t) := by
  induction t generalizing taken
  case leaf => exact ⟨_, .whole⟩
  case fusion l r s hl hr =>
    by_cases h : reaches w x (fusion l r s)
    case pos =>
      rw [cut_of_reaches h]
      exact ⟨_, .whole⟩
    case neg =>
      rw [cut_fusion h]
      split
      case isTrue => exact ⟨_, .whole⟩
      case isFalse =>
        have ⟨_, hps⟩ := hl taken
        have ⟨_, hqs⟩ := hr (taken + (cut w x limit taken l).length)
        exact ⟨_, hps.split hqs h⟩

theorem not_stands (hl : ¬u.isLeaf) (hx : ¬Score.ge (w.within u.units) x) : ¬stands w x u := by
  rw [stands, Bool.or_eq_true]
  exact fun h => h.elim hx hl

-- What is accepted below the threshold is accepted as there is room for one module at most. On the right of
-- a fusion, the modules of the left are among those that come before.
theorem le_of_getElem?_cut (h : (cut w x limit taken t)[i]? = some u) (hs : ¬stands w x u) :
    limit ≤ taken + i + 1 := by
  induction t generalizing taken i
  case leaf v =>
    rw [cut, List.getElem?_singleton, Option.ite_none_right_eq_some, Option.some.injEq] at h
    obtain ⟨-, rfl⟩ := h
    simp [stands, isLeaf] at hs
  case fusion l r s hl hr =>
    rw [cut] at h
    split at h
    case isTrue hc =>
      rw [List.getElem?_singleton, Option.ite_none_right_eq_some, Option.some.injEq] at h
      obtain ⟨-, rfl⟩ := h
      rw [Bool.or_eq_true, decide_eq_true_eq] at hc
      have := hc.resolve_left hs
      omega
    case isFalse =>
      rw [List.getElem?_append] at h
      split at h
      case isTrue => exact hl h
      case isFalse =>
        have := hr h
        omega

-- A module of several units is no leaf.
theorem le_of_getElem?_cutModules {root : Option (Dendrogram α)} {m : Module α}
    (h : (cutModules w x limit root)[i]? = some m) (hm : 1 < m.size) (hx : ¬Score.ge m.average x) :
    limit ≤ i + 1 := by
  cases root
  case none => simp [cutModules] at h
  case some t =>
    rw [cutModules, List.getElem?_map, Option.map_eq_some_iff] at h
    obtain ⟨u, hu, rfl⟩ := h
    have hl : ¬u.isLeaf := by
      cases u
      case leaf v => simp [Module.ofUnits, Module.size, sortedUnits, List.eraseDups_cons] at hm
      case fusion => simp [isLeaf]
    have := le_of_getElem?_cut hu (not_stands hl hx)
    omega

end Cut

end Extraction

open Extraction

section Extract

variable {α : Type} [Score α] {w : Affinity α} {x : α} {root : Option (Dendrogram α)}

theorem extract_threshold : (extract w x root).threshold = x := by
  cases root <;> rfl

theorem extract_modules_of_not_isRepaired (h : ¬(extract w x root).isRepaired) :
    (extract w x root).modules = cutModules w x (budget w.units.length) root ∧
      (cutModules w x (budget w.units.length) root).length ≤ budget w.units.length := by
  simp only [isRepaired, extract_repairs, decide_eq_true_eq] at h
  have hn : (cutModules w x (budget w.units.length) root).length - budget w.units.length = 0 := by omega
  exact ⟨by rw [extract_modules, hn, repair], by omega⟩

-- The number of modules before it, which is at least the budget but one, is also less than the budget.
theorem eq_last_of_not_isRepaired {i : Nat} {m : Module α} (h : ¬(extract w x root).isRepaired)
    (hi : (extract w x root).modules[i]? = some m) (hm : 1 < m.size) (hx : ¬Score.ge m.average x) :
    i + 1 = (extract w x root).modules.length ∧
      (extract w x root).modules.length = budget w.units.length := by
  have ⟨he, hl⟩ := extract_modules_of_not_isRepaired h
  rw [he] at hi ⊢
  have := le_of_getElem?_cutModules hi hm hx
  have := (List.getElem?_eq_some_iff.mp hi).1
  omega

end Extract

-- A branch for whose halves there is no room takes a budget that is full but for one module. The dendrogram may be
-- any, and so may the means, which may also be nans that reach no threshold.
theorem cut_misses_at_end (w : Affinity Float) (x : Float) (root : Option (Dendrogram Float)) :
    let limit := max 1 (w.units.length / 2)
    let e := extract w x root
    (∀ t, root = some t → ∃ ps : List Position,
      let us := cut w x limit 0 t
      ps.map t.subtree? = us.map some ∧
      (ps.Pairwise fun p q => IsLeftOf p q ∧ ¬p <+: q ∧ ¬q <+: p) ∧
      us.flatMap units = t.units ∧
      cutModules w x limit root = us.map (fun u => ⟨u.members, w.within u.units⟩) ∧
      (∀ p ∈ ps, ∀ a, a <+: p → a ≠ p → ∃ u, t.subtree? a = some u ∧ ¬x ≤ w.within u.units) ∧
      ∀ i u, us[i]? = some u → ¬u.isLeaf → ¬x ≤ w.within u.units → limit - 1 ≤ i) ∧
    (¬e.isRepaired →
      e.modules = cutModules w x limit root ∧
      (∀ i m, e.modules[i]? = some m → 1 < m.size → ¬x ≤ m.average →
        i + 1 = e.modules.length ∧ e.modules.length = limit) ∧
      (e.modules.filter fun m => 1 < m.size ∧ ¬x ≤ m.average).length ≤ 1 ∧
      e.belowThreshold.length ≤ 1) := by
  intro limit e
  refine ⟨?branches, fun h => ?modules⟩
  case branches =>
    rintro t rfl
    obtain ⟨ps, hps⟩ := exists_branches_cut (w := w) (x := x) limit 0 t
    refine ⟨ps, hps.found, hps.beside.imp fun h => ⟨h, h.not_prefix⟩, cut_units limit 0 t, rfl, ?above,
      ?miss⟩
    case above =>
      intro p hp a ha hne
      have ⟨u, hu, hx⟩ := hps.above p hp a ha hne
      exact ⟨u, hu, fun h => hx (decide_eq_true h)⟩
    case miss =>
      intro i u hi hl hx
      have := le_of_getElem?_cut hi <| not_stands hl fun h => hx (of_decide_eq_true h)
      omega
  case modules =>
    have hlast : ∀ i m, e.modules[i]? = some m → 1 < m.size → ¬x ≤ m.average →
        i + 1 = e.modules.length ∧ e.modules.length = limit :=
      fun i m hi hm hx => eq_last_of_not_isRepaired h hi hm fun h => hx (of_decide_eq_true h)
    have he := (extract_modules_of_not_isRepaired h).1
    refine ⟨he, hlast, length_filter_le_one ?missed, length_filter_le_one ?below⟩
    case missed =>
      intro i m hi hm
      have ⟨hs, hx⟩ := of_decide_eq_true hm
      exact (hlast i m hi hs hx).1
    case below =>
      intro i m hi hm
      have ⟨hs, hx⟩ := (Bool.and_eq_true _ _).mp hm
      have hx : m.average < (extract w x root).threshold := of_decide_eq_true hx
      rw [extract_threshold] at hx
      exact (hlast i m hi (of_decide_eq_true hs) (Number.float_not_le_of_lt hx)).1

-- Four units in a chain: the split at the top fills the budget but for one module, which then takes the other
-- three units.
theorem cut_misses_at_end_four_units :
    let w : Affinity Float := ⟨["a", "b", "c", "d"], fun _ _ => 0.25⟩
    let t : Dendrogram Float :=
      .fusion (.leaf "a") (.fusion (.leaf "b") (.fusion (.leaf "c") (.leaf "d") 0.25) 0.25) 0.25
    let limit := max 1 (w.units.length / 2)
    let e := extract w 0.5 (some t)
    let m := Module.ofUnits w ["b", "c", "d"]
    ¬e.isRepaired ∧ e.modules[1]? = some m ∧ 1 < m.size ∧ ¬0.5 ≤ m.average ∧
    e.modules.length = limit ∧ e.belowThreshold.length ≤ 1 ∧
    ∃ ps : List Position, ps.map t.subtree? = (cut w 0.5 limit 0 t).map some := by
  intro w t limit e m
  have hr : ¬e.isRepaired := by decide +kernel
  have hs : 1 < m.size := by simp [m, Module.ofUnits, Module.size, sortedUnits, List.eraseDups_cons]
  have hx : ¬0.5 ≤ m.average := by decide +kernel
  obtain ⟨hb, hu⟩ := cut_misses_at_end w 0.5 (some t)
  obtain ⟨he, hlast, _, hbelow⟩ := hu hr
  have hm : e.modules[1]? = some m := by
    have hc : (cut w 0.5 limit 0 t).map units = [["a"], ["b", "c", "d"]] := by decide +kernel
    have hms : e.modules = ((cut w 0.5 limit 0 t).map units).map (Module.ofUnits w) := by
      rw [List.map_map]
      exact he
    rw [hms, hc]
    rfl
  obtain ⟨ps, hps, _⟩ := hb t rfl
  exact ⟨hr, hm, hs, hx, (hlast 1 m hm hs hx).2, hbelow, ps, hps⟩

end ModuleDiscovery
