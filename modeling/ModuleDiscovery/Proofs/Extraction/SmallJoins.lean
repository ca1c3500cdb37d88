import Mathlib.Algebra.BigOperators.Group.List.Basic
import Mathlib.Algebra.Ring.Parity
import ModuleDiscovery.Proofs.Extraction.Partition

namespace ModuleDiscovery

namespace Extraction

section Sizes

variable {α : Type} {us : List UnitName} {ms : List (Module α)} {m : Module α}

-- The number of modules that have a single unit.
def singles (ms : List (Module α)) : Nat :=
  ms.countP (·.size = 1)

theorem singles_cons : singles (m :: ms) = singles ms + if m.size = 1 then 1 else 0 := by
  simp [singles, List.countP_cons]

theorem singles_perm {ms' : List (Module α)} (h : ms.Perm ms') : singles ms = singles ms' :=
  h.countP_eq _

theorem Covers.size_pos (h : Covers us ms) : ∀ m ∈ ms, 0 < m.size :=
  fun m hm => List.length_pos_iff.mpr (h.nonempty m hm)

theorem Covers.sum_size (h : Covers us ms) : (ms.map Module.size).sum = us.length := by
  rw [← h.perm.length_eq, List.length_flatMap]
  rfl

-- A module has two units, except for those of a single unit.
theorem two_mul_length_le (h : ∀ m ∈ ms, 0 < m.size) :
    2 * ms.length ≤ (ms.map Module.size).sum + singles ms := by
  induction ms
  case nil => simp
  case cons m ms ih =>
    have ⟨hm, hms⟩ := List.forall_mem_cons.mp h
    have := ih hms
    rw [singles_cons, List.map_cons, List.sum_cons, List.length_cons]
    split <;> omega

-- The units that a module has beyond two are left over.
theorem two_mul_length_add_size_le (h : ∀ m ∈ ms, 0 < m.size) (hm : m ∈ ms) :
    2 * ms.length + m.size ≤ (ms.map Module.size).sum + singles ms + 2 := by
  obtain ⟨ks, ls, rfl⟩ := List.append_of_mem hm
  have hp : (ks ++ m :: ls).Perm (m :: (ks ++ ls)) := List.perm_middle
  have hs := (hp.map Module.size).sum_eq
  have hl := hp.length_eq
  have hpos : ∀ k ∈ ks ++ ls, 0 < k.size := fun k hk => h k <| hp.mem_iff.mpr (.tail _ hk)
  have := two_mul_length_le hpos
  rw [List.map_cons, List.sum_cons] at hs
  rw [List.length_cons] at hl
  rw [singles_perm hp, singles_cons]
  omega

end Sizes

section Choices

variable {α : Type} {ms : List (Module α)} {c : Choice (Module α)}

-- The first two modules of a single unit.
inductive FirstSingles : List (Module α) → Choice (Module α) → Prop
  | intro {ks ls ns m n} : (m.size = 1) → (n.size = 1) → (∀ k ∈ ks ++ ls, k.size ≠ 1) →
      FirstSingles (ks ++ m :: (ls ++ n :: ns)) ⟨m, n, ks ++ (ls ++ ns)⟩

-- A module of a single unit and one of two, where there are no other sizes and only one single unit.
structure LastSingle (ms : List (Module α)) (c : Choice (Module α)) : Prop where
  single : singles ms = 1
  pairs  : ∀ m ∈ ms, m.size ≠ 1 → m.size = 2
  triple : chosenSize c = 3

theorem FirstSingles.sizes (h : FirstSingles ms c) : c.first.size = 1 ∧ c.second.size = 1 := by
  cases h
  exact ⟨‹_›, ‹_›⟩

theorem exists_first_single (h : 0 < singles ms) :
    ∃ ks m ls, ms = ks ++ m :: ls ∧ m.size = 1 ∧ (∀ k ∈ ks, k.size ≠ 1) ∧
      singles ls + 1 = singles ms := by
  induction ms
  case nil => simp [singles] at h
  case cons k ms ih =>
    rw [singles_cons] at h ⊢
    by_cases hk : k.size = 1
    case pos => exact ⟨[], k, ms, rfl, hk, by simp, by rw [if_pos hk]⟩
    case neg =>
      rw [if_neg hk] at h ⊢
      have ⟨ks, m, ls, he, hm, hks, hl⟩ := ih h
      exact ⟨k :: ks, m, ls, by rw [he, List.cons_append], hm, List.forall_mem_cons.mpr ⟨hk, hks⟩, hl⟩

theorem exists_firstSingles (h : 2 ≤ singles ms) : ∃ c, FirstSingles ms c := by
  have hms : 0 < singles ms := by omega
  obtain ⟨ks, m, ls, rfl, hm, hks, hl⟩ := exists_first_single hms
  have hls : 0 < singles ls := by omega
  obtain ⟨ls, n, ns, rfl, hn, hls, -⟩ := exists_first_single hls
  exact ⟨_, .intro hm hn (List.forall_mem_append.mpr ⟨hks, hls⟩)⟩

theorem mem_of_mem_all (h : c ∈ Choice.all ms) : c.first ∈ ms ∧ c.second ∈ ms := by
  have hp := Choice.perm_of_mem_all h
  exact ⟨hp.mem_iff.mp (by simp), hp.mem_iff.mp (by simp)⟩

-- Two single units are the least that can be chosen, and no choice before the first two has them.
theorem FirstSingles.smallest? (h : FirstSingles ms c) (hp : ∀ m ∈ ms, 0 < m.size) :
    smallest? ms = some c := by
  obtain @⟨ks, ls, ns, m, n, hm, hn, hk⟩ := h
  have ⟨hks, hls⟩ := List.forall_mem_append.mp hk
  have ⟨cs, ds, he, hcs⟩ := Choice.all_split ks m ls n ns
  have hpos : ∀ d ∈ cs ++ ⟨m, n, ks ++ (ls ++ ns)⟩ :: ds, 0 < d.first.size ∧ 0 < d.second.size := by
    intro d hd
    have ⟨hf, hs⟩ := mem_of_mem_all (he ▸ hd)
    exact ⟨hp _ hf, hp _ hs⟩
  refine smallest?_eq_some he ?before ?behind
  case before =>
    intro d hd
    have := hpos d (by simp [hd])
    have : d.first.size ≠ 1 ∨ d.second.size ≠ 1 := (hcs d hd).imp (hks _) (hls _)
    simp only [chosenSize, hm, hn]
    omega
  case behind =>
    intro d hd
    have := hpos d (by simp [hd])
    simp only [chosenSize, hm, hn]
    omega

-- A single unit can be chosen with any other module. If no choice were that small, any two modules would
-- have four units, as those with the single unit do not.
theorem exists_chosenSize_le (h : 2 ≤ ms.length) (hs : 0 < singles ms) (hle : ∀ m ∈ ms, m.size ≤ 2) :
    ∃ d ∈ Choice.all ms, chosenSize d ≤ 3 := by
  by_contra hn
  simp only [not_exists, not_and, Nat.not_le] at hn
  obtain ⟨ks, m, ls, rfl, hm, -, -⟩ := exists_first_single hs
  have hp : (ks ++ m :: ls).Perm (m :: (ks ++ ls)) := List.perm_middle
  have hfour : (ks ++ m :: ls).Pairwise fun m n => 4 ≤ m.size + n.size :=
    Choice.pairwise_iff_forall_all.mpr hn
  obtain ⟨hfour, -⟩ := List.pairwise_cons.mp <| hp.pairwise hfour fun {_ _} _ => by omega
  have hlen := hp.length_eq
  rw [List.length_cons] at hlen
  have ⟨k, hk⟩ := List.exists_mem_of_length_pos (l := ks ++ ls) (by omega)
  have := hfour k hk
  have := hle k (hp.mem_iff.mpr (.tail _ hk))
  omega

theorem lastSingle_of_smallest? (h : smallest? ms = some c) (hp : ∀ m ∈ ms, 0 < m.size)
    (hs : singles ms = 1) (hle : ∀ m ∈ ms, m.size ≤ 2) : LastSingle ms c := by
  have hc := mem_all_of_smallest? h
  have hperm := Choice.perm_of_mem_all hc
  have ⟨hfirst, hsecond⟩ := mem_of_mem_all hc
  constructor
  case single => exact hs
  case pairs =>
    intro m hm hne
    have := hp m hm
    have := hle m hm
    omega
  case triple =>
    have hne : ¬(c.first.size = 1 ∧ c.second.size = 1) := by
      rintro ⟨h₁, h₂⟩
      rw [← singles_perm hperm, singles_cons, singles_cons, if_pos h₁, if_pos h₂] at hs
      omega
    have hl : 2 ≤ ms.length := by
      have := Choice.length_rest_of_mem_all hc
      omega
    have ⟨d, hd, hle⟩ := exists_chosenSize_le hl (by omega) hle
    have := chosenSize_smallest?_le h d hd
    have := hp _ hfirst
    have := hp _ hsecond
    simp only [chosenSize] at *
    omega

-- More modules than half of the units leave at least one single unit, and no two of them only if all
-- numbers are as small as they can be.
theorem Covers.smallest? {us : List UnitName} (h : Covers us ms)
    (hl : max 1 (us.length / 2) < ms.length) (hs : Extraction.smallest? ms = some c) :
    2 ≤ singles ms ∧ FirstSingles ms c ∨
      LastSingle ms c ∧ Odd us.length ∧ ms.length = max 1 (us.length / 2) + 1 := by
  have hlen := two_mul_length_le h.size_pos
  have hmod := fun m => two_mul_length_add_size_le (m := m) h.size_pos
  rw [h.sum_size] at hlen hmod
  by_cases hn : 2 ≤ singles ms
  case pos =>
    have ⟨d, hd⟩ := exists_firstSingles hn
    have := hd.smallest? h.size_pos
    rw [hs, Option.some.injEq] at this
    exact .inl ⟨hn, this ▸ hd⟩
  case neg =>
    have hle : ∀ m ∈ ms, m.size ≤ 2 := by
      intro m hm
      have := hmod m hm
      omega
    have hodd : Odd us.length := Nat.odd_iff.mpr (by omega)
    exact .inr ⟨lastSingle_of_smallest? hs h.size_pos (by omega) hle, hodd, by omega⟩

end Choices

section Repair

variable {α : Type} [Score α] {w : Affinity α} {us : List UnitName} {ms : List (Module α)}
  {c : Choice (Module α)} {i : Nat}

theorem Covers.size_join (h : Covers us ms) (hu : us.Nodup) (hc : c ∈ Choice.all ms) :
    (join w c.first c.second).size = chosenSize c := by
  rw [Module.size, (h.join_members_perm hu hc).length_eq, List.length_append]
  rfl

-- A join of a repair: the list before it is `repair w i ms`, and `c` is what it joins.
structure JoinAt (w : Affinity α) (us : List UnitName) (ms : List (Module α)) (i : Nat)
    (c : Choice (Module α)) : Prop where
  chosen  : smallest? (repair w i ms) = some c
  joined  : repair w (i + 1) ms = c.rest ++ [join w c.first c.second]
  size    : (join w c.first c.second).size = chosenSize c
  nonzero : 0 < c.first.size ∧ 0 < c.second.size
  cases   : 2 ≤ singles (repair w i ms) ∧ FirstSingles (repair w i ms) c ∨
    LastSingle (repair w i ms) c ∧ Odd us.length ∧ i + 1 = ms.length - max 1 (us.length / 2)

theorem Covers.exists_joinAt (h : Covers us ms) (hu : us.Nodup)
    (hi : i < ms.length - max 1 (us.length / 2)) : ∃ c, JoinAt w us ms i c := by
  have hj : Extraction.joinSmallest? w (repair w i ms) = some (repair w (i + 1) ms) :=
    joinSmallest?_repair (by omega)
  have hl : (repair w i ms).length + i = ms.length := length_repair (by omega)
  have hc : Covers us (repair w i ms) :=
    repair_induction (by omega) h fun _ _ hc hj => hc.joinSmallest? hu hj
  have ⟨c, hs, he⟩ := Option.map_eq_some_iff.mp hj
  have hm := mem_all_of_smallest? hs
  have ⟨hf, hs'⟩ := mem_of_mem_all hm
  refine ⟨c, hs, he.symm, hc.size_join hu hm, ⟨hc.size_pos _ hf, hc.size_pos _ hs'⟩, ?_⟩
  refine (hc.smallest? (by omega) hs).imp_right ?_
  rintro ⟨hlast, hodd, hlen⟩
  exact ⟨hlast, hodd, by omega⟩

theorem JoinAt.sizes (h : JoinAt w us ms i c) :
    c.first.size < 3 ∧ c.second.size < 3 ∧ chosenSize c ≤ 3 ∧
      (Even us.length → c.first.size = 1 ∧ c.second.size = 1) := by
  have hpos := h.nonzero
  cases h.cases
  case inl hc =>
    obtain ⟨hm, hn⟩ := hc.2.sizes
    simp [chosenSize, hm, hn]
  case inr hc =>
    obtain ⟨hlast, hodd, _⟩ := hc
    have := hlast.triple
    refine ⟨?_, ?_, hlast.triple.le, fun he => absurd he (Nat.not_even_iff_odd.mpr hodd)⟩
    all_goals simp only [chosenSize] at this; omega

-- Modules of three units and more are not chosen.
theorem JoinAt.filter_sublist (h : JoinAt w us ms i c) :
    ((repair w i ms).filter (3 ≤ ·.size)).Sublist (repair w (i + 1) ms) := by
  have ⟨hf, hs, _, _⟩ := h.sizes
  have hrest := Choice.filter_rest_of_mem_all (q := (3 ≤ ·.size)) (mem_all_of_smallest? h.chosen)
    (by simpa using hf) (by simpa using hs)
  rw [← hrest, h.joined]
  exact List.filter_sublist.trans (List.sublist_append_left ..)

theorem Covers.filter_sublist_repair (h : Covers us ms) (hu : us.Nodup)
    (hi : i ≤ ms.length - max 1 (us.length / 2)) :
    (ms.filter (3 ≤ ·.size)).Sublist (repair w i ms) := by
  induction i
  case zero => exact List.filter_sublist
  case succ i ih =>
    have ⟨c, hc⟩ := h.exists_joinAt (w := w) hu hi
    have := (ih (by omega)).filter (3 ≤ ·.size)
    rw [List.filter_filter] at this
    simp only [Bool.and_self] at this
    exact this.trans hc.filter_sublist

end Repair

end Extraction

open Extraction

-- A repair goes on while there are more modules than half of the units, so that some modules have a single unit. If
-- only one has, the number of units is odd and all other modules are pairs. The lists of the loop are
-- `repair w i ms`, where `ms` are the modules of the cut.
theorem repair_joins_singles {α : Type} [Score α] {w : Affinity α} {t : Dendrogram α}
    (hu : w.units.Nodup) (ht : t.units.Perm w.units) (x : α) :
    let n  := w.units.length
    let ms := cutModules w x (max 1 (n / 2)) (some t)
    let e  := extract w x (some t)
    e.modules = repair w e.repairs ms ∧
    (∀ i < e.repairs,
      let ks := repair w i ms
      ∃ c, smallest? ks = some c ∧
        repair w (i + 1) ms = c.rest ++ [join w c.first c.second] ∧
        (2 ≤ singles ks → FirstSingles ks c) ∧
        (singles ks < 2 → singles ks = 1 ∧ Odd n ∧ (∀ m ∈ ks, m.size ≠ 1 → m.size = 2) ∧
          (join w c.first c.second).size = 3 ∧ i + 1 = e.repairs) ∧
        c.first.size < 3 ∧ c.second.size < 3 ∧ (join w c.first c.second).size ≤ 3 ∧
        (Even n → c.first.size = 1 ∧ c.second.size = 1)) ∧
    (ms.filter (3 ≤ ·.size)).Sublist e.modules := by
  intro n ms e
  have ht' : ((some t).elim [] Dendrogram.units).Perm w.units := ht
  have hc : Covers w.units ms := covers_cutModules hu ht' _
  have hr : e.repairs = ms.length - max 1 (n / 2) := extract_repairs w x (some t)
  have hm : e.modules = repair w e.repairs ms := hr ▸ extract_modules w x (some t)
  refine ⟨hm, ?steps, ?large⟩
  case steps =>
    intro i hi ks
    have ⟨c, h⟩ := hc.exists_joinAt (w := w) hu (hr ▸ hi)
    have ⟨hf, hs, hle, heven⟩ := h.sizes
    refine ⟨c, h.chosen, h.joined, ?several, ?last, hf, hs, h.size ▸ hle, heven⟩
    case several =>
      intro hn
      refine h.cases.elim (·.2) ?_
      rintro ⟨hlast, -⟩
      exact absurd hlast.single (Nat.ne_of_gt hn)
    case last =>
      intro hn
      refine h.cases.elim (fun hc => absurd hc.1 (Nat.not_le.mpr hn)) ?_
      rintro ⟨hlast, hodd, hend⟩
      exact ⟨hlast.single, hodd, hlast.pairs, h.size.trans hlast.triple, hend.trans hr.symm⟩
  case large =>
    rw [hm]
    exact hc.filter_sublist_repair hu hr.le

-- The cut splits the first pair, which uses up the budget, and leaves three single units and a pair. The
-- first two units are joined again, and then there is one join left.
theorem repair_joins_five_units :
    let w : Affinity Float := ⟨["a", "b", "c", "d", "e"], fun _ _ => 0.25⟩
    let ab : Dendrogram Float := .fusion (.leaf "a") (.leaf "b") 0.25
    let cd : Dendrogram Float := .fusion (.leaf "c") (.leaf "d") 0.25
    let t := .fusion (.fusion ab cd 0.25) (.leaf "e") 0.25
    let ms := cutModules w 0.5 (max 1 (w.units.length / 2)) (some t)
    let e := extract w 0.5 (some t)
    w.units.Nodup ∧ t.units.Perm w.units ∧ e.repairs = 2 ∧ e.modules = repair w 2 ms ∧
    singles ms = 3 ∧ (∃ c, smallest? ms = some c ∧ FirstSingles ms c) ∧
    ∃ c, smallest? (repair w 1 ms) = some c ∧ (join w c.first c.second).size ≤ 3 := by
  intro w ab cd t ms e
  have hu : w.units.Nodup := by decide
  have ht : t.units.Perm w.units := by decide
  have hr : e.repairs = 2 := by decide +kernel
  have hn : singles ms = 3 := by
    let bs := cut w 0.5 (max 1 (w.units.length / 2)) 0 t
    have hb : bs.map Dendrogram.units = [["a"], ["b"], ["c", "d"], ["e"]] := by decide +kernel
    have hm : ms = (bs.map Dendrogram.units).map (Module.ofUnits w) := by
      rw [List.map_map]
      rfl
    rw [hm, hb]
    simp [singles, Module.ofUnits, Module.size, sortedUnits, List.eraseDups_cons]
  obtain ⟨hm, hsteps, _⟩ := repair_joins_singles hu ht 0.5
  obtain ⟨c, hc, _, hfirst, _⟩ := hsteps 0 (by rw [hr]; decide)
  obtain ⟨d, hd, _, _, _, _, _, hle, _⟩ := hsteps 1 (by rw [hr]; decide)
  exact ⟨hu, ht, hr, hr ▸ hm, hn, ⟨c, hc, hfirst (by change 2 ≤ singles ms; omega)⟩, d, hd, hle⟩

end ModuleDiscovery
