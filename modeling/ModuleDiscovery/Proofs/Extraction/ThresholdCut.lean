import ModuleDiscovery.Proofs.Clustering.Nodes
import ModuleDiscovery.Proofs.Extraction.Repair
import ModuleDiscovery.Proofs.Number.FloatOrder

namespace ModuleDiscovery

open Dendrogram

namespace Extraction

section

variable {α : Type} [Score α] (w : Affinity α) (x : α)

-- Whether the mean weight below a node reaches the threshold.
def reaches (t : Dendrogram α) : Bool :=
  Score.ge (w.within t.units) x

-- A leaf, or a node that reaches the threshold, with no node above it that does.
def isTopmost (o : Occurrence α) : Bool :=
  (o.node.isLeaf || reaches w x o.node) && o.above.all (!reaches w x ·)

def topmost (above : List (Dendrogram α)) (t : Dendrogram α) : List (Dendrogram α) :=
  ((t.occurrences above).filter (isTopmost w x)).map Occurrence.node

-- The branches that the threshold alone would leave, from left to right.
def thresholdCut (t : Dendrogram α) : List (Dendrogram α) :=
  topmost w x [] t

end

variable {α : Type} [Score α] {w : Affinity α} {x y : α} {limit taken : Nat}

theorem topmost_leaf {above : List (Dendrogram α)} {u : UnitName} :
    topmost w x above (leaf u) = if above.all (!reaches w x ·) then [leaf u] else [] := by
  simp only [topmost, occurrences, isTopmost, isLeaf, List.filter_cons, List.filter_nil, Bool.true_or,
    Bool.true_and]
  split <;> rfl

theorem topmost_fusion {above : List (Dendrogram α)} {l r : Dendrogram α} {s : α} :
    let t := fusion l r s
    topmost w x above t =
      (if isTopmost w x ⟨above, t⟩ then [t] else []) ++
        (topmost w x (t :: above) l ++ topmost w x (t :: above) r) := by
  simp only [topmost, occurrences, List.filter_cons, List.filter_append]
  split <;> simp

-- The nodes above a tree matter only by whether one of them reaches the threshold.
theorem topmost_congr {above above' : List (Dendrogram α)} {t : Dendrogram α}
    (h : above.all (!reaches w x ·) = above'.all (!reaches w x ·)) :
    topmost w x above t = topmost w x above' t := by
  induction t generalizing above above'
  case leaf => rw [topmost_leaf, topmost_leaf, h]
  case fusion l r s hl hr =>
    have hc : (fusion l r s :: above).all (!reaches w x ·) =
        (fusion l r s :: above').all (!reaches w x ·) := by
      rw [List.all_cons, List.all_cons, h]
    have ht : isTopmost w x ⟨above, fusion l r s⟩ = isTopmost w x ⟨above', fusion l r s⟩ := by
      rw [isTopmost, isTopmost, h]
    rw [topmost_fusion, topmost_fusion, hl hc, hr hc, ht]

-- Below a node that reaches the threshold there is nothing left to take.
theorem topmost_eq_nil {above : List (Dendrogram α)} {t : Dendrogram α}
    (h : above.all (!reaches w x ·) = false) : topmost w x above t = [] := by
  induction t generalizing above
  case leaf => simp [topmost_leaf, h]
  case fusion l r s hl hr =>
    have hc : (fusion l r s :: above).all (!reaches w x ·) = false := by
      rw [List.all_cons, h, Bool.and_false]
    rw [topmost_fusion, hl hc, hr hc]
    simp [isTopmost, h]

theorem thresholdCut_leaf {u : UnitName} : thresholdCut w x (leaf u) = [leaf u] :=
  topmost_leaf

theorem thresholdCut_of_reaches {t : Dendrogram α} (h : reaches w x t) : thresholdCut w x t = [t] := by
  cases t
  case leaf => exact thresholdCut_leaf
  case fusion l r s =>
    have hc : [fusion l r s].all (!reaches w x ·) = false := by simp [h]
    rw [thresholdCut, topmost_fusion, topmost_eq_nil hc, topmost_eq_nil hc]
    simp [isTopmost, h]

theorem thresholdCut_fusion {l r : Dendrogram α} {s : α} (h : ¬reaches w x (fusion l r s)) :
    thresholdCut w x (fusion l r s) = thresholdCut w x l ++ thresholdCut w x r := by
  have hc : [fusion l r s].all (!reaches w x ·) = [].all (!reaches w x ·) := by simp [h]
  rw [thresholdCut, topmost_fusion, topmost_congr hc, topmost_congr hc]
  simp [isTopmost, isLeaf, h, thresholdCut]

theorem length_thresholdCut_pos (t : Dendrogram α) : 0 < (thresholdCut w x t).length := by
  induction t
  case leaf => simp [thresholdCut_leaf]
  case fusion l r s hl _ =>
    by_cases h : reaches w x (fusion l r s)
    case pos => simp [thresholdCut_of_reaches h]
    case neg =>
      rw [thresholdCut_fusion h, List.length_append]
      exact Nat.add_pos_left hl _

theorem cut_of_reaches {t : Dendrogram α} (h : reaches w x t) : cut w x limit taken t = [t] := by
  cases t
  case leaf   => rfl
  case fusion => simp_all [cut, stands, reaches]

theorem cut_fusion {l r : Dendrogram α} {s : α} (h : ¬reaches w x (fusion l r s)) :
    cut w x limit taken (fusion l r s) =
      if limit < taken + 2 then [fusion l r s]
      else
        let ls := cut w x limit taken l
        ls ++ cut w x limit (taken + ls.length) r := by
  simp_all [cut, stands, reaches, isLeaf]

-- As long as there is room for all of it, a cut is the threshold cut.
theorem cut_of_length_le {t : Dendrogram α} (h : taken + (thresholdCut w x t).length ≤ limit) :
    cut w x limit taken t = thresholdCut w x t := by
  induction t generalizing taken
  case leaf => rw [cut, thresholdCut_leaf]
  case fusion l r s hl hr =>
    by_cases ht : reaches w x (fusion l r s)
    case pos => rw [cut_of_reaches ht, thresholdCut_of_reaches ht]
    case neg =>
      rw [thresholdCut_fusion ht, List.length_append] at h
      have hlp := length_thresholdCut_pos (w := w) (x := x) l
      have hrp := length_thresholdCut_pos (w := w) (x := x) r
      have hcl : cut w x limit taken l = thresholdCut w x l := hl (by omega)
      have hcr : cut w x limit (taken + (thresholdCut w x l).length) r = thresholdCut w x r :=
        hr (by omega)
      rw [cut_fusion ht, if_neg (by omega), thresholdCut_fusion ht]
      simp only [hcl, hcr]

-- A cut that leaves out a part of the threshold cut has filled the budget. The part may be missing on
-- the left or only on the right, where the modules of the left have been counted.
theorem le_length_cut {t : Dendrogram α} (h : limit < taken + (thresholdCut w x t).length) :
    limit ≤ taken + (cut w x limit taken t).length := by
  induction t generalizing taken
  case leaf =>
    rw [thresholdCut_leaf] at h
    rw [cut]
    exact Nat.le_of_lt h
  case fusion l r s hl hr =>
    by_cases ht : reaches w x (fusion l r s)
    case pos =>
      rw [thresholdCut_of_reaches ht] at h
      rw [cut_of_reaches ht]
      exact Nat.le_of_lt h
    case neg =>
      rw [thresholdCut_fusion ht, List.length_append] at h
      rw [cut_fusion ht]
      split
      case isTrue hs => simp only [List.length_singleton]; omega
      case isFalse =>
        simp only [List.length_append]
        by_cases hf : taken + (thresholdCut w x l).length ≤ limit
        case pos =>
          rw [cut_of_length_le hf, ← Nat.add_assoc]
          exact hr (by omega)
        case neg =>
          have : limit ≤ taken + (cut w x limit taken l).length := hl (by omega)
          omega

theorem min_length_cut (t : Dendrogram α) :
    min (cut w x limit 0 t).length limit = min limit (thresholdCut w x t).length := by
  by_cases h : (thresholdCut w x t).length ≤ limit
  case pos => rw [cut_of_length_le (by omega), Nat.min_comm]
  case neg =>
    have : limit ≤ 0 + (cut w x limit 0 t).length := le_length_cut (by omega)
    omega

theorem length_thresholdCut_mono (h : ∀ t : Dendrogram α, reaches w y t → reaches w x t)
    (t : Dendrogram α) : (thresholdCut w x t).length ≤ (thresholdCut w y t).length := by
  induction t
  case leaf => simp [thresholdCut_leaf]
  case fusion l r s hl hr =>
    by_cases hx : reaches w x (fusion l r s)
    case pos =>
      rw [thresholdCut_of_reaches hx]
      exact length_thresholdCut_pos _
    case neg =>
      rw [thresholdCut_fusion hx, thresholdCut_fusion (mt (h _) hx), List.length_append,
        List.length_append]
      exact Nat.add_le_add hl hr

end Extraction

open Extraction

theorem length_extract_thresholdCut {α : Type} [Score α] (w : Affinity α) (x : α)
    (root : Option (Dendrogram α)) :
    (extract w x root).modules.length =
      min (budget w.units.length) (root.elim [] (thresholdCut w x)).length := by
  rw [(repairs_cutModules w x root).length_eq]
  cases root
  case none   => simp [cutModules]
  case some t => simpa [cutModules] using min_length_cut t

-- With room for the threshold cut, its branches are the modules.
theorem extract_of_length_le {α : Type} [Score α] {w : Affinity α} {x : α}
    {root : Option (Dendrogram α)}
    (h : (root.elim [] (thresholdCut w x)).length ≤ budget w.units.length) :
    (extract w x root).modules = (root.elim [] (thresholdCut w x)).map (Module.ofUnits w ·.units) ∧
      (extract w x root).repairs = 0 := by
  have hc : cutModules w x (budget w.units.length) root =
      (root.elim [] (thresholdCut w x)).map (Module.ofUnits w ·.units) := by
    cases root
    case none   => rfl
    case some t => rw [cutModules, cut_of_length_le (by simpa using h), Option.elim_some]
  have hn : (cutModules w x (budget w.units.length) root).length - budget w.units.length = 0 := by
    rw [hc, List.length_map]
    omega
  exact ⟨by rw [extract_modules, hn, repair, hc], by rw [extract_repairs, hn]⟩

-- At a higher threshold a node reaches less often, as a mean that is at least the higher threshold is at
-- least the lower one. The means may be nans, which reach no threshold.
theorem reaches_of_le {w : Affinity Float} {x y : Float} (h : x ≤ y) {t : Dendrogram Float}
    (ht : reaches w y t) : reaches w x t :=
  decide_eq_true (Number.float_le_trans h (of_decide_eq_true ht))

-- A cut decides by what stands to the left whether there is room for a split, so it may stop above the nodes that the
-- threshold alone would leave, but only once it has filled the budget.
theorem extract_counts_thresholdCut (w : Affinity Float) (root : Option (Dendrogram Float))
    (x : Float) :
    let limit := max 1 (w.units.length / 2)
    let nodes := root.elim [] (thresholdCut w x)
    let e     := extract w x root
    e.modules.length = min limit nodes.length ∧
    (nodes.length ≤ limit → e.modules = nodes.map (Module.ofUnits w ·.units) ∧ ¬e.isRepaired) ∧
    ∀ y, x ≤ y → e.modules.length ≤ (extract w y root).modules.length := by
  intro limit nodes e
  refine ⟨length_extract_thresholdCut w x root, ?fits, ?mono⟩
  case fits =>
    intro h
    have ⟨hm, hr⟩ := extract_of_length_le h
    exact ⟨hm, by simp [isRepaired, e, hr]⟩
  case mono =>
    intro y hy
    have hn : nodes.length ≤ (root.elim [] (thresholdCut w y)).length := by
      cases root
      case none   => exact Nat.zero_le _
      case some t => exact length_thresholdCut_mono (fun _ => reaches_of_le hy) t
    rw [length_extract_thresholdCut, length_extract_thresholdCut]
    change min limit nodes.length ≤ min limit _
    omega

-- Two close pairs of units: the lower threshold leaves the pairs, the higher one would leave the units.
theorem extract_counts_two_pairs :
    let pairs : List (UnitName × UnitName) := [("a", "b"), ("c", "d")]
    let w : Affinity Float := ⟨["a", "b", "c", "d"], fun u v => if (u, v) ∈ pairs then 0.5 else 0.25⟩
    let root := (cluster w).root
    (root.elim [] (thresholdCut w 0.5)).length = 2 ∧
    (root.elim [] (thresholdCut w 1.0)).length = 4 ∧
    (extract w 0.5 root).modules.length = 2 ∧
    ¬(extract w 0.5 root).isRepaired ∧
    (extract w 0.5 root).modules.length ≤ (extract w 1.0 root).modules.length := by
  intro pairs w root
  have hx : (root.elim [] (thresholdCut w 0.5)).length = 2 := by decide +kernel
  have hy : (root.elim [] (thresholdCut w 1.0)).length = 4 := by decide +kernel
  have ⟨hl, hf, hm⟩ := extract_counts_thresholdCut w root 0.5
  exact ⟨hx, hy, by simp [hl, hx, w], (hf (by simp [hx, w])).2, hm 1.0 (by decide +kernel)⟩

end ModuleDiscovery
