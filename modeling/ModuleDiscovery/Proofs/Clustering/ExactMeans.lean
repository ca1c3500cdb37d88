import Mathlib.Algebra.Order.BigOperators.Group.List
import Mathlib.Algebra.Order.Field.Rat
import Mathlib.Data.Nat.Choose.Cast
import Mathlib.Tactic.Linarith
import Mathlib.Tactic.Positivity
import Mathlib.Tactic.Ring
import ModuleDiscovery.Proofs.Distinct
import ModuleDiscovery.Clustering.Affinity

namespace ModuleDiscovery

namespace Score

theorem sum_rat (xs : List Rat) : Score.sum xs = xs.sum := rfl

theorem div_rat (x : Rat) (n : Nat) : Score.div x n = x / n := rfl

theorem zero_rat : (Score.zero : Rat) = 0 := rfl

end Score

namespace Affinity

variable (w : Affinity Rat)

-- The sum of the weights over all pairs of a unit of `us` with one of `vs`.
def crossSum (us vs : List UnitName) : Rat :=
  (us.map fun u => (vs.map (w.weight u)).sum).sum

-- The sum of the weights over all pairs of units in one list, the earlier unit first.
def pairSum : List UnitName → Rat
  | []      => 0
  | u :: us => (us.map (w.weight u)).sum + pairSum us

variable {w} {u : UnitName} {us vs ls rs : List UnitName} {x : Rat}

theorem sum_flatMap {β : Type} {f : β → List Rat} {ys : List β} :
    (ys.flatMap f).sum = (ys.map fun y => (f y).sum).sum := by
  induction ys
  case nil          => rfl
  case cons y ys ih => simp [ih]

section CrossSum

theorem crossSum_nil_left : w.crossSum [] vs = 0 := rfl

theorem crossSum_cons_left :
    w.crossSum (u :: us) vs = (vs.map (w.weight u)).sum + w.crossSum us vs := rfl

theorem crossSum_nil_right : w.crossSum us [] = 0 := by
  simp [crossSum]

theorem crossSum_cons_right :
    w.crossSum us (u :: vs) = (us.map fun v => w.weight v u).sum + w.crossSum us vs := by
  simp [crossSum, List.sum_map_add]

theorem crossSum_append_right : w.crossSum us (ls ++ rs) = w.crossSum us ls + w.crossSum us rs := by
  simp [crossSum, List.sum_map_add]

theorem crossSum_comm (hw : ∀ u v, w.weight u v = w.weight v u) :
    w.crossSum us vs = w.crossSum vs us := by
  induction us
  case nil          => rw [crossSum_nil_left, crossSum_nil_right]
  case cons u us ih =>
    have hu : w.weight u = fun v => w.weight v u := funext (hw u)
    rw [crossSum_cons_left, crossSum_cons_right, ih, hu]

theorem crossSum_nonneg (hw : ∀ u v, 0 ≤ w.weight u v) : 0 ≤ w.crossSum us vs := by
  refine List.sum_nonneg ?_
  simp only [List.mem_map]
  rintro _ ⟨u, -, rfl⟩
  refine List.sum_nonneg ?_
  simp only [List.mem_map]
  rintro _ ⟨v, -, rfl⟩
  exact hw u v

theorem pairSum_append : w.pairSum (ls ++ rs) = w.pairSum ls + w.pairSum rs + w.crossSum ls rs := by
  induction ls
  case nil => simp [pairSum, crossSum_nil_left]
  case cons u ls ih =>
    simp only [List.cons_append, pairSum, ih, crossSum_cons_left, List.map_append, List.sum_append]
    ring

end CrossSum

section Between

theorem length_pos (h : us ≠ []) : (0 : Rat) < us.length :=
  Nat.cast_pos.mpr (List.length_pos_iff.mpr h)

theorem between_eq : w.between us vs = w.crossSum us vs / (us.length * vs.length) := by
  unfold between
  split
  case isTrue h =>
    rw [Bool.or_eq_true, List.isEmpty_iff, List.isEmpty_iff] at h
    cases h <;> simp_all [Score.zero_rat]
  case isFalse => simp [Score.sum_rat, Score.div_rat, sum_flatMap, crossSum]

theorem between_mul (w : Affinity Rat) (us vs : List UnitName) :
    w.between us vs * (us.length * vs.length) = w.crossSum us vs := by
  rw [between_eq]
  by_cases hu : us = []
  case pos => simp [hu, crossSum_nil_left]
  case neg =>
    by_cases hv : vs = []
    case pos => simp [hv, crossSum_nil_right]
    case neg => exact div_mul_cancel₀ _ (mul_pos (length_pos hu) (length_pos hv)).ne'

theorem between_comm (hw : ∀ u v, w.weight u v = w.weight v u) : w.between us vs = w.between vs us := by
  rw [between_eq, between_eq, crossSum_comm hw, mul_comm]

theorem between_nonneg (hw : ∀ u v, 0 ≤ w.weight u v) : 0 ≤ w.between us vs := by
  rw [between_eq]
  exact div_nonneg (crossSum_nonneg hw) (by positivity)

-- The mean to a union is the mean of the means to its parts, weighted by their sizes.
theorem between_append :
    w.between us (ls ++ rs) * (ls.length + rs.length) =
      w.between us ls * ls.length + w.between us rs * rs.length := by
  by_cases hu : us = []
  case pos => simp [between_eq, hu, crossSum_nil_left]
  case neg =>
    refine mul_left_cancel₀ (length_pos hu).ne' ?_
    have h  := between_mul w us (ls ++ rs)
    have hl := between_mul w us ls
    have hr := between_mul w us rs
    rw [crossSum_append_right, ← hl, ← hr, List.length_append, Nat.cast_add] at h
    linarith

theorem between_append_le (hn : ls ≠ []) (hl : w.between us ls ≤ x) (hr : w.between us rs ≤ x) :
    w.between us (ls ++ rs) ≤ x := by
  have hp : (0 : Rat) < ls.length + rs.length :=
    add_pos_of_pos_of_nonneg (length_pos hn) (by positivity)
  refine le_of_mul_le_mul_right ?_ hp
  calc w.between us (ls ++ rs) * (ls.length + rs.length)
      = w.between us ls * ls.length + w.between us rs * rs.length := between_append
    _ ≤ x * ls.length + x * rs.length := by gcongr
    _ = x * (ls.length + rs.length)   := by ring

end Between

section Within

-- The row of a unit counts the units behind it, as their positions are higher. The units in front of a
-- unit only add zeros to its row.
theorem sum_upperTriangle_from (n : Nat) :
    let is := us.zipIdx n
    (is.flatMap fun (u, i) => is.map fun (v, j) => if i < j then w.weight u v else 0).sum =
      w.pairSum us := by
  induction us generalizing n
  case nil => rfl
  case cons u us ih =>
    have hf : ∀ p ∈ us.zipIdx (n + 1), n < p.2 := fun p hp => (List.mem_zipIdx hp).1
    have hrow : (us.zipIdx (n + 1)).map (fun p => if n < p.2 then w.weight u p.1 else 0) =
        us.map (w.weight u) := by
      rw [List.map_congr_left fun p hp => if_pos (hf p hp), ← Function.comp_def (w.weight u),
        ← List.map_map, List.zipIdx_map_fst]
    have hcol : ∀ p ∈ us.zipIdx (n + 1), (if p.2 < n then w.weight p.1 u else 0) = 0 :=
      fun p hp => if_neg (hf p hp).le.not_gt
    have hih := ih (n + 1)
    simp only [sum_flatMap] at hih ⊢
    simp only [List.zipIdx_cons, List.map_cons, List.sum_cons, lt_irrefl, if_false, zero_add, hrow,
      pairSum, ← hih]
    congr 2
    refine List.map_congr_left fun p hp => ?_
    rw [hcol p hp, zero_add]

theorem sum_upperTriangle : (w.upperTriangle us).sum = w.pairSum us :=
  sum_upperTriangle_from 0

theorem known_eq (hn : us.Nodup) (hk : us ⊆ w.units) : w.known us = us := by
  rw [known, eraseDups_of_nodup hn, List.filter_eq_self]
  simpa using fun u hu => hk hu

theorem within_eq (hn : us.Nodup) (hk : us ⊆ w.units) (hl : 2 ≤ us.length) :
    w.within us = w.pairSum us / us.length.choose 2 := by
  simp only [within, known_eq hn hk, if_neg (Nat.not_lt.mpr hl), Score.sum_rat, Score.div_rat,
    sum_upperTriangle, Nat.choose_two_right]

theorem le_within (hn : us.Nodup) (hk : us ⊆ w.units) (hl : 2 ≤ us.length)
    (h : x * us.length.choose 2 ≤ w.pairSum us) : x ≤ w.within us := by
  rw [within_eq hn hk hl]
  exact (le_div_iff₀ (Nat.cast_pos.mpr (Nat.choose_pos hl))).mpr h

end Within
end Affinity
end ModuleDiscovery
