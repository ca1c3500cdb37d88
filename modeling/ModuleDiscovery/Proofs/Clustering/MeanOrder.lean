import Mathlib
import ModuleDiscovery.Clustering.Extraction
import ModuleDiscovery.Proofs.Clustering.CallShares
import ModuleDiscovery.Proofs.Number.Grouping
import ModuleDiscovery.Proofs.Number.Regular

namespace ModuleDiscovery

open Number

namespace Affinity

section Known

variable {α : Type} {w : Affinity α} {us vs : List UnitName} {u : UnitName}

theorem mem_known : u ∈ w.known us ↔ u ∈ us ∧ u ∈ w.units := by
  simp [known]

theorem nodup_known : (w.known us).Nodup :=
  (nodup_eraseDups us).filter _

theorem known_known : w.known (w.known us) = w.known us := by
  rw [known, eraseDups_of_nodup nodup_known, List.filter_eq_self]
  intro u hu
  exact List.contains_iff_mem.mpr (mem_known.mp hu).2

theorem known_perm (h : ∀ u ∈ w.units, u ∈ us ↔ u ∈ vs) : (w.known us).Perm (w.known vs) := by
  refine (List.perm_ext_iff_of_nodup nodup_known nodup_known).mpr fun u => ?_
  rw [mem_known, mem_known]
  exact and_congr_left (h u)

variable [Score α]

theorem within_of_known_eq (h : w.known us = w.known vs) : w.within us = w.within vs := by
  simp only [within, h]

-- Repetitions and names that are not known are dropped before anything is added.
theorem within_known : w.within (w.known us) = w.within us :=
  within_of_known_eq known_known

-- A single pair is the same in both orders.
theorem within_eq_of_length_le (hw : ∀ u v, w.weight u v = w.weight v u) (h : (w.known us).Perm (w.known vs))
    (hl : (w.known us).length ≤ 2) : w.within us = w.within vs := by
  match hu : w.known us, hl with
  | [], _ | [u], _ =>
    rw [hu] at h
    simp only [List.nil_perm, List.singleton_perm] at h
    exact within_of_known_eq (by rw [hu, h])
  | [u, v], _ =>
    rw [hu] at h
    obtain ⟨u', v', hv⟩ := List.length_eq_two.mp h.symm.length_eq
    have hn : (w.known us).Nodup := nodup_known
    have hm := h.mem_iff (a := u)
    have hm' := h.mem_iff (a := v)
    rw [hu] at hn
    rw [hv] at hm hm'
    simp only [List.nodup_cons, List.mem_cons, List.not_mem_nil, or_false, true_or, or_true, true_iff] at hn hm hm'
    have : u' = u ∧ v' = v ∨ u' = v ∧ v' = u := by grind
    rcases this with ⟨rfl, rfl⟩ | ⟨rfl, rfl⟩
    case inl => exact within_of_known_eq (hu.trans hv.symm)
    case inr => simp [within, hu, hv, upperTriangle, hw u' v']

end Known

section Exact

variable {w : Affinity Rat} {us vs : List UnitName}

theorem within_eq_pairSum (hl : 2 ≤ (w.known us).length) :
    w.within us = w.pairSum (w.known us) / (w.known us).length.choose 2 := by
  rw [← within_known, within_eq nodup_known (fun u hu => (mem_known.mp hu).2) hl]

theorem within_of_length_known_lt (hl : (w.known us).length < 2) : w.within us = 0 := by
  rw [← within_known, within_of_length_lt nodup_known hl]

theorem within_congr (hw : ∀ u v, w.weight u v = w.weight v u) (h : ∀ u ∈ w.units, u ∈ us ↔ u ∈ vs) :
    w.within us = w.within vs := by
  have hp := known_perm h
  by_cases hl : 2 ≤ (w.known us).length
  case pos =>
    rw [within_eq_pairSum hl, within_eq_pairSum (hp.length_eq ▸ hl), pairSum_perm hw nodup_known hp, hp.length_eq]
  case neg =>
    have hl := Nat.not_le.mp hl
    rw [within_of_length_known_lt hl, within_of_length_known_lt (hp.length_eq ▸ hl)]

theorem pairSum_nonneg (hw : ∀ u v, 0 ≤ w.weight u v) : 0 ≤ w.pairSum us := by
  induction us
  case nil => exact le_rfl
  case cons u us ih =>
    refine add_nonneg (List.sum_nonneg ?_) ih
    simp only [List.mem_map]
    rintro _ ⟨v, -, rfl⟩
    exact hw u v

theorem within_nonneg (hw : ∀ u v, 0 ≤ w.weight u v) : 0 ≤ w.within us := by
  by_cases hl : 2 ≤ (w.known us).length
  case pos =>
    rw [within_eq_pairSum hl]
    exact div_nonneg (pairSum_nonneg hw) (Nat.cast_nonneg _)
  case neg => rw [within_of_length_known_lt (Nat.not_le.mp hl)]

end Exact

section Doubles

variable {w : Affinity Float} {us vs : List UnitName}

-- The weights as exact numbers.
def exact (w : Affinity Float) : Affinity Rat where
  units      := w.units
  weight u v := value (w.weight u v)

-- A double from zero to one.
def IsShare (x : Float) : Prop :=
  Regular x ∧ value x ≤ 1

-- All weights are shares.
def IsShares (w : Affinity Float) : Prop :=
  ∀ u v, IsShare (w.weight u v)

theorem isShare_zero : IsShare 0.0 :=
  ⟨regular_zero, value_zero.trans_le zero_le_one⟩

theorem isShares_ofCalls {g : CallGraph} {allowed : List UnitName} {sep : Separator}
    (h : ofCoupling? (Coupling.ofCalls g allowed sep) us = some w) : w.IsShares :=
  weight_ofCalls_cases h isShare_zero fun _ _ _ hn hd hx => regular_floatOfRatio hn hd hx

theorem map_upperTriangle : (w.upperTriangle us).map value = w.exact.upperTriangle us := by
  simp only [upperTriangle, List.map_flatMap, List.map_map]
  refine List.flatMap_congr fun p _ => List.map_congr_left fun q _ => ?_
  exact (apply_ite value ..).trans (by rw [show value Score.zero = 0 from value_zero]; rfl)

theorem exactSum_upperTriangle : exactSum (0.0 ::ₘ w.upperTriangle us) = w.exact.pairSum us := by
  rw [exactSum, Multiset.map_cons, Multiset.sum_cons, Multiset.map_coe, Multiset.sum_coe, map_upperTriangle,
    sum_upperTriangle]
  rw [value_zero, zero_add]

theorem length_upperTriangle : (w.upperTriangle us).length = us.length ^ 2 := by
  simp [upperTriangle, List.length_flatMap, sq]

theorem isSmall_upperTriangle (hw : w.IsShares) (hl : us.length ≤ 2 ^ 24) :
    IsSmall (0.0 ::ₘ w.upperTriangle us) := by
  constructor
  case left =>
    have : us.length ^ 2 ≤ (2 ^ 24) ^ 2 := Nat.pow_le_pow_left hl 2
    rw [Multiset.card_cons, Multiset.coe_card, length_upperTriangle]
    omega
  case right =>
    simp only [Multiset.mem_cons, Multiset.mem_coe, upperTriangle, List.mem_flatMap, List.mem_map]
    rintro x (rfl | ⟨p, -, q, -, rfl⟩)
    case inl => exact isShare_zero
    case inr =>
      split
      case isTrue  => exact hw ..
      case isFalse => exact isShare_zero

theorem regular_within (hw : w.IsShares) (hl : (w.known us).length ≤ 2 ^ 24) : Regular (w.within us) ∧
    NearLeast ((w.known us).length ^ 2 + 2) (w.exact.within us) (value (w.within us)) := by
  have hk : w.exact.known us = w.known us := rfl
  by_cases h2 : 2 ≤ (w.known us).length
  case neg =>
    rw [within_of_length_known_lt (hk ▸ Nat.not_le.mp h2), within, if_pos (Nat.not_le.mp h2),
      show value Score.zero = 0 from value_zero]
    exact ⟨regular_zero, .of_near (Near.refl _ le_rfl)⟩
  case pos =>
    have hs := isSmall_upperTriangle hw hl
    have hne : w.upperTriangle (w.known us) ≠ [] := by
      rw [← List.length_pos_iff, length_upperTriangle]
      positivity
    have hn : (w.known us).length * ((w.known us).length - 1) / 2 ≠ 0 := by
      rw [← Nat.choose_two_right]
      exact (Nat.choose_pos h2).ne'
    have hlt : (w.known us).length * ((w.known us).length - 1) / 2 < 2 ^ 53 :=
      calc (w.known us).length * ((w.known us).length - 1) / 2
        _ ≤ (w.known us).length * (w.known us).length := (Nat.div_le_self ..).trans (Nat.mul_le_mul_left _ (by omega))
        _ ≤ 2 ^ 24 * 2 ^ 24                           := Nat.mul_le_mul hl hl
        _ < 2 ^ 53                                    := by decide
    have h := (grouping_sum hne).near_div hs hn hlt
    rw [exactSum_upperTriangle, Multiset.card_cons, Multiset.coe_card, length_upperTriangle,
      ← Nat.choose_two_right] at h
    rw [within_eq_pairSum h2, within, if_neg h2.not_gt, hk, ← Nat.choose_two_right]
    exact h

-- What the mean of a group of so many units can miss the exact mean by.
def roundingBound (k : Nat) (mean : Rat) : Rat :=
  k ^ 2 / 2 ^ 50 * mean + least

theorem exact_within_nonneg (hw : w.IsShares) (us : List UnitName) : 0 ≤ w.exact.within us :=
  within_nonneg fun u v => value_nonneg (hw u v).1

theorem abs_within_sub_le (hw : w.IsShares) (hl : (w.known us).length ≤ 2 ^ 24) :
    |value (w.within us) - w.exact.within us| ≤ roundingBound (w.known us).length (w.exact.within us) := by
  have ⟨hr, hn⟩ := regular_within hw hl
  have hm := exact_within_nonneg hw us
  have hsq : (w.known us).length ^ 2 ≤ (2 ^ 24) ^ 2 := Nat.pow_le_pow_left hl 2
  refine (hn.abs_sub_le (by omega) hm (value_nonneg hr)).trans ?_
  rw [roundingBound, add_le_add_iff_right]
  by_cases h2 : 2 ≤ (w.known us).length
  case neg =>
    have hz : w.exact.within us = 0 := within_of_length_known_lt (Nat.not_le.mp h2)
    rw [hz, mul_zero, mul_zero]
  case pos =>
    have h4 : (4 : Rat) ≤ (w.known us).length ^ 2 := by exact_mod_cast Nat.pow_le_pow_left h2 2
    gcongr
    rw [roundoff]
    push_cast
    linarith

-- A number that the exact mean is not that near to is on the same side of the mean of doubles.
theorem ge_within_iff {x : Float} (hw : w.IsShares) (hl : (w.known us).length ≤ 2 ^ 24) (hf : x.isFinite)
    (hx : 0.0 ≤ x) (h : roundingBound (w.known us).length (w.exact.within us) < |value x - w.exact.within us|) :
    Score.ge (w.within us) x ↔ value x ≤ w.exact.within us := by
  have hd := abs_sub_le_iff.mp (abs_within_sub_le hw hl)
  have hge : Score.ge (w.within us) x ↔ value x ≤ value (w.within us) := by
    rw [← float_le_iff_value_le (regular_iff.mpr ⟨hx, hf⟩) (regular_within hw hl).1]
    exact decide_eq_true_iff
  rw [hge]
  cases lt_abs.mp h <;> constructor <;> intro <;> linarith

section SameUnits

variable (hc : ∀ u v, w.weight u v = w.weight v u) (h : ∀ u ∈ w.units, u ∈ us ↔ u ∈ vs)

include hc h

theorem exact_within_congr : w.exact.within us = w.exact.within vs :=
  within_congr (fun u v => congrArg value (hc u v)) h

theorem abs_within_sub_within_le (hw : w.IsShares) (hl : (w.known us).length ≤ 2 ^ 24) :
    |value (w.within us) - value (w.within vs)| ≤ 2 * roundingBound (w.known us).length (w.exact.within us) := by
  have hk := (known_perm h).length_eq
  have hx := abs_within_sub_le hw hl
  have hy := abs_within_sub_le hw (hk ▸ hl)
  rw [← hk, ← exact_within_congr hc h, abs_sub_comm] at hy
  rw [two_mul]
  exact (abs_sub_le _ _ _).trans (add_le_add hx hy)

theorem ge_within_congr {x : Float} (hw : w.IsShares) (hl : (w.known us).length ≤ 2 ^ 24) (hf : x.isFinite)
    (hx : 0.0 ≤ x) (hb : roundingBound (w.known us).length (w.exact.within us) < |value x - w.exact.within us|) :
    Score.ge (w.within us) x = Score.ge (w.within vs) x := by
  have hk := (known_perm h).length_eq
  have hm := exact_within_congr hc h
  rw [Bool.eq_iff_iff, ge_within_iff hw hl hf hx hb, hm, ge_within_iff hw (hk ▸ hl) hf hx (hk ▸ hm ▸ hb)]

end SameUnits

end Doubles

end Affinity

open Affinity

-- What is left of the order is the rounding of so many additions. It decides a comparison only with a number that the
-- exact mean is as near to.
theorem within_nearly_order_independent {us xs ys : List UnitName} (hs : ∀ u ∈ us, u ∈ xs ↔ u ∈ ys) :
    (∀ (α : Type) [Score α] (c : Coupling) (w : Affinity α), ofCoupling? c us = some w →
      (w.known xs).Perm (w.known ys) ∧ w.within (w.known xs) = w.within xs ∧
      (w.known xs = w.known ys ∨ (w.known xs).length ≤ 2 → w.within xs = w.within ys)) ∧
    (∀ (c : Coupling) (w : Affinity Rat), ofCoupling? c us = some w → w.within xs = w.within ys) ∧
    ∀ (g : CallGraph) (allowed : List UnitName) (sep : Separator), ∃ w : Affinity Float,
      ofCoupling? (Coupling.ofCalls g allowed sep) us = some w ∧
      ((w.known xs).length ≤ 2 ^ 24 →
        let mean  := w.exact.within xs
        let error := roundingBound (w.known xs).length mean
        w.exact.within ys = mean ∧ |value (w.within xs) - mean| ≤ error ∧
        |value (w.within xs) - value (w.within ys)| ≤ 2 * error ∧
        (∀ x : Float, x.isFinite → 0.0 ≤ x → error < |value x - mean| →
          Score.ge (w.within xs) x = Score.ge (w.within ys) x) ∧
        ∀ m n : Module Float, (∀ u, u ∈ xs ↔ u ∈ m.members ∨ u ∈ n.members) →
          (Module.ofUnits w xs).members = (Extraction.join w m n).members ∧
          |value (Module.ofUnits w xs).average - value (Extraction.join w m n).average| ≤ 2 * error) := by
  refine ⟨fun α _ c w h => ?any, fun c w h => ?exact, fun g allowed sep => ?doubles⟩
  case any =>
    have hp := known_perm fun u hu => hs u ((mem_units_of_ofCoupling? h).mp hu)
    refine ⟨hp, within_known, ?_⟩
    rintro (hk | hl)
    case inl => exact within_of_known_eq hk
    case inr => exact within_eq_of_length_le (fun _ _ => weight_comm h) hp hl
  case exact => exact within_congr (fun _ _ => weight_comm h) fun u hu => hs u ((mem_units_of_ofCoupling? h).mp hu)
  case doubles =>
    obtain ⟨w, h⟩ : ∃ w : Affinity Float, ofCoupling? (Coupling.ofCalls g allowed sep) us = some w :=
      exists_ofCoupling? Coupling.exists_weight?
    have hw := isShares_ofCalls h
    have hc : ∀ u v, w.weight u v = w.weight v u := fun _ _ => weight_comm h
    have hs : ∀ u ∈ w.units, u ∈ xs ↔ u ∈ ys := fun u hu => hs u ((mem_units_of_ofCoupling? h).mp hu)
    refine ⟨w, h, fun hl => ⟨(exact_within_congr hc hs).symm, abs_within_sub_le hw hl,
      abs_within_sub_within_le hc hs hw hl, fun x hf hx hb => ge_within_congr hc hs hw hl hf hx hb, fun m n hm => ?_⟩⟩
    have hj : ∀ u, u ∈ xs ↔ u ∈ m.members ++ n.members := fun u => (hm u).trans List.mem_append.symm
    refine ⟨sortedUnits_congr hj, abs_within_sub_within_le hc (fun u _ => ?_) hw hl⟩
    rw [mem_sortedUnits, hj]

-- Six calls among three of four units, four of them between the same two, and one call to the fourth unit.
def sevenCalls : CallGraph :=
  (CallGraph.empty.merge [⟨"A.a", "B.b"⟩, ⟨"A.a", "B.c"⟩, ⟨"A.b", "B.b"⟩, ⟨"A.b", "B.c"⟩, ⟨"A.a", "C.c"⟩,
    ⟨"B.b", "C.c"⟩, ⟨"A.a", "D.d"⟩]).1

-- The three units as a branch and as a fusion list them, and with a repetition and a name that is not known. Both
-- means are above a quarter.
theorem within_nearly_order_independent_seven_calls :
    let us := ["A", "B", "C", "D"]
    let xs := ["C", "A", "B"]
    let ys := ["A", "B", "C"]
    let zs := ["C", "A", "E", "B", "C"]
    (∃ w : Affinity Rat, ofCoupling? (Coupling.ofCalls sevenCalls us .dot) us = some w ∧
      (∀ u ∈ us, u ∈ xs ↔ u ∈ ys) ∧ w.within xs = w.within ys) ∧
    ∃ w : Affinity Float, ofCoupling? (Coupling.ofCalls sevenCalls us .dot) us = some w ∧
      (∀ u ∈ us, u ∈ xs ↔ u ∈ zs) ∧ w.known xs = w.known zs ∧ w.within xs = w.within zs ∧
      let mean  := w.exact.within xs
      let error := roundingBound 3 mean
      (w.known xs).length = 3 ∧ error < 1 / 2 ^ 47 ∧ |value (w.within xs) - value (w.within ys)| ≤ 2 * error ∧
      (0.25 : Float).isFinite ∧ 0.0 ≤ (0.25 : Float) ∧ error < |value 0.25 - mean| ∧
      Score.ge (w.within xs) 0.25 = Score.ge (w.within ys) 0.25 ∧
      (Module.ofUnits w xs).members = (Extraction.join w ⟨["A", "B"], 0.5⟩ ⟨["C"], 0.0⟩).members := by
  intro us xs ys zs
  have hs : ∀ u ∈ us, u ∈ xs ↔ u ∈ ys := by decide
  have hz : ∀ u ∈ us, u ∈ xs ↔ u ∈ zs := by decide
  have ⟨_, hexact, hdoubles⟩ := within_nearly_order_independent hs
  have ⟨hany, _⟩ := within_nearly_order_independent hz
  obtain ⟨wr, hr⟩ := exists_ofCalls sevenCalls us us .dot
  obtain ⟨w, hw, hd⟩ := hdoubles sevenCalls us .dot
  have hc : (ofCoupling? (Coupling.ofCalls sevenCalls us .dot) us : Option (Affinity Float)).all fun w =>
      w.known xs = w.known zs ∧ (w.known xs).length = 3 ∧ roundingBound 3 (w.exact.within xs) < 1 / 2 ^ 47 ∧
        roundingBound 3 (w.exact.within xs) < |value 0.25 - w.exact.within xs| := by
    decide +kernel
  rw [hw, Option.all_some, decide_eq_true_eq] at hc
  obtain ⟨hk, hl, herror, hfar⟩ := hc
  have hd := hd (hl.trans_le (by decide))
  rw [hl] at hd
  obtain ⟨_, _, hnear, hge, hmodules⟩ := hd
  have hf : (0.25 : Float).isFinite := by decide +kernel
  have h0 : 0.0 ≤ (0.25 : Float) := by decide +kernel
  have hp : xs.Perm (["A", "B"] ++ ["C"]) := by decide
  have hm : ∀ u, u ∈ xs ↔ u ∈ ["A", "B"] ∨ u ∈ ["C"] := fun _ => hp.mem_iff.trans List.mem_append
  refine ⟨⟨wr, hr, hs, hexact _ wr hr⟩, w, hw, hz, hk, (hany Float _ w hw).2.2 (.inl hk), hl, herror, hnear, hf, h0,
    hfar, hge 0.25 hf h0 hfar, ?_⟩
  exact (hmodules ⟨["A", "B"], 0.5⟩ ⟨["C"], 0.0⟩ hm).1

-- The branch of the three units has them in the one order, and a fusion of two modules in the other one. Only in the
-- first one their mean reaches two sevenths, which is the exact mean.
theorem within_changes_with_order :
    let us := ["A", "B", "C", "D"]
    ∃ w : Affinity Float, ofCoupling? (Coupling.ofCalls sevenCalls us .dot) us = some w ∧
      (∀ u, u ∈ ["C", "A", "B"] ↔ u ∈ ["A", "B", "C"]) ∧ w.within ["C", "A", "B"] ≠ w.within ["A", "B", "C"] ∧
      (∃ f ∈ (cluster w).history, f.left = ["C"] ∧ f.right = ["A", "B"]) ∧
      let m := Module.ofUnits w ["C", "A", "B"]
      let n := Extraction.join w (Module.ofUnits w ["A", "B"]) (Module.ofUnits w ["C"])
      m.members = n.members ∧ Score.ge m.average (2.0 / 7.0) ∧ ¬Score.ge n.average (2.0 / 7.0) := by
  intro us
  have hc : (ofCoupling? (Coupling.ofCalls sevenCalls us .dot) us : Option (Affinity Float)).any fun w =>
      w.within ["C", "A", "B"] ≠ w.within ["A", "B", "C"] ∧
      ((cluster w).history.any fun f => f.left = ["C"] ∧ f.right = ["A", "B"]) ∧
      Score.ge (w.within ["C", "A", "B"]) (2.0 / 7.0) ∧ ¬Score.ge (w.within ["A", "B", "C"]) (2.0 / 7.0) := by
    decide +kernel
  obtain ⟨w, hw, hc⟩ := Option.any_eq_true _ _ |>.mp hc
  have hm : sortedUnits ["C", "A", "B"] = ["A", "B", "C"] := by cbv
  have hn : sortedUnits (sortedUnits ["A", "B"] ++ sortedUnits ["C"]) = ["A", "B", "C"] := by cbv
  rw [decide_eq_true_eq] at hc
  obtain ⟨hne, hh, hge, hlt⟩ := hc
  have hp : ["C", "A", "B"].Perm ["A", "B", "C"] := by decide
  refine ⟨w, hw, fun _ => hp.mem_iff, hne, by simpa using hh, hm.trans hn.symm, hge, ?_⟩
  change ¬Score.ge (w.within (sortedUnits (sortedUnits ["A", "B"] ++ sortedUnits ["C"]))) (2.0 / 7.0)
  rw [hn]
  exact hlt

end ModuleDiscovery
