import Mathlib
import ModuleDiscovery.Proofs.Number.ExactArithmetic
import ModuleDiscovery.Proofs.Number.Nonnegative

namespace ModuleDiscovery.Number

-- A double that is reached from the given ones by additions that use each of them once. What is added is a multiset,
-- as the order of the numbers is lost with the first two that are added.
inductive Grouping : Multiset Float → Float → Prop
  | single (x) : Grouping {x} x
  | add {s t x y} : Grouping s x → Grouping t y → Grouping (s + t) (x + y)

section Structure

variable {x y : Float} {xs ys lanes : List Float} {s : Multiset Float} {ss : List (Multiset Float)}

theorem Grouping.card_pos (h : Grouping s x) : 0 < s.card := by
  induction h
  case single          => simp
  case add ihs iht     => rw [Multiset.card_add]; omega

theorem Grouping.foldl (h : Grouping s x) : Grouping (s + ys) (ys.foldl (· + ·) x) := by
  induction ys generalizing s x
  case nil => simpa using h
  case cons y ys ih =>
    have hs : s + ↑(y :: ys) = s + {y} + ↑ys := by
      rw [add_assoc, Multiset.singleton_add, Multiset.cons_coe]
    rw [hs]
    exact ih (h.add (.single y))

theorem grouping_leftSum (h : xs ≠ []) : Grouping xs (leftSum xs) := by
  cases xs
  case nil => contradiction
  case cons x xs => exact (Grouping.single x).foldl

theorem grouping_zipWith (h : List.Forall₂ Grouping ss lanes) (hl : xs.length = lanes.length) :
    ∃ ss', List.Forall₂ Grouping ss' (List.zipWith (· + ·) lanes xs) ∧ ss'.sum = ss.sum + xs := by
  induction h generalizing xs
  case nil =>
    obtain rfl := List.length_eq_zero_iff.mp hl
    exact ⟨[], .nil, by simp⟩
  case cons s y ss lanes hs _ ih =>
    cases xs
    case nil => simp at hl
    case cons x xs =>
      obtain ⟨ss', hss, hsum⟩ := ih (by simpa using hl)
      refine ⟨(s + {x}) :: ss', .cons (hs.add (.single x)) hss, ?_⟩
      rw [List.sum_cons, List.sum_cons, hsum, ← Multiset.cons_coe, ← Multiset.singleton_add]
      ac_rfl

-- What the rows do not use is less than a row.
theorem grouping_addRows (xs : List Float) (h : List.Forall₂ Grouping ss lanes) (hl : lanes.length = 8) :
    ∃ ss', List.Forall₂ Grouping ss' (addRows lanes xs) ∧ (addRows lanes xs).length = 8 ∧
      ss'.sum + xs.drop (xs.length - xs.length % 8) = ss.sum + xs := by
  fun_induction addRows lanes xs generalizing ss
  case case1 lanes a b c d e f g k xs ih =>
    obtain ⟨ss₁, hss, hsum⟩ := grouping_zipWith h (show [a, b, c, d, e, f, g, k].length = _ from hl.symm)
    obtain ⟨ss', hss', hlen, hsum'⟩ := ih hss (by simp [hl])
    have hn : xs.length + 8 - (xs.length + 8) % 8 = xs.length - xs.length % 8 + 8 := by omega
    refine ⟨ss', hss', hlen, ?_⟩
    change ss'.sum + ↑((a :: b :: c :: d :: e :: f :: g :: k :: xs).drop (xs.length + 8 - (xs.length + 8) % 8)) =
      ss.sum + ↑([a, b, c, d, e, f, g, k] ++ xs)
    rw [hn, ← Multiset.coe_add, ← add_assoc, ← hsum]
    exact hsum'
  case case2 xs lanes hx =>
    have hlt : xs.length < 8 := by
      by_contra hle
      rcases xs with _ | ⟨a, _ | ⟨b, _ | ⟨c, _ | ⟨d, _ | ⟨e, _ | ⟨f, _ | ⟨g, _ | ⟨k, xs⟩⟩⟩⟩⟩⟩⟩⟩
      case cons.cons.cons.cons.cons.cons.cons.cons => exact hx _ _ _ _ _ _ _ _ _ rfl
      all_goals simp at hle
    refine ⟨ss, h, hl, ?_⟩
    rw [Nat.mod_eq_of_lt hlt, Nat.sub_self, List.drop_zero]

theorem grouping_laneSum (h : List.Forall₂ Grouping ss lanes) (hl : lanes.length = 8) :
    Grouping ss.sum (laneSum lanes) := by
  match lanes, hl with
  | [a, b, c, d, e, f, g, k], _ =>
    simp only [List.forall₂_cons_right_iff, List.forall₂_nil_right_iff] at h
    obtain ⟨s₀, _, ha, ⟨s₁, _, hb, ⟨s₂, _, hc, ⟨s₃, _, hd, ⟨s₄, _, he, ⟨s₅, _, hf, ⟨s₆, _, hg, ⟨s₇, _, hk, rfl, rfl⟩,
      rfl⟩, rfl⟩, rfl⟩, rfl⟩, rfl⟩, rfl⟩, rfl⟩ := h
    have hsum : [s₀, s₁, s₂, s₃, s₄, s₅, s₆, s₇].sum = ((s₀ + s₁) + (s₂ + s₃)) + ((s₄ + s₅) + (s₆ + s₇)) := by
      simp [add_assoc]
    rw [hsum]
    exact ((ha.add hb).add (hc.add hd)).add ((he.add hf).add (hg.add hk))

theorem forall₂_single (xs : List Float) : List.Forall₂ Grouping (xs.map fun x => {x}) xs := by
  induction xs
  case nil          => exact .nil
  case cons x xs ih => exact .cons (.single x) ih

theorem sum_map_single (xs : List Float) : (xs.map fun x => ({x} : Multiset Float)).sum = xs := by
  rw [← Multiset.sum_coe, ← Multiset.map_coe, Multiset.sum_map_singleton]

-- Every number is added once.
theorem grouping_blockSum (h : xs ≠ []) : Grouping xs (blockSum xs) := by
  fun_induction blockSum xs
  case case1 => exact grouping_leftSum h
  case case2 xs n h8 _ =>
    have hlen : (xs.take 8).length = 8 := by
      rw [List.length_take]
      omega
    obtain ⟨ss, hss, hl, hsum⟩ := grouping_addRows (xs.drop 8) (forall₂_single (xs.take 8)) hlen
    have hd : 8 + ((xs.drop 8).length - (xs.drop 8).length % 8) = n - n % 8 := by
      rw [List.length_drop]
      omega
    rw [sum_map_single, Multiset.coe_add, List.take_append_drop, List.drop_drop, hd] at hsum
    rw [← hsum]
    exact (grouping_laneSum hss hl).foldl
  case case3 xs n _ h128 half hleft hright =>
    have hlen : 0 < half ∧ half < xs.length := by omega
    have hl := hleft (List.ne_nil_of_length_pos (by rw [List.length_take]; omega))
    have hr := hright (List.ne_nil_of_length_pos (by rw [List.length_drop]; omega))
    have h := hl.add hr
    rwa [Multiset.coe_add, List.take_append_drop] at h

theorem grouping_sum (h : xs ≠ []) : Grouping (0.0 ::ₘ xs) (Score.sum xs) :=
  (Grouping.single 0.0).add (grouping_blockSum h)

end Structure

section Error

variable {x y : Float} {s t : Multiset Float}

-- The sum without rounding.
def exactSum (s : Multiset Float) : Rat :=
  (s.map value).sum

-- Doubles of which many can be added before a sum is too large.
def IsSmall (s : Multiset Float) : Prop :=
  s.card ≤ 2 ^ 50 ∧ ∀ x ∈ s, Regular x ∧ value x ≤ 1

theorem exactSum_add : exactSum (s + t) = exactSum s + exactSum t := by
  rw [exactSum, Multiset.map_add, Multiset.sum_add]
  rfl

theorem IsSmall.of_add (h : IsSmall (s + t)) : IsSmall s ∧ IsSmall t := by
  obtain ⟨hc, hx⟩ := h
  rw [Multiset.card_add] at hc
  exact ⟨⟨by omega, fun x h => hx x (Multiset.mem_add.mpr (.inl h))⟩,
    ⟨by omega, fun x h => hx x (Multiset.mem_add.mpr (.inr h))⟩⟩

theorem IsSmall.exactSum_bounds (h : IsSmall s) : 0 ≤ exactSum s ∧ exactSum s ≤ s.card := by
  have hx : ∀ q ∈ s.map value, 0 ≤ q ∧ q ≤ 1 := by
    simp only [Multiset.mem_map]
    rintro _ ⟨x, hm, rfl⟩
    exact ⟨value_nonneg (h.2 x hm).1, (h.2 x hm).2⟩
  refine ⟨Multiset.sum_nonneg fun q hq => (hx q hq).1, ?_⟩
  have := Multiset.sum_le_card_nsmul _ 1 fun q hq => (hx q hq).2
  simpa [exactSum] using this

theorem errorFactor_le_two {n : Nat} (h : n ≤ 2 ^ 51) : errorFactor n ≤ 2 := by
  have hn : (n : Rat) ≤ 2 ^ 51 := by exact_mod_cast h
  have := errorFactor_le h
  rw [roundoff] at this
  linarith

-- A sum that was reached by a grouping is far from the greatest doubles.
theorem IsSmall.value_le (h : IsSmall s) (hn : Near s.card (exactSum s) (value x)) : value x ≤ 2 ^ 51 := by
  have hc : (s.card : Rat) ≤ 2 ^ 50 := by exact_mod_cast h.1
  have ⟨h0, hs⟩ := h.exactSum_bounds
  calc value x
    _ ≤ errorFactor s.card * exactSum s := hn.1
    _ ≤ 2 * 2 ^ 50                      := by gcongr; exacts [errorFactor_le_two (h.1.trans (by decide)), hs.trans hc]
    _ = 2 ^ 51                          := by norm_num

-- Each addition rounds once, and of the errors of its two terms the greater one counts.
theorem Grouping.near (h : Grouping s x) (hs : IsSmall s) : Regular x ∧ Near s.card (exactSum s) (value x) := by
  induction h
  case single x =>
    have ⟨hx, _⟩ := hs.2 x (Multiset.mem_singleton_self x)
    refine ⟨hx, ?_⟩
    rw [exactSum, Multiset.map_singleton, Multiset.sum_singleton]
    exact Near.refl _ (value_nonneg hx)
  case add s t x y hsx hty ihs iht =>
    have ⟨hs', ht'⟩ := hs.of_add
    have ⟨hx, hnx⟩ := ihs hs'
    have ⟨hy, hny⟩ := iht ht'
    have hvx := hs'.value_le hnx
    have hvy := ht'.value_le hny
    have hl : errorFactor 1 * (value x + value y) ≤ limit := by
      refine le_limit ?_
      calc errorFactor 1 * (value x + value y)
        _ ≤ 2 * (2 ^ 51 + 2 ^ 51) := by
          have := errorFactor_le_two (n := 1) (by decide)
          have := value_nonneg hx
          have := value_nonneg hy
          gcongr
        _ ≤ 2 ^ 60 := by norm_num
    have ⟨hr, hn⟩ := regular_add hx hy hl
    have hpos := hsx.card_pos
    have hpos' := hty.card_pos
    have hnx := hnx.mono hs'.exactSum_bounds.1 (value_nonneg hx) (show _ ≤ s.card + t.card - 1 by omega)
    have hny := hny.mono ht'.exactSum_bounds.1 (value_nonneg hy) (show _ ≤ s.card + t.card - 1 by omega)
    have h := (hnx.add hny).trans hn
    rw [Nat.sub_add_cancel (by omega)] at h
    rw [exactSum_add, Multiset.card_add]
    exact ⟨hr, h⟩

-- The division of such a sum rounds once more.
theorem Grouping.near_div {n : Nat} (h : Grouping s x) (hs : IsSmall s) (hn : n ≠ 0) (hlt : n < 2 ^ 53) :
    Regular (x / Float.ofNat n) ∧ NearLeast (s.card + 1) (exactSum s / n) (value (x / Float.ofNat n)) := by
  have ⟨hx, hnear⟩ := h.near hs
  have hv : value x / n ≤ 2 ^ 51 :=
    (div_le_self (value_nonneg hx) (by exact_mod_cast Nat.pos_of_ne_zero hn)).trans (hs.value_le hnear)
  have hl : errorFactor 1 * (value x / n) + least ≤ limit := by
    refine le_limit ?_
    calc errorFactor 1 * (value x / n) + least
      _ ≤ 2 * 2 ^ 51 + 1 := by
        have := errorFactor_le_two (n := 1) (by decide)
        have : 0 ≤ value x / n := div_nonneg (value_nonneg hx) (Nat.cast_nonneg n)
        gcongr
        exact zpow_le_one_of_nonpos₀ one_le_two (by decide)
      _ ≤ 2 ^ 60 := by norm_num
  have ⟨hr, hd⟩ := regular_div_ofNat hx hn hlt hl
  exact ⟨hr, .of_near_left (hnear.div (Nat.cast_nonneg n)) hd⟩

end Error

end ModuleDiscovery.Number
