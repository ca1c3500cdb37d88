import Mathlib.Algebra.Order.Field.Power
import Mathlib.Algebra.Order.Field.Rat
import Mathlib.Tactic.NormNum
import Mathlib.Tactic.Ring
import ModuleDiscovery.Number.Layout
import ModuleDiscovery.Proofs.Number.Quotient

namespace ModuleDiscovery.Number

variable {n d b m : Nat} {e q : Int}

-- The greatest finite double.
def greatest : Nat := (2 ^ 53 - 1) * 2 ^ 971

section Scaled

theorem scaled_snd_pos (hd : 0 < d) (hb : 0 < b) : 0 < (scaled n d b e).2 := by
  unfold scaled
  split
  case isTrue  => exact hd
  case isFalse => exact Nat.mul_pos hd (Nat.pow_pos hb)

theorem scaled_quotient : ((scaled n d b e).1 : Rat) / (scaled n d b e).2 = n / d * (b : Rat) ^ e := by
  unfold scaled
  split
  case isTrue h =>
    obtain ⟨k, rfl⟩ := Int.eq_ofNat_of_zero_le h
    simp only [Int.toNat_natCast, zpow_natCast, Nat.pow_eq, Nat.cast_mul, Nat.cast_pow, mul_div_right_comm]
  case isFalse h =>
    obtain ⟨k, rfl⟩ : ∃ k : Nat, e = -k := ⟨(-e).toNat, by omega⟩
    simp only [neg_neg, Int.toNat_natCast, zpow_neg, zpow_natCast, Nat.pow_eq, Nat.cast_mul, Nat.cast_pow,
      div_mul_eq_div_div, ← div_eq_mul_inv]

end Scaled

section Mantissa

-- The lengths of two numbers in bits tell their quotient up to a factor of two.
theorem quotient_lt_pow (hd : d ≠ 0) : (n : Rat) / d < 2 ^ ((n.log2 : Int) - d.log2 + 1) := by
  have hn : (n : Rat) < 2 ^ (n.log2 + 1) := by exact_mod_cast Nat.lt_log2_self
  have hl : (2 : Rat) ^ d.log2 ≤ d := by exact_mod_cast Nat.log2_self_le hd
  calc (n : Rat) / d
    _ < 2 ^ (n.log2 + 1) / d            := by gcongr
    _ ≤ 2 ^ (n.log2 + 1) / 2 ^ d.log2   := by gcongr
    _ = 2 ^ ((n.log2 : Int) - d.log2 + 1) := by
      rw [← zpow_natCast, ← zpow_natCast, ← zpow_sub₀ two_ne_zero]
      congr 1
      push_cast
      ring

theorem pow_lt_quotient (hn : n ≠ 0) (hd : d ≠ 0) :
    (2 : Rat) ^ ((n.log2 : Int) - d.log2 - 1) < n / d := by
  have hl : (2 : Rat) ^ n.log2 ≤ n := by exact_mod_cast Nat.log2_self_le hn
  have hu : (d : Rat) < 2 ^ (d.log2 + 1) := by exact_mod_cast Nat.lt_log2_self
  have hd' : (0 : Rat) < d := by exact_mod_cast Nat.pos_of_ne_zero hd
  calc (2 : Rat) ^ ((n.log2 : Int) - d.log2 - 1)
    _ = 2 ^ n.log2 / 2 ^ (d.log2 + 1) := by
      rw [← zpow_natCast, ← zpow_natCast, ← zpow_sub₀ two_ne_zero]
      congr 1
      push_cast
      ring
    _ < 2 ^ n.log2 / d := by gcongr
    _ ≤ n / d          := by gcongr

-- The exponent is one of two, of which the lower one is taken only where fifty-three bits are enough.
theorem mantissaExponent_cases (hd : 0 < d) :
    let low : Int := n.log2 - d.log2 - 53
    let q := mantissaExponent n d
    low + 1 ≤ q ∨ q = low ∧ (n : Rat) / d * 2 ^ (-q) < 2 ^ 53 := by
  intro low q
  have hq : q = max (-1074)
      (if 2 * leadingBit * (scaled n d 2 (-low)).2 ≤ (scaled n d 2 (-low)).1 then low + 1 else low) := rfl
  split at hq
  case isTrue  => exact .inl (hq ▸ Int.le_max_right ..)
  case isFalse h =>
    by_cases hl : q = low
    case neg => exact .inl (by omega)
    case pos =>
      have hs : (0 : Rat) < (scaled n d 2 (-low)).2 := Nat.cast_pos.mpr (scaled_snd_pos hd (by decide))
      refine .inr ⟨hl, ?_⟩
      rw [hl, ← Nat.cast_ofNat (n := 2), ← scaled_quotient, div_lt_iff₀ hs]
      exact_mod_cast Nat.not_le.mp h

-- A mantissa has at most fifty-three bits before it is rounded.
theorem mantissa_le (hd : 0 < d) : (n : Rat) / d * 2 ^ (-mantissaExponent n d) ≤ 2 ^ 53 := by
  cases mantissaExponent_cases (n := n) hd
  case inr h => exact h.2.le
  case inl h =>
    have hq := quotient_lt_pow (n := n) hd.ne'
    calc (n : Rat) / d * 2 ^ (-mantissaExponent n d)
      _ ≤ 2 ^ ((n.log2 : Int) - d.log2 + 1) * 2 ^ (-mantissaExponent n d) := by gcongr
      _ = 2 ^ ((n.log2 : Int) - d.log2 + 1 - mantissaExponent n d) := by
        rw [← zpow_add₀ two_ne_zero, sub_eq_add_neg _ (mantissaExponent n d)]
      _ ≤ 2 ^ (53 : Int) := zpow_le_zpow_right₀ one_le_two (by omega)
      _ = 2 ^ 53 := rfl

theorem mantissaExponent_le_greatest (hn : n ≠ 0) (hd : 0 < d) (h : (n : Rat) / d < 2 ^ 1024) :
    mantissaExponent n d ≤ 971 := by
  have hl := (pow_lt_quotient hn hd.ne').trans h
  rw [← zpow_natCast, zpow_lt_zpow_iff_right₀ one_lt_two] at hl
  set low : Int := n.log2 - d.log2 - 53 with hlow
  have hq : mantissaExponent n d = max (-1074)
      (if 2 * leadingBit * (scaled n d 2 (-low)).2 ≤ (scaled n d 2 (-low)).1 then low + 1 else low) := rfl
  split at hq
  case isFalse => omega
  case isTrue hs =>
    have hp : (0 : Rat) < (scaled n d 2 (-low)).2 := Nat.cast_pos.mpr (scaled_snd_pos hd (by decide))
    have hm : (2 : Rat) ^ (53 : Int) ≤ n / d * 2 ^ (-low) := by
      rw [← Nat.cast_ofNat (n := 2), ← scaled_quotient, le_div_iff₀ hp]
      exact_mod_cast hs
    have hlt : (2 : Rat) ^ (53 : Int) < 2 ^ (1024 + -low) := by
      rw [zpow_add₀ two_ne_zero]
      exact hm.trans_lt (by gcongr; exact h)
    rw [zpow_lt_zpow_iff_right₀ one_lt_two] at hlt
    omega

theorem roundDiv_scaled_le (hd : 0 < d) {k : Nat} (h : (n : Rat) / d * 2 ^ e ≤ k) :
    roundDiv (scaled n d 2 e).1 (scaled n d 2 e).2 ≤ k := by
  have hp : 0 < (scaled n d 2 e).2 := scaled_snd_pos hd (by decide)
  refine roundDiv_le hp ?_
  rw [← Nat.cast_ofNat (n := 2), ← scaled_quotient, div_le_iff₀ (Nat.cast_pos.mpr hp)] at h
  exact_mod_cast h

-- Only with the greatest exponent may the mantissa not be rounded up to the next power of two.
theorem exists_floatOfQuotient_of_le (negative : Bool) (hd : 0 < d) (h : n ≤ greatest * d) :
    ∃ x, floatOfQuotient negative n d = some x := by
  by_cases hn : n = 0
  case pos => exact ⟨_, by rw [floatOfQuotient, if_pos hn]⟩
  case neg =>
    have hle : (n : Rat) / d ≤ (2 ^ 53 - 1 : Nat) * 2 ^ 971 := by
      rw [div_le_iff₀ (Nat.cast_pos.mpr hd)]
      exact_mod_cast h
    have hlt : (n : Rat) / d < 2 ^ 1024 :=
      calc (n : Rat) / d
        _ ≤ (2 ^ 53 - 1 : Nat) * 2 ^ 971 := hle
        _ < 2 ^ 53 * 2 ^ 971             := by gcongr; norm_num
        _ = 2 ^ 1024                     := (pow_add ..).symm
    have hq := mantissaExponent_le_greatest hn hd hlt
    have hr := roundDiv_scaled_le (k := 2 ^ 53) hd (by exact_mod_cast mantissa_le (n := n) hd)
    have hr' : mantissaExponent n d = 971 →
        roundDiv (scaled n d 2 (-mantissaExponent n d)).1 (scaled n d 2 (-mantissaExponent n d)).2 ≤
          2 ^ 53 - 1 := by
      intro he
      have hp : (2 : Rat) ^ 971 * 2 ^ (-971 : Int) = 1 := by
        rw [zpow_neg]
        exact mul_inv_cancel₀ (by positivity)
      rw [he]
      refine roundDiv_scaled_le hd ?_
      calc (n : Rat) / d * 2 ^ (-971 : Int)
        _ ≤ (2 ^ 53 - 1 : Nat) * 2 ^ 971 * 2 ^ (-971 : Int) := by gcongr
        _ = (2 ^ 53 - 1 : Nat)                              := by rw [mul_assoc, hp, mul_one]
    simp only [floatOfQuotient, if_neg hn]
    rw [if_pos]
    case hc =>
      simp only [leadingBit]
      by_cases he : mantissaExponent n d = 971
      case pos =>
        have := hr' he
        omega
      case neg => omega
    exact ⟨_, rfl⟩

end Mantissa

section Places

theorem ofFloat_bounds {x : Float} {negative : Bool} (h : Binary.ofFloat x = .finite negative m q) :
    m ≤ 2 ^ 53 - 1 ∧ q ≤ 971 := by
  have hf : x.toBits.toNat % leadingBit < leadingBit := Nat.mod_lt _ (by decide)
  have he : x.toBits.toNat / leadingBit % 2048 < 2048 := Nat.mod_lt _ (by decide)
  have hl : leadingBit = 2 ^ 52 := rfl
  simp only [Binary.ofFloat] at h
  split at h
  case isTrue => split at h <;> contradiction
  case isFalse =>
    split at h
    case isTrue =>
      injection h
      omega
    case isFalse =>
      injection h
      omega

theorem le_greatest (h : m ≤ 2 ^ 53 - 1) : m ≤ greatest := by
  unfold greatest
  exact h.trans (Nat.le_mul_of_pos_right _ (pow_pos two_pos 971))

-- An integer is a multiple of every place. A double with places of its own is far below the greatest one.
theorem multiplesOf_le {p : Nat} (hm : m ≤ 2 ^ 53 - 1) (hq : q ≤ 971) :
    multiplesOf (-p) m q ≤ greatest * 10 ^ p := by
  unfold multiplesOf
  rw [neg_neg]
  by_cases h : 0 ≤ q
  case pos =>
    have hk : q.toNat ≤ 971 := by omega
    have hp : 2 ^ q.toNat ≤ 2 ^ 971 := pow_le_pow_right₀ one_le_two hk
    simp only [scaled, if_pos h, if_pos (Int.natCast_nonneg p), roundDiv_one, Int.toNat_natCast]
    unfold greatest
    exact Nat.mul_le_mul_right _ (Nat.mul_le_mul hm hp)
  case neg =>
    have hp : 0 < 1 * Nat.pow 2 (-q).toNat := Nat.mul_pos (by decide) (Nat.pow_pos (by decide))
    simp only [scaled, if_neg h, if_pos (Int.natCast_nonneg p), Int.toNat_natCast]
    exact (roundDiv_le hp (Nat.le_mul_of_pos_right _ hp)).trans (Nat.mul_le_mul_right _ (le_greatest hm))

-- Places are taken back by a division, of which none is left where there are no places.
theorem scaled_neg_le {p k : Nat} (h : n ≤ k * 10 ^ p) :
    (scaled n 1 10 (-p)).1 ≤ k * (scaled n 1 10 (-p)).2 := by
  cases p
  case zero   => simpa [scaled] using h
  case succ p =>
    have hs : ¬(0 : Int) ≤ -(p + 1 : Nat) := by omega
    simp only [scaled, if_neg hs, neg_neg, Int.toNat_natCast, one_mul]
    exact h

theorem exists_roundToPlaces? (x : Float) (p : Nat) : ∃ y, roundToPlaces? x p = some y := by
  unfold roundToPlaces?
  split
  case h_1 => exact ⟨_, rfl⟩
  case h_2 => exact ⟨_, rfl⟩
  case h_3 negative m q hx =>
    split
    case isTrue => exact ⟨_, rfl⟩
    case isFalse =>
      have ⟨hm, hq⟩ := ofFloat_bounds hx
      have hs : 0 < (scaled (multiplesOf (-p) m q) 1 10 (-p)).2 := scaled_snd_pos (by decide) (by decide)
      rw [if_neg (by omega)]
      exact exists_floatOfQuotient_of_le negative hs (scaled_neg_le (multiplesOf_le hm hq))

end Places

end ModuleDiscovery.Number
