import Mathlib.Tactic.Linarith
import ModuleDiscovery.Number.Binary

namespace ModuleDiscovery.Number

variable {n d : Nat}

theorem mantissaExponent_ge :
    -1074 ≤ mantissaExponent n d ∧ (n.log2 : Int) - d.log2 - 53 ≤ mantissaExponent n d := by
  simp only [mantissaExponent]
  split <;> omega

theorem mantissaExponent_le (hn : n ≠ 0) (h : n ≤ d) : mantissaExponent n d ≤ -52 := by
  have hd : d ≠ 0 := by omega
  have hl : n.log2 ≤ d.log2 := (Nat.le_log2 hd).mpr ((Nat.log2_self_le hn).trans h)
  simp only [mantissaExponent]
  split <;> omega

-- The exponent makes up for the difference in length, so that the quotient has no more than 54 bits.
theorem mul_pow_le (hd : d ≠ 0) {e : Nat} (he : n.log2 + e ≤ 53 + d.log2) :
    n * 2 ^ e ≤ 2 ^ 54 * d :=
  calc n * 2 ^ e
    _ ≤ 2 ^ (n.log2 + 1) * 2 ^ e := Nat.mul_le_mul_right _ Nat.lt_log2_self.le
    _ = 2 ^ (n.log2 + e + 1)     := by rw [← Nat.pow_add, Nat.add_right_comm]
    _ ≤ 2 ^ (54 + d.log2)        := Nat.pow_le_pow_right (by decide) (by omega)
    _ = 2 ^ 54 * 2 ^ d.log2      := Nat.pow_add ..
    _ ≤ 2 ^ 54 * d               := Nat.mul_le_mul_left _ (Nat.log2_self_le hd)

theorem roundDiv_le {b : Nat} (hd : 0 < d) (h : n ≤ b * d) : roundDiv n d ≤ b := by
  have hr := two_mul_roundDiv_mul_le (n := n) (d := d)
  by_contra hb
  have : (b + 1) * d ≤ roundDiv n d * d := Nat.mul_le_mul_right _ (by omega)
  rw [Nat.add_mul, Nat.one_mul] at this
  omega

theorem exists_floatOfQuotient (negative : Bool) (h : n ≤ d) (hd : 0 < d) :
    ∃ x, floatOfQuotient negative n d = some x := by
  by_cases hn : n = 0
  case pos => exact ⟨_, by rw [floatOfQuotient, if_pos hn]⟩
  case neg =>
    have ⟨hq, hl⟩ := mantissaExponent_ge (n := n) (d := d)
    have hu := mantissaExponent_le hn h
    have hs : scaled n d 2 (-mantissaExponent n d) = (n * 2 ^ (-mantissaExponent n d).toNat, d) :=
      if_pos (by omega)
    have hr : roundDiv (n * 2 ^ (-mantissaExponent n d).toNat) d ≤ 2 ^ 54 :=
      roundDiv_le hd <| mul_pow_le hd.ne' (by omega)
    simp only [floatOfQuotient, if_neg hn, hs]
    rw [if_pos]
    case hc =>
      have : (mantissaExponent n d + 1074).toNat ≤ 1022 := by omega
      simp only [leadingBit]
      omega
    exact ⟨_, rfl⟩

theorem exists_floatOfRatio {n d : Int} (hn : 0 ≤ n) (h : n ≤ d) (hd : 0 < d) :
    ∃ x, floatOfRatio n d = some x :=
  exists_floatOfQuotient _ (by omega) (by omega)

section Self

theorem roundDiv_mul_left (k : Nat) (hd : 0 < d) : roundDiv (d * k) d = k := by
  simp [roundDiv, Nat.mul_div_cancel_left k hd, hd]

-- With the leading bit as its mantissa, one has the exponent -52.
theorem mantissaExponent_self (n : Nat) : mantissaExponent n n = -52 := by
  have hl : (n.log2 : Int) - n.log2 - 53 = -53 := by omega
  have hs : scaled n n 2 53 = (n * 2 ^ 53, n) := if_pos (by decide)
  have hm : 2 * leadingBit * n ≤ n * 2 ^ 53 := by
    simp only [leadingBit]
    omega
  simp only [mantissaExponent, hl, Int.neg_neg, hs, if_pos hm]
  decide

theorem floatOfRatio_self {n : Int} (h : 0 < n) : floatOfRatio n n = some 1.0 := by
  have hn : n.natAbs ≠ 0 := by omega
  have hs : scaled n.natAbs n.natAbs 2 52 = (n.natAbs * 2 ^ 52, n.natAbs) := if_pos (by decide)
  have hr : roundDiv (n.natAbs * 2 ^ 52) n.natAbs = 2 ^ 52 := roundDiv_mul_left _ (by omega)
  simp only [floatOfRatio, floatOfQuotient, if_neg hn, mantissaExponent_self, Int.neg_neg, hs, hr]
  rw [if_pos (by decide), bne_self_eq_false]
  rfl

theorem floatOfRatio_zero {n : Int} (h : 0 ≤ n) : floatOfRatio 0 n = some 0.0 := by
  have hn : decide (n < 0) = false := decide_eq_false (by omega)
  simp only [floatOfRatio, floatOfQuotient, Int.natAbs_zero, if_true, hn]
  rfl

end Self

end ModuleDiscovery.Number
