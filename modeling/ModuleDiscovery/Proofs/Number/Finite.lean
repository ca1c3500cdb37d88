import ModuleDiscovery.Proofs.Number.FloatOrder
import ModuleDiscovery.Proofs.Number.Normal
import ModuleDiscovery.Proofs.Number.Rounding

namespace ModuleDiscovery.Number

open Float.Model

section Comparison

variable {x y : Float}

theorem isFinite_dite {p : Prop} [Decidable p] {a : p → UnpackedFloat} {b : ¬p → UnpackedFloat}
    (ha : ∀ h, (a h).isFinite) (hb : ∀ h, (b h).isFinite) : (if h : p then a h else b h).isFinite := by
  split
  case isTrue h  => exact ha h
  case isFalse h => exact hb h

theorem isFinite_of_ofFloat {negative : Bool} {m : Nat} {q : Int} (h : Binary.ofFloat x = .finite negative m q) :
    x.isFinite := by
  have he : x.toBits.toNat / leadingBit % 2048 ≠ 2047 := by
    intro he
    simp only [Binary.ofFloat, he, if_true] at h
    split at h <;> contradiction
  have hv : @UnpackedFloat.unpackExponent Format.binary64 x.toModel.toBits.toBitVec ≠ -1#11 := unpackExponent_ne he
  change x.toModel.unpack.isFinite
  unfold Float.Model.unpack UnpackedFloat.unpack
  dsimp only
  rw [if_neg hv]
  exact isFinite_dite (fun _ => isFinite_dite (fun _ => rfl) fun _ => rfl) fun _ => rfl

theorem rank_ne_bot_of_isFinite (h : x.isFinite) : rank x ≠ ⊥ := by
  change x.toModel.unpack.isFinite at h
  unfold rank
  generalize x.toModel.unpack = u at h
  rcases u with ⟨_ | _⟩ | _ | ⟨_ | _⟩ | ⟨_ | _, _, _, _⟩
  case notANumber => contradiction
  all_goals exact WithBot.coe_ne_bot

theorem float_le_of_not_lt (hx : x.isFinite) (hy : y.isFinite) (h : ¬x < y) : y ≤ x := by
  rw [float_lt_iff_rank_lt (rank_ne_bot_of_isFinite hx), not_lt] at h
  exact (float_le_iff_rank_le (rank_ne_bot_of_isFinite hy)).mpr h

end Comparison

section Integers

variable {n : Nat}

-- The least integer that is too large for a double: halfway between the greatest one and the next power of two.
def tooLarge : Nat := 2 ^ 1024 - 2 ^ 970

theorem tooLarge_eq : tooLarge = (2 ^ 54 - 1) * 2 ^ 970 := by
  rw [tooLarge, Nat.sub_mul, ← Nat.pow_add, Nat.one_mul]

theorem scaled_neg (k : Nat) : scaled n 1 2 (-(k : Int)) = (n, 2 ^ k) := by
  cases k
  case zero   => simp [scaled]
  case succ k =>
    have hk : ¬(0 : Int) ≤ -(k + 1 : Nat) := by omega
    rw [scaled, if_neg hk, Int.neg_neg, Int.toNat_natCast, Nat.one_mul]
    rfl

theorem mantissaExponent_one {k : Nat} (h : n.log2 = 53 + k) : mantissaExponent n 1 = k + 1 := by
  have hn : n ≠ 0 := by
    rintro rfl
    rw [Nat.log2_zero] at h
    omega
  have hl : ((53 + k : Nat) : Int) - (1 : Nat).log2 - 53 = k := by
    have : (1 : Nat).log2 = 0 := by decide
    omega
  have hm : 2 * leadingBit * 2 ^ k ≤ n :=
    calc 2 * leadingBit * 2 ^ k
      _ = 2 ^ (53 + k) := by rw [Nat.pow_add]; rfl
      _ ≤ n            := h ▸ Nat.log2_self_le hn
  simp only [mantissaExponent, h, hl, scaled_neg, if_pos hm]
  omega

-- What is at least halfway is rounded up, as the greatest mantissa is odd.
theorem roundDiv_two_mul {h : Nat} (hh : 0 < h) : 2 ^ 53 ≤ roundDiv n (2 * h) ↔ (2 ^ 54 - 1) * h ≤ n := by
  have hd : 0 < 2 * h := Nat.mul_pos Nat.two_pos hh
  constructor
  case mp =>
    intro hr
    have hle := two_mul_roundDiv_mul_le (n := n) (d := 2 * h)
    have hm : 2 ^ 53 * (2 * h) ≤ roundDiv n (2 * h) * (2 * h) := Nat.mul_le_mul_right _ hr
    omega
  case mpr =>
    intro hn
    by_cases he : n = (2 ^ 54 - 1) * h
    case pos =>
      have hnd : n = 2 * h * (2 ^ 53 - 1) + h := by omega
      have hdiv : n / (2 * h) = 2 ^ 53 - 1 := by
        rw [hnd, Nat.mul_add_div hd, Nat.div_eq_of_lt (by omega), Nat.add_zero]
      have hmod : n % (2 * h) = h := by
        rw [hnd, Nat.mul_add_mod, Nat.mod_eq_of_lt (by omega)]
      simp [roundDiv, hdiv, hmod]
    case neg =>
      have hle := le_two_mul_roundDiv_mul (n := n) hd
      by_contra hr
      have hm : roundDiv n (2 * h) * (2 * h) ≤ (2 ^ 53 - 1) * (2 * h) := Nat.mul_le_mul_right _ (by omega)
      omega

theorem pow_le_roundDiv {d : Nat} (hd : 0 < d) (h : 2 ^ 52 * d ≤ n) : 2 ^ 52 ≤ roundDiv n d := by
  have hle := le_two_mul_roundDiv_mul (n := n) hd
  by_contra hr
  have hm : roundDiv n d * d ≤ (2 ^ 52 - 1) * d := Nat.mul_le_mul_right _ (by omega)
  omega

-- The bits of a large integer, which have to stay below those of infinity.
theorem floatOfQuotient_one (negative : Bool) {k : Nat} (h : n.log2 = 1023 + k) :
    floatOfQuotient negative n 1 = none ↔ 2 * leadingBit ≤ roundDiv n (2 ^ (971 + k)) + k * leadingBit := by
  have hn : n ≠ 0 := by
    rintro rfl
    rw [Nat.log2_zero] at h
    omega
  have hq : mantissaExponent n 1 = (971 + k : Nat) := by
    rw [mantissaExponent_one (k := 970 + k) (by omega)]
    omega
  have hb : roundDiv n (2 ^ (971 + k)) + ((971 + k : Nat) + 1074 : Int).toNat * leadingBit < 2047 * leadingBit ↔
      ¬2 * leadingBit ≤ roundDiv n (2 ^ (971 + k)) + k * leadingBit := by
    have ht : ((971 + k : Nat) + 1074 : Int).toNat = 2045 + k := by omega
    rw [ht, Nat.add_mul]
    omega
  simp only [floatOfQuotient, if_neg hn, hq, scaled_neg, hb]
  split
  case isTrue ht  => simp [ht]
  case isFalse ht => simpa using ht

theorem floatOfQuotient_eq_none (negative : Bool) {k : Nat} (h : n.log2 = 1023 + k) :
    floatOfQuotient negative n 1 = none ↔ tooLarge ≤ n := by
  have hn : n ≠ 0 := by
    rintro rfl
    rw [Nat.log2_zero] at h
    omega
  rw [floatOfQuotient_one negative h]
  cases k
  case zero =>
    have hr : 2 ^ 53 ≤ roundDiv n (2 * 2 ^ 970) ↔ (2 ^ 54 - 1) * 2 ^ 970 ≤ n := roundDiv_two_mul (by positivity)
    have hp : 2 ^ (971 + 0) = 2 * 2 ^ 970 := by rw [← Nat.pow_succ']
    rw [tooLarge_eq, ← hr, hp, Nat.zero_mul, Nat.add_zero]
    exact Iff.rfl
  case succ k =>
    have hp : 2 ^ 52 * 2 ^ (971 + (k + 1)) ≤ n := by
      rw [← Nat.pow_add]
      exact (Nat.pow_le_pow_right Nat.two_pos (by omega)).trans (Nat.log2_self_le hn)
    have hr := pow_le_roundDiv (Nat.pow_pos Nat.two_pos) hp
    have ht : tooLarge ≤ n :=
      calc tooLarge
        _ ≤ 2 ^ 1024                       := Nat.sub_le ..
        _ ≤ 2 ^ (52 + (971 + (k + 1)))     := pow_le_pow_right₀ one_le_two (by omega)
        _ = 2 ^ 52 * 2 ^ (971 + (k + 1))   := pow_add ..
        _ ≤ n                              := hp
    refine iff_of_true ?_ ht
    rw [Nat.add_mul]
    simp only [leadingBit]
    omega

-- An integer that is too large is as far as infinity from the greatest double, or farther.
theorem floatOfInt_eq_none {n : Int} : floatOfInt n = none ↔ tooLarge ≤ n.natAbs := by
  unfold floatOfInt
  generalize n.natAbs = m
  by_cases hl : 1023 ≤ m.log2
  case pos =>
    have ⟨k, hk⟩ := Nat.exists_eq_add_of_le hl
    exact floatOfQuotient_eq_none _ hk
  case neg =>
    have hm : m < 2 ^ 53 * 2 ^ 970 :=
      calc m
        _ < 2 ^ (m.log2 + 1) := Nat.lt_log2_self
        _ ≤ 2 ^ (53 + 970)   := pow_le_pow_right₀ one_le_two (by omega)
        _ = 2 ^ 53 * 2 ^ 970 := pow_add ..
    have hg : greatest = (2 ^ 53 - 1) * (2 * 2 ^ 970) := by rw [greatest, ← Nat.pow_succ']
    have ht := tooLarge_eq
    generalize 2 ^ 970 = p at hm hg ht
    obtain ⟨x, hx⟩ := exists_floatOfQuotient_of_le (n < 0) Nat.one_pos (n := m) (by omega)
    exact iff_of_false (by simp [hx]) (by omega)

end Integers
end ModuleDiscovery.Number
