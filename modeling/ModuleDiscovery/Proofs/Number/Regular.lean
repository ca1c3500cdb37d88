import Mathlib
import ModuleDiscovery.Proofs.Number.ExactArithmetic
import ModuleDiscovery.Proofs.Number.Nonnegative
import ModuleDiscovery.Proofs.Number.Rounding

namespace ModuleDiscovery.Number

open Float.Model UnpackedFloat

section Bits

variable {b : BitVec Format.binary64.numBits}

theorem toNat_one_append (f : BitVec 52) : (1#1 ++ f).toNat = 2 ^ 52 + f.toNat := by
  rw [BitVec.toNat_append, ← Nat.shiftLeft_add_eq_or_of_lt (BitVec.isLt _)]
  rfl

-- Below infinity, the exponent field tells whether the mantissa has a bit above the fraction.
theorem unpack_eq (h : unpackExponent b ≠ -1#_) :
    let s := Sign.ofBitVec (unpackSign b)
    let k := (unpackExponent b).toNat
    let f := (unpackMantissa b).toNat
    UnpackedFloat.unpack Format.binary64 b = .zero s ∨ ∃ m e hm,
      UnpackedFloat.unpack Format.binary64 b = .finite s m e hm ∧ m = (if k = 0 then f else 2 ^ 52 + f) ∧
        e = max (k : Int) 1 - 1075 := by
  intro s k f
  have hbias : ((Format.binary64.exponentBias : Int) + Format.binary64.mantissaBitsWithoutImplicit) = 1075 := rfl
  unfold UnpackedFloat.unpack
  dsimp only
  rw [if_neg h, hbias]
  split
  case isTrue h0 =>
    have h0 : k = 0 := congrArg BitVec.toNat h0
    split
    case isTrue  => exact .inl rfl
    case isFalse hf =>
      have hf : 0 < f := Nat.pos_of_ne_zero fun h => hf (BitVec.eq_of_toNat_eq h)
      exact .inr ⟨_, _, hf, rfl, rfl, by omega⟩
  case isFalse h0 =>
    have h0 : k ≠ 0 := fun h => h0 (BitVec.eq_of_toNat_eq h)
    have hm : (1#1 ++ unpackMantissa b).toNat = 2 ^ 52 + f := toNat_one_append _
    exact .inr ⟨_, _, hm ▸ by omega, rfl, hm.trans (if_neg h0).symm, by omega⟩

theorem isFinite_unpack (h : (UnpackedFloat.unpack Format.binary64 b).isFinite) : unpackExponent b ≠ -1#_ := by
  intro he
  unfold UnpackedFloat.unpack at h
  dsimp only at h
  rw [if_pos he] at h
  split at h <;> contradiction

theorem isRegular_unpack (hn : IsNonneg (UnpackedFloat.unpack Format.binary64 b)) (h : unpackExponent b ≠ -1#_) :
    IsRegular (UnpackedFloat.unpack Format.binary64 b) := by
  have hf : (unpackMantissa b).toNat < 2 ^ 52 := BitVec.isLt _
  rcases unpack_eq h with hu | ⟨m, e, hm, hu, hm', he⟩
  case inl => rw [hu]; trivial
  case inr =>
    rw [hu] at hn ⊢
    generalize Sign.ofBitVec (unpackSign b) = s at hn ⊢
    cases s
    case negative => contradiction
    case positive => split at hm' <;> exact ⟨by omega, by omega, by omega⟩

theorem mul_zpow_le_one {m k : Nat} {e : Int} (hm : m ≤ 2 ^ k) (he : e ≤ -k) : (m : Rat) * 2 ^ e ≤ 1 := by
  have hm : (m : Rat) ≤ 2 ^ (k : Int) := by exact_mod_cast hm
  calc (m : Rat) * 2 ^ e
    _ ≤ 2 ^ (k : Int) * 2 ^ (-k : Int) := by gcongr; exact one_le_two
    _ = 1                              := by rw [← zpow_add₀ two_ne_zero, Int.add_right_neg, zpow_zero]

-- The bits of numbers up to one have an exponent field below that of one, or are those of one.
theorem exactValue_unpack_le_one (hs : unpackSign b = 0#1) (h : (unpackExponent b).toNat < 1023 ∨
    (unpackExponent b).toNat = 1023 ∧ (unpackMantissa b).toNat = 0) :
    exactValue (UnpackedFloat.unpack Format.binary64 b) ≤ 1 := by
  have hp : Sign.ofBitVec (unpackSign b) = .positive := by rw [hs]; rfl
  have hf : (unpackMantissa b).toNat < 2 ^ 52 := BitVec.isLt _
  have hinf : unpackExponent b ≠ -1#_ := by
    intro h
    have : (unpackExponent b).toNat = 2047 := congrArg BitVec.toNat h
    omega
  rcases unpack_eq hinf with hu | ⟨m, e, hm, hu, hm', he⟩
  case inl => rw [hu, exactValue_zero]; exact zero_le_one
  case inr =>
    rw [hu, hp, exactValue_positive]
    split at hm'
    case isTrue  => exact mul_zpow_le_one (k := 52) (by omega) (by omega)
    case isFalse =>
      cases h
      case inl => exact mul_zpow_le_one (k := 53) (by omega) (by omega)
      case inr => exact mul_zpow_le_one (k := 52) (by omega) (by omega)

end Bits

section Order

variable {x y : Float}

theorem regular_iff : Regular x ↔ 0.0 ≤ x ∧ x.isFinite := by
  change IsRegular x.toModel.unpack ↔ _ ∧ x.toModel.unpack.isFinite
  rw [nonneg_iff]
  constructor
  case mp =>
    intro h
    match x.toModel.unpack, h with
    | .zero _, _              => exact ⟨trivial, rfl⟩
    | .finite .positive .., _ => exact ⟨trivial, rfl⟩
  case mpr => exact fun ⟨hn, hf⟩ => isRegular_unpack hn (isFinite_unpack hf)

-- Two of the numbers with all their bits in the mantissa are in the order of their exponents.
theorem mul_zpow_lt {m n : Nat} {e f : Int} (hm : m < 2 ^ 53) (hn : 2 ^ 52 ≤ n) (h : e < f) :
    (m : Rat) * 2 ^ e < n * 2 ^ f := by
  have hm : (m : Rat) < 2 ^ (53 : Int) := by exact_mod_cast hm
  have hn : (2 : Rat) ^ (52 : Int) ≤ n := by exact_mod_cast hn
  calc (m : Rat) * 2 ^ e
    _ < 2 ^ (53 : Int) * 2 ^ e   := by gcongr
    _ = 2 ^ (53 + e)             := (zpow_add₀ two_ne_zero ..).symm
    _ ≤ 2 ^ (52 + f)             := zpow_le_zpow_right₀ one_le_two (by omega)
    _ = 2 ^ (52 : Int) * 2 ^ f   := zpow_add₀ two_ne_zero ..
    _ ≤ n * 2 ^ f                := by gcongr

theorem rank?_le_iff {u v : UnpackedFloat} (hu : IsRegular u) (hv : IsRegular v) :
    (∃ r ∈ rank? u, ∃ s ∈ rank? v, r ≤ s) ↔ exactValue u ≤ exactValue v := by
  match u, v with
  | .zero _, .zero _ => simp [rank?]
  | .zero _, .finite .positive n f hn =>
    have : (0 : Rat) ≤ n * 2 ^ f := by positivity
    simp [rank?, Prod.Lex.toLex_le_toLex, exactValue_positive, this]
  | .finite .positive m e hm, .zero _ =>
    have : (0 : Rat) < m * 2 ^ e := by positivity
    simp [rank?, Prod.Lex.toLex_le_toLex, exactValue_positive, this]
  | .finite .positive m e hm, .finite .positive n f hn =>
    obtain ⟨hm53, he, hm52⟩ := hu
    obtain ⟨hn53, hf, hn52⟩ := hv
    simp only [rank?, Option.mem_some_iff, exists_eq_left', Prod.Lex.toLex_le_toLex, exactValue_positive]
    rcases lt_trichotomy e f with h | rfl | h
    case inl =>
      have := mul_zpow_lt hm53 (hn52.resolve_right (by omega)) h
      simp [h, this.le]
    case inr.inl =>
      have hp : (0 : Rat) < 2 ^ e := by positivity
      simp [mul_le_mul_iff_left₀ hp]
    case inr.inr =>
      have := mul_zpow_lt hn53 (hm52.resolve_right (by omega)) h
      simp [h.not_gt, h.ne', this]

-- The order of ranks compares the exponents first.
theorem float_le_iff_value_le (hx : Regular x) (hy : Regular y) : x ≤ y ↔ value x ≤ value y :=
  float_le_iff.trans (rank?_le_iff hx hy)

end Order

section Shares

variable {x : Float} {n d : Nat}

theorem regular_ofBits {k : Nat} (h : k ≤ 1023 * leadingBit) :
    Regular (Float.ofBits (UInt64.ofNat k)) ∧ value (Float.ofBits (UInt64.ofNat k)) ≤ 1 := by
  have hlt : k < 2047 * leadingBit := h.trans_lt (by decide)
  have he : (@unpackExponent Format.binary64 (UInt64.ofNat k).toBitVec).toNat = k / 2 ^ 52 % 2 ^ 11 := by
    change (UInt64.ofNat k).toBitVec.toNat >>> 52 % 2 ^ 11 = _
    rw [toNat_toBitVec hlt, Nat.shiftRight_eq_div_pow]
  have hm : (@unpackMantissa Format.binary64 (UInt64.ofNat k).toBitVec).toNat = k % 2 ^ 52 := by
    change (UInt64.ofNat k).toBitVec.toNat >>> 0 % 2 ^ 52 = _
    rw [toNat_toBitVec hlt, Nat.shiftRight_zero]
  simp only [leadingBit] at h
  have hn : @unpackExponent Format.binary64 (UInt64.ofNat k).toBitVec ≠ -1#_ := by
    intro h
    have : (@unpackExponent Format.binary64 (UInt64.ofNat k).toBitVec).toNat = 2047 := congrArg BitVec.toNat h
    omega
  have hr := isRegular_unpack (isNonneg_unpack (unpackSign_ofNat hlt) (absurd · hn)) hn
  have hv := exactValue_unpack_le_one (unpackSign_ofNat hlt) (by omega)
  unfold Regular value
  change IsRegular (pack (UnpackedFloat.unpack Format.binary64 _)).unpack ∧
    exactValue (pack (UnpackedFloat.unpack Format.binary64 _)).unpack ≤ 1
  rw [unpack_pack_of_isRegular hr (le_limit (hv.trans (by norm_num)))]
  exact ⟨hr, hv⟩

-- The exponent is that of the least number with fifty-three bits, or smaller by one at least.
theorem bits_le (hn : n ≠ 0) (h : n ≤ d) :
    roundDiv (scaled n d 2 (-mantissaExponent n d)).1 (scaled n d 2 (-mantissaExponent n d)).2 +
      (mantissaExponent n d + 1074).toNat * leadingBit ≤ 1023 * leadingBit := by
  have hd : 0 < d := by omega
  have hq : (n : Rat) / d ≤ 1 := (div_le_one₀ (by exact_mod_cast hd)).mpr (by exact_mod_cast h)
  have hle := mantissaExponent_le hn h
  simp only [leadingBit]
  by_cases he : mantissaExponent n d = -52
  case pos =>
    have hm : (n : Rat) / d * 2 ^ (-mantissaExponent n d) ≤ (2 ^ 52 : Nat) := by
      rw [he, Nat.cast_pow]
      exact mul_le_of_le_one_left (by positivity) hq
    have hr := roundDiv_scaled_le hd hm
    omega
  case neg =>
    have hr := roundDiv_scaled_le (k := 2 ^ 53) hd (by exact_mod_cast mantissa_le (n := n) hd)
    omega

theorem regular_floatOfQuotient (hn : n ≤ d) (h : floatOfQuotient false n d = some x) :
    Regular x ∧ value x ≤ 1 := by
  simp only [floatOfQuotient, Bool.false_eq_true, if_false, Nat.zero_add] at h
  split at h
  case isTrue =>
    cases h
    exact regular_ofBits (Nat.zero_le _)
  case isFalse h0 =>
    split at h
    case isTrue =>
      cases h
      exact regular_ofBits (bits_le h0 hn)
    case isFalse => contradiction

theorem regular_floatOfRatio {n d : Int} (h0 : 0 ≤ n) (hn : n ≤ d) (h : floatOfRatio n d = some x) :
    Regular x ∧ value x ≤ 1 := by
  have hs : ((n < 0) != (d < 0) : Bool) = false := by simp [h0.not_gt, (h0.trans hn).not_gt]
  rw [floatOfRatio, hs] at h
  exact regular_floatOfQuotient (by omega) h

end Shares

end ModuleDiscovery.Number
