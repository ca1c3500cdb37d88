import Mathlib
import ModuleDiscovery.Proofs.Number.Value

namespace ModuleDiscovery.Number

open Float.Model UnpackedFloat

-- Numbers up to this one are no doubles that overflow.
def limit : Rat :=
  2 ^ (1023 : Int)

theorem le_limit {q : Rat} (h : q ≤ 2 ^ 60) : q ≤ limit :=
  h.trans (zpow_le_zpow_right₀ (m := (60 : Nat)) one_le_two (by decide))

section Packing

variable {u : UnpackedFloat} {m : Nat} {e : Int}

@[simp]
theorem exactValue_zero {s : Sign} : exactValue (.zero s) = 0 := rfl

theorem exactValue_positive {hm : 0 < m} : exactValue (.finite .positive m e hm) = m * 2 ^ e := rfl

theorem exactValue_nonneg (h : IsRegular u) : 0 ≤ exactValue u := by
  match u with
  | .zero _ => exact le_rfl
  | .finite .positive m e _ =>
    rw [exactValue_positive]
    positivity

-- A double below the normal ones has the exponent field zero.
theorem unpack_pack_of_lt (hm : 0 < m) (h : m < 2 ^ 52) :
    (pack (.finite .positive m (-1074) hm)).unpack = .finite .positive m (-1074) hm := by
  have hl : m.log2 < 52 := (Nat.log2_lt hm.ne').mpr h
  have hz : BitVec.ofNat 52 m ≠ 0#52 := by
    intro hz
    have : m % 2 ^ 52 = 0 := congrArg BitVec.toNat hz
    omega
  change UnpackedFloat.unpack Format.binary64 (UnpackedFloat.pack Format.binary64 _) = _
  unfold UnpackedFloat.pack
  dsimp only
  rw [if_neg (by decide), if_neg (by simp [Format.mantissaBits]; omega)]
  unfold UnpackedFloat.unpack
  simp only [unpackMantissa_packComponents, unpackExponent_packComponents, unpackSign_packComponents]
  rw [if_neg (by decide), if_pos trivial, dif_neg hz]
  congr 1
  exact Nat.mod_eq_of_lt h

theorem exponent_le (hm : 2 ^ 52 ≤ m) (h : m * 2 ^ e ≤ limit) : e ≤ 971 := by
  have hm : (2 : Rat) ^ (52 : Int) ≤ m := by exact_mod_cast hm
  have h : (2 : Rat) ^ (52 + e) ≤ 2 ^ (1023 : Int) :=
    calc (2 : Rat) ^ (52 + e)
      _ = 2 ^ (52 : Int) * 2 ^ e := zpow_add₀ two_ne_zero ..
      _ ≤ m * 2 ^ e              := by gcongr
      _ ≤ 2 ^ (1023 : Int)       := h
  rw [zpow_le_zpow_iff_right₀ one_lt_two] at h
  omega

theorem unpack_pack_of_isRegular (h : IsRegular u) (hu : exactValue u ≤ limit) : (pack u).unpack = u := by
  revert hu
  match u with
  | .zero s => exact fun _ => unpack_packedZero
  | .finite .positive m e hm =>
    intro hu
    obtain ⟨hlt, he, hl⟩ := h
    by_cases hm' : 2 ^ 52 ≤ m
    case pos => exact unpack_pack hm hm' hlt he (exponent_le hm' hu)
    case neg =>
      obtain rfl : e = -1074 := by omega
      exact unpack_pack_of_lt hm (by omega)

end Packing

section Unpacked

variable {u v : UnpackedFloat}

theorem add_positive {m n i j : Nat} {e f : Int} {hm : 0 < m} {hn : 0 < n} (hi : (e - min e f).toNat = i)
    (hj : (f - min e f).toNat = j) :
    UnpackedFloat.add Format.binary64 (.finite .positive m e hm) (.finite .positive n f hn) =
      UnpackedFloat.round Format.binary64 .positive (m <<< i + n <<< j) (min e f) := by
  have hpos : 0 < m <<< i + n <<< j := by
    rw [Nat.shiftLeft_eq]
    positivity
  unfold UnpackedFloat.add
  simp only [decreaseExponent, hi, hj, Sign.apply, ← Nat.cast_add]
  rw [UnpackedFloat.normalize, Int.compare_eq_gt.mpr (by omega), Int.toNat_natCast]

-- The sum is rounded once.
theorem add_spec (hu : IsRegular u) (hv : IsRegular v) :
    IsRegular (UnpackedFloat.add Format.binary64 u v) ∧
      Near 1 (exactValue u + exactValue v) (exactValue (UnpackedFloat.add Format.binary64 u v)) := by
  have hu' := exactValue_nonneg hu
  have hv' := exactValue_nonneg hv
  match u, v with
  | .zero s, .zero t =>
    have : UnpackedFloat.add Format.binary64 (.zero s) (.zero t) = .zero (if s == t then s else .positive) := by
      cases s <;> cases t <;> rfl
    rw [this, exactValue_zero, exactValue_zero, exactValue_zero, add_zero]
    exact ⟨trivial, Near.refl 1 le_rfl⟩
  | .zero _, .finite .positive .. =>
    refine ⟨hv, ?_⟩
    rw [exactValue_zero, zero_add]
    exact Near.refl 1 hv'
  | .finite .positive .., .zero _ =>
    refine ⟨hu, ?_⟩
    rw [exactValue_zero, add_zero]
    exact Near.refl 1 hu'
  | .finite .positive m e _, .finite .positive n f _ =>
    have ⟨_, he, _⟩ := hu
    have ⟨_, hf, _⟩ := hv
    obtain ⟨i, hi⟩ := Int.eq_ofNat_of_zero_le (Int.sub_nonneg_of_le (min_le_left e f))
    obtain ⟨j, hj⟩ := Int.eq_ofNat_of_zero_le (Int.sub_nonneg_of_le (min_le_right e f))
    have hne : m <<< i + n <<< j ≠ 0 := by
      rw [Nat.shiftLeft_eq]
      positivity
    have hv : (m * 2 ^ e + n * 2 ^ f : Rat) = (m <<< i + n <<< j : Nat) * 2 ^ min e f := by
      rw [Nat.cast_add, add_mul, ← cast_shiftLeft_mul (k := i), ← cast_shiftLeft_mul (m := n) (k := j)]
      congr 3 <;> omega
    rw [add_positive (i := i) (j := j) (by omega) (by omega), exactValue_positive, exactValue_positive, hv]
    exact ⟨isRegular_round hne, near_round hne (by omega)⟩

section Quotients

variable {m n s : Nat} {e f : Int} {x y : Rat}

-- The least double above zero, by which a quotient can miss if it is too small for all fifty-three bits.
def least : Rat :=
  2 ^ (-1074 : Int)

-- Equal up to the errors of some roundings, the last of which may be one of a number below the normal doubles.
def NearLeast (k : Nat) (x y : Rat) : Prop :=
  y ≤ errorFactor k * x + least ∧ x ≤ errorFactor k * (y + least)

theorem pow_le_shiftLeft_div (hm : m ≠ 0) (hn : 0 < n) (h : 53 + n.log2 ≤ m.log2 + s) : 2 ^ 52 ≤ (m <<< s) / n := by
  rw [Nat.le_div_iff_mul_le hn, Nat.shiftLeft_eq]
  calc 2 ^ 52 * n
    _ ≤ 2 ^ 52 * 2 ^ (n.log2 + 1) := Nat.mul_le_mul_left _ Nat.lt_log2_self.le
    _ = 2 ^ (53 + n.log2)         := by rw [← Nat.pow_add]; congr 1; omega
    _ ≤ 2 ^ (m.log2 + s)          := Nat.pow_le_pow_right two_pos h
    _ = 2 ^ m.log2 * 2 ^ s        := Nat.pow_add ..
    _ ≤ m * 2 ^ s                 := Nat.mul_le_mul_right _ (Nat.log2_self_le hm)

theorem least_nonneg : 0 ≤ least := by
  unfold least
  positivity

theorem NearLeast.of_near {k : Nat} (h : Near k x y) : NearLeast k x y :=
  have hy : y ≤ y + least := le_add_of_nonneg_right least_nonneg
  ⟨h.1.trans (le_add_of_nonneg_right least_nonneg), h.2.trans (mul_le_mul_of_nonneg_left hy (errorFactor_nonneg k))⟩

theorem NearLeast.of_near_left {k l : Nat} {z : Rat} (h : Near k x y) (h' : NearLeast l y z) :
    NearLeast (k + l) x z := by
  have hk := errorFactor_nonneg k
  have hl := errorFactor_nonneg l
  constructor
  case left =>
    calc z
      _ ≤ errorFactor l * y + least                   := h'.1
      _ ≤ errorFactor l * (errorFactor k * x) + least := by gcongr; exact h.1
      _ = errorFactor (k + l) * x + least             := by rw [errorFactor_add]; ring
  case right =>
    calc x
      _ ≤ errorFactor k * y                           := h.2
      _ ≤ errorFactor k * (errorFactor l * (z + least)) := by gcongr; exact h'.2
      _ = errorFactor (k + l) * (z + least)           := by rw [errorFactor_add]; ring

-- The errors of few roundings add up.
theorem NearLeast.abs_sub_le {k : Nat} (h : NearLeast k x y) (hk : k ≤ 2 ^ 51) (hx : 0 ≤ x) (hy : 0 ≤ y) :
    |y - x| ≤ 2 * k * roundoff * x + least := by
  have hf := errorFactor_le hk
  have hd : 0 ≤ 2 * k * roundoff := by
    unfold roundoff
    positivity
  have hz : 0 ≤ y + least := add_nonneg hy least_nonneg
  have hl := h.1.trans (add_le_add_left (mul_le_mul_of_nonneg_right hf hx) least)
  have hr := h.2.trans (mul_le_mul_of_nonneg_right hf hz)
  rw [add_mul, one_mul] at hl hr
  refine abs_sub_le_iff.mpr ⟨by linarith, ?_⟩
  -- Only a number above the double has an error on this side, which is then the smaller one for the double.
  by_cases hle : x ≤ y + least
  case pos =>
    have : 0 ≤ 2 * k * roundoff * x := mul_nonneg hd hx
    linarith
  case neg =>
    have : 2 * k * roundoff * (y + least) ≤ 2 * k * roundoff * x := mul_le_mul_of_nonneg_left (not_le.mp hle).le hd
    linarith

theorem nearLeast_of_between {k q : Nat} (hx : q * least ≤ x ∧ x ≤ (q + 1) * least)
    (hy : q * least ≤ y ∧ y ≤ (q + 1) * least) : NearLeast k x y := by
  have hp : 0 ≤ q * least := mul_nonneg (Nat.cast_nonneg q) least_nonneg
  have hf {z : Rat} (hz : 0 ≤ z) : z ≤ errorFactor k * z := le_mul_of_one_le_left hz (one_le_errorFactor k)
  have hfx := hf (hp.trans hx.1)
  have hfy := hf (add_nonneg (hp.trans hy.1) least_nonneg)
  constructor <;> linarith

-- If not all fifty-three bits can be kept, the number ends at the least double.
theorem nearLeast_roundWithAccuracy (a : Accuracy) (he : e ≤ lastPlace m e) (hx : m * 2 ^ e ≤ x ∧ x ≤ (m + 1) * 2 ^ e) :
    NearLeast 1 x (exactValue (roundWithAccuracy Format.binary64 .positive m e a)) := by
  have hlast : lastPlace m e = max (m.log2 + e - 52) (-1074) := rfl
  by_cases hl : lastPlace m e = -1074
  case pos =>
    have ⟨h, h'⟩ := rounded_between a (show lastPlace m e = e + (lastPlace m e - e).toNat by omega) hx
    rw [hl] at h h'
    exact nearLeast_of_between h h'
  case neg => exact .of_near (near_roundWithAccuracy a (by omega) (by omega) hx)

theorem le_lastPlace_of_pow_le (h : e ≤ -1074 ∨ 2 ^ 52 ≤ m) : e ≤ lastPlace m e := by
  rw [lastPlace]
  cases h
  case inl h => exact h.trans (le_max_right ..)
  case inr h =>
    have : 52 ≤ m.log2 := (Nat.le_log2 (by omega)).mpr h
    omega

-- Enough zeros are put behind the dividend for the quotient to have all fifty-three bits, or to end below the least
-- place.
theorem div_positive (hm : 0 < m) (hn : 0 < n) :
    ∃ (s : Nat) (a : Accuracy), e - f - s ≤ lastPlace (m <<< s / n) (e - f - s) ∧
      UnpackedFloat.div Format.binary64 (.finite .positive m e hm) (.finite .positive n f hn) =
        roundWithAccuracy Format.binary64 .positive (m <<< s / n) (e - f - s) a := by
  set t := Format.binary64.targetExponent (totalExponent m e - totalExponent n f) with ht
  have ht : t = max ((m.log2 : Int) - n.log2 + e - f - 53) (-1074) := by
    simp only [ht, Format.targetExponent, totalExponent, Format.mantissaBits, Format.minExponent]
    omega
  obtain ⟨s, hs⟩ := Int.eq_ofNat_of_zero_le (Int.sub_nonneg_of_le (min_le_left (e - f) t))
  have he : e - f - s = min (e - f) t := by omega
  refine ⟨s, accuracyOfFraction (m <<< s % n) n, le_lastPlace_of_pow_le ?_, ?_⟩
  case refine_1 =>
    by_cases hl : e - f - s ≤ -1074
    case pos => exact .inl hl
    case neg => exact .inr (pow_le_shiftLeft_div hm.ne' hn (by omega))
  case refine_2 =>
    change roundWithAccuracy Format.binary64 .positive (m <<< (e - f - min (e - f) t).toNat / n) (min (e - f) t)
      (accuracyOfFraction (m <<< (e - f - min (e - f) t).toNat % n) n) = _
    rw [hs, he, Int.toNat_natCast]

-- What is below the last bit of the quotient is less than that bit.
theorem quotient_between (hn : 0 < n) :
    (m <<< s / n : Nat) * 2 ^ (e - f - s) ≤ (m * 2 ^ e / (n * 2 ^ f) : Rat) ∧
      (m * 2 ^ e / (n * 2 ^ f) : Rat) ≤ ((m <<< s / n : Nat) + 1) * 2 ^ (e - f - s) := by
  have hn' : (0 : Rat) < n := Nat.cast_pos.mpr hn
  have hq : (m * 2 ^ e / (n * 2 ^ f) : Rat) = (m <<< s : Nat) / n * 2 ^ (e - f - s) := by
    rw [div_mul_eq_mul_div, cast_shiftLeft_mul, zpow_sub₀ two_ne_zero, mul_div_assoc', div_div, mul_comm (2 ^ f) _]
  rw [hq]
  constructor
  case left =>
    gcongr
    exact Nat.cast_div_le
  case right =>
    gcongr
    rw [div_le_iff₀ hn']
    exact_mod_cast (Nat.lt_mul_of_div_lt (Nat.lt_succ_self _) hn).le

theorem div_spec (hn : 0 < n) (hu : IsRegular u) :
    IsRegular (UnpackedFloat.div Format.binary64 u (.finite .positive n f hn)) ∧
      NearLeast 1 (exactValue u / (n * 2 ^ f))
        (exactValue (UnpackedFloat.div Format.binary64 u (.finite .positive n f hn))) := by
  match u with
  | .zero s =>
    change IsRegular (.zero (s / .positive)) ∧ NearLeast 1 (0 / _) (exactValue (.zero (s / .positive)))
    rw [exactValue_zero, zero_div]
    exact ⟨trivial, .of_near (Near.refl 1 le_rfl)⟩
  | .finite .positive m e hm =>
    obtain ⟨s, a, hl, hq⟩ := div_positive (e := e) (f := f) hm hn
    rw [hq, exactValue_positive]
    exact ⟨isRegular_roundWithAccuracy a hl, nearLeast_roundWithAccuracy a hl (quotient_between hn)⟩

end Quotients

end Unpacked

-- The number that a double stands for.
def value (x : Float) : Rat :=
  exactValue x.toModel.unpack

-- Neither negative nor infinite nor a nan.
def Regular (x : Float) : Prop :=
  IsRegular x.toModel.unpack

section Floats

variable {x y : Float} {n : Nat}

theorem unpack_zero : (0.0 : Float).toModel.unpack = .zero .positive := rfl

theorem regular_zero : Regular 0.0 := by
  rw [Regular, unpack_zero]
  trivial

theorem value_zero : value 0.0 = 0 := by
  rw [value, unpack_zero, exactValue_zero]

theorem value_nonneg (h : Regular x) : 0 ≤ value x :=
  exactValue_nonneg h

theorem regular_add (hx : Regular x) (hy : Regular y) (hl : errorFactor 1 * (value x + value y) ≤ limit) :
    Regular (x + y) ∧ Near 1 (value x + value y) (value (x + y)) := by
  have ⟨hr, hn⟩ := add_spec hx hy
  have hu : (pack (UnpackedFloat.add Format.binary64 x.toModel.unpack y.toModel.unpack)).unpack = _ :=
    unpack_pack_of_isRegular hr (hn.1.trans hl)
  unfold Regular value
  change IsRegular (pack (UnpackedFloat.add Format.binary64 _ _)).unpack ∧
    Near 1 _ (exactValue (pack (UnpackedFloat.add Format.binary64 _ _)).unpack)
  rw [hu]
  exact ⟨hr, hn⟩

-- The product ends with fifty-two zeros, which are cut off again.
theorem exactValue_mul_one {m : Nat} {e : Int} (hm : 0 < m) (hl : 2 ^ 52 ≤ m) (hu : m < 2 ^ 53) (he : -1074 ≤ e) :
    exactValue (UnpackedFloat.mul Format.binary64 (.finite .positive m e hm)
      (.finite .positive (2 ^ 52) (-52) (by decide))) = m * 2 ^ e := by
  have hlog : (m * 2 ^ 52).log2 = 104 := by
    rw [← Nat.shiftLeft_eq, log2_shiftLeft hm.ne', (Nat.log2_eq_iff hm.ne').mpr ⟨hl, hu⟩]
  have hk : lastPlace (m * 2 ^ 52) (e + -52) = e + -52 + (52 : Nat) := by
    rw [lastPlace, hlog]
    omega
  change exactValue (roundWithAccuracy Format.binary64 .positive (m * 2 ^ 52) (e + -52) .exact) = _
  rw [exactValue_roundWithAccuracy hk (Nat.dvd_mul_left ..), ← Nat.shiftLeft_eq]
  exact cast_shiftLeft_mul

-- A natural number with no more bits than a mantissa is converted exactly.
theorem unpack_ofNat (hn : n ≠ 0) (h : n < 2 ^ 53) :
    ∃ m e hm, (Float.ofNat n).toModel.unpack = .finite .positive m e hm ∧ (m : Rat) * 2 ^ e = n := by
  have hl : n.log2 < 53 := (Nat.log2_lt hn).mpr h
  have hround : exactValue (UnpackedFloat.round Format.binary64 .positive n 0) = n := by
    rw [exactValue_round hn (by rw [lastPlace]; omega), zpow_zero, mul_one]
  have hx := isNormal_round hn h
  have hux := hx.unpack_pack (by omega) (by omega)
  rw [← toModel_toFloat hn h] at hux
  obtain ⟨m, f, hm, hu, hml, hmu, hfl, hfu⟩ := hx
  have hv := exactValue_mul_one (e := f) hm hml hmu (by omega)
  have hr := isNormal_mul_one (e := f) hm hml hmu (by omega)
  have hp := hr.unpack_pack (by omega) (by omega)
  obtain ⟨m', f', hm', hu', -⟩ := hr
  refine ⟨m', f', hm', ?_, ?_⟩
  case refine_1 =>
    rw [ofNat_of_lt h]
    change (pack (UnpackedFloat.mul Format.binary64 n.toUInt64.toFloat.toModel.unpack
      (Float.ofBits oneBits).toModel.unpack)).unpack = _
    rw [hux, hu, unpack_one]
    exact hp.trans hu'
  case refine_2 =>
    rw [hu', exactValue_positive] at hv
    rw [hu, exactValue_positive] at hround
    rw [hv, hround]

theorem regular_div_ofNat (hx : Regular x) (hn : n ≠ 0) (h : n < 2 ^ 53)
    (hl : errorFactor 1 * (value x / n) + least ≤ limit) :
    Regular (x / Float.ofNat n) ∧ NearLeast 1 (value x / n) (value (x / Float.ofNat n)) := by
  obtain ⟨m, e, hm, hu, hv⟩ := unpack_ofNat hn h
  have ⟨hr, hq⟩ := div_spec (f := e) hm hx
  rw [hv] at hq
  unfold Regular value
  change IsRegular (pack (UnpackedFloat.div Format.binary64 _ (Float.ofNat n).toModel.unpack)).unpack ∧
    NearLeast 1 _ (exactValue (pack (UnpackedFloat.div Format.binary64 _ (Float.ofNat n).toModel.unpack)).unpack)
  rw [hu, unpack_pack_of_isRegular hr (hq.1.trans hl)]
  exact ⟨hr, hq⟩

end Floats

end ModuleDiscovery.Number
