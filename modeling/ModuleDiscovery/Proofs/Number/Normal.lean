import Mathlib
import ModuleDiscovery.Number.Binary

namespace ModuleDiscovery.Number

open Float.Model UnpackedFloat

section Rounding

variable {m : Nat} {e : Int}

theorem mantissa_shiftRight (em : ExtendedMantissa) (k : Nat) : (em >>> k).mantissa = em.mantissa / 2 ^ k := by
  induction k
  case zero => exact (Nat.div_one _).symm
  case succ k ih =>
    change (em >>> k).mantissa / 2 = _
    rw [ih, Nat.div_div_eq_div_mul, ← Nat.pow_succ]

theorem roundedMantissa_bounds (em : ExtendedMantissa) :
    em.mantissa ≤ em.roundedMantissa ∧ em.roundedMantissa ≤ em.mantissa + 1 := by
  obtain ⟨m, _ | _, _ | _⟩ := em <;>
    simp [ExtendedMantissa.roundedMantissa, ExtendedMantissa.accuracy, Accuracy.roundToNearestEven]
  omega

-- A positive double with a mantissa of all its fifty-three bits, the last of which is worth the power of two to the
-- given exponent or to the next one.
def IsNormal (e : Int) (u : UnpackedFloat) : Prop :=
  ∃ m f h, u = .finite .positive m f h ∧ 2 ^ 52 ≤ m ∧ m < 2 ^ 53 ∧ e ≤ f ∧ f ≤ e + 1

theorem shift_bounds (hm : 52 ≤ m.log2) : 2 ^ 52 ≤ m / 2 ^ (m.log2 - 52) ∧ m / 2 ^ (m.log2 - 52) < 2 ^ 53 := by
  have hn : m ≠ 0 := by
    rintro rfl
    simp at hm
  have hl := Nat.log2_self_le hn
  have hu := Nat.lt_log2_self (n := m)
  constructor
  case left =>
    rw [Nat.le_div_iff_mul_le (by positivity), ← Nat.pow_add]
    rwa [Nat.add_sub_cancel' hm]
  case right =>
    rw [Nat.div_lt_iff_lt_mul (by positivity), ← Nat.pow_add]
    rwa [show 53 + (m.log2 - 52) = m.log2 + 1 by omega]

theorem shiftToTargetExponent_of_log2 (a : Accuracy) (hm : 52 ≤ m.log2) (he : -1074 ≤ m.log2 + e - 52) :
    (shiftToTargetExponent Format.binary64 m e a).1.mantissa = m / 2 ^ (m.log2 - 52) ∧
      (shiftToTargetExponent Format.binary64 m e a).2 = m.log2 + e - 52 := by
  have ht : Format.binary64.targetExponent (totalExponent m e) = m.log2 + e - 52 := by
    simp only [Format.targetExponent, totalExponent, Format.mantissaBits, Format.minExponent]
    omega
  have hk : (m.log2 + e - 52 - e).toNat = m.log2 - 52 := by omega
  rw [shiftToTargetExponent, ht, shiftToExponent, hk]
  constructor
  case left  => rw [mantissa_shiftRight]; rcases a with _ | _ | _ | _ <;> rfl
  case right => dsimp only; omega

-- A mantissa with more bits is cut to fifty-three of them. If it is rounded up to another bit, the exponent is one
-- more.
theorem isNormal_roundWithAccuracy (a : Accuracy) (hm : 52 ≤ m.log2) (he : -1074 ≤ m.log2 + e - 52) :
    IsNormal (m.log2 + e - 52) (roundWithAccuracy Format.binary64 .positive m e a) := by
  have ⟨hcut, hexp⟩ := shiftToTargetExponent_of_log2 a hm he
  unfold roundWithAccuracy
  generalize shiftToTargetExponent Format.binary64 m e a = cut at hcut hexp
  dsimp only
  have ⟨hl, hu⟩ := shift_bounds hm
  have ⟨hrl, hru⟩ := roundedMantissa_bounds cut.1
  generalize cut.1.roundedMantissa = r at hrl hru
  rw [hexp]
  have hr : r ≠ 0 := by omega
  have h52 : 52 ≤ r.log2 := (Nat.le_log2 hr).mpr (by omega)
  have h53 : r.log2 < 54 := (Nat.log2_lt hr).mpr (by omega)
  have ⟨hf, hg⟩ := shiftToTargetExponent_of_log2 (e := m.log2 + e - 52) .exact h52 (by omega)
  have ⟨hfl, hfu⟩ := shift_bounds h52
  rw [← hf] at hfl hfu
  rw [dif_neg (by omega)]
  exact ⟨_, _, _, rfl, hfl, hfu, by omega, by omega⟩

end Rounding

section Bits

variable {m : Nat} {e : Int}

theorem toNat_append_mantissa (hl : 2 ^ 52 ≤ m) (hu : m < 2 ^ 53) : (1#1 ++ BitVec.ofNat 52 m).toNat = m := by
  rw [BitVec.toNat_append, ← Nat.shiftLeft_add_eq_or_of_lt (BitVec.isLt _)]
  simp only [BitVec.toNat_ofNat, Nat.shiftLeft_eq]
  omega

theorem exponent_ne {k : Nat} (h : ¬2 ^ 11 ≤ k + 1) : BitVec.ofNat 11 k ≠ -1#11 := by
  intro he
  have hk : k % 2 ^ 11 = 2047 := congrArg BitVec.toNat he
  omega

theorem unpackExponent_ne {b : BitVec Format.binary64.numBits} (h : b.toNat / leadingBit % 2048 ≠ 2047) :
    unpackExponent b ≠ -1#_ := by
  intro he
  have hn : b.toNat >>> 52 % 2 ^ 11 = 2047 := congrArg BitVec.toNat he
  rw [Nat.shiftRight_eq_div_pow] at hn
  exact h hn

-- Of such a double nothing is lost in its bits, unless the exponent is too large for them.
theorem unpack_pack (h : 0 < m) (hl : 2 ^ 52 ≤ m) (hu : m < 2 ^ 53) (he : -1074 ≤ e) (he' : e ≤ 971) :
    (pack (.finite .positive m e h)).unpack = .finite .positive m e h := by
  have hm : m.log2 + 1 = Format.binary64.mantissaBits := by
    have : m.log2 = 52 := (Nat.log2_eq_iff (by omega)).mpr ⟨hl, hu⟩
    rw [this]
    rfl
  have hb : (e + Format.binary64.exponentBias + (52 : Nat)).toNat = (e + 1075).toNat := by
    have : (Format.binary64.exponentBias : Int) = 1023 := rfl
    omega
  have hz : BitVec.ofNat 11 (e + 1075).toNat ≠ 0#11 := by
    intro hz
    have hk : (e + 1075).toNat % 2 ^ 11 = 0 := congrArg BitVec.toNat hz
    omega
  have hk : (BitVec.ofNat 11 (e + 1075).toNat).toNat = (e + 1075).toNat := by
    rw [BitVec.toNat_ofNat, Nat.mod_eq_of_lt (by omega)]
  change UnpackedFloat.unpack Format.binary64 (UnpackedFloat.pack Format.binary64 _) = _
  unfold UnpackedFloat.pack
  dsimp only
  rw [hb, if_neg (by omega), if_pos hm]
  unfold UnpackedFloat.unpack
  simp only [unpackMantissa_packComponents, unpackExponent_packComponents, unpackSign_packComponents]
  rw [if_neg (exponent_ne (by omega)), if_neg hz]
  congr 1
  case e_mantissa => exact toNat_append_mantissa hl hu
  case e_exponent =>
    have : (Format.binary64.exponentBias : Int) = 1023 := rfl
    omega

theorem IsNormal.unpack_pack {u : UnpackedFloat} (h : IsNormal e u) (hl : -1074 ≤ e) (hu : e ≤ 970) :
    (pack u).unpack = u := by
  obtain ⟨m, f, hm, rfl, hml, hmu, hfl, hfu⟩ := h
  exact Number.unpack_pack hm hml hmu (by omega) (by omega)

end Bits

section Integers

variable {m n : Nat} {e : Int}

theorem log2_shiftLeft (hn : n ≠ 0) (k : Nat) : (n <<< k).log2 = n.log2 + k := by
  induction k
  case zero => rfl
  case succ k ih =>
    have hk : n <<< k ≠ 0 := by simpa [Nat.shiftLeft_eq] using hn
    have hs : n <<< (k + 1) = 2 * (n <<< k) := by
      rw [Nat.shiftLeft_eq, Nat.shiftLeft_eq, Nat.pow_succ', Nat.mul_left_comm]
    rw [hs, Nat.log2_two_mul hk, ih, Nat.add_assoc]

theorem isNormal_round (hn : n ≠ 0) (h : n < 2 ^ 53) :
    IsNormal (n.log2 - 52) (UnpackedFloat.round Format.binary64 .positive n 0) := by
  have hl : n.log2 < 53 := (Nat.log2_lt hn).mpr h
  have ht : Format.binary64.targetExponent (totalExponent n 0) = n.log2 - 52 := by
    simp only [Format.targetExponent, totalExponent, Format.mantissaBits, Format.minExponent]
    omega
  have hk : (0 - ((n.log2 : Int) - 52)).toNat = 52 - n.log2 := by omega
  have hlog := log2_shiftLeft hn (52 - n.log2)
  have hr := isNormal_roundWithAccuracy (m := n <<< (52 - n.log2)) (e := 0 - (52 - n.log2 : Nat)) .exact (by omega)
    (by omega)
  have he : ((n.log2 + (52 - n.log2) : Nat) : Int) + (0 - (52 - n.log2 : Nat)) - 52 = n.log2 - 52 := by omega
  rw [hlog, he] at hr
  rwa [UnpackedFloat.round, ht, decreaseExponent, hk]

-- The bits of the double one, by which small integers are multiplied.
def oneBits : UInt64 := 0x3FF0000000000000

theorem unpack_one : (Float.ofBits oneBits).toModel.unpack = .finite .positive (2 ^ 52) (-52) (by decide) := by
  rfl

theorem ofNat_of_lt (h : n < 2 ^ 53) : Float.ofNat n = n.toUInt64.toFloat * Float.ofBits oneBits := by
  change Float.ofScientific n false 0 = _
  unfold Float.ofScientific
  rw [dif_pos ⟨h, by decide⟩]
  rfl

theorem toModel_toFloat (hn : n ≠ 0) (h : n < 2 ^ 53) :
    n.toUInt64.toFloat.toModel = pack (UnpackedFloat.round Format.binary64 .positive n 0) := by
  have ht : n.toUInt64.toNat = n := Nat.mod_eq_of_lt (h.trans (by decide))
  have hc : compare (n : Int) 0 = .gt := Int.compare_eq_gt.mpr (by omega)
  change pack (UnpackedFloat.normalize Format.binary64 (n.toUInt64.toNat : Int) 0 .positive) = _
  rw [ht, UnpackedFloat.normalize, hc, Int.toNat_natCast]

theorem toModel_ofNat_of_le (h : 2 ^ 53 ≤ n) :
    (Float.ofNat n).toModel = pack (roundWithAccuracy Format.binary64 .positive (n <<< 53) (-53) .exact) := by
  change (Float.ofScientific n false 0).toModel = _
  unfold Float.ofScientific
  rw [dif_neg (by omega)]
  change pack (UnpackedFloat.ofScientific Format.binary64 n 0) = _
  have hp : (0 : Int) ≤ 2 ^ Format.binary64.exponentBits := by decide
  rw [UnpackedFloat.ofScientific, dif_neg (by omega), if_neg (by decide), if_neg (by omega), if_pos (by decide)]
  change pack (roundWithAccuracy Format.binary64 .positive (n <<< 53 * 1) (-53) .exact) = _
  rw [Nat.mul_one]

theorem isNormal_mul_one (hm : 0 < m) (hl : 2 ^ 52 ≤ m) (hu : m < 2 ^ 53) (he : -1074 ≤ e) :
    IsNormal e (UnpackedFloat.mul Format.binary64 (.finite .positive m e hm)
      (.finite .positive (2 ^ 52) (-52) (by decide))) := by
  have hlog : (m * 2 ^ 52).log2 = 104 := by
    rw [← Nat.shiftLeft_eq, log2_shiftLeft hm.ne', (Nat.log2_eq_iff hm.ne').mpr ⟨hl, hu⟩]
  have hr := isNormal_roundWithAccuracy (e := e + -52) .exact (m := m * 2 ^ 52) (by omega) (by omega)
  have he : ((104 : Nat) : Int) + (e + -52) - 52 = e := by omega
  rw [hlog, he] at hr
  exact hr

-- An integer that is not too large is a finite double, whichever way it is converted.
theorem exists_unpack_ofNat (hn : n ≠ 0) (h : n.log2 < 1023) :
    ∃ m e hm, (Float.ofNat n).toModel.unpack = .finite .positive m e hm := by
  by_cases hs : n < 2 ^ 53
  case pos =>
    have hl : n.log2 < 53 := (Nat.log2_lt hn).mpr hs
    have hx := isNormal_round hn hs
    have hux := hx.unpack_pack (by omega) (by omega)
    rw [← toModel_toFloat hn hs] at hux
    obtain ⟨m, f, hm, hu, hml, hmu, hfl, hfu⟩ := hx
    have hr := isNormal_mul_one (e := f) hm hml hmu (by omega)
    have hp := hr.unpack_pack (by omega) (by omega)
    obtain ⟨m', f', hm', hu', _⟩ := hr
    refine ⟨m', f', hm', ?_⟩
    rw [ofNat_of_lt hs]
    change (pack (UnpackedFloat.mul Format.binary64 n.toUInt64.toFloat.toModel.unpack
      (Float.ofBits oneBits).toModel.unpack)).unpack = _
    rw [hux, hu, unpack_one]
    exact hp.trans hu'
  case neg =>
    have hlog := log2_shiftLeft hn 53
    have hr := isNormal_roundWithAccuracy (e := -53) .exact (m := n <<< 53) (by omega) (by omega)
    have hp := hr.unpack_pack (by omega) (by omega)
    obtain ⟨m, e, hm, hu, _⟩ := hr
    exact ⟨m, e, hm, by rw [toModel_ofNat_of_le (by omega), hp, hu]⟩

end Integers
end ModuleDiscovery.Number
