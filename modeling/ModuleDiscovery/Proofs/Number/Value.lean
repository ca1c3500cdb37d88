import Mathlib
import ModuleDiscovery.Proofs.Number.Normal

namespace ModuleDiscovery.Number

open Float.Model UnpackedFloat

-- The number that a double stands for, zero for one that stands for none.
def exactValue : UnpackedFloat → Rat
  | .finite s m e _ => s.apply m * 2 ^ e
  | _               => 0

-- Neither negative nor infinite, and in the form that the bits have: with all fifty-three bits in the mantissa, unless
-- the exponent is the least one.
def IsRegular : UnpackedFloat → Prop
  | .zero _              => True
  | .finite .positive m e _ => m < 2 ^ 53 ∧ -1074 ≤ e ∧ (2 ^ 52 ≤ m ∨ e = -1074)
  | _                    => False

section Near

-- The greatest error of a rounding that keeps fifty-three bits, relative to the number.
def roundoff : Rat := 1 / 2 ^ 52

-- The factor that roundings can change a number by.
def errorFactor (n : Nat) : Rat :=
  (1 + roundoff) ^ n

-- Equal up to the errors of some roundings.
def Near (n : Nat) (x y : Rat) : Prop :=
  y ≤ errorFactor n * x ∧ x ≤ errorFactor n * y

variable {n m : Nat} {x y z x' y' : Rat}

theorem one_le_errorFactor (n : Nat) : 1 ≤ errorFactor n :=
  one_le_pow₀ (by norm_num [roundoff])

theorem errorFactor_nonneg (n : Nat) : 0 ≤ errorFactor n :=
  zero_le_one.trans (one_le_errorFactor n)

theorem errorFactor_add : errorFactor (n + m) = errorFactor n * errorFactor m :=
  pow_add ..

theorem errorFactor_mono (h : n ≤ m) : errorFactor n ≤ errorFactor m :=
  pow_le_pow_right₀ (by norm_num [roundoff]) h

-- As long as the errors are few, they do not multiply much.
theorem errorFactor_le (h : n ≤ 2 ^ 51) : errorFactor n ≤ 1 + 2 * n * roundoff := by
  induction n
  case zero => simp [errorFactor]
  case succ n ih =>
    have hn : 2 * n * roundoff ≤ 1 := by
      have : (n : Rat) ≤ 2 ^ 51 := by exact_mod_cast n.le_succ.trans h
      rw [roundoff]
      linarith
    have hr : 0 ≤ roundoff := by norm_num [roundoff]
    calc errorFactor (n + 1)
      _ = errorFactor n * (1 + roundoff)           := pow_succ ..
      _ ≤ (1 + 2 * n * roundoff) * (1 + roundoff)  := by gcongr; exact ih (n.le_succ.trans h)
      _ = 1 + 2 * n * roundoff + roundoff + 2 * n * roundoff * roundoff := by ring
      _ ≤ 1 + 2 * n * roundoff + roundoff + 1 * roundoff := by gcongr
      _ = 1 + 2 * (n + 1 : Nat) * roundoff         := by push_cast; ring

theorem Near.refl (n : Nat) (hx : 0 ≤ x) : Near n x x :=
  ⟨le_mul_of_one_le_left hx (one_le_errorFactor n), le_mul_of_one_le_left hx (one_le_errorFactor n)⟩

theorem Near.trans (h : Near n x y) (h' : Near m y z) : Near (n + m) x z := by
  have hn := errorFactor_nonneg n
  have hm := errorFactor_nonneg m
  constructor
  case left =>
    calc z
      _ ≤ errorFactor m * y                 := h'.1
      _ ≤ errorFactor m * (errorFactor n * x) := by gcongr; exact h.1
      _ = errorFactor (n + m) * x           := by rw [errorFactor_add]; ring
  case right =>
    calc x
      _ ≤ errorFactor n * y                 := h.2
      _ ≤ errorFactor n * (errorFactor m * z) := by gcongr; exact h'.2
      _ = errorFactor (n + m) * z           := by rw [errorFactor_add]; ring

theorem Near.mono (h : Near n x y) (hx : 0 ≤ x) (hy : 0 ≤ y) (hn : n ≤ m) : Near m x y :=
  ⟨h.1.trans (by gcongr; exact errorFactor_mono hn), h.2.trans (by gcongr; exact errorFactor_mono hn)⟩

theorem Near.add (h : Near n x y) (h' : Near n x' y') : Near n (x + x') (y + y') := by
  unfold Near
  rw [mul_add, mul_add]
  exact ⟨add_le_add h.1 h'.1, add_le_add h.2 h'.2⟩

theorem Near.div (h : Near n x y) (hz : 0 ≤ z) : Near n (x / z) (y / z) := by
  unfold Near
  rw [mul_div_assoc', mul_div_assoc']
  exact ⟨div_le_div_of_nonneg_right h.1 hz, div_le_div_of_nonneg_right h.2 hz⟩

-- The distance of two neighbouring mantissas of fifty-three bits is at most the error of a rounding.
theorem near_of_between {q : Nat} {p : Rat} (hq : 2 ^ 52 ≤ q) (hp : 0 ≤ p) (hx : q * p ≤ x ∧ x ≤ (q + 1) * p)
    (hy : q * p ≤ y ∧ y ≤ (q + 1) * p) : Near 1 x y := by
  have hq : (2 : Rat) ^ 52 ≤ q := by exact_mod_cast hq
  have h1 : (q + 1) * p ≤ errorFactor 1 * (q * p) := by
    have : 1 ≤ roundoff * q := by rw [roundoff]; linarith
    rw [errorFactor, pow_one, ← mul_assoc]
    gcongr
    linarith
  have hf := errorFactor_nonneg 1
  constructor
  case left  => exact (hy.2.trans h1).trans (by gcongr; exact hx.1)
  case right => exact (hx.2.trans h1).trans (by gcongr; exact hy.1)

end Near

section Rounding

variable {m : Nat} {e : Int}

-- The place of the last bit that rounding keeps.
def lastPlace (m : Nat) (e : Int) : Int :=
  max (m.log2 + e - 52) (-1074)

theorem targetExponent_eq : Format.binary64.targetExponent (totalExponent m e) = lastPlace m e := by
  simp only [Format.targetExponent, totalExponent, Format.mantissaBits, Format.minExponent, lastPlace]
  omega

theorem div_pow_lt (m : Nat) {k : Nat} (h : m.log2 ≤ 52 + k) : m / 2 ^ k < 2 ^ 53 := by
  rw [Nat.div_lt_iff_lt_mul (by positivity), ← Nat.pow_add]
  exact Nat.lt_log2_self.trans_le (Nat.pow_le_pow_right (by decide) (by omega))

theorem shiftRight_exact {k : Nat} (h : 2 ^ k ∣ m) :
    ExtendedMantissa.mk m false false >>> k = ⟨m / 2 ^ k, false, false⟩ := by
  induction k
  case zero => rw [Nat.pow_zero, Nat.div_one]; rfl
  case succ k ih =>
    have hk : 2 ^ k ∣ m := (Nat.pow_dvd_pow 2 k.le_succ).trans h
    have h2 : m / 2 ^ k % 2 = 0 := by
      rw [← Nat.dvd_iff_mod_eq_zero, Nat.dvd_div_iff_mul_dvd hk, ← Nat.pow_succ]
      exact h
    change ExtendedMantissa.shiftRightOne (ExtendedMantissa.mk m false false >>> k) = _
    rw [ih hk, Nat.pow_succ, ← Nat.div_div_eq_div_mul]
    simp [ExtendedMantissa.shiftRightOne, h2]

theorem shiftToTargetExponent_eq {k : Nat} (a : Accuracy) (hk : lastPlace m e = e + k) :
    (shiftToTargetExponent Format.binary64 m e a).1.mantissa = m / 2 ^ k ∧
      (shiftToTargetExponent Format.binary64 m e a).2 = lastPlace m e ∧
      (2 ^ k ∣ m → a = .exact → (shiftToTargetExponent Format.binary64 m e a).1 = ⟨m / 2 ^ k, false, false⟩) := by
  have hs : (lastPlace m e - e).toNat = k := by omega
  rw [shiftToTargetExponent, targetExponent_eq, shiftToExponent, hs]
  refine ⟨?cut, hk.symm, ?exact⟩
  case cut =>
    rw [mantissa_shiftRight]
    rcases a with _ | _ | _ | _ <;> rfl
  case exact =>
    rintro hd rfl
    exact shiftRight_exact hd

theorem shiftToTargetExponent_of_lt (hm : m < 2 ^ 53) (he : -1074 ≤ e) :
    shiftToTargetExponent Format.binary64 m e .exact = (⟨m, false, false⟩, e) := by
  have hl : m.log2 ≤ 52 := by
    by_cases h : m = 0
    case pos => simp [h]
    case neg => exact Nat.lt_succ_iff.mp ((Nat.log2_lt h).mpr hm)
  have hk : (lastPlace m e - e).toNat = 0 := by
    unfold lastPlace
    omega
  rw [shiftToTargetExponent, targetExponent_eq, shiftToExponent, hk]
  simp
  rfl

theorem shiftToTargetExponent_of_eq (he : -1074 ≤ e) :
    shiftToTargetExponent Format.binary64 (2 ^ 53) e .exact = (⟨2 ^ 52, false, false⟩, e + 1) := by
  have hk : (lastPlace (2 ^ 53) e - e).toNat = 1 := by
    rw [lastPlace, Nat.log2_two_pow]
    omega
  rw [shiftToTargetExponent, targetExponent_eq, shiftToExponent, hk]
  rfl

-- The double with a mantissa and an exponent that were shifted into their places.
def ofShifted (c : ExtendedMantissa × Int) : UnpackedFloat :=
  if h : c.1.mantissa = 0 then .zero .positive else .finite .positive c.1.mantissa c.2 (Nat.pos_of_ne_zero h)

-- A mantissa that was rounded up to another bit loses nothing by the second shift, as its last bit is zero.
theorem ofShifted_rounded {r : Nat} (hr : r ≤ 2 ^ 53) (he : -1074 ≤ e) (hl : 2 ^ 52 ≤ r ∨ e = -1074) :
    let u := ofShifted (shiftToTargetExponent Format.binary64 r e .exact)
    exactValue u = r * 2 ^ e ∧ IsRegular u := by
  intro u
  obtain rfl | hu := hr.eq_or_lt
  case inl =>
    have h : u = .finite .positive (2 ^ 52) (e + 1) (Nat.two_pow_pos 52) := by
      rw [show u = _ from congrArg ofShifted (shiftToTargetExponent_of_eq he)]
      exact dif_neg (Nat.two_pow_pos 52).ne'
    rw [h]
    refine ⟨?_, by decide, by omega, .inl le_rfl⟩
    simp only [exactValue, Sign.apply]
    rw [zpow_add₀ two_ne_zero]
    push_cast
    ring
  case inr =>
    rw [show u = _ from congrArg ofShifted (shiftToTargetExponent_of_lt hu he), ofShifted]
    split
    case isTrue h0 =>
      change r = 0 at h0
      simp [exactValue, IsRegular, h0]
    case isFalse => exact ⟨rfl, hu, he, hl⟩

theorem cut_bounds {k : Nat} (hk : lastPlace m e = e + k) :
    m / 2 ^ k < 2 ^ 53 ∧ (2 ^ 52 ≤ m / 2 ^ k ∨ lastPlace m e = -1074) := by
  have hlast : lastPlace m e = max (m.log2 + e - 52) (-1074) := rfl
  refine ⟨div_pow_lt m (by omega), ?_⟩
  by_cases hl : lastPlace m e = -1074
  case pos => exact .inr hl
  case neg =>
    obtain rfl : k = m.log2 - 52 := by omega
    exact .inl (shift_bounds (by omega)).1

theorem exists_rounded {k : Nat} (a : Accuracy) (hk : lastPlace m e = e + k) :
    ∃ r : Nat, m / 2 ^ k ≤ r ∧ r ≤ m / 2 ^ k + 1 ∧ (2 ^ k ∣ m → a = .exact → r = m / 2 ^ k) ∧
      exactValue (roundWithAccuracy Format.binary64 .positive m e a) = r * 2 ^ lastPlace m e ∧
      IsRegular (roundWithAccuracy Format.binary64 .positive m e a) := by
  have ⟨hcut, hexp, hexact⟩ := shiftToTargetExponent_eq a hk
  have ⟨hu, hl⟩ := cut_bounds hk
  change let c := shiftToTargetExponent Format.binary64 m e a
    let u := ofShifted (shiftToTargetExponent Format.binary64 c.1.roundedMantissa c.2 .exact)
    ∃ r : Nat, _ ∧ _ ∧ _ ∧ exactValue u = _ ∧ IsRegular u
  generalize shiftToTargetExponent Format.binary64 m e a = c at hcut hexp hexact
  dsimp only
  have ⟨hrl, hru⟩ := roundedMantissa_bounds c.1
  rw [hcut] at hrl hru
  rw [hexp]
  refine ⟨c.1.roundedMantissa, hrl, hru, ?exact, ofShifted_rounded (by omega) (le_max_right ..) (by omega)⟩
  case exact =>
    intro hd ha
    rw [hexact hd ha]
    rfl

variable {x : Rat}

-- Whatever was cut off below the mantissa, the number and the double lie between the same two neighbours.
theorem rounded_between {k : Nat} (a : Accuracy) (hk : lastPlace m e = e + k)
    (hx : m * 2 ^ e ≤ x ∧ x ≤ (m + 1) * 2 ^ e) :
    let v := exactValue (roundWithAccuracy Format.binary64 .positive m e a)
    let q : Nat := m / 2 ^ k
    let p : Rat := 2 ^ lastPlace m e
    (q * p ≤ x ∧ x ≤ (q + 1) * p) ∧ (q * p ≤ v ∧ v ≤ (q + 1) * p) := by
  intro v q p
  obtain ⟨r, hl, hu, -, hv, -⟩ := exists_rounded a hk
  have hp : p = 2 ^ k * 2 ^ e := by
    rw [mul_comm, ← zpow_natCast, ← zpow_add₀ two_ne_zero, ← hk]
  have hm : (q : Rat) * 2 ^ k ≤ m := by exact_mod_cast Nat.div_mul_le_self m (2 ^ k)
  have hm' : (m : Rat) + 1 ≤ (q + 1) * 2 ^ k := by
    exact_mod_cast Nat.lt_mul_of_div_lt q.lt_succ_self (Nat.pow_pos two_pos)
  have hl : (q : Rat) ≤ r := by exact_mod_cast hl
  have hu : (r : Rat) ≤ q + 1 := by exact_mod_cast hu
  refine ⟨⟨le_trans ?_ hx.1, hx.2.trans ?_⟩, ?_⟩
  · rw [hp, ← mul_assoc]
    gcongr
  · rw [hp, ← mul_assoc]
    gcongr
  · have hp : 0 ≤ p := by positivity
    rw [show v = r * p from hv]
    exact ⟨by gcongr, by gcongr⟩

-- A double with all fifty-three bits is near.
theorem near_roundWithAccuracy (a : Accuracy) (hm : 52 ≤ m.log2) (he : -1074 ≤ m.log2 + e - 52)
    (hx : m * 2 ^ e ≤ x ∧ x ≤ (m + 1) * 2 ^ e) :
    Near 1 x (exactValue (roundWithAccuracy Format.binary64 .positive m e a)) := by
  have hk : lastPlace m e = e + (m.log2 - 52 : Nat) := by
    rw [lastPlace]
    omega
  have ⟨h, h'⟩ := rounded_between a hk hx
  exact near_of_between (shift_bounds hm).1 (by positivity) h h'

-- A number that needs no more bits than a double has is kept, also if it ends with zeros.
theorem exactValue_roundWithAccuracy {k : Nat} (hk : lastPlace m e = e + k) (hd : 2 ^ k ∣ m) :
    exactValue (roundWithAccuracy Format.binary64 .positive m e .exact) = m * 2 ^ e := by
  obtain ⟨r, -, -, hr, hv, -⟩ := exists_rounded .exact hk
  have hm : ((m / 2 ^ k : Nat) : Rat) * 2 ^ k = m := by exact_mod_cast Nat.div_mul_cancel hd
  rw [hv, hr hd rfl, hk, add_comm, zpow_add₀ two_ne_zero, zpow_natCast, ← mul_assoc, hm]

theorem isRegular_roundWithAccuracy (a : Accuracy) (he : e ≤ lastPlace m e) :
    IsRegular (roundWithAccuracy Format.binary64 .positive m e a) := by
  obtain ⟨r, -, -, -, -, hr⟩ := exists_rounded a (show lastPlace m e = e + (lastPlace m e - e).toNat by omega)
  exact hr

theorem lastPlace_shiftLeft (hm : m ≠ 0) (k : Nat) : lastPlace (m <<< k) (e - k) = lastPlace m e := by
  rw [lastPlace, lastPlace, log2_shiftLeft hm]
  omega

-- Zeros at the end of a mantissa change nothing but its exponent.
theorem cast_shiftLeft_mul {k : Nat} : ((m <<< k : Nat) : Rat) * 2 ^ (e - k) = m * 2 ^ e := by
  have he : (k : Int) + (e - k) = e := by omega
  rw [Nat.shiftLeft_eq, Nat.cast_mul, Nat.cast_pow, Nat.cast_ofNat, mul_assoc, ← zpow_natCast,
    ← zpow_add₀ two_ne_zero, he]

section Round

variable {k : Nat}

theorem round_eq (hk : (e - lastPlace m e).toNat = k) :
    UnpackedFloat.round Format.binary64 .positive m e =
      roundWithAccuracy Format.binary64 .positive (m <<< k) (e - k) .exact := by
  rw [UnpackedFloat.round, targetExponent_eq, decreaseExponent, hk]

theorem isRegular_round (hm : m ≠ 0) : IsRegular (UnpackedFloat.round Format.binary64 .positive m e) := by
  rw [round_eq rfl]
  refine isRegular_roundWithAccuracy .exact ?_
  rw [lastPlace_shiftLeft hm]
  omega

theorem exactValue_round (hm : m ≠ 0) (h : lastPlace m e ≤ e) :
    exactValue (UnpackedFloat.round Format.binary64 .positive m e) = m * 2 ^ e := by
  obtain ⟨k, hk⟩ := Int.eq_ofNat_of_zero_le (Int.sub_nonneg_of_le h)
  have hs := lastPlace_shiftLeft (e := e) hm k
  rw [round_eq (k := k) (by omega), exactValue_roundWithAccuracy (k := 0) (by omega) (by simp), cast_shiftLeft_mul]

-- No bit lies below the least place, so that only a number with many bits is not kept.
theorem near_round (hm : m ≠ 0) (he : -1074 ≤ e) :
    Near 1 (m * 2 ^ e) (exactValue (UnpackedFloat.round Format.binary64 .positive m e)) := by
  by_cases h : lastPlace m e ≤ e
  case pos =>
    rw [exactValue_round hm h]
    exact Near.refl 1 (by positivity)
  case neg =>
    have hl : lastPlace m e = max (m.log2 + e - 52) (-1074) := rfl
    rw [round_eq (k := 0) (by omega), Nat.shiftLeft_zero, Nat.cast_zero, sub_zero]
    refine near_roundWithAccuracy .exact (by omega) (by omega) ⟨le_rfl, ?_⟩
    gcongr
    exact (lt_add_one _).le

end Round

end Rounding

end ModuleDiscovery.Number
