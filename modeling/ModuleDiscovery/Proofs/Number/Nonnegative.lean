import ModuleDiscovery.Number.Score
import ModuleDiscovery.Proofs.Number.FloatOrder
import ModuleDiscovery.Proofs.Number.Normal
import ModuleDiscovery.Proofs.Number.Quotient

namespace ModuleDiscovery.Number

open Float.Model UnpackedFloat

-- Neither negative nor a nan.
def IsNonneg : UnpackedFloat → Prop
  | .zero _              => True
  | .finite .positive .. => True
  | .infinity .positive  => True
  | _                    => False

section Packing

variable {u : UnpackedFloat}

theorem isNonneg_unpack {b : BitVec Format.binary64.numBits} (hs : unpackSign b = 0#1)
    (hn : unpackExponent b = -1#_ → unpackMantissa b = 0#_) : IsNonneg (UnpackedFloat.unpack Format.binary64 b) := by
  have hp : Sign.ofBitVec (unpackSign b) = .positive := by rw [hs]; rfl
  unfold UnpackedFloat.unpack
  dsimp only
  rw [hp]
  split
  case isTrue he => rw [if_pos (hn he)]; trivial
  case isFalse =>
    split
    case isTrue  => split <;> trivial
    case isFalse => trivial

theorem isNonneg_unpack_pack (h : IsNonneg u) : IsNonneg (pack u).unpack := by
  have hi : IsNonneg (UnpackedFloat.unpack Format.binary64 (packedInfinity Format.binary64 .positive)) :=
    isNonneg_unpack (unpackSign_packComponents ..) fun _ => unpackMantissa_packComponents
  match u with
  | .zero s =>
    change IsNonneg (UnpackedFloat.unpack Format.binary64 (packedZero Format.binary64 s))
    rw [unpack_packedZero]
    trivial
  | .infinity .positive => exact hi
  | .finite .positive m e _ =>
    change IsNonneg (UnpackedFloat.unpack Format.binary64 (UnpackedFloat.pack Format.binary64 _))
    unfold UnpackedFloat.pack
    dsimp only
    split
    case isTrue => exact hi
    case isFalse hb =>
      split
      case isTrue =>
        refine isNonneg_unpack (unpackSign_packComponents ..) fun he => ?_
        rw [unpackExponent_packComponents] at he
        exact absurd he (exponent_ne hb)
      case isFalse =>
        refine isNonneg_unpack (unpackSign_packComponents ..) fun he => ?_
        rw [unpackExponent_packComponents] at he
        contradiction

end Packing

section Arithmetic

variable {u v : UnpackedFloat}

theorem isNonneg_roundWithAccuracy {m : Nat} {e : Int} {a : Accuracy} :
    IsNonneg (roundWithAccuracy Format.binary64 .positive m e a) := by
  unfold roundWithAccuracy
  dsimp only
  split <;> trivial

theorem isNonneg_add (hu : IsNonneg u) (hv : IsNonneg v) : IsNonneg (UnpackedFloat.add Format.binary64 u v) := by
  match u, v with
  | .infinity .positive, .infinity .positive  => trivial
  | .infinity .positive, .zero _              => trivial
  | .infinity .positive, .finite .positive .. => trivial
  | .zero _, .infinity .positive              => trivial
  | .finite .positive .., .infinity .positive => trivial
  | .zero s, .zero t                          => cases s <;> cases t <;> trivial
  | .zero _, .finite .positive ..             => trivial
  | .finite .positive .., .zero _             => trivial
  | .finite .positive m e _, .finite .positive n f _ =>
    unfold UnpackedFloat.add UnpackedFloat.normalize
    dsimp only [Sign.apply]
    split
    case h_1 h => exact absurd (Int.compare_eq_lt.mp h) (by omega)
    case h_2   => trivial
    case h_3   => exact isNonneg_roundWithAccuracy

-- A nan would come of an infinite divisor.
theorem isNonneg_div {m : Nat} {e : Int} {hm : 0 < m} (hu : IsNonneg u) :
    IsNonneg (UnpackedFloat.div Format.binary64 u (.finite .positive m e hm)) := by
  match u with
  | .infinity .positive  => trivial
  | .zero _              => trivial
  | .finite .positive .. => exact isNonneg_roundWithAccuracy

end Arithmetic

section Floats

variable {x y : Float}

theorem nonneg_iff : 0.0 ≤ x ↔ IsNonneg x.toModel.unpack := by
  have hz : rank? (0.0 : Float).toModel.unpack = some (toLex (0, toLex (0, 0))) := by decide +kernel
  rw [float_le_iff, hz]
  rcases x.toModel.unpack with ⟨_ | _⟩ | _ | ⟨_ | _⟩ | ⟨_ | _, _, _, _⟩ <;>
    simp [rank?, IsNonneg, Prod.Lex.toLex_le_toLex]

theorem nonneg_zero : (0.0 : Float) ≤ 0.0 := by
  decide +kernel

theorem neg_one_lt_of_nonneg (h : 0.0 ≤ x) : -1.0 < x := by
  have hz : (-1.0 : Float) < 0.0 := by decide +kernel
  have ⟨hn, hz'⟩ := rank_ne_bot_of_lt hz
  rw [float_lt_iff_rank_lt hn] at *
  exact hz.trans_le ((float_le_iff_rank_le hz').mp h)

theorem nonneg_add (hx : 0.0 ≤ x) (hy : 0.0 ≤ y) : 0.0 ≤ x + y := by
  rw [nonneg_iff] at *
  exact isNonneg_unpack_pack (isNonneg_add hx hy)

theorem nonneg_div_ofNat {n : Nat} (hx : 0.0 ≤ x) (hn : n ≠ 0) (hl : n.log2 < 1023) :
    0.0 ≤ x / Float.ofNat n := by
  obtain ⟨m, e, hm, hu⟩ := exists_unpack_ofNat hn hl
  rw [nonneg_iff] at *
  change IsNonneg (pack (UnpackedFloat.div Format.binary64 x.toModel.unpack (Float.ofNat n).toModel.unpack)).unpack
  rw [hu]
  exact isNonneg_unpack_pack (isNonneg_div hx)

theorem toNat_toBitVec {k : Nat} (h : k < 2047 * leadingBit) : (UInt64.ofNat k).toBitVec.toNat = k :=
  Nat.mod_eq_of_lt (h.trans (by decide))

theorem unpackSign_ofNat {k : Nat} (h : k < 2047 * leadingBit) :
    @unpackSign Format.binary64 (UInt64.ofNat k).toBitVec = 0#1 := by
  refine BitVec.eq_of_toNat_eq ?_
  change (UInt64.ofNat k).toBitVec.toNat >>> 63 % 2 ^ 1 = 0
  rw [toNat_toBitVec h, Nat.shiftRight_eq_div_pow]
  simp only [leadingBit] at h
  omega

theorem nonneg_ofBits {k : Nat} (h : k < 2047 * leadingBit) : 0.0 ≤ Float.ofBits (UInt64.ofNat k) := by
  have he : (UInt64.ofNat k).toBitVec.toNat / leadingBit % 2048 ≠ 2047 := by
    rw [toNat_toBitVec h]
    simp only [leadingBit] at h ⊢
    omega
  exact nonneg_iff.mpr <| isNonneg_unpack_pack <|
    isNonneg_unpack (unpackSign_ofNat h) fun h => absurd h (unpackExponent_ne he)

theorem nonneg_floatOfQuotient {n d : Nat} (h : floatOfQuotient false n d = some x) : 0.0 ≤ x := by
  simp only [floatOfQuotient, Bool.false_eq_true, if_false, Nat.zero_add] at h
  split at h
  case isTrue =>
    cases h
    exact nonneg_ofBits (by decide)
  case isFalse =>
    split at h
    case isTrue hb =>
      cases h
      exact nonneg_ofBits hb
    case isFalse => contradiction

theorem nonneg_floatOfRatio {n d : Int} (hn : 0 ≤ n) (hd : 0 ≤ d) (h : floatOfRatio n d = some x) : 0.0 ≤ x := by
  have hs : ((n < 0) != (d < 0) : Bool) = false := by simp [hn.not_gt, hd.not_gt]
  rw [floatOfRatio, hs] at h
  exact nonneg_floatOfQuotient h

end Floats

section Sums

variable {x : Float} {xs lanes : List Float}

theorem nonneg_foldl (hx : 0.0 ≤ x) (h : ∀ y ∈ xs, 0.0 ≤ y) : 0.0 ≤ xs.foldl (· + ·) x := by
  induction xs generalizing x
  case nil => exact hx
  case cons y ys ih =>
    have ⟨hy, hys⟩ := List.forall_mem_cons.mp h
    exact ih (nonneg_add hx hy) hys

theorem nonneg_leftSum (h : ∀ y ∈ xs, 0.0 ≤ y) : 0.0 ≤ leftSum xs := by
  cases xs
  case nil => exact nonneg_zero
  case cons y ys =>
    have ⟨hy, hys⟩ := List.forall_mem_cons.mp h
    exact nonneg_foldl hy hys

theorem nonneg_zipWith {ys : List Float} (hx : ∀ x ∈ xs, 0.0 ≤ x) (hy : ∀ y ∈ ys, 0.0 ≤ y) :
    ∀ z ∈ List.zipWith (· + ·) xs ys, 0.0 ≤ z := by
  intro z hz
  obtain ⟨i, hi, rfl⟩ := List.mem_iff_getElem.mp hz
  rw [List.getElem_zipWith]
  exact nonneg_add (hx _ (List.getElem_mem _)) (hy _ (List.getElem_mem _))

theorem nonneg_addRows (hl : ∀ y ∈ lanes, 0.0 ≤ y) (h : ∀ y ∈ xs, 0.0 ≤ y) : ∀ y ∈ addRows lanes xs, 0.0 ≤ y := by
  fun_induction addRows lanes xs
  case case1 lanes a b c d e f g k xs ih =>
    have ⟨hrow, hxs⟩ := List.forall_mem_append.mp (show ∀ y ∈ [a, b, c, d, e, f, g, k] ++ xs, 0.0 ≤ y from h)
    exact ih (nonneg_zipWith hl hrow) hxs
  case case2 => exact hl

theorem nonneg_laneSum (h : ∀ y ∈ lanes, 0.0 ≤ y) : 0.0 ≤ laneSum lanes := by
  unfold laneSum
  split
  case h_1 =>
    simp only [List.forall_mem_cons] at h
    obtain ⟨ha, hb, hc, hd, he, hf, hg, hh, _⟩ := h
    exact nonneg_add (nonneg_add (nonneg_add ha hb) (nonneg_add hc hd))
      (nonneg_add (nonneg_add he hf) (nonneg_add hg hh))
  case h_2 => exact nonneg_leftSum h

theorem nonneg_blockSum (h : ∀ y ∈ xs, 0.0 ≤ y) : 0.0 ≤ blockSum xs := by
  have ht {xs : List Float} (h : ∀ y ∈ xs, 0.0 ≤ y) (i : Nat) : ∀ y ∈ xs.take i, 0.0 ≤ y :=
    fun y hy => h y (List.mem_of_mem_take hy)
  have hd {xs : List Float} (h : ∀ y ∈ xs, 0.0 ≤ y) (i : Nat) : ∀ y ∈ xs.drop i, 0.0 ≤ y :=
    fun y hy => h y (List.mem_of_mem_drop hy)
  fun_induction blockSum xs
  case case1               => exact nonneg_leftSum h
  case case2               => exact nonneg_foldl (nonneg_laneSum (nonneg_addRows (ht h 8) (hd h 8))) (hd h _)
  case case3 hleft hright  => exact nonneg_add (hleft (ht h _)) (hright (hd h _))

theorem nonneg_sum (h : ∀ y ∈ xs, 0.0 ≤ y) : 0.0 ≤ Score.sum xs :=
  nonneg_add nonneg_zero (nonneg_blockSum h)

end Sums

end ModuleDiscovery.Number
