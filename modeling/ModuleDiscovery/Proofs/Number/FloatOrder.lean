import Mathlib

namespace ModuleDiscovery.Number

open Float.Model

-- The place of a double in the order of doubles: its kind and sign, then its exponent, then its mantissa.
-- Among negative doubles, those with the greater exponents and mantissas come first. A nan has no place.
def rank? : UnpackedFloat → Option (Int ×ₗ Int ×ₗ Int)
  | .notANumber             => none
  | .infinity .negative     => some (toLex (-2, toLex (0, 0)))
  | .finite .negative m e _ => some (toLex (-1, toLex (-e, -m)))
  | .zero _                 => some (toLex (0, toLex (0, 0)))
  | .finite .positive m e _ => some (toLex (1, toLex (e, m)))
  | .infinity .positive     => some (toLex (2, toLex (0, 0)))

theorem isLE_compare_then {e e' : Int} {m m' : Nat} :
    ((compare e e').then (compare m m')).isLE ↔ e < e' ∨ e = e' ∧ m ≤ m' := by
  rcases Int.lt_trichotomy e e' with h | h | h
  case inl     => simp [Int.compare_eq_lt.mpr h, h]
  case inr.inl => simp [h, Nat.isLE_compare]
  case inr.inr => simp [Int.compare_eq_gt.mpr h, h.not_gt, h.ne']

theorem isGE_compare_then {e e' : Int} {m m' : Nat} :
    ((compare e e').then (compare m m')).isGE ↔ e' < e ∨ e = e' ∧ m' ≤ m := by
  rcases Int.lt_trichotomy e e' with h | h | h
  case inl     => simp [Int.compare_eq_lt.mpr h, h.not_gt, h.ne]
  case inr.inl => simp [h, Nat.isGE_compare]
  case inr.inr => simp [Int.compare_eq_gt.mpr h, h]

theorem compare_then_eq_lt {e e' : Int} {m m' : Nat} :
    (compare e e').then (compare m m') = .lt ↔ e < e' ∨ e = e' ∧ m < m' := by
  rcases Int.lt_trichotomy e e' with h | h | h
  case inl     => simp [Int.compare_eq_lt.mpr h, h]
  case inr.inl => simp [h, Nat.compare_eq_lt]
  case inr.inr => simp [Int.compare_eq_gt.mpr h, h.not_gt, h.ne']

theorem compare_then_eq_gt {e e' : Int} {m m' : Nat} :
    (compare e e').then (compare m m') = .gt ↔ e' < e ∨ e = e' ∧ m' < m := by
  rcases Int.lt_trichotomy e e' with h | h | h
  case inl     => simp [Int.compare_eq_lt.mpr h, h.not_gt, h.ne]
  case inr.inl => simp [h, Nat.compare_eq_gt]
  case inr.inr => simp [Int.compare_eq_gt.mpr h, h]

-- All cases but those of two finite doubles of one sign are decided by the kinds and signs.
theorem unpacked_le_iff {a b : UnpackedFloat} :
    a.le b ↔ ∃ x ∈ rank? a, ∃ y ∈ rank? b, x ≤ y := by
  rcases a with ⟨_ | _⟩ | _ | ⟨_ | _⟩ | ⟨_ | _, _, _, _⟩ <;>
    rcases b with ⟨_ | _⟩ | _ | ⟨_ | _⟩ | ⟨_ | _, _, _, _⟩ <;>
    dsimp only [UnpackedFloat.le, UnpackedFloat.compare, rank?] <;>
    simp [Prod.Lex.toLex_le_toLex, isLE_compare_then, isGE_compare_then]
  -- What is left compares the signs of two infinities.
  all_goals decide

theorem unpacked_lt_iff {a b : UnpackedFloat} :
    a.lt b ↔ ∃ x ∈ rank? a, ∃ y ∈ rank? b, x < y := by
  rcases a with ⟨_ | _⟩ | _ | ⟨_ | _⟩ | ⟨_ | _, _, _, _⟩ <;>
    rcases b with ⟨_ | _⟩ | _ | ⟨_ | _⟩ | ⟨_ | _, _, _, _⟩ <;>
    dsimp only [UnpackedFloat.lt, UnpackedFloat.compare, rank?] <;>
    simp [Prod.Lex.toLex_lt_toLex, compare_then_eq_lt, compare_then_eq_gt, Ordering.swap_eq_lt]
  all_goals decide

theorem float_le_iff {x y : Float} :
    x ≤ y ↔ ∃ r ∈ rank? x.toModel.unpack, ∃ s ∈ rank? y.toModel.unpack, r ≤ s := by
  rw [← unpacked_le_iff]
  change x.le y ↔ _
  simp [Float.le]
  rfl

theorem float_lt_iff {x y : Float} :
    x < y ↔ ∃ r ∈ rank? x.toModel.unpack, ∃ s ∈ rank? y.toModel.unpack, r < s := by
  rw [← unpacked_lt_iff]
  change x.lt y ↔ _
  simp [Float.lt]
  rfl

section Ranks

variable {x y z : Float}

-- The rank of a double, below all others if it is a nan.
def rank (x : Float) : WithBot (Int ×ₗ Int ×ₗ Int) :=
  rank? x.toModel.unpack

theorem float_le_iff_rank_le (h : rank x ≠ ⊥) : x ≤ y ↔ rank x ≤ rank y := by
  obtain ⟨r, hr⟩ := WithBot.ne_bot_iff_exists.mp h
  have hx : rank? x.toModel.unpack = some r := hr.symm
  rw [float_le_iff, ← hr, WithBot.coe_le_iff, hx]
  simp only [Option.mem_some_iff, exists_eq_left']
  exact Iff.rfl

theorem float_lt_iff_rank_lt (h : rank x ≠ ⊥) : x < y ↔ rank x < rank y := by
  obtain ⟨r, hr⟩ := WithBot.ne_bot_iff_exists.mp h
  have hx : rank? x.toModel.unpack = some r := hr.symm
  rw [float_lt_iff, ← hr, WithBot.lt_iff_exists, hx]
  simp only [Option.mem_some_iff, exists_eq_left', WithBot.coe_inj, forall_eq']
  exact Iff.rfl

theorem rank_ne_bot_of_le (h : x ≤ y) : rank x ≠ ⊥ ∧ rank y ≠ ⊥ := by
  obtain ⟨r, hr, s, hs, -⟩ := float_le_iff.mp h
  exact ⟨WithBot.ne_bot_iff_exists.mpr ⟨r, hr.symm⟩, WithBot.ne_bot_iff_exists.mpr ⟨s, hs.symm⟩⟩

theorem rank_ne_bot_of_lt (h : x < y) : rank x ≠ ⊥ ∧ rank y ≠ ⊥ := by
  obtain ⟨r, hr, s, hs, -⟩ := float_lt_iff.mp h
  exact ⟨WithBot.ne_bot_iff_exists.mpr ⟨r, hr.symm⟩, WithBot.ne_bot_iff_exists.mpr ⟨s, hs.symm⟩⟩

theorem rank_lt_of_lt (h : x < y) : rank x < rank y :=
  (float_lt_iff_rank_lt (rank_ne_bot_of_lt h).1).mp h

theorem float_le_trans (h : x ≤ y) (h' : y ≤ z) : x ≤ z := by
  have ⟨hx, hy⟩ := rank_ne_bot_of_le h
  rw [float_le_iff_rank_le hx] at h ⊢
  exact h.trans ((float_le_iff_rank_le hy).mp h')

theorem float_not_le_of_lt (h : x < y) : ¬y ≤ x := by
  rw [float_le_iff_rank_le (rank_ne_bot_of_lt h).2, not_le]
  exact rank_lt_of_lt h

end Ranks

end ModuleDiscovery.Number
