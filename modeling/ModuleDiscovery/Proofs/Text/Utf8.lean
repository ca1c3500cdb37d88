import Mathlib.Data.List.Basic
import ModuleDiscovery.Proofs.Results
import ModuleDiscovery.Text.Bytes

namespace ModuleDiscovery.Text

namespace Utf8

variable {b c : UInt8} {bits k n offset : Nat} {bs : Bytes} {x : Char} {r : Char × Bytes}

theorem tail_succ : tail offset b bits k (n + 1) bs = .ok r ↔
    ∃ c cs, bs = c :: cs ∧ continues b k c ∧ tail offset b (bits * 0x40 + c.toNat % 0x40) (k + 1) n cs = .ok r := by
  cases bs
  case nil => simp [tail]
  case cons c cs =>
    rw [tail]
    by_cases hc : continues b k c <;> simp [hc]

theorem tail_zero : tail offset b bits k 0 bs = .ok r ↔ r = (Char.ofNat bits, bs) := by
  rw [tail, Except.ok.injEq, eq_comm]

-- The second byte of a character is bounded further where the first one leaves room for too much.
theorem continues_one : continues b 1 c ↔ 0x80 ≤ c.toNat ∧ c.toNat < 0xc0 ∧
    (b.toNat = 0xe0 → 0xa0 ≤ c.toNat) ∧ (b.toNat = 0xed → c.toNat < 0xa0) ∧
    (b.toNat = 0xf0 → 0x90 ≤ c.toNat) ∧ (b.toNat = 0xf4 → c.toNat < 0x90) := by
  simp only [continues, ← UInt8.toNat_inj, UInt8.le_iff_toNat_le, UInt8.lt_iff_toNat_lt]
  grind

theorem continues_of_ne (hk : k ≠ 1) : continues b k c ↔ 0x80 ≤ c.toNat ∧ c.toNat < 0xc0 := by
  simp [continues, hk, UInt8.le_iff_toNat_le, UInt8.lt_iff_toNat_lt]

theorem tailLength?_eq_some : tailLength? b = some n ↔
    n = 0 ∧ b.toNat < 0x80 ∨ n = 1 ∧ 0xc2 ≤ b.toNat ∧ b.toNat < 0xe0 ∨
    n = 2 ∧ 0xe0 ≤ b.toNat ∧ b.toNat < 0xf0 ∨ n = 3 ∧ 0xf0 ≤ b.toNat ∧ b.toNat < 0xf5 := by
  simp only [tailLength?, UInt8.le_iff_toNat_le, UInt8.lt_iff_toNat_lt]
  grind

theorem eq_ofNat {m : Nat} (h : b.toNat = m) : b = UInt8.ofNat m := by
  rw [← h, UInt8.ofNat_toNat]

-- What is read as a character is what the character is encoded to.
theorem eq_encodeChar_append {cs : Bytes} (hn : tailLength? b = some n)
    (ht : tail offset b (leadBits b n) 1 n bs = .ok (x, cs)) : b :: bs = String.utf8EncodeChar x ++ cs := by
  have hv {m : Nat} (hm : m.isValidChar) : (Char.ofNat m).val.toNat = m := toNat_ofNat hm
  obtain ⟨rfl, hb⟩ | ⟨rfl, hb⟩ | ⟨rfl, hb⟩ | ⟨rfl, hb⟩ := tailLength?_eq_some.mp hn
  case inl =>
    cases tail_zero.mp ht
    simp only [String.utf8EncodeChar, leadBits]
    rw [hv (by unfold Nat.isValidChar; omega), if_pos (by omega), UInt8.ofNat_toNat, List.singleton_append]
  case inr.inl =>
    obtain ⟨c₁, cs, rfl, h₁, ht⟩ := tail_succ.mp ht
    cases tail_zero.mp ht
    rw [continues_one] at h₁
    simp only [String.utf8EncodeChar, leadBits]
    rw [hv (by unfold Nat.isValidChar; omega), if_neg (by omega), if_pos (by omega)]
    simp only [List.cons_append, List.nil_append, List.cons.injEq, and_true]
    exact ⟨eq_ofNat (by omega), eq_ofNat (by omega)⟩
  case inr.inr.inl =>
    obtain ⟨c₁, cs, rfl, h₁, ht⟩ := tail_succ.mp ht
    obtain ⟨c₂, cs, rfl, h₂, ht⟩ := tail_succ.mp ht
    cases tail_zero.mp ht
    rw [continues_one] at h₁
    rw [continues_of_ne (by decide)] at h₂
    simp only [String.utf8EncodeChar, leadBits]
    rw [hv (by unfold Nat.isValidChar; omega), if_neg (by omega), if_neg (by omega), if_pos (by omega)]
    simp only [List.cons_append, List.nil_append, List.cons.injEq, and_true]
    exact ⟨eq_ofNat (by omega), eq_ofNat (by omega), eq_ofNat (by omega)⟩
  case inr.inr.inr =>
    obtain ⟨c₁, cs, rfl, h₁, ht⟩ := tail_succ.mp ht
    obtain ⟨c₂, cs, rfl, h₂, ht⟩ := tail_succ.mp ht
    obtain ⟨c₃, cs, rfl, h₃, ht⟩ := tail_succ.mp ht
    cases tail_zero.mp ht
    rw [continues_one] at h₁
    rw [continues_of_ne (by decide)] at h₂ h₃
    simp only [String.utf8EncodeChar, leadBits]
    rw [hv (by unfold Nat.isValidChar; omega), if_neg (by omega), if_neg (by omega), if_neg (by omega)]
    simp only [List.cons_append, List.nil_append, List.cons.injEq, and_true]
    exact ⟨eq_ofNat (by omega), eq_ofNat (by omega), eq_ofNat (by omega), eq_ofNat (by omega)⟩

theorem tail_encodeChar {cs : Bytes} (h : b :: bs = String.utf8EncodeChar x ++ cs) :
    ∃ n, tailLength? b = some n ∧ tail offset b (leadBits b n) 1 n bs = .ok (x, cs) := by
  have hx : x.val.toNat < 0x110000 ∧ ¬(0xd800 ≤ x.val.toNat ∧ x.val.toNat < 0xe000) := by
    have := x.valid
    simp only [UInt32.isValidChar, Nat.isValidChar] at this
    omega
  have hv {m : Nat} (hm : m = x.val.toNat) : (x, cs) = (Char.ofNat m, cs) := by
    rw [hm]
    exact congrArg (·, cs) (Char.ofNat_toNat x).symm
  simp only [String.utf8EncodeChar] at h
  generalize x.val.toNat = v at h hx hv
  have hn (m : Nat) : (UInt8.ofNat m).toNat = m % 256 := UInt8.toNat_ofNat'
  split at h
  case isTrue h₁ =>
    obtain ⟨rfl, rfl⟩ := List.cons.inj h
    refine ⟨0, tailLength?_eq_some.mpr ?_, tail_zero.mpr (hv ?_)⟩ <;> simp only [leadBits, hn, true_and] <;> omega
  split at h
  case isTrue h₁ h₂ =>
    obtain ⟨rfl, rfl⟩ := List.cons.inj h
    refine ⟨1, tailLength?_eq_some.mpr ?_, tail_succ.mpr ⟨_, _, rfl, continues_one.mpr ?_, tail_zero.mpr (hv ?_)⟩⟩ <;>
      simp only [leadBits, hn, true_and] <;> omega
  split at h
  case isTrue h₁ h₂ h₃ =>
    obtain ⟨rfl, rfl⟩ := List.cons.inj h
    refine ⟨2, tailLength?_eq_some.mpr ?_, tail_succ.mpr ⟨_, _, rfl, continues_one.mpr ?_, tail_succ.mpr ⟨_, _, rfl,
      (continues_of_ne (by decide)).mpr ?_, tail_zero.mpr (hv ?_)⟩⟩⟩ <;> simp only [leadBits, hn, true_and] <;> omega
  case isFalse h₁ h₂ h₃ =>
    obtain ⟨rfl, rfl⟩ := List.cons.inj h
    refine ⟨3, tailLength?_eq_some.mpr ?_, tail_succ.mpr ⟨_, _, rfl, continues_one.mpr ?_, tail_succ.mpr ⟨_, _, rfl,
      (continues_of_ne (by decide)).mpr ?_, tail_succ.mpr ⟨_, _, rfl, (continues_of_ne (by decide)).mpr ?_,
      tail_zero.mpr (hv ?_)⟩⟩⟩⟩ <;> simp only [leadBits, hn, true_and] <;> omega

theorem decodeFrom_cons {xs : List Char} : decodeFrom offset (b :: bs) = .ok xs ↔
    ∃ n x cs ys, tailLength? b = some n ∧ tail offset b (leadBits b n) 1 n bs = .ok (x, cs) ∧
      decodeFrom (offset + n + 1) cs = .ok ys ∧ xs = x :: ys := by
  rw [decodeFrom]
  cases tailLength? b
  case none => simp
  case some n =>
    dsimp only
    split
    case h_1 ht => simp [ht]
    case h_2 r ht =>
      obtain ⟨x, cs⟩ := r
      cases hd : decodeFrom (offset + n + 1) cs <;> simp [Except.map, ht, hd, eq_comm]

theorem decodeFrom_eq_ok {xs : List Char} :
    decodeFrom offset bs = .ok xs ↔ bs = xs.flatMap String.utf8EncodeChar := by
  induction hl : bs.length using Nat.strongRecOn generalizing bs offset xs
  case ind l ih =>
    cases bs
    case nil =>
      cases xs
      case nil       => simp [decodeFrom]
      case cons x xs =>
        rw [decodeFrom, List.flatMap_cons]
        exact iff_of_false (by simp) fun h => String.utf8EncodeChar_ne_nil (List.append_eq_nil_iff.mp h.symm).1
    case cons b bs =>
      have hlt {n x cs} (ht : tail offset b (leadBits b n) 1 n bs = .ok (x, cs)) : cs.length < l :=
        Nat.lt_of_le_of_lt (tail_length_le ht) (hl ▸ Nat.lt_succ_self _)
      rw [decodeFrom_cons]
      constructor
      case mp =>
        rintro ⟨n, x, cs, ys, hn, ht, hd, rfl⟩
        rw [eq_encodeChar_append hn ht, List.flatMap_cons, (ih _ (hlt ht) rfl).mp hd]
      case mpr =>
        intro h
        cases xs
        case nil => contradiction
        case cons x xs =>
          rw [List.flatMap_cons] at h
          obtain ⟨n, hn, ht⟩ : ∃ n, tailLength? b = some n ∧ tail offset b (leadBits b n) 1 n bs = .ok (x, _) :=
            tail_encodeChar h
          exact ⟨n, x, _, xs, hn, ht, (ih _ (hlt ht) rfl).mpr rfl, rfl⟩

end Utf8

theorem decodeUtf8_of_plain {s : String} (h : ofPlain s.toList = s) :
    decodeUtf8 (s.toList.flatMap String.utf8EncodeChar) = .ok s := by
  rw [decodeUtf8, Utf8.decodeFrom_eq_ok.mpr rfl]
  exact congrArg Except.ok h

end ModuleDiscovery.Text
