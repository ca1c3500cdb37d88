import ModuleDiscovery.Proofs.Number.Finite
import ModuleDiscovery.Proofs.Results
import ModuleDiscovery.Proofs.Settings.Nesting
import ModuleDiscovery.Settings.Threshold

namespace ModuleDiscovery

namespace Failure

variable {α : Type}

-- A refusal is told unless it would have to show too long an integer, or a value that is nested too deep.
theorem ofRefusal_cases (room : Nat) (v : Value) (r : Refusal) :
    (ofRefusal (α := α) ((v.checkWritten room).map fun _ => r) = .error (.refused r) ∧
      v.hasLongInt = false ∧ v.depth ≤ room) ∨
    (ofRefusal (α := α) ((v.checkWritten room).map fun _ => r) = .error (.numeral .tooLong) ∧ v.hasLongInt) ∨
    (ofRefusal (α := α) ((v.checkWritten room).map fun _ => r) = .error (.tooDeep writing) ∧ room < v.depth) := by
  rcases v.checkWritten_cases room with ⟨hw, hs⟩ | ⟨hw, hl⟩ | ⟨hw, hd⟩ <;> rw [hw]
  case inl     => exact .inl ⟨rfl, hs⟩
  case inr.inl => exact .inr (.inl ⟨rfl, hl⟩)
  case inr.inr => exact .inr (.inr ⟨rfl, hd⟩)

end Failure

namespace Threshold

open Number

-- What the check is said to come to.
inductive Documented (v : Value) : Except Failure Float → Prop
  | accepted {x}   : x.isFinite → 0.0 ≤ x → Documented v (.ok x)
  | refused reason : Documented v (.error (.refused (.threshold v reason)))

-- What else it comes to. An integer that is too large for a double cannot even be found to be finite, so that no
-- integer is ever shown that is too long.
inductive Escapes : Value → Failure → Prop
  | tooLarge {n} : Number.tooLarge ≤ n.natAbs → Escapes (.int n) .intTooLarge
  | tooLong {v}  : v.hasLongInt → (∀ n, v ≠ .int n) → Escapes v (.numeral .tooLong)
  | tooDeep {v}  : Value.maxDepth < v.depth → Escapes v (.tooDeep Failure.writing)

variable {v : Value} {x : Float} {n : Int}

theorem refuse_cases (v : Value) (reason : String) :
    (refuse (α := Float) v reason = .error (.refused (.threshold v reason)) ∧
      v.hasLongInt = false ∧ v.depth ≤ Value.maxDepth) ∨
    (refuse (α := Float) v reason = .error (.numeral .tooLong) ∧ v.hasLongInt) ∨
    (refuse (α := Float) v reason = .error (.tooDeep Failure.writing) ∧ Value.maxDepth < v.depth) :=
  Failure.ofRefusal_cases Value.maxDepth v (.threshold v reason)

theorem documented_refuse (h : v.hasLongInt = false) (hd : v.depth ≤ Value.maxDepth) (reason : String) :
    Documented v (refuse v reason) := by
  rcases refuse_cases v reason with ⟨hr, -⟩ | ⟨-, hl⟩ | ⟨-, hk⟩
  case inl     => exact hr ▸ .refused reason
  case inr.inl => simp [h] at hl
  case inr.inr => exact absurd hd (Nat.not_le.mpr hk)

theorem documented_check (h : v.hasLongInt = false) (hd : v.depth ≤ Value.maxDepth) : Documented v (check v x) := by
  unfold check
  split
  case h_1 => exact documented_refuse h hd _
  case h_2 => exact documented_refuse h hd _
  case h_3 hx =>
    split
    case isTrue      => exact documented_refuse h hd _
    case isFalse hlt =>
      have hf := isFinite_of_ofFloat hx
      exact .accepted hf (float_le_of_not_lt hf (by decide +kernel) hlt)

theorem tooLarge_le_pow {k : Nat} (hk : 342 ≤ k) : tooLarge ≤ Nat.pow 10 k :=
  calc tooLarge
    _ ≤ 2 ^ 1024    := Nat.sub_le ..
    _ ≤ 2 ^ (3 * k) := pow_le_pow_right₀ one_le_two (by omega)
    _ = (2 ^ 3) ^ k := pow_mul ..
    _ ≤ 10 ^ k      := pow_le_pow_left₀ (by decide) (by decide) _

theorem hasLongInt_of_lt_tooLarge (h : n.natAbs < tooLarge) : (Value.int n).hasLongInt = false := by
  rw [Value.hasLongInt, decide_eq_false_iff_not]
  exact Nat.not_le.mpr (h.trans_le (tooLarge_le_pow (by decide)))

-- Numbers are not nested at all.
theorem depth_le_maxDepth (h : v.depth = 1) : v.depth ≤ Value.maxDepth :=
  h ▸ Nat.le_add_left 1 979

theorem ofValue_cases (v : Value) :
    (Documented v (ofValue v) ∧ ∀ f, ¬Escapes v f) ∨ ∃ f, ofValue v = .error f ∧ Escapes v f := by
  have hother (hr : ofValue v = refuse v "must be a real number") (hn : ∀ n, v ≠ .int n) :
      (Documented v (ofValue v) ∧ ∀ f, ¬Escapes v f) ∨ ∃ f, ofValue v = .error f ∧ Escapes v f := by
    rw [hr]
    rcases refuse_cases v "must be a real number" with ⟨-, hl, hd⟩ | ⟨hw, hl⟩ | ⟨hw, hd⟩
    case inl =>
      refine .inl ⟨documented_refuse hl hd _, fun f hf => ?_⟩
      cases hf
      case tooLarge n _  => exact hn n rfl
      case tooLong hl' _ => simp [hl] at hl'
      case tooDeep hk    => exact Nat.not_le.mpr hk hd
    case inr.inl => exact .inr ⟨_, hw, .tooLong hl hn⟩
    case inr.inr => exact .inr ⟨_, hw, .tooDeep hd⟩
  have hone {v : Value} (h : v.depth = 1) : ¬Value.maxDepth < v.depth := Nat.not_lt.mpr (depth_le_maxDepth h)
  cases v
  case real x =>
    refine .inl ⟨documented_check rfl (depth_le_maxDepth rfl), fun f hf => ?_⟩
    cases hf
    case tooLong   => contradiction
    case tooDeep h => exact hone rfl h
  case int n =>
    by_cases hn : tooLarge ≤ n.natAbs
    case pos =>
      have hf : ofValue (.int n) = .error .intTooLarge := by rw [ofValue, floatOfInt_eq_none.mpr hn]
      exact .inr ⟨_, hf, .tooLarge hn⟩
    case neg =>
      obtain ⟨x, hx⟩ := Option.ne_none_iff_exists'.mp (mt floatOfInt_eq_none.mp hn)
      have hc : ofValue (.int n) = check (.int n) x := by rw [ofValue, hx]
      have hl := hasLongInt_of_lt_tooLarge (Nat.not_le.mp hn)
      refine .inl ⟨hc ▸ documented_check hl (depth_le_maxDepth rfl), fun f hf => ?_⟩
      cases hf
      case tooLarge h   => exact hn h
      case tooLong _ hi => exact hi n rfl
      case tooDeep h    => exact hone rfl h
  all_goals exact hother rfl fun _ => nofun

end Threshold
end ModuleDiscovery
