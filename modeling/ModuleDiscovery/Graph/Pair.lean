import ModuleDiscovery.Graph.Key

namespace ModuleDiscovery

-- Two different units, of which the smaller one comes first, so that each pair has one form.
structure Pair where
  a  : UnitName
  b  : UnitName
  lt : a < b
deriving DecidableEq

-- A pair was asked for with one unit on both sides.
structure PairFault where
  unit : UnitName
deriving DecidableEq, Repr

namespace PairFault

def message (f : PairFault) : String :=
  s!"Pair must join two different units, got {Text.quoted f.unit} twice"

end PairFault

namespace Pair

variable {x y : UnitName} {p : Pair}

-- The pair of two units, in either order.
def of? (x y : UnitName) : Option Pair :=
  if h : x < y then some ⟨x, y, h⟩
  else if h : y < x then some ⟨y, x, h⟩
  else none

def of (x y : UnitName) : Except PairFault Pair :=
  match of? x y with
  | some p => .ok p
  | none   => .error ⟨x⟩

def text (p : Pair) : String :=
  s!"{p.a} -- {p.b}"

-- Order by the first unit, then by the second.
def le (p q : Pair) : Bool :=
  p.a < q.a || p.a = q.a && p.b ≤ q.b

theorem ne (p : Pair) : p.a ≠ p.b :=
  fun h => String.lt_irrefl p.a (h ▸ p.lt)

theorem of?_eq_none_iff : of? x y = none ↔ x = y := by
  unfold of?
  split
  case isTrue h =>
    simp
    rintro rfl
    exact String.lt_irrefl x h
  split
  case isTrue h =>
    simp
    rintro rfl
    exact String.lt_irrefl x h
  case isFalse h₁ h₂ => simpa using String.le_antisymm h₂ h₁

theorem of?_comm : of? x y = of? y x := by
  unfold of?
  by_cases h₁ : x < y <;> by_cases h₂ : y < x <;> simp [h₁, h₂]
  exact absurd (String.lt_trans h₁ h₂) (String.lt_irrefl x)

@[simp]
theorem of?_self (p : Pair) : of? p.a p.b = some p := by
  simp [of?, p.lt]

theorem of?_eq_some_iff : of? x y = some p ↔ x = p.a ∧ y = p.b ∨ x = p.b ∧ y = p.a := by
  constructor
  case mp =>
    intro h
    unfold of? at h
    split at h
    case isTrue =>
      injection h with h
      exact .inl ⟨h ▸ rfl, h ▸ rfl⟩
    case isFalse =>
      split at h
      case isTrue =>
        injection h with h
        exact .inr ⟨h ▸ rfl, h ▸ rfl⟩
      case isFalse => contradiction
  case mpr =>
    rintro (⟨rfl, rfl⟩ | ⟨rfl, rfl⟩)
    case inl => exact of?_self p
    case inr => rw [of?_comm, of?_self]

theorem exists_of? (h : x ≠ y) : ∃ p, of? x y = some p :=
  Option.ne_none_iff_exists'.mp (mt of?_eq_none_iff.mp h)

end Pair
end ModuleDiscovery
