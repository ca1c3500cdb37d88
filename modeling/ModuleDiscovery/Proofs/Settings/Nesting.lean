import Mathlib.Data.Nat.Basic
import Mathlib.Order.Basic
import ModuleDiscovery.Value

namespace ModuleDiscovery.Value

open Number

mutual

-- Whether an integer in a value has more digits than are written.
def hasLongInt : Value → Bool
  | int n    => Nat.pow 10 maxIntDigits ≤ n.natAbs
  | list vs  => anyLongInt vs
  | tuple vs => anyLongInt vs
  | table es => anyLongEntry es
  | map es   => anyLongPair es
  | _        => false

def anyLongInt : List Value → Bool
  | []      => false
  | v :: vs => hasLongInt v || anyLongInt vs

def anyLongEntry : List (String × Value) → Bool
  | []           => false
  | (_, v) :: es => hasLongInt v || anyLongEntry es

def anyLongPair : List (Value × Value) → Bool
  | []           => false
  | (k, v) :: es => hasLongInt k || (hasLongInt v || anyLongPair es)

end

mutual

-- How many values stand inside one another.
def depth : Value → Nat
  | list vs  => depths vs + 1
  | tuple vs => depths vs + 1
  | table es => entryDepths es + 1
  | map es   => pairDepths es + 1
  | moment m => m.zoneDepth + 1
  | _        => 1

def depths : List Value → Nat
  | []      => 0
  | v :: vs => max (depth v) (depths vs)

def entryDepths : List (String × Value) → Nat
  | []           => 0
  | (_, v) :: es => max (depth v) (entryDepths es)

def pairDepths : List (Value × Value) → Nat
  | []           => 0
  | (k, v) :: es => max (depth k) (max (depth v) (pairDepths es))

end

variable {v : Value} {k d e : Nat} {l m : Bool} {x y : Option NumeralFault}

theorem depth_pos (v : Value) : 0 < v.depth := by
  cases v <;> exact Nat.succ_pos _

section Parts

variable {vs : List Value} {es : List (Value × Value)} {w : Value}

theorem anyLongInt_eq_any : anyLongInt vs = vs.any hasLongInt := by
  induction vs
  case nil          => rfl
  case cons u us ih => rw [anyLongInt, ih, List.any_cons]

theorem anyLongPair_eq_any : anyLongPair es = es.any fun e => e.1.hasLongInt || e.2.hasLongInt := by
  induction es
  case nil          => rfl
  case cons d ds ih => rw [anyLongPair, ih, List.any_cons, Bool.or_assoc]

theorem depths_le_iff : depths vs ≤ k ↔ ∀ v ∈ vs, v.depth ≤ k := by
  induction vs
  case nil          => simp [depths]
  case cons u us ih => rw [depths, Nat.max_le, ih, List.forall_mem_cons]

theorem pairDepths_le_iff : pairDepths es ≤ k ↔ ∀ e ∈ es, e.1.depth ≤ k ∧ e.2.depth ≤ k := by
  induction es
  case nil          => simp [pairDepths]
  case cons d ds ih => rw [pairDepths, Nat.max_le, Nat.max_le, ih, List.forall_mem_cons, and_assoc]

-- A value that may stand in another one: it is neither longer nor deeper.
structure Within (v w : Value) : Prop where
  hasLongInt : v.hasLongInt → w.hasLongInt
  depth      : v.depth ≤ w.depth

namespace Within

theorem refl (v : Value) : Within v v :=
  ⟨id, le_rfl⟩

theorem list (h : v ∈ vs) : Within v (list vs) where
  hasLongInt hl := by
    rw [Value.hasLongInt, anyLongInt_eq_any]
    exact List.any_eq_true.mpr ⟨v, h, hl⟩
  depth := Nat.le_succ_of_le (depths_le_iff.mp le_rfl v h)

-- A tuple of the same values is as long and as deep as a list of them.
theorem tuple (h : v ∈ vs) : Within v (tuple vs) :=
  ⟨(list h).hasLongInt, (list h).depth⟩

theorem key {e : Value × Value} (h : e ∈ es) : Within e.1 (map es) where
  hasLongInt hl := by
    rw [Value.hasLongInt, anyLongPair_eq_any]
    exact List.any_eq_true.mpr ⟨e, h, Bool.or_eq_true_iff.mpr (.inl hl)⟩
  depth := Nat.le_succ_of_le (pairDepths_le_iff.mp le_rfl e h).1

-- Nothing is shorter or less nested than a text.
theorem text {s : String} (w : Value) : Within (text s) w :=
  ⟨nofun, w.depth_pos⟩

end Within

end Parts

-- What comes of writing values with room for `k` inside one another, if so many are and if one of their integers is
-- too long. A value that is too long and too deep is given up for what comes first.
inductive Extent (l : Bool) (d k : Nat) : Option NumeralFault → Prop
  | written : l = false → d ≤ k → Extent l d k none
  | tooLong : l → Extent l d k (some .tooLong)
  | tooDeep : k < d → Extent l d k (some .tooDeep)

namespace Extent

theorem or (hx : Extent l d k x) (hy : Extent m e k y) : Extent (l || m) (max d e) k (x.or y) := by
  cases hx
  case tooLong hl => exact .tooLong (by rw [hl, Bool.true_or])
  case tooDeep hd => exact .tooDeep (hd.trans_le (Nat.le_max_left ..))
  case written hl hd =>
    cases hy
    case written hm he => exact .written (by rw [hl, hm, Bool.false_or]) (Nat.max_le.mpr ⟨hd, he⟩)
    case tooLong hm    => exact .tooLong (by rw [hm, Bool.or_true])
    case tooDeep he    => exact .tooDeep (he.trans_le (Nat.le_max_right ..))

-- The value that holds others takes a place of its own.
theorem within (h : Extent l d k x) : Extent l (d + 1) (k + 1) x := by
  cases h
  case written hl hd => exact .written hl (Nat.succ_le_succ hd)
  case tooLong hl    => exact .tooLong hl
  case tooDeep hd    => exact .tooDeep (Nat.succ_lt_succ hd)

theorem eq_none_iff (h : Extent l d k x) : x = none ↔ l = false ∧ d ≤ k := by
  cases h
  case written hl hd => exact iff_of_true rfl ⟨hl, hd⟩
  case tooLong hl    => exact iff_of_false nofun fun h => by simp [hl] at h
  case tooDeep hd    => exact iff_of_false nofun fun h => Nat.not_le.mpr hd h.2

end Extent

mutual

theorem extent_writeFault? (v : Value) (k : Nat) : Extent v.hasLongInt v.depth k (v.writeFault? k) := by
  cases k
  case zero =>
    have hz : v.writeFault? 0 = some .tooDeep := by cases v <;> rfl
    exact hz ▸ .tooDeep v.depth_pos
  case succ k =>
    cases v
    case list vs  => exact (extent_firstFault? vs k).within
    case tuple vs => exact (extent_firstFault? vs k).within
    case table es => exact (extent_entryFault? es k).within
    case map es   => exact (extent_pairFault? es k).within
    case int n =>
      rw [writeFault?, hasLongInt]
      split
      case isTrue h  => exact .tooLong (decide_eq_true h)
      case isFalse h => exact .written (decide_eq_false h) (Nat.le_add_left 1 k)
    case moment m =>
      rw [writeFault?]
      split
      case isTrue h  => exact .tooDeep (Nat.succ_lt_succ h)
      case isFalse h => exact .written rfl (Nat.succ_le_succ (Nat.not_lt.mp h))
    all_goals exact .written rfl (Nat.le_add_left 1 k)

theorem extent_firstFault? (vs : List Value) (k : Nat) :
    Extent (anyLongInt vs) (depths vs) k (firstFault? vs k) := by
  cases vs
  case nil       => exact .written rfl k.zero_le
  case cons v vs => exact (extent_writeFault? v k).or (extent_firstFault? vs k)

theorem extent_entryFault? (es : List (String × Value)) (k : Nat) :
    Extent (anyLongEntry es) (entryDepths es) k (entryFault? es k) := by
  cases es
  case nil       => exact .written rfl k.zero_le
  case cons e es => exact (extent_writeFault? e.2 k).or (extent_entryFault? es k)

theorem extent_pairFault? (es : List (Value × Value)) (k : Nat) :
    Extent (anyLongPair es) (pairDepths es) k (pairFault? es k) := by
  cases es
  case nil       => exact .written rfl k.zero_le
  case cons e es =>
    exact (extent_writeFault? e.1 k).or ((extent_writeFault? e.2 k).or (extent_pairFault? es k))

end

-- Only integers that are too long and values that are nested too deep are not written.
theorem checkWritten_cases (room : Nat) (v : Value) :
    (v.checkWritten room = .ok () ∧ v.hasLongInt = false ∧ v.depth ≤ room) ∨
    (v.checkWritten room = .error .tooLong ∧ v.hasLongInt) ∨
    (v.checkWritten room = .error .tooDeep ∧ room < v.depth) := by
  have h := extent_writeFault? v room
  unfold checkWritten
  cases hx : v.writeFault? room <;> rw [hx] at h <;> cases h
  case none.written hl hd => exact .inl ⟨rfl, hl, hd⟩
  case some.tooLong hl    => exact .inr (.inl ⟨rfl, hl⟩)
  case some.tooDeep hd    => exact .inr (.inr ⟨rfl, hd⟩)

theorem checkWritten_eq_ok : v.checkWritten k = .ok () ↔ v.hasLongInt = false ∧ v.depth ≤ k := by
  rw [← (extent_writeFault? v k).eq_none_iff, checkWritten]
  cases v.writeFault? k <;> simp

end ModuleDiscovery.Value
