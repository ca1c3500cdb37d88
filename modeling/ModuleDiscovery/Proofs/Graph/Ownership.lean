import ModuleDiscovery.Graph.Key
import Mathlib.Data.List.Infix

namespace ModuleDiscovery

namespace Text

-- Whether a text stands at a position of another one.
def OccursAt (t s : String) (p : Nat) : Prop :=
  t.toList <+: s.toList.drop p

instance (t s : String) (p : Nat) : Decidable (OccursAt t s p) :=
  inferInstanceAs (Decidable (t.toList <+: s.toList.drop p))

theorem OccursAt.lt_length {t s : String} {p : Nat} (h : OccursAt t s p) (ht : t ≠ "") : p < s.length := by
  by_contra hp
  rw [← String.length_toList, Nat.not_lt, ← List.drop_eq_nil_iff] at hp
  rw [OccursAt, hp, List.prefix_nil] at h
  exact ht (String.toList_eq_nil_iff.mp h)

end Text

namespace Separator

variable {sep : Separator} {t : String} {cs u v : List Char}

theorem ofValue_text (h : t ≠ "") : ofValue (.text t) = .ok ⟨t.toList, by simpa using h⟩ := by
  rw [ofValue, dif_neg]

-- The separator ends a text and occurs nowhere behind that.
structure IsLastBehind (sep : Separator) (u cs : List Char) : Prop where
  ends  : u ++ sep.chars <+: cs
  isLast : ∀ p, u.length < p → ¬sep.chars <+: cs.drop p

theorem IsLastBehind.occurs (h : sep.IsLastBehind u cs) : sep.chars <+: cs.drop u.length := by
  obtain ⟨m, rfl⟩ := h.ends
  simp

-- There is no choice between two places, as neither can be behind the other.
theorem IsLastBehind.unique (hu : sep.IsLastBehind u cs) (hv : sep.IsLastBehind v cs) : u = v := by
  have hl : u.length = v.length :=
    Nat.le_antisymm (Nat.not_lt.mp fun h => hv.isLast _ h hu.occurs) (Nat.not_lt.mp fun h => hu.isLast _ h hv.occurs)
  have hu : u <+: cs := (List.prefix_append u _).trans hu.ends
  have hv : v <+: cs := (List.prefix_append v _).trans hv.ends
  exact (List.prefix_of_prefix_length_le hu hv hl.le).eq_of_length hl

theorem before?_eq_none_iff : sep.before? cs = none ↔ ∀ p, ¬sep.chars <+: cs.drop p := by
  induction cs
  case nil => simp [sep.nonempty]
  case cons c cs ih =>
    rw [before?]
    cases h : sep.before? cs
    case none =>
      have ih := ih.mp h
      constructor
      case mp =>
        intro hc p
        cases p
        case zero   => simpa using hc
        case succ p => exact ih p
      case mpr => exact fun hp => by simpa using hp 0
    case some =>
      refine iff_of_false (Option.some_ne_none _) fun hp => ?_
      exact absurd (ih.mpr fun p => hp (p + 1)) (h ▸ Option.some_ne_none _)

theorem isLastBehind_of_before? (h : sep.before? cs = some u) : sep.IsLastBehind u cs := by
  induction cs generalizing u
  case nil => cases h
  case cons c cs ih =>
    rw [before?] at h
    split at h
    case h_1 v hv =>
      obtain rfl := Option.some.inj h
      obtain ⟨he, hl⟩ := ih hv
      refine ⟨by simpa using he, fun p hp => ?_⟩
      obtain ⟨p, rfl⟩ := Nat.exists_eq_succ_of_ne_zero (Nat.ne_zero_of_lt hp)
      exact hl p (Nat.lt_of_succ_lt_succ hp)
    case h_2 hn =>
      split at h
      case isFalse => cases h
      case isTrue hc =>
        obtain rfl := Option.some.inj h
        refine ⟨by simpa using hc, fun p hp => ?_⟩
        obtain ⟨p, rfl⟩ := Nat.exists_eq_succ_of_ne_zero (Nat.ne_zero_of_lt hp)
        exact before?_eq_none_iff.mp hn p

theorem before?_eq_some_iff : sep.before? cs = some u ↔ sep.IsLastBehind u cs := by
  refine ⟨isLastBehind_of_before?, fun h => ?_⟩
  have hn : sep.before? cs ≠ none := fun hn => before?_eq_none_iff.mp hn _ h.occurs
  obtain ⟨v, hv⟩ := Option.ne_none_iff_exists'.mp hn
  rw [hv, (isLastBehind_of_before? hv).unique h]

end Separator

section Keys

open Separator Text

variable {sep : Separator} {key u : String}

theorem owningUnit_eq_some_iff :
    owningUnit sep key = some u ↔ u ≠ "" ∧ sep.IsLastBehind u.toList key.toList := by
  rw [← before?_eq_some_iff, owningUnit]
  split
  case h_1 c cs h =>
    rw [h, Option.some_inj, Option.some_inj]
    constructor
    case mp => rintro rfl; simp
    case mpr => exact fun ⟨_, h⟩ => by rw [h, String.ofList_toList]
  case h_2 h =>
    refine iff_of_false nofun fun ⟨hu, hb⟩ => ?_
    obtain ⟨c, cs, hc⟩ := List.exists_cons_of_ne_nil (mt String.toList_eq_nil_iff.mp hu)
    exact h c cs (hc ▸ hb)

theorem owningUnit_eq_none_iff : owningUnit sep key = none ↔
    (∀ p, ¬sep.chars <+: key.toList.drop p) ∨ sep.IsLastBehind [] key.toList := by
  rw [← before?_eq_none_iff, ← before?_eq_some_iff, owningUnit]
  split
  case h_1 h => simp [h]
  case h_2 h =>
    refine iff_of_true rfl ?_
    match hb : sep.before? key.toList with
    | none          => exact .inl rfl
    | some []       => exact .inr rfl
    | some (c :: cs) => exact absurd hb (h c cs)

theorem isLastBehind_iff {t : String} (h : t.toList ≠ []) : IsLastBehind ⟨t.toList, h⟩ u.toList key.toList ↔
    (∃ m, key = u ++ t ++ m) ∧ ∀ p, u.length < p → ¬OccursAt t key p := by
  have he : u.toList ++ t.toList <+: key.toList ↔ ∃ m, key = u ++ t ++ m := by
    constructor
    case mp =>
      rintro ⟨m, hm⟩
      exact ⟨String.ofList m, String.toList_inj.mp (by simp [← hm])⟩
    case mpr =>
      rintro ⟨m, rfl⟩
      exact ⟨m.toList, by simp⟩
  rw [← he, ← String.length_toList]
  exact ⟨fun h => ⟨h.ends, h.isLast⟩, fun h => ⟨h.1, h.2⟩⟩

-- A unit that holds the separator is found all the same, as long as its method adds no occurrence.
theorem owningUnit_ends_at_last_separator {t : String} (ht : t ≠ "") :
    ∃ sep, Separator.ofValue (.text t) = .ok sep ∧
      (∀ key u, owningUnit sep key = some u ↔
        u ≠ "" ∧ (∃ m, key = u ++ t ++ m) ∧ ∀ p, u.length < p → ¬OccursAt t key p) ∧
      (∀ key, owningUnit sep key = none ↔
        (∀ p, ¬OccursAt t key p) ∨ OccursAt t key 0 ∧ ∀ p, 0 < p → ¬OccursAt t key p) ∧
      ∀ u m, u ≠ "" → (∀ p, OccursAt t (t ++ m) p → p = 0) → owningUnit sep (u ++ t ++ m) = some u := by
  refine ⟨_, ofValue_text ht, fun key u => ?owned, fun key => ?unowned, fun u m hu hm => ?qualified⟩
  case owned => rw [owningUnit_eq_some_iff, isLastBehind_iff]
  case unowned =>
    rw [owningUnit_eq_none_iff]
    exact or_congr .rfl ⟨fun h => ⟨h.ends, h.isLast⟩, fun h => ⟨h.1, h.2⟩⟩
  case qualified =>
    rw [owningUnit_eq_some_iff, isLastBehind_iff]
    refine ⟨hu, ⟨m, rfl⟩, fun p hp ho => ?_⟩
    -- Behind the unit the positions in the key are those in the separator and the method.
    obtain ⟨q, rfl⟩ := Nat.exists_eq_add_of_lt hp
    have hq : OccursAt t (t ++ m) (q + 1) := by
      rwa [OccursAt, String.append_assoc, String.toList_append, Nat.add_assoc, ← String.length_toList,
        List.drop_length_add_append] at ho
    exact absurd (hm _ hq) q.succ_ne_zero

-- A separator that overlaps itself, behind a unit that holds it.
theorem owningUnit_ends_at_last_separator_colons :
    ∃ sep, Separator.ofValue (.text "::") = .ok sep ∧
      owningUnit sep ("a::b:" ++ "::" ++ "f") = some "a::b:" ∧ owningUnit sep "::f" = none := by
  have ⟨sep, hs, _, hn, hq⟩ := owningUnit_ends_at_last_separator (t := "::") (by decide)
  have ho : ∀ p, OccursAt "::" "::f" p → p = 0 := fun p hp =>
    (by decide : ∀ p < 3, OccursAt "::" "::f" p → p = 0) p (hp.lt_length (by decide)) hp
  exact ⟨sep, hs, hq "a::b:" "f" (by decide) ho,
    (hn "::f").mpr (.inr ⟨by decide, fun p hp h => hp.ne' (ho p h)⟩)⟩

end Keys
end ModuleDiscovery
