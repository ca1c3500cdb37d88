import ModuleDiscovery.Proofs.Results
import ModuleDiscovery.Settings.Sources

namespace ModuleDiscovery

namespace Settings

-- Settings that pass all checks, whether their values are given or come from any sources.
inductive Accepted : Settings → Prop
  | given {es s} : ofFields es = .ok s → Accepted s
  | loaded {around file overrides s} : load around file overrides = .ok s → Accepted s

variable {s : Settings} {es : List (String × Value)} {v : Value} {vs : List Value} {us names : List UnitName}

theorem refuse_ne_ok {α : Type} {k r : String} {v : Value} {a : α} : refuse k v r ≠ .ok a := by
  unfold refuse Failure.ofRefusal
  split <;> exact nofun

theorem unitNames_eq_ok (h : unitNames vs = .ok names) : vs = names.map .text ∧ "" ∉ names := by
  induction vs generalizing names
  case nil =>
    cases h
    exact ⟨rfl, List.not_mem_nil⟩
  case cons v vs ih =>
    cases v
    case text t =>
      unfold unitNames at h
      dsimp only at h
      split at h
      case isTrue => exact absurd h refuse_ne_ok
      case isFalse ht =>
        have ⟨ns, hns, he⟩ := map_eq_ok.mp h
        obtain ⟨rfl, hn⟩ := ih hns
        cases he
        exact ⟨rfl, by simpa [eq_comm, ht] using hn⟩
    all_goals exact absurd h refuse_ne_ok

theorem units_eq_ok (h : units v = .ok us) :
    ∃ names : List UnitName, elements v = .ok (names.map .text) ∧ "" ∉ names ∧ us = names.eraseDups := by
  have ⟨vs, hv, h⟩    := bind_eq_ok.mp h
  have ⟨_, _, h⟩      := bind_eq_ok.mp h
  have ⟨names, hn, h⟩ := bind_eq_ok.mp h
  cases h
  obtain ⟨rfl, he⟩ := unitNames_eq_ok hn
  exact ⟨names, hv, he, rfl⟩

-- What the checks of values let through, and what they make of it.
structure Checked (es : List (String × Value)) (s : Settings) : Prop where
  names         : checkNames es = .ok ()
  threshold     : Threshold.ofValue (field es Refusal.thresholdKey) = .ok s.threshold
  units         : Settings.units (field es "allowed_units") = .ok s.allowedUnits
  unresolved    : s.unresolved = field es "unresolved_unit"
  notUnresolved : namesOne s.allowedUnits s.unresolved = false
  separator     : s.separator = field es "key_separator"
  separates     : s.separator.isSet
  precision     : s.precision = field es "weight_precision"
  notBelowZero  : isBelowZero s.precision = .ok false
  verbosity     : Verbosity.ofValue? (field es "verbosity") = some s.verbosity

theorem checked_of_ofFields (h : ofFields es = .ok s) : Checked es s := by
  unfold ofFields at h
  have ⟨_, hk, h⟩         := bind_eq_ok.mp h
  have ⟨threshold, ht, h⟩ := bind_eq_ok.mp h
  have ⟨us, hu, h⟩        := bind_eq_ok.mp h
  have ⟨hr, h⟩            := of_check (fun _ => refuse_ne_ok) h
  have ⟨hs, h⟩            := of_check (fun _ => refuse_ne_ok) h
  have ⟨below, hb, h⟩     := bind_eq_ok.mp h
  have ⟨hn, h⟩            := of_check (fun _ => refuse_ne_ok) h
  split at h
  case h_1 => exact absurd h refuse_ne_ok
  case h_2 verbosity hv =>
    cases h
    exact {
      names         := hk
      threshold     := ht
      units         := hu
      unresolved    := rfl
      notUnresolved := Bool.eq_false_iff.mpr hr
      separator     := rfl
      separates     := by simpa using hs
      precision     := rfl
      notBelowZero  := by rw [hb, Bool.eq_false_iff.mpr hn]
      verbosity     := hv }

theorem ofFields_of_load {around : Surroundings} {file : Option String} {overrides : List (String × Value)}
    (h : load around file overrides = .ok s) : ∃ es, ofFields es = .ok s := by
  unfold load at h
  have ⟨_, h⟩          := of_check (fun _ ht => by cases ht) h
  have ⟨home, _, h⟩    := bind_eq_ok.mp h
  have ⟨working, _, h⟩ := bind_eq_ok.mp h
  cases file
  all_goals
    have ⟨asked, _, h⟩  := bind_eq_ok.mp h
    have ⟨stated, _, h⟩ := bind_eq_ok.mp h
    dsimp only at h
    split at h
    case h_1 => contradiction
    case h_2 => exact ⟨_, h⟩

namespace Accepted

theorem checked (h : s.Accepted) : ∃ es, Checked es s := by
  cases h
  case given h  => exact ⟨_, checked_of_ofFields h⟩
  case loaded h =>
    have ⟨es, h⟩ := ofFields_of_load h
    exact ⟨es, checked_of_ofFields h⟩

-- An accepted number of places is a number from zero on, or a truth value.
theorem precision_cases (h : s.Accepted) :
    (∃ n : Nat, s.precision = .int n) ∨ (∃ b, s.precision = .bool b) ∨ ∃ x, s.precision = .real x := by
  have ⟨_, hc⟩ := h.checked
  have hp := hc.notBelowZero
  unfold isBelowZero at hp
  split at hp
  case h_1 n hn =>
    have hz : 0 ≤ n := by simpa using hp
    exact .inl ⟨n.toNat, by rw [hn, Int.toNat_of_nonneg hz]⟩
  case h_2 b hb => exact .inr (.inl ⟨b, hb⟩)
  case h_3 x hx => exact .inr (.inr ⟨x, hx⟩)
  case h_4      => contradiction

theorem separator_ofValue (h : s.Accepted) {t : String} (ht : s.separator = .text t) :
    ∃ sep, Separator.ofValue s.separator = .ok sep := by
  have ⟨_, hc⟩ := h.checked
  have hs := hc.separates
  rw [ht] at hs
  have hn : t.toList ≠ [] := by simpa [Value.isSet] using hs
  exact ⟨⟨t.toList, hn⟩, by rw [ht, Separator.ofValue, dif_neg hn]⟩

end Accepted
end Settings

end ModuleDiscovery
