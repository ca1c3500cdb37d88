import Mathlib.Data.List.Infix
import ModuleDiscovery.Proofs.Results
import ModuleDiscovery.Toml.Document

namespace ModuleDiscovery.Toml

open Number

-- Digits, with underscores anywhere between them.
def IsRow (ds : List Char) : Prop :=
  ∀ d ∈ ds, d.isDigit ∨ d = '_'

-- The nesting that the brackets and braces of a text could make. Each takes as much as one level of it does.
def weight (cs : List Char) : Nat :=
  2 * cs.count '[' + 3 * cs.count '\x7b'

-- What a failure to read a text means, where there is room for some more nesting.
inductive Cause (room : Nat) (cs : List Char) : ReadFault → Prop
  | malformed f  : Cause room cs (.malformed f)
  | longInt {ds} : ds <:+: cs → IsRow ds → maxIntDigits < (Scalar.plain ds).length →
    Cause room cs (.longInt (Scalar.plain ds).length)
  | tooDeep      : room < weight cs → Cause room cs .tooDeep

-- Results that leave a rest of a text, and failures that the text is the cause of.
structure Outcome {α : Type} (room : Nat) (cs : List Char) (tail : α → List Char) (x : Except ReadFault α) : Prop where
  suffix : ∀ a, x = .ok a → tail a <:+ cs
  cause  : ∀ f, x = .error f → Cause room cs f

section Rules

variable {α β : Type} {room room' : Nat} {cs ds : List Char} {tail : α → List Char} {tail' : β → List Char}
  {x : Except ReadFault α} {a : α} {f : ReadFault}

theorem weight_le (h : ds <:+ cs) : weight ds ≤ weight cs := by
  have hl := h.sublist.count_le '['
  have ht := h.sublist.count_le '\x7b'
  unfold weight
  omega

theorem Cause.mono (h : Cause room ds f) (hs : ds <:+ cs) (hw : room < weight ds → room' < weight cs) :
    Cause room' cs f := by
  cases h
  case malformed        => exact .malformed _
  case longInt hi hr hl => exact .longInt (hi.trans hs.isInfix) hr hl
  case tooDeep h        => exact .tooDeep (hw h)

namespace Outcome

theorem ok (h : tail a <:+ cs) : Outcome room cs tail (.ok a) where
  suffix b hb := by cases hb; exact h
  cause f hf := by cases hf

theorem error (h : Cause room cs f) : Outcome room cs tail (.error f) where
  suffix b hb := by cases hb
  cause g hg := by cases hg; exact h

theorem fail (c : Cursor) (kind : Fault.Kind) : Outcome room cs tail (c.fail kind) :=
  .error (.malformed _)

theorem bind {g : α → Except ReadFault β} (h : Outcome room cs tail x)
    (hg : ∀ a, tail a <:+ cs → Outcome room cs tail' (g a)) : Outcome room cs tail' (x >>= g) := by
  cases x
  case error e => exact .error (h.cause e rfl)
  case ok a    => exact hg a (h.suffix a rfl)

theorem map {g : α → β} (h : Outcome room cs tail x) (hg : ∀ a, tail' (g a) <:+ tail a) :
    Outcome room cs tail' (x.map g) := by
  cases x
  case error e => exact .error (h.cause e rfl)
  case ok a    => exact .ok ((hg a).trans (h.suffix a rfl))

theorem ite {p : Prop} [Decidable p] {y : Except ReadFault α} (hx : Outcome room cs tail x)
    (hy : Outcome room cs tail y) : Outcome room cs tail (if p then x else y) := by
  split
  case isTrue  => exact hx
  case isFalse => exact hy

-- Behind a check of the position.
theorem check {p : Prop} [Decidable p] {c : Cursor} {kind : Fault.Kind} {g : β → Except ReadFault α}
    (hx : Outcome room cs tail x) : Outcome room cs tail (if p then c.fail kind >>= g else x) :=
  .ite (.error (.malformed _)) hx

theorem deeper (room : Nat) (ds : List Char) (h : Outcome room ds tail x) (hs : ds <:+ cs)
    (hw : room < weight ds → room' < weight cs) : Outcome room' cs tail x where
  suffix a ha := (h.suffix a ha).trans hs
  cause f hf := (h.cause f hf).mono hs hw

-- Of what is left of a text nothing is worse.
theorem mono (h : Outcome room ds tail x) (hs : ds <:+ cs) : Outcome room cs tail x :=
  h.deeper room ds hs (·.trans_le (weight_le hs))

end Outcome
end Rules

namespace Scalar

variable {p : Char → Bool} {cs ds : List Char} {room : Nat}

end Scalar

namespace Cursor

variable {room n : Nat} {c : Cursor} {bad : Char → Bool}

-- The outcome of a reader that gives what it has read with the position behind it.
abbrev Reads {α : Type} (room : Nat) (c : Cursor) (x : Except ReadFault (α × Cursor)) : Prop :=
  Outcome room c.rest (·.2.rest) x

section Texts

end Texts

section Paths

end Paths

end Cursor

namespace Inline

open Cursor

variable {room fuel : Nat} {c : Cursor}

end Inline

namespace Document

open Cursor

variable {room n : Nat} {c : Cursor} {d : Draft}

end Document

end ModuleDiscovery.Toml
