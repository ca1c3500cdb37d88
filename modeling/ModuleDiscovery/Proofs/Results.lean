import Mathlib.Data.List.Forall2

namespace ModuleDiscovery

variable {ε α β : Type} {x : Except ε α}

theorem isOk_iff : x.isOk ↔ ∃ a, x = .ok a := by
  cases x <;> simp [Except.toBool]

theorem not_isOk_iff : ¬x.isOk ↔ ∃ e, x = .error e := by
  cases x <;> simp [Except.toBool]

@[simp]
theorem isOk_ok {a : α} : (Except.ok a : Except ε α).isOk :=
  rfl

@[simp]
theorem isOk_error {e : ε} : (Except.error e : Except ε α).isOk = false :=
  rfl

@[simp]
theorem isOk_map {f : α → β} : (x.map f).isOk = x.isOk := by
  cases x <;> rfl

@[simp]
theorem isOk_functor_map {f : α → β} : (f <$> x).isOk = x.isOk :=
  isOk_map

@[simp]
theorem isOk_mapError {δ : Type} {f : ε → δ} : (x.mapError f).isOk = x.isOk := by
  cases x <;> rfl

@[simp]
theorem ok_bind {a : α} {f : α → Except ε β} : (Except.ok a >>= f) = f a :=
  rfl

@[simp]
theorem toOption_eq_some {a : α} : x.toOption = some a ↔ x = .ok a := by
  cases x <;> simp [Except.toOption]

theorem map_eq_ok {f : α → β} {b : β} : x.map f = .ok b ↔ ∃ a, x = .ok a ∧ f a = b := by
  cases x <;> simp [Except.map]

theorem mapError_eq_ok {δ : Type} {f : ε → δ} {a : α} : x.mapError f = .ok a ↔ x = .ok a := by
  cases x <;> simp [Except.mapError]

theorem bind_eq_ok {f : α → Except ε β} {b : β} : x >>= f = .ok b ↔ ∃ a, x = .ok a ∧ f a = .ok b := by
  cases x <;> simp [bind, Except.bind]

-- Behind a check that always fails the condition for it did not hold.
theorem of_check {p : Prop} [Decidable p] {y : Except ε α} {z : Except ε β} {f : β → Except ε α} {a : α}
    (hz : ∀ b, z ≠ .ok b) (h : (if p then z >>= f else y) = .ok a) : ¬p ∧ y = .ok a := by
  split at h
  case isTrue =>
    have ⟨b, hb, _⟩ := bind_eq_ok.mp h
    exact absurd hb (hz b)
  case isFalse hp => exact ⟨hp, h⟩

@[simp]
theorem isOk_mapM {f : α → Except ε β} {as : List α} : (as.mapM f).isOk = as.all fun a => (f a).isOk := by
  induction as
  case nil => rfl
  case cons a as ih =>
    rw [List.all_cons, ← ih, List.mapM_cons]
    cases f a <;> cases as.mapM f <;> rfl

-- Results are taken together one by one.
theorem mapM_eq_ok {f : α → Except ε β} {as : List α} {bs : List β} :
    as.mapM f = .ok bs ↔ List.Forall₂ (fun a b => f a = .ok b) as bs := by
  induction as generalizing bs
  case nil => cases bs <;> simp [pure, Except.pure]
  case cons a as ih =>
    rw [List.mapM_cons, bind_eq_ok]
    cases bs
    case nil =>
      refine iff_of_false ?_ nofun
      rintro ⟨_, _, h⟩
      have ⟨_, _, h⟩ := bind_eq_ok.mp h
      cases h
    case cons b bs =>
      rw [List.forall₂_cons, ← ih]
      constructor
      case mp =>
        rintro ⟨_, ha, h⟩
        have ⟨_, has, h⟩ := bind_eq_ok.mp h
        cases h
        exact ⟨ha, has⟩
      case mpr =>
        rintro ⟨ha, has⟩
        exact ⟨b, ha, by rw [has]; rfl⟩

theorem mapM_eq_ok_map {f : α → Except ε β} {g : α → β} {as : List α} :
    as.mapM f = .ok (as.map g) ↔ ∀ a ∈ as, f a = .ok (g a) := by
  rw [mapM_eq_ok, List.forall₂_map_right_iff, List.forall₂_same]

theorem forM_eq_ok {f : α → Except ε PUnit} {as : List α} (h : ∀ a ∈ as, f a = .ok ⟨⟩) : as.forM f = .ok ⟨⟩ := by
  induction as
  case nil => rfl
  case cons a as ih =>
    have ⟨ha, has⟩ := List.forall_mem_cons.mp h
    rw [List.forM_eq_forM, List.forM_cons, ha]
    exact ih has

theorem exists_of_mem_mapM {f : α → Except ε β} {as : List α} {bs : List β} {b : β} (h : as.mapM f = .ok bs)
    (hb : b ∈ bs) : ∃ a ∈ as, f a = .ok b := by
  replace h := mapM_eq_ok.mp h
  induction h
  case nil => cases hb
  case cons a _ _ _ ha _ ih =>
    rcases List.mem_cons.mp hb with rfl | hb
    case inl => exact ⟨a, List.mem_cons_self, ha⟩
    case inr => exact (ih hb).imp fun _ h => ⟨.tail _ h.1, h.2⟩

-- What results keep of that which they are results for, all of them keep.
theorem map_eq_of_mapM {γ : Type} {f : α → Except ε β} {p : α → γ} {q : β → γ} {as : List α} {bs : List β}
    (hf : ∀ a b, f a = .ok b → q b = p a) (h : as.mapM f = .ok bs) : bs.map q = as.map p := by
  replace h := mapM_eq_ok.mp h
  induction h
  case nil          => rfl
  case cons hb _ ih => rw [List.map_cons, List.map_cons, hf _ _ hb, ih]

theorem mapM_map {γ : Type} {f : α → Except ε β} {h : β → γ} (as : List α) :
    (as.mapM fun a => (f a).map h) = (as.mapM f).map (List.map h) := by
  induction as
  case nil => rfl
  case cons a as ih =>
    rw [List.mapM_cons, List.mapM_cons, ih]
    cases f a <;> cases as.mapM f <;> rfl

-- No failures but those that satisfy `P`.
def FailsOnly (P : ε → Prop) (x : Except ε α) : Prop :=
  ∀ e, x = .error e → P e

namespace FailsOnly

variable {P : ε → Prop}

theorem ok (a : α) : FailsOnly P (.ok a) :=
  fun _ => nofun

theorem error {e : ε} (h : P e) : FailsOnly P (.error e : Except ε α) :=
  fun _ he => Except.error.inj he ▸ h

theorem bind {f : α → Except ε β} (h : FailsOnly P x) (hf : ∀ a, x = .ok a → FailsOnly P (f a)) :
    FailsOnly P (x >>= f) := by
  cases x
  case ok a    => exact hf a rfl
  case error e => exact .error (h e rfl)

theorem map {f : α → β} (h : FailsOnly P x) : FailsOnly P (x.map f) := by
  cases x
  case ok a    => exact .ok _
  case error e => exact .error (h e rfl)

theorem ite {p : Prop} [Decidable p] {y : Except ε α} (hx : p → FailsOnly P x) (hy : FailsOnly P y) :
    FailsOnly P (if p then x else y) := by
  split
  case isTrue hp => exact hx hp
  case isFalse   => exact hy

theorem mapM {f : α → Except ε β} {as : List α} (h : ∀ a ∈ as, FailsOnly P (f a)) : FailsOnly P (as.mapM f) := by
  induction as
  case nil => exact .ok []
  case cons a as ih =>
    rw [List.mapM_cons]
    exact (h a List.mem_cons_self).bind fun _ _ => (ih fun b hb => h b (.tail _ hb)).bind fun _ _ => .ok _

end FailsOnly

theorem all_const_iff {b : Bool} {as : List α} : (as.all fun _ => b) ↔ as = [] ∨ b := by
  cases as <;> cases b <;> simp

end ModuleDiscovery
