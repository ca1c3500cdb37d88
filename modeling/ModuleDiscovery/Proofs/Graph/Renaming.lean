import ModuleDiscovery.Proofs.Clustering.Weights

namespace ModuleDiscovery

open Function

namespace Pair

variable {f : UnitName → UnitName} {p q r : Pair} {u v : UnitName}

-- The pair of the renamed units, unless these have the same name.
def rename? (f : UnitName → UnitName) (p : Pair) : Option Pair :=
  of? (f p.a) (f p.b)

theorem exists_rename? (hf : Injective f) (p : Pair) : ∃ q, p.rename? f = some q :=
  exists_of? (hf.ne p.ne)

theorem of?_rename (h : of? u v = some p) : of? (f u) (f v) = p.rename? f := by
  cases of?_eq_some_iff.mp h
  case inl h => rw [h.1, h.2, rename?]
  case inr h => rw [h.1, h.2, rename?, of?_comm]

theorem rename?_eq_some_iff (hf : Injective f) (h : p.rename? f = some r) : q.rename? f = some r ↔ q = p := by
  constructor
  case mpr => exact fun he => he ▸ h
  case mp =>
    intro hq
    have hp : p.a = q.a ∧ p.b = q.b ∨ p.a = q.b ∧ p.b = q.a := by
      have := of?_eq_some_iff.mp h
      have := of?_eq_some_iff.mp hq
      grind [hf.eq_iff]
    cases hp
    case inl he =>
      cases p
      cases q
      simp only at he
      simp [he]
    case inr he => exact absurd (he.2 ▸ he.1 ▸ p.lt) (String.lt_asymm q.lt)

end Pair

namespace Coupling

variable {f : UnitName → UnitName} {c : Coupling} {u v : UnitName}

-- The counts of the renamed pairs. Pairs whose units get the same name have none.
def renameCounts (f : UnitName → UnitName) (cs : List (Pair × Int)) : List (Pair × Int) :=
  cs.filterMap fun e => (e.1.rename? f).map (·, e.2)

def rename (f : UnitName → UnitName) (c : Coupling) : Coupling where
  units  := c.units.map f
  counts := renameCounts f c.counts
  total  := c.total

theorem countIn_renameCounts (hf : Injective f) {cs : List (Pair × Int)} {p q : Pair}
    (h : p.rename? f = some q) : countIn (renameCounts f cs) q = countIn cs p := by
  induction cs
  case nil => rfl
  case cons e cs ih =>
    have ⟨r, hr⟩ := e.1.exists_rename? hf
    have he : renameCounts f (e :: cs) = (r, e.2) :: renameCounts f cs :=
      List.filterMap_cons_some (by simp [hr])
    have hq : r = q ↔ e.1 = p := by
      rw [← Pair.rename?_eq_some_iff hf h, hr, Option.some.injEq]
    rw [he, countIn_cons, countIn_cons, ih]
    simp only [hq]

theorem count_rename (hf : Injective f) : (c.rename f).count (f u) (f v) = c.count u v := by
  unfold count
  cases h : Pair.of? u v
  case none =>
    obtain rfl := Pair.of?_eq_none_iff.mp h
    rw [Pair.of?_eq_none_iff.mpr rfl]
  case some p =>
    have ⟨q, hq⟩ := p.exists_rename? hf
    rw [Pair.of?_rename h, hq]
    exact countIn_renameCounts hf hq

theorem weight?_rename {α : Type} [Score α] (hf : Injective f) :
    (c.rename f).weight? (α := α) (f u) (f v) = c.weight? u v := by
  simp only [weight?, share?, hf.eq_iff, count_rename hf]
  rfl

end Coupling

-- Two affinities of the same units in the same order, under their names and under other ones.
structure Affinity.Renamed {α : Type} (f : UnitName → UnitName) (w w' : Affinity α) : Prop where
  units  : w'.units = w.units.map f
  weight : ∀ u v, w'.weight (f u) (f v) = w.weight u v

namespace Affinity

variable {α : Type} [Score α] {f : UnitName → UnitName} {c : Coupling} {us : List UnitName}

theorem isSome_mapM {β γ : Type} {g : β → Option γ} {xs : List β} :
    (xs.mapM g).isSome = xs.all fun x => (g x).isSome := by
  induction xs
  case nil => rfl
  case cons x xs ih =>
    rw [List.all_cons, ← ih, List.mapM_cons]
    cases g x <;> cases xs.mapM g <;> rfl

theorem isSome_ofCoupling? : (ofCoupling? c us : Option (Affinity α)).isSome =
    us.eraseDups.all fun u => us.eraseDups.all fun v => (c.weight? (α := α) u v).isSome := by
  simp only [ofCoupling?, rows?, Option.isSome_map, isSome_mapM]

theorem renamed_ofCoupling? (hf : Injective f) :
    Option.Rel (Renamed (α := α) f) (ofCoupling? c us) (ofCoupling? (c.rename f) (us.map f)) := by
  have hs : (ofCoupling? (c.rename f) (us.map f) : Option (Affinity α)).isSome =
      (ofCoupling? c us : Option (Affinity α)).isSome := by
    simp only [isSome_ofCoupling?, eraseDups_map hf, List.all_map, Function.comp_def,
      Coupling.weight?_rename hf]
  cases hw : (ofCoupling? c us : Option (Affinity α))
  case none =>
    have hn : (ofCoupling? (c.rename f) (us.map f) : Option (Affinity α)) = none := by simpa [hw] using hs
    rw [hn]
    exact .none
  case some w =>
    rw [hw] at hs
    obtain ⟨w', hw'⟩ := Option.isSome_iff_exists.mp hs
    rw [hw']
    have hu : w'.units = w.units.map f := by
      rw [units_of_ofCoupling? hw', units_of_ofCoupling? hw, eraseDups_map hf]
    refine .some ⟨hu, fun u v => ?_⟩
    simp only [weight_of_ofCoupling? hw', weight_of_ofCoupling? hw, hu, List.mem_map_of_injective hf,
      Coupling.weight?_rename hf]

end Affinity
end ModuleDiscovery
