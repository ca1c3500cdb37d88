import ModuleDiscovery.Clustering.Extraction
import ModuleDiscovery.Proofs.Clustering.Selection

namespace ModuleDiscovery.Extraction

-- A loop that takes `ms` to `ms'` in `n` joins. It has no rule for a list without two modules, so that a repair
-- stands for a loop that never fails to find them.
inductive Repairs {α : Type} [Score α] (w : Affinity α) (limit : Nat) :
    List (Module α) → Nat → List (Module α) → Prop
  | fits {ms} : (ms.length ≤ limit) → Repairs w limit ms 0 ms
  | join {ms ms₁ ms' n} : (limit < ms.length) → (joinSmallest? w ms = some ms₁) →
      (Repairs w limit ms₁ n ms') → Repairs w limit ms (n + 1) ms'

-- The modules of the branches that a cut leaves, before any of them are joined.
def cutModules {α : Type} [Score α] (w : Affinity α) (x : α) (limit : Nat) :
    Option (Dendrogram α) → List (Module α)
  | none   => []
  | some t => (cut w x limit 0 t).map fun b => Module.ofUnits w b.units

section Smallest

variable {α : Type} {ms : List (Module α)} {c : Choice (Module α)} {cs ds : List (Choice (Module α))}

theorem smaller_eq_or (c d : Choice (Module α)) : smaller c d = c ∨ smaller c d = d := by
  unfold smaller
  split <;> simp

theorem mem_all_of_smallest? (h : smallest? ms = some c) : c ∈ Choice.all ms := by
  unfold smallest? at h
  split at h
  case h_1 => contradiction
  case h_2 d ds hd =>
    injection h with h
    exact hd ▸ h ▸ Choice.foldl_mem (p := id) smaller_eq_or

theorem exists_smallest? (h : 2 ≤ ms.length) : ∃ c, smallest? ms = some c := by
  have hn : Choice.all ms ≠ [] := mt Choice.all_eq_nil.mp (by omega)
  unfold smallest?
  split
  case h_1 hd   => exact absurd hd hn
  case h_2 d ds => exact ⟨_, rfl⟩

-- The number of units in the two modules of a choice.
def chosenSize (c : Choice (Module α)) : Nat :=
  c.first.size + c.second.size

theorem chosenSize_foldl_le : ∀ d ∈ c :: cs, chosenSize (cs.foldl smaller c) ≤ chosenSize d := by
  induction cs generalizing c
  case nil => simp
  case cons d cs ih =>
    have ⟨hs, hcs⟩ := List.forall_mem_cons.mp (ih (c := smaller c d))
    have hc : chosenSize (smaller c d) ≤ chosenSize c ∧ chosenSize (smaller c d) ≤ chosenSize d := by
      simp only [smaller, chosenSize]
      split <;> omega
    simp only [List.mem_cons, forall_eq_or_imp]
    exact ⟨Nat.le_trans hs hc.1, Nat.le_trans hs hc.2, hcs⟩

theorem foldl_smaller_eq_self (h : ∀ d ∈ cs, chosenSize c ≤ chosenSize d) : cs.foldl smaller c = c := by
  induction cs
  case nil => rfl
  case cons d cs ih =>
    have ⟨hd, hcs⟩ := List.forall_mem_cons.mp h
    have hs : smaller c d = c := if_neg (Nat.not_lt.mpr hd)
    rw [List.foldl_cons, hs, ih hcs]

theorem chosenSize_smallest?_le (h : smallest? ms = some c) :
    ∀ d ∈ Choice.all ms, chosenSize c ≤ chosenSize d := by
  unfold smallest? at h
  split at h
  case h_1 => contradiction
  case h_2 d ds hd =>
    injection h with h
    exact hd ▸ h ▸ chosenSize_foldl_le

-- The scan takes the first one of the smallest choices.
theorem smallest?_eq_some (h : Choice.all ms = cs ++ c :: ds)
    (hc : ∀ d ∈ cs, chosenSize c < chosenSize d) (hd : ∀ d ∈ ds, chosenSize c ≤ chosenSize d) :
    smallest? ms = some c := by
  cases cs
  case nil => simp only [smallest?, h, List.nil_append, foldl_smaller_eq_self hd]
  case cons d cs =>
    have hm : cs.foldl smaller d ∈ d :: cs := Choice.foldl_mem (p := id) smaller_eq_or
    have hs : smaller (cs.foldl smaller d) c = c := if_pos (hc _ hm)
    simp only [smallest?, h, List.cons_append, List.foldl_append, List.foldl_cons, hs,
      foldl_smaller_eq_self hd]

end Smallest

variable {α : Type} [Score α] {w : Affinity α} {x : α} {ms ms₁ ms' : List (Module α)} {limit n : Nat}

theorem joinSmallest?_eq_some (h : joinSmallest? w ms = some ms₁) :
    ∃ c ∈ Choice.all ms, ms₁ = c.rest ++ [join w c.first c.second] := by
  have ⟨c, hc, he⟩ := Option.map_eq_some_iff.mp h
  exact ⟨c, mem_all_of_smallest? hc, he.symm⟩

theorem length_joinSmallest? (h : joinSmallest? w ms = some ms₁) : ms₁.length + 1 = ms.length := by
  have ⟨c, hc, he⟩ := joinSmallest?_eq_some h
  have := Choice.length_rest_of_mem_all hc
  simp [he]
  omega

theorem exists_joinSmallest? (h : 2 ≤ ms.length) : ∃ ms₁, joinSmallest? w ms = some ms₁ := by
  have ⟨c, hc⟩ := exists_smallest? h
  exact ⟨_, by rw [joinSmallest?, hc, Option.map_some]⟩

-- The lists that a repair goes through are one join apart.
theorem joinSmallest?_repair (h : n + 2 ≤ ms.length) :
    joinSmallest? w (repair w n ms) = some (repair w (n + 1) ms) := by
  have ⟨ms₁, hj⟩ : ∃ ms₁, joinSmallest? w ms = some ms₁ := exists_joinSmallest? (by omega)
  induction n generalizing ms ms₁
  case zero => simp only [repair, hj, Option.elim_some]
  case succ n ih =>
    have hl := length_joinSmallest? hj
    have hn : n + 2 ≤ ms₁.length := by omega
    have ⟨ms₂, hj₂⟩ : ∃ ms₂, joinSmallest? w ms₁ = some ms₂ := exists_joinSmallest? (by omega)
    simpa only [repair, hj, Option.elim_some] using ih hn ms₂ hj₂

-- What every join keeps is kept by a repair.
theorem repair_induction {P : List (Module α) → Prop} (h : n < ms.length) (hp : P ms)
    (hj : ∀ ms₁ ms₂, P ms₁ → joinSmallest? w ms₁ = some ms₂ → P ms₂) : P (repair w n ms) := by
  induction n
  case zero      => exact hp
  case succ n ih => exact hj _ _ (ih (by omega)) (joinSmallest?_repair (by omega))

theorem length_repair (h : n < ms.length) : (repair w n ms).length + n = ms.length := by
  induction n
  case zero => rfl
  case succ n ih =>
    have hj : joinSmallest? w (repair w n ms) = some (repair w (n + 1) ms) :=
      joinSmallest?_repair (by omega)
    have := length_joinSmallest? hj
    have := ih (by omega)
    omega

-- With room for at least one module, a list that is too long has two modules to join.
theorem repair_repairs (hl : 0 < limit) :
    Repairs w limit ms (ms.length - limit) (repair w (ms.length - limit) ms) := by
  induction h : ms.length - limit generalizing ms
  case zero => exact .fits (by omega)
  case succ n ih =>
    have hm : 2 ≤ ms.length := by omega
    have ⟨ms₁, hj⟩ := exists_joinSmallest? (w := w) hm
    have hn : ms₁.length - limit = n := by
      have := length_joinSmallest? hj
      omega
    simp only [repair, hj, Option.elim_some]
    exact .join (by omega) hj (ih hn)

theorem Repairs.length_eq (h : Repairs w limit ms n ms') : ms'.length = min ms.length limit := by
  induction h
  case fits h => omega
  case join hj _ ih =>
    have := length_joinSmallest? hj
    omega

end Extraction

open Extraction

variable {α : Type} [Score α] (w : Affinity α) (x : α) (root : Option (Dendrogram α))

theorem budget_pos (n : Nat) : 0 < budget n :=
  Nat.le_max_left ..

theorem extract_budget : (extract w x root).budget = budget w.units.length := by
  cases root <;> rfl

theorem extract_modules :
    let ms := cutModules w x (budget w.units.length) root
    (extract w x root).modules = repair w (ms.length - budget w.units.length) ms := by
  cases root <;> simp [extract, cutModules, repair]

theorem extract_repairs :
    (extract w x root).repairs =
      (cutModules w x (budget w.units.length) root).length - budget w.units.length := by
  cases root <;> simp [extract, cutModules]

-- An extraction is the repair of a cut.
theorem repairs_cutModules :
    Repairs w (budget w.units.length) (cutModules w x (budget w.units.length) root)
      (extract w x root).repairs (extract w x root).modules := by
  rw [extract_modules, extract_repairs]
  exact repair_repairs (budget_pos _)

end ModuleDiscovery
