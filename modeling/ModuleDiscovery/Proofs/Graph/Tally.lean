import Mathlib.Data.List.Perm.Lattice
import ModuleDiscovery.Graph.Coupling

namespace ModuleDiscovery.Coupling

-- The count of a pair in a table, zero where it has none.
def countIn (cs : List (Pair × Int)) (p : Pair) : Int :=
  ((cs.find? (·.1 = p)).map (·.2)).getD 0

-- Adds all pairs of a list to a table.
def addAll (ps : List Pair) (cs : List (Pair × Int)) : List (Pair × Int) :=
  ps.foldl (fun cs p => addCount p 1 cs) cs

section Table

variable {cs : List (Pair × Int)} {p q : Pair} {n : Int}

theorem countIn_cons {c : Pair × Int} :
    countIn (c :: cs) q = if c.1 = q then c.2 else countIn cs q := by
  unfold countIn
  by_cases h : c.1 = q <;> simp [h]

theorem countIn_addCount : countIn (addCount p n cs) q = countIn cs q + if p = q then n else 0 := by
  induction cs
  case nil => by_cases h : p = q <;> simp [addCount, countIn, h]
  case cons c cs ih =>
    unfold addCount
    split
    case isTrue h  => by_cases hq : p = q <;> simp [countIn_cons, h, hq]
    case isFalse h =>
      by_cases hq : c.1 = q
      case pos =>
        have hp : p ≠ q := fun hp => h (hq.trans hp.symm)
        simp [countIn_cons, hq, hp]
      case neg => simp [countIn_cons, hq, ih]

theorem mem_keys_addCount : q ∈ (addCount p n cs).map (·.1) ↔ q = p ∨ q ∈ cs.map (·.1) := by
  induction cs
  case nil => simp [addCount]
  case cons c cs ih =>
    unfold addCount
    split
    case isTrue h  => simp [h]
    case isFalse h => rw [List.map_cons, List.mem_cons, ih, List.map_cons, List.mem_cons, or_left_comm]

theorem nodup_addCount (h : (cs.map (·.1)).Nodup) : ((addCount p n cs).map (·.1)).Nodup := by
  induction cs
  case nil => simp [addCount]
  case cons c cs ih =>
    have ⟨hc, hcs⟩ := List.nodup_cons.mp h
    unfold addCount
    split
    case isTrue hp  => exact List.nodup_cons.mpr ⟨hp ▸ hc, hcs⟩
    case isFalse hp =>
      refine List.nodup_cons.mpr ⟨?_, ih hcs⟩
      rw [mem_keys_addCount]
      exact fun h => h.elim hp hc

-- A table without repeated pairs holds a pair with its count and with nothing else.
theorem mem_iff_countIn (h : (cs.map (·.1)).Nodup) :
    (q, n) ∈ cs ↔ q ∈ cs.map (·.1) ∧ countIn cs q = n := by
  induction cs
  case nil => simp
  case cons c cs ih =>
    have ⟨hc, hcs⟩ := List.nodup_cons.mp h
    rw [List.mem_cons, ih hcs, List.map_cons, List.mem_cons, countIn_cons]
    by_cases hq : c.1 = q
    case pos =>
      subst hq
      simp [hc, Prod.ext_iff, eq_comm]
    case neg => simp [hq, Ne.symm hq, Prod.ext_iff]

end Table

section AddAll

variable {ps qs : List Pair} {cs : List (Pair × Int)} {q : Pair}

theorem countIn_addAll : countIn (addAll ps cs) q = countIn cs q + ps.count q := by
  induction ps generalizing cs
  case nil => simp [addAll]
  case cons p ps ih =>
    rw [addAll, List.foldl_cons, ← addAll, ih, countIn_addCount, List.count_cons]
    by_cases hp : p = q <;> simp [hp]
    omega

theorem mem_keys_addAll : q ∈ (addAll ps cs).map (·.1) ↔ q ∈ ps ∨ q ∈ cs.map (·.1) := by
  induction ps generalizing cs
  case nil => simp [addAll]
  case cons p ps ih =>
    rw [addAll, List.foldl_cons, ← addAll, ih, mem_keys_addCount, List.mem_cons, or_left_comm, or_assoc]

theorem nodup_addAll (h : (cs.map (·.1)).Nodup) : ((addAll ps cs).map (·.1)).Nodup := by
  induction ps generalizing cs
  case nil          => exact h
  case cons p ps ih => exact ih (nodup_addCount h)

end AddAll

theorem count_comm (c : Coupling) {u v : UnitName} : c.count u v = c.count v u := by
  rw [count, count, Pair.of?_comm]

section OfCalls

variable {g : CallGraph} {us : List UnitName} {sep : Separator} {u v : UnitName}

-- The pairs of units that calls join.
def pairs (g : CallGraph) (us : List UnitName) (sep : Separator) : List Pair :=
  g.calls.filterMap (pairOf? sep us)

theorem counts_ofCalls : (ofCalls g us sep).counts = addAll (pairs g us sep) [] := rfl

theorem total_ofCalls : (ofCalls g us sep).total = (pairs g us sep).length := rfl

theorem count_ofCalls :
    (ofCalls g us sep).count u v = (Pair.of? u v).elim 0 fun p => ((pairs g us sep).count p : Int) := by
  unfold count
  split
  case h_1 h   => simp [h]
  case h_2 p h =>
    have hc : countIn (addAll (pairs g us sep) []) p = countIn [] p + (pairs g us sep).count p :=
      countIn_addAll
    simpa [h, counts_ofCalls, countIn] using hc

variable (g us sep u v)

theorem count_ofCalls_nonneg : 0 ≤ (ofCalls g us sep).count u v := by
  rw [count_ofCalls]
  cases Pair.of? u v <;> simp

theorem count_ofCalls_le : (ofCalls g us sep).count u v ≤ (ofCalls g us sep).total := by
  rw [count_ofCalls, total_ofCalls]
  cases Pair.of? u v
  case none   => simp
  case some p => simpa using List.count_le_length

end OfCalls
end ModuleDiscovery.Coupling
