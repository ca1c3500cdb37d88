import ModuleDiscovery.Clustering.Dendrogram

namespace ModuleDiscovery.Dendrogram

variable {α : Type}

-- Trees on a stack are visited one after the other. The induction is on the number of nodes that `walkFrom`
-- itself goes by, as a fusion leaves two trees on the stack in place of one.
theorem walkFrom_append {ts us : List (Dendrogram α)} :
    walkFrom (ts ++ us) = walkFrom ts ++ walkFrom us := by
  fun_induction walkFrom ts
  case case1 => simp
  case case2 t ts hi => rw [List.cons_append, walkFrom, ← List.append_assoc, hi, List.cons_append]

theorem walk_leaf {u : UnitName} : (leaf u : Dendrogram α).walk = [leaf u] := by
  simp [walk, walkFrom, children]

theorem walk_fusion {l r : Dendrogram α} {s : α} :
    (fusion l r s).walk = fusion l r s :: (l.walk ++ r.walk) := by
  rw [walk, walkFrom, List.append_nil, walk, walk, ← walkFrom_append]
  rfl

theorem units_sublist {t n : Dendrogram α} (h : n ∈ t.walk) : n.units.Sublist t.units := by
  induction t
  case leaf =>
    rw [walk_leaf, List.mem_singleton] at h
    exact h ▸ .refl _
  case fusion l r s hl hr =>
    simp only [walk_fusion, List.mem_cons, List.mem_append] at h
    rcases h with h | h | h
    case inl     => exact h ▸ .refl _
    case inr.inl => exact (hl h).trans (List.sublist_append_left ..)
    case inr.inr => exact (hr h).trans (List.sublist_append_right ..)

-- A node at its place in a tree, with the nodes above it, the nearest one first.
structure Occurrence (α : Type) where
  above : List (Dendrogram α)
  node  : Dendrogram α

-- The places of a tree that stands below the nodes `above`.
def occurrences (above : List (Dendrogram α)) : Dendrogram α → List (Occurrence α)
  | leaf u       => [⟨above, leaf u⟩]
  | fusion l r s =>
    let t := fusion l r s
    ⟨above, t⟩ :: (l.occurrences (t :: above) ++ r.occurrences (t :: above))

end ModuleDiscovery.Dendrogram
