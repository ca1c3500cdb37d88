import Mathlib.Data.List.Induction
import ModuleDiscovery.Proofs.Clustering.Nodes

namespace ModuleDiscovery.Dendrogram

variable {α : Type}

-- A node, then all nodes of its left subtree, then all nodes of its right one.
def preorder : Dendrogram α → List (Dendrogram α)
  | leaf u       => [leaf u]
  | fusion l r s => fusion l r s :: (l.preorder ++ r.preorder)

-- A loop that starts with a stack, ends after `n` turns and has visited `ts` by then. A turn takes a node off the
-- end of the stack, visits it, and puts its subtrees there in its place, so that the left one is taken off next.
inductive Visits : List (Dendrogram α) → Nat → List (Dendrogram α) → Prop
  | done : Visits [] 0 []
  | turn {stack t n ts} : (Visits (stack ++ t.children.reverse) n ts) → Visits (stack ++ [t]) (n + 1) (t :: ts)

variable {t : Dendrogram α} {ts stack : List (Dendrogram α)} {n : Nat}

section Loop

theorem preorder_eq_cons : t.preorder = t :: t.children.flatMap preorder := by
  cases t
  case leaf   => rfl
  case fusion => simp [preorder, children]

theorem length_preorder : t.preorder.length = t.size := by
  induction t
  case leaf               => rfl
  case fusion l r s hl hr => simp [preorder, size, hl, hr]

-- The nodes that a stack leads to, the ones of its last tree first.
def remaining (stack : List (Dendrogram α)) : List (Dendrogram α) :=
  stack.reverse.flatMap preorder

theorem remaining_turn :
    remaining (stack ++ [t]) = t :: remaining (stack ++ t.children.reverse) := by
  rw [remaining, List.reverse_append, List.reverse_singleton, List.singleton_append, List.flatMap_cons,
    preorder_eq_cons, remaining, List.reverse_append, List.reverse_reverse, List.flatMap_append, List.cons_append]

-- The induction is on what remains, as a stack grows by a turn at a fusion.
theorem visits_remaining (stack : List (Dendrogram α)) :
    Visits stack (remaining stack).length (remaining stack) := by
  induction h : (remaining stack).length generalizing stack
  case zero =>
    cases stack using List.reverseRecOn
    case nil              => exact .done
    case append_singleton => simp [remaining_turn] at h
  case succ n ih =>
    cases stack using List.reverseRecOn
    case nil => simp [remaining] at h
    case append_singleton stack t =>
      rw [remaining_turn, List.length_cons, Nat.succ_inj] at h
      rw [remaining_turn]
      exact .turn (ih _ h)

theorem Visits.eq_remaining (h : Visits stack n ts) : n = ts.length ∧ ts = remaining stack := by
  induction h
  case done => exact ⟨rfl, rfl⟩
  case turn ih =>
    rw [remaining_turn, ← ih.2, List.length_cons, ih.1]
    exact ⟨rfl, rfl⟩

theorem visits_iff : Visits stack n ts ↔ n = ts.length ∧ ts = remaining stack := by
  constructor
  case mp => exact Visits.eq_remaining
  case mpr =>
    rintro ⟨rfl, rfl⟩
    exact visits_remaining stack

theorem walk_eq_preorder : t.walk = t.preorder := by
  induction t
  case leaf               => exact walk_leaf
  case fusion l r s hl hr => rw [walk_fusion, hl, hr, preorder]

end Loop

section Places

variable {p : List Bool}

-- The node at a place, which is a way down from the root: `false` to the left and `true` to the right.
def at? : Dendrogram α → List Bool → Option (Dendrogram α)
  | t, []                  => some t
  | leaf _, _ :: _         => none
  | fusion l _ _, false :: p => l.at? p
  | fusion _ r _, true :: p  => r.at? p

def places : Dendrogram α → List (List Bool)
  | leaf _       => [[]]
  | fusion l r _ => [] :: (l.places.map (false :: ·) ++ r.places.map (true :: ·))

theorem mem_places : p ∈ t.places ↔ ∃ n, t.at? p = some n := by
  induction t generalizing p
  case leaf => cases p <;> simp [places, at?]
  case fusion l r s hl hr =>
    rcases p with _ | ⟨_ | _, p⟩ <;> simp [places, at?, hl, hr]

-- Places are listed in the order of their ways, each in front of those that go on from it.
theorem pairwise_places : t.places.Pairwise (· < ·) := by
  induction t
  case leaf => exact List.pairwise_singleton ..
  case fusion l r s hl hr =>
    rw [places, List.pairwise_cons, List.pairwise_append, List.pairwise_map, List.pairwise_map]
    refine ⟨?root, hl.imp List.Lex.cons, hr.imp List.Lex.cons, ?across⟩
    case root =>
      simp only [List.mem_append, List.mem_map]
      rintro _ (⟨p, -, rfl⟩ | ⟨p, -, rfl⟩) <;> exact List.Lex.nil
    case across =>
      simp only [List.mem_map]
      rintro _ ⟨p, -, rfl⟩ _ ⟨q, -, rfl⟩
      exact List.Lex.rel rfl

theorem map_at?_places : t.places.map t.at? = t.preorder.map some := by
  induction t
  case leaf => rfl
  case fusion l r s hl hr =>
    simp only [places, preorder, List.map_cons, List.map_append, List.map_map, ← hl, ← hr]
    rfl

end Places

theorem filter_isLeaf_preorder : t.preorder.filter isLeaf = t.units.map leaf := by
  induction t
  case leaf               => rfl
  case fusion l r s hl hr => simp [preorder, isLeaf, hl, hr]

theorem size_add_one : t.size + 1 = 2 * t.units.length := by
  induction t
  case leaf => rfl
  case fusion l r s hl hr =>
    rw [size, units_fusion, List.length_append]
    omega

-- The loop has no choice, and so no other end: whatever number of turns it ends after, it has visited the walk.
theorem walk_visits_preorder (t : Dendrogram α) :
    (∀ n ts, Visits [t] n ts ↔ n = t.walk.length ∧ ts = t.walk) ∧
    t.walk = t.preorder ∧
    (∀ p, p ∈ t.places ↔ ∃ n, t.at? p = some n) ∧
    t.places.Pairwise (· < ·) ∧
    t.places.map t.at? = t.walk.map some ∧
    t.walk.length = 2 * t.units.length - 1 ∧
    t.walk.filter isLeaf = t.units.map leaf := by
  have hw : t.walk = t.preorder := walk_eq_preorder
  have hl : t.walk.length + 1 = 2 * t.units.length := by rw [hw, length_preorder, size_add_one]
  refine ⟨fun n ts => ?loop, hw, fun p => mem_places, pairwise_places, hw ▸ map_at?_places, by omega,
    hw ▸ filter_isLeaf_preorder⟩
  case loop =>
    have hr : remaining [t] = t.walk := by simp [remaining, hw]
    rw [visits_iff, hr]
    exact and_congr_left fun hts => by rw [hts]

end ModuleDiscovery.Dendrogram
