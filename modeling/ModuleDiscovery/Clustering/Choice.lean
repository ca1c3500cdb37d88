namespace ModuleDiscovery

-- Two elements of a list, the earlier one first, and the list without them.
structure Choice (α : Type) where
  first  : α
  second : α
  rest   : List α

namespace Choice

variable {α : Type}

-- Every way to take one element out of a list.
def single : List α → List (α × List α)
  | []      => []
  | x :: xs => (x, xs) :: (single xs).map fun (y, rest) => (y, x :: rest)

-- Every way to take two elements out of a list, ordered by the position of the first element and then by that of the
-- second.
def all : List α → List (Choice α)
  | []      => []
  | x :: xs =>
    (single xs).map (fun (y, rest) => ⟨x, y, rest⟩) ++
      (all xs).map fun c => { c with rest := x :: c.rest }

theorem mem_single_cons {x : α} {xs : List α} {p : α × List α} :
    p ∈ single (x :: xs) ↔ p = (x, xs) ∨ ∃ q ∈ single xs, (q.1, x :: q.2) = p := by
  simp only [single, List.mem_cons, List.mem_map]

theorem mem_all_cons {x : α} {xs : List α} {c : Choice α} :
    c ∈ all (x :: xs) ↔
      (∃ p ∈ single xs, ⟨x, p.1, p.2⟩ = c) ∨ ∃ d ∈ all xs, { d with rest := x :: d.rest } = c := by
  simp only [all, List.mem_append, List.mem_map]

theorem perm_of_mem_single {xs : List α} {p : α × List α} (h : p ∈ single xs) :
    (p.1 :: p.2).Perm xs := by
  induction xs generalizing p with
  | nil => simp [single] at h
  | cons x xs ih =>
    obtain rfl | ⟨q, hq, rfl⟩ := mem_single_cons.mp h
    · exact .refl _
    · exact (List.Perm.swap x q.1 q.2).trans ((ih hq).cons x)

-- Nothing is lost by a choice.
theorem perm_of_mem_all {xs : List α} {c : Choice α} (h : c ∈ all xs) :
    (c.first :: c.second :: c.rest).Perm xs := by
  induction xs generalizing c with
  | nil => simp [all] at h
  | cons x xs ih =>
    obtain ⟨p, hp, rfl⟩ | ⟨d, hd, rfl⟩ := mem_all_cons.mp h
    · exact (perm_of_mem_single hp).cons x
    · exact (((List.Perm.swap x d.second d.rest).cons d.first).trans
        (List.Perm.swap x d.first (d.second :: d.rest))).trans ((ih hd).cons x)

theorem length_rest_of_mem_all {xs : List α} {c : Choice α} (h : c ∈ all xs) :
    c.rest.length + 2 = xs.length := by
  simpa using (perm_of_mem_all h).length_eq

theorem single_eq_nil {xs : List α} : single xs = [] ↔ xs = [] := by
  cases xs <;> simp [single]

theorem all_eq_nil {xs : List α} : all xs = [] ↔ xs.length < 2 := by
  induction xs with
  | nil => simp [all]
  | cons x xs ih =>
    simp only [all, List.append_eq_nil_iff, List.map_eq_nil_iff, single_eq_nil, List.length_cons]
    constructor
    case mp => rintro ⟨rfl, -⟩; simp
    case mpr => intro h; obtain rfl : xs = [] := List.length_eq_zero_iff.mp (by omega); simp [all]

end Choice
end ModuleDiscovery
