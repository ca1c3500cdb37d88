import ModuleDiscovery.Clustering.Agglomeration
import ModuleDiscovery.Proofs.Clustering.Selection
import ModuleDiscovery.Proofs.Graph.Renaming

namespace ModuleDiscovery

open Function Relator

variable {α : Type} {f : UnitName → UnitName}

namespace Dendrogram

def rename (f : UnitName → UnitName) : Dendrogram α → Dendrogram α
  | leaf u       => leaf (f u)
  | fusion l r s => fusion (l.rename f) (r.rename f) s

@[simp]
theorem units_rename (t : Dendrogram α) : (t.rename f).units = t.units.map f := by
  induction t
  case leaf               => rfl
  case fusion l r s hl hr => simp [rename, hl, hr]

theorem isLeaf_rename (t : Dendrogram α) : (t.rename f).isLeaf = t.isLeaf := by
  cases t <;> rfl

end Dendrogram

def Fusion.rename (f : UnitName → UnitName) (s : Fusion α) : Fusion α where
  left       := s.left.map f
  right      := s.right.map f
  similarity := s.similarity

namespace Affinity.Renamed

variable {w w' : Affinity α} {us vs : List UnitName}

theorem known (h : Renamed f w w') (hf : Injective f) : w'.known (us.map f) = (w.known us).map f := by
  have hc : (fun u => w'.units.contains u) ∘ f = fun u => w.units.contains u := by
    funext u
    simp only [Function.comp_apply, List.contains_eq_mem, h.units, List.mem_map_of_injective hf]
  rw [Affinity.known, eraseDups_map hf, List.filter_map, hc]
  rfl

variable [Score α]

theorem between (h : Renamed f w w') : w'.between (us.map f) (vs.map f) = w.between us vs := by
  simp only [Affinity.between, List.isEmpty_map, List.length_map, List.flatMap_map, List.map_map,
    Function.comp_def, h.weight]

theorem upperTriangle (h : Renamed f w w') : w'.upperTriangle (us.map f) = w.upperTriangle us := by
  simp only [Affinity.upperTriangle, List.zipIdx_map, List.flatMap_map, List.map_map, Function.comp_def,
    Prod.map_fst, Prod.map_snd, id_eq, h.weight]

theorem within (h : Renamed f w w') (hf : Injective f) : w'.within (us.map f) = w.within us := by
  simp only [Affinity.within, h.known hf, List.length_map, h.upperTriangle]

end Affinity.Renamed

namespace Agglomeration

-- Trees that are the same up to the names of their units.
def SameUpTo (f : UnitName → UnitName) (t t' : Dendrogram α) : Prop :=
  t.rename f = t'

-- Choices of such trees, with the similarities that a scan found for them. Means are taken over positions in lists of
-- units, so that they come out the same to the last digit.
structure SameFound (f : UnitName → UnitName) (p p' : Choice (Dendrogram α) × α) : Prop where
  choice     : Choice.Related (SameUpTo f) p.1 p'.1
  similarity : p.2 = p'.2

variable {ts ts' : List (Dendrogram α)} {t t' : Dendrogram α} {c c' : Choice (Dendrogram α)} {s : α}

theorem SameUpTo.units (h : SameUpTo f t t') : t'.units = t.units.map f := by
  rw [← h, Dendrogram.units_rename]

theorem fuse_renamed (h : Choice.Related (SameUpTo f) c c') :
    List.Forall₂ (SameUpTo f) (fuse c s) (fuse c' s) := by
  refine List.rel_append h.rest (.cons ?_ .nil)
  rw [SameUpTo, Dendrogram.rename, h.first, h.second]

variable [Score α] {w w' : Affinity α}

theorem similarity_renamed (h : w.Renamed f w') (hc : Choice.Related (SameUpTo f) c c') :
    similarity w' c' = similarity w c := by
  rw [similarity, hc.first.units, hc.second.units, h.between, similarity]

theorem better_renamed (h : w.Renamed f w') :
    (SameFound f ⇒ Choice.Related (SameUpTo f) ⇒ SameFound f) (better w) (better w') := by
  intro p p' hp c c' hc
  have hs := similarity_renamed h hc
  unfold better
  rw [hs, ← hp.similarity]
  split
  case isTrue  => exact ⟨hc, rfl⟩
  case isFalse => exact hp

theorem closest?_renamed (h : w.Renamed f w') (ht : List.Forall₂ (SameUpTo f) ts ts') :
    Option.Rel (SameFound f) (closest? w ts) (closest? w' ts') := by
  have ha := Choice.forall₂_all ht
  unfold closest?
  generalize Choice.all ts = cs, Choice.all ts' = cs' at ha
  cases ha
  case nil => exact .none
  case cons c c' _ _ hc hcs =>
    have hl : SameFound f (c, Score.least) (c', Score.least) := ⟨hc, rfl⟩
    exact .some <| List.rel_foldl (better_renamed h) hl (.cons hc hcs)

-- The steps of two runs correspond, and so do the clusters that they leave.
theorem run_renamed (h : w.Renamed f w') {n : Nat} (ht : List.Forall₂ (SameUpTo f) ts ts') :
    (run w' n ts').1 = (run w n ts).1.map (Fusion.rename f) ∧
      List.Forall₂ (SameUpTo f) (run w n ts).2 (run w' n ts').2 := by
  induction n generalizing ts ts'
  case zero => exact ⟨rfl, ht⟩
  case succ n ih =>
    have hc := closest?_renamed h ht
    unfold run
    generalize closest? w ts = o, closest? w' ts' = o' at hc
    cases hc
    case none => exact ⟨rfl, ht⟩
    case some p p' hp =>
      have ⟨hs, hf⟩ := ih (fuse_renamed (s := p.2) hp.choice)
      simp only [List.map_cons, Fusion.rename, ← hp.similarity, hp.choice.first.units,
        hp.choice.second.units, hs, true_and]
      exact hf

end Agglomeration

open Agglomeration

variable [Score α] {w w' : Affinity α}

theorem cluster_renamed (h : w.Renamed f w') :
    (cluster w').history = (cluster w).history.map (Fusion.rename f) ∧
      (cluster w').root = (cluster w).root.map (Dendrogram.rename f) := by
  have hl : List.Forall₂ (SameUpTo f) (w.units.map .leaf) (w'.units.map (.leaf (α := α))) := by
    rw [h.units]
    simp only [List.forall₂_map_left_iff, List.forall₂_map_right_iff]
    exact List.forall₂_same.mpr fun _ _ => rfl
  have ⟨hs, ht⟩ := run_renamed h (n := (w.units.map (Dendrogram.leaf (α := α))).length - 1) hl
  simp only [cluster, ← hl.length_eq]
  refine ⟨hs, ?_⟩
  generalize (run w _ _).2 = us, (run w' _ _).2 = us' at ht
  cases ht
  case nil       => rfl
  case cons he _ => exact congrArg some he.symm

end ModuleDiscovery
