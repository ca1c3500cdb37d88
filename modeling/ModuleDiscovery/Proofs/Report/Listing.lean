import Mathlib.Data.Bool.AllAny
import ModuleDiscovery.Proofs.Analysis.Reportable
import ModuleDiscovery.Proofs.Distinct
import ModuleDiscovery.Proofs.Report.DotReader
import ModuleDiscovery.Report.Listing
import ModuleDiscovery.Text.Lines
import ModuleDiscovery.Text.Split

namespace ModuleDiscovery.Text

variable {sep : Char} {cs p : List Char} {ps : List (List Char)}

theorem splitAtChar_append (h : sep ∉ p) : splitAtChar sep (p ++ sep :: cs) = p :: splitAtChar sep cs := by
  induction p
  case nil => rw [List.nil_append, splitAtChar, if_pos rfl]
  case cons c p ih =>
    obtain ⟨hc, hp⟩ := not_or.mp (mt List.mem_cons.mpr h)
    rw [List.cons_append, splitAtChar, if_neg (Ne.symm hc), ih hp]

-- Pieces that are each followed by the separator.
theorem splitAtChar_flatMap (h : ∀ p ∈ ps, sep ∉ p) : splitAtChar sep (ps.flatMap (· ++ [sep])) = ps ++ [[]] := by
  induction ps
  case nil => rfl
  case cons p ps ih =>
    obtain ⟨hp, hps⟩ := List.forall_mem_cons.mp h
    rw [List.flatMap_cons, List.append_assoc, List.singleton_append, splitAtChar_append hp, ih hps, List.cons_append]

end ModuleDiscovery.Text

namespace ModuleDiscovery.Dendrogram

open Number Text

-- The dendrogram without its similarities.
def shape {α : Type} : Dendrogram α → Dendrogram Unit
  | leaf u       => leaf u
  | fusion l r _ => fusion l.shape r.shape ()

section Listings

-- A tree that was read, with the column in which the line of each node starts.
inductive Listed
  | leaf (column : Nat) (unit : UnitName)
  | fusion (column : Nat) (left right : Listed)

namespace Listed

def shape : Listed → Dendrogram Unit
  | leaf _ u     => .leaf u
  | fusion _ l r => .fusion l.shape r.shape ()

-- Whether each line is indented by two columns for each node above its own.
def IsIndented (depth : Nat) : Listed → Prop
  | leaf c _     => c = 2 * depth
  | fusion c l r => c = 2 * depth ∧ l.IsIndented (depth + 1) ∧ r.IsIndented (depth + 1)

-- The trees that are there after a line without its indentation. The one that was read last is the right part of a
-- fusion.
def place? (ts : List Listed) (column : Nat) : List Char → Option (List Listed)
  | '-' :: ' ' :: cs => some (leaf column (String.ofList cs) :: ts)
  | cs =>
    if "[merge".toList <+: cs then
      match ts with
      | r :: l :: ts => some (fusion column l r :: ts)
      | _            => none
    else none

-- A listing is read line by line with a stack of trees.
def push? (ts : List Listed) (line : List Char) : Option (List Listed) :=
  let column := (line.takeWhile (· = ' ')).length
  place? ts column (line.drop column)

-- The trees of a text, of which each line is ended.
def read? (text : String) : Option (List Listed) :=
  (splitAtChar '\n' text.toList).dropLast.foldlM push? []

end Listed

variable {t : Dendrogram Float}

theorem toList_indentation (depth : Nat) :
    (String.join (List.replicate depth "  ")).toList = List.replicate (2 * depth) ' ' := by
  induction depth
  case zero => rfl
  case succ d ih => simp [List.replicate_succ, ih, Nat.mul_succ]

theorem push?_append {ts : List Listed} {c : Char} {cs : List Char} (column : Nat) (hc : c ≠ ' ') :
    Listed.push? ts (List.replicate column ' ' ++ c :: cs) = Listed.place? ts column (c :: cs) := by
  have ht : (List.replicate column ' ' ++ c :: cs).takeWhile (· = ' ') = List.replicate column ' ' := by
    rw [List.takeWhile_append_of_pos (by simp), List.takeWhile_cons_of_neg (by simpa using hc), List.append_nil]
  rw [Listed.push?, ht, List.length_replicate, List.drop_left' List.length_replicate]

theorem toList_leafLine (u : UnitName) : (leafLine u).toList = '-' :: ' ' :: u.toList := by
  simp [leafLine]

theorem exists_fusionLine (t : Dendrogram Float) : ∃ cs, (fusionLine t).toList = '[' :: ("merge".toList ++ cs) :=
  ⟨_, by simp [fusionLine]; rfl⟩

-- The lines of a subtree leave it on the stack, whatever is there and whatever comes behind them.
theorem foldlM_push?_listingLines (t : Dendrogram Float) (depth : Nat) :
    ∃ n : Listed, n.shape = t.shape ∧ n.IsIndented depth ∧
      ∀ ts ls, ((listingLines "  " depth t).map String.toList ++ ls).foldlM Listed.push? ts =
        ls.foldlM Listed.push? (n :: ts) := by
  induction t generalizing depth
  case leaf u =>
    refine ⟨.leaf (2 * depth) u, rfl, rfl, fun ts ls => ?_⟩
    rw [listingLines, List.map_singleton, String.toList_append, toList_indentation, toList_leafLine,
      List.singleton_append, List.foldlM_cons, push?_append _ (by decide)]
    simp [Listed.place?]
  case fusion l r s hl hr =>
    obtain ⟨m, hm, hmi, hl⟩ := hl (depth + 1)
    obtain ⟨n, hn, hni, hr⟩ := hr (depth + 1)
    refine ⟨.fusion (2 * depth) m n, by simp [Listed.shape, shape, hm, hn], ⟨rfl, hmi, hni⟩, fun ts ls => ?_⟩
    have ⟨cs, hcs⟩ := exists_fusionLine (fusion l r s)
    rw [listingLines, List.map_append, List.map_append, List.append_assoc, List.append_assoc, hl, hr,
      List.map_singleton, String.toList_append, toList_indentation, hcs, List.singleton_append, List.foldlM_cons,
      push?_append _ (by decide)]
    simp [Listed.place?]

theorem mem_intercalate {c : Char} {sep : List Char} {ls : List (List Char)} (h : c ∈ sep.intercalate ls) :
    c ∈ sep ∨ ∃ l ∈ ls, c ∈ l := by
  induction ls
  case nil => cases h
  case cons l ls ih =>
    cases ls
    case nil => exact .inr ⟨l, List.mem_cons_self, by simpa using h⟩
    case cons k ks =>
      rw [List.intercalate_cons_cons, List.mem_append, List.mem_append] at h
      rcases h with (h | h) | h
      case inl.inl => exact .inr ⟨l, List.mem_cons_self, h⟩
      case inl.inr => exact .inl h
      case inr     => exact (ih h).imp_right fun ⟨m, hm, hc⟩ => ⟨m, .tail _ hm, hc⟩

-- The line ends in a listing come from the names of units, but for those between its lines.
theorem exists_unit_of_mem_fusionLine {c : Char} (hc : isLineEnd c) (h : c ∈ (fusionLine t).toList) :
    ∃ u ∈ t.units, c ∈ u.toList := by
  have ⟨hn, hf⟩ := List.all_iff_forall_prop (p := fun c => ¬isFigure c ∧ c ∉ "[merge sim=] \x7b, \x7d".toList).mp
    (by decide) c (of_decide_eq_true hc)
  have hx : c ∉ (fixedText 3 t.similarity).toList := fun h => hn (isFigure_of_mem_fixedText h)
  have hm : c ∈ [',', ' '].intercalate (t.members.map String.toList) := by
    simp [fusionLine] at h hf
    tauto
  rcases mem_intercalate hm with hc | ⟨l, hl, hc⟩
  case inl => simp_all
  case inr =>
    have ⟨u, hu, he⟩ := List.mem_map.mp hl
    exact ⟨u, mem_sortedUnits.mp hu, he ▸ hc⟩

theorem mem_listingLines_iff {c : Char} (depth : Nat) (hc : isLineEnd c) :
    (∃ l ∈ listingLines "  " depth t, c ∈ l.toList) ↔ ∃ u ∈ t.units, c ∈ u.toList := by
  have hs : c ≠ ' ' ∧ c ≠ '-' := by constructor <;> rintro rfl <;> exact absurd hc (by decide)
  induction t generalizing depth
  case leaf u => simp [listingLines, toList_leafLine, units, hs]
  case fusion l r s hl hr =>
    simp only [listingLines, List.mem_append, List.mem_singleton, or_and_right, exists_or, hl, hr, exists_eq_left,
      units, String.toList_append, toList_indentation, List.mem_replicate, hs.1, and_false, false_or]
    exact or_iff_left_of_imp fun h => by simpa [units, or_and_right, exists_or] using exists_unit_of_mem_fusionLine hc h

theorem newline_not_mem_listingLines {depth : Nat} (h : ∀ u ∈ t.units, '\n' ∉ u.toList) :
    ∀ l ∈ listingLines "  " depth t, '\n' ∉ l.toList := by
  intro l hl hc
  have ⟨u, hu, hc⟩ := (mem_listingLines_iff depth rfl).mp ⟨l, hl, hc⟩
  exact h u hu hc

theorem listingLines_ne_nil (t : Dendrogram Float) (depth : Nat) : listingLines "  " depth t ≠ [] := by
  cases t <;> simp [listingLines]

theorem toList_listing (t : Dendrogram Float) : (listing "  " (some t)).toList =
    ((listingLines "  " 0 t).map String.toList).flatMap (· ++ ['\n']) := by
  obtain ⟨l, ls, hl⟩ := List.exists_cons_of_ne_nil (listingLines_ne_nil t 0)
  rw [listing, hl, String.toList_append, String.toList_intercalate]
  exact Dot.intercalate_append ['\n'] l.toList (ls.map String.toList)

theorem read?_listing (h : ∀ u ∈ t.units, '\n' ∉ u.toList) :
    ∃ n : Listed, Listed.read? (listing "  " (some t)) = some [n] ∧ n.shape = t.shape ∧ n.IsIndented 0 := by
  have ⟨n, hs, hi, hr⟩ := foldlM_push?_listingLines t 0
  refine ⟨n, ?_, hs, hi⟩
  have hp : ∀ p ∈ (listingLines "  " 0 t).map String.toList, '\n' ∉ p :=
    List.forall_mem_map.mpr (newline_not_mem_listingLines h)
  have hr := hr [] []
  rw [List.append_nil] at hr
  rw [Listed.read?, toList_listing, splitAtChar_flatMap hp, List.dropLast_concat, hr]
  rfl

end Listings

section Outlines

def unitName? : Value → Option UnitName
  | .text u => some u
  | _       => none

-- The dendrogram of an outline, with the similarity and the members that are written at each fusion.
def readOutline? : Value → Option (Dendrogram (Value × List UnitName))
  | .table [("unit", .text u)] => some (leaf u)
  | .table [("similarity", s), ("members", .list ms), ("children", .list [l, r])] => do
    return fusion (← readOutline? l) (← readOutline? r) (s, ← ms.mapM unitName?)
  | _ => none

variable {α : Type} {round : α → Except PlacesFault Value}

-- A dendrogram with the rounded similarity and the names of the units below, in order and each once, at each fusion.
inductive Annotates (round : α → Except PlacesFault Value) : Dendrogram α → Dendrogram (Value × List UnitName) → Prop
  | leaf (u : UnitName) : Annotates round (.leaf u) (.leaf u)
  | fusion {l r : Dendrogram α} {l' r' : Dendrogram (Value × List UnitName)} {s : α} {v : Value} {ms : List UnitName} :
    Annotates round l l' → Annotates round r r' → round s = .ok v → ms.Pairwise (· < ·) →
    (∀ u, u ∈ ms ↔ u ∈ (Dendrogram.fusion l r s).units) →
    Annotates round (.fusion l r s) (.fusion l' r' (v, ms))

theorem Annotates.shape_eq {t : Dendrogram α} {t' : Dendrogram (Value × List UnitName)} (h : Annotates round t t') :
    t'.shape = t.shape := by
  induction h
  case leaf => rfl
  case fusion hl hr => rw [shape, shape, hl, hr]

theorem mapM_unitName? (us : List UnitName) : (us.map Value.text).mapM unitName? = some us := by
  induction us
  case nil          => rfl
  case cons u us ih => rw [List.map_cons, List.mapM_cons, ih]; rfl

theorem readOutline?_outline {t : Dendrogram α} {v : Value} (h : t.outline round = .ok v) :
    ∃ t', readOutline? v = some t' ∧ Annotates round t t' := by
  induction t generalizing v
  case leaf u =>
    cases h
    exact ⟨.leaf u, by simp [readOutline?], .leaf u⟩
  case fusion l r s hl hr =>
    have ⟨x, hx, h⟩   := bind_eq_ok.mp h
    have ⟨vl, hvl, h⟩ := bind_eq_ok.mp h
    have ⟨vr, hvr, h⟩ := bind_eq_ok.mp h
    cases h
    have ⟨l', hl, hal⟩ := hl hvl
    have ⟨r', hr, har⟩ := hr hvr
    refine ⟨.fusion l' r' (x, (fusion l r s).members), ?_,
      .fusion hal har hx (pairwise_sortedUnits _) fun _ => mem_sortedUnits⟩
    rw [readOutline?, hl, hr, mapM_unitName?]
    rfl

end Outlines

-- Listings hold the names of units as they are, so that a name of several lines would be read as lines of their own.
theorem encoders_keep_tree (t : Dendrogram Float) :
    ((∀ u ∈ t.units, '\n' ∉ u.toList) → ∃ n : Listed, Listed.read? (listing "  " (some t)) = some [n] ∧
      n.shape = t.shape ∧ n.IsIndented 0) ∧
    (∀ n : Nat, ∃ v, t.outline (Places.round (.int n)) = .ok v) ∧
    ∀ precision v, t.outline (Places.round precision) = .ok v →
      ∃ t', readOutline? v = some t' ∧ t'.shape = t.shape ∧ Annotates (Places.round precision) t t' := by
  refine ⟨read?_listing, fun n => isOk_iff.mp (isOk_outline (isOk_round_int n) t), fun precision v h => ?_⟩
  have ⟨t', hr, ha⟩ := readOutline?_outline h
  exact ⟨t', hr, ha.shape_eq, ha⟩

-- Units whose names look like other lines.
theorem encoders_keep_tree_lines_as_names :
    let t : Dendrogram Float := fusion (fusion (leaf "  - b") (leaf "- ") 0.5) (leaf "[merge") 0.25
    (∃ n : Listed, Listed.read? (listing "  " (some t)) = some [n] ∧ n.shape = t.shape ∧ n.IsIndented 0) ∧
      ∃ v t', t.outline (Places.round (.int 4)) = .ok v ∧ readOutline? v = some t' ∧ t'.shape = t.shape := by
  intro t
  have ⟨hl, ho, hr⟩ := encoders_keep_tree t
  have ⟨v, hv⟩ := ho 4
  have ⟨t', ht, hs, _⟩ := hr _ v hv
  exact ⟨hl (by decide), v, t', hv, ht, hs⟩

end ModuleDiscovery.Dendrogram
