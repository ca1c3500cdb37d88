import ModuleDiscovery.Proofs.Analysis.Units
import ModuleDiscovery.Proofs.Clustering.Nodes
import ModuleDiscovery.Proofs.Console.Label
import ModuleDiscovery.Proofs.Report.Csv
import ModuleDiscovery.Proofs.Report.Listing
import ModuleDiscovery.Report.Display

namespace ModuleDiscovery

namespace Console

open Markup Number

section Grids

namespace Grid

variable {title : String} {columns : List (String × Align × List String)} {g : Grid}

-- The cells of a column as they are shown.
def cells? (g : Grid) (i : Nat) : Option (List (List Char)) :=
  (g.columns[i]?).map Column.cells

def readColumn (c : String × Align × List String) : Except MarkupFault Column := do
  return ⟨← plain c.1.toList, c.2.1, ← c.2.2.mapM fun s => plain s.toList⟩

-- The cells row by row, as markup.
def markupRows (columns : List (String × Align × List String)) : List (List (List Char)) :=
  rows ⟨[], columns.map fun c => ⟨c.1.toList, c.2.1, c.2.2.map String.toList⟩⟩

theorem ofMarkup_eq : ofMarkup title columns = do
    let read ← columns.mapM readColumn
    (markupRows columns).forM fun row => row.forM checkStyles
    return ⟨title.toList, read⟩ :=
  rfl

theorem columns_ofMarkup (h : ofMarkup title columns = .ok g) :
    List.Forall₂ (fun c d => c.2.2.mapM (fun s => plain s.toList) = .ok d.cells) columns g.columns := by
  rw [ofMarkup_eq] at h
  have ⟨ds, hd, h⟩ := bind_eq_ok.mp h
  have ⟨_, _, h⟩   := bind_eq_ok.mp h
  cases h
  refine (mapM_eq_ok.mp hd).imp fun c d h => ?_
  have ⟨_, _, h⟩  := bind_eq_ok.mp h
  have ⟨_, hc, h⟩ := bind_eq_ok.mp h
  cases h
  exact hc

theorem cells?_ofMarkup (h : ofMarkup title columns = .ok g) {i : Nat} {c : String × Align × List String}
    (hc : columns[i]? = some c) : ∃ ds, g.cells? i = some ds ∧ c.2.2.mapM (fun s => plain s.toList) = .ok ds := by
  have hg := columns_ofMarkup h
  clear h
  unfold cells?
  generalize g.columns = ds at hg
  induction hg generalizing i
  case nil => cases hc
  case cons d cs ds hd _ ih =>
    cases i
    case zero =>
      cases hc
      exact ⟨d.cells, rfl, hd⟩
    case succ i => exact ih hc

theorem cells?_of_shown {α : Type} {xs : List α} {f : α → String} (h : ofMarkup title columns = .ok g) {i : Nat}
    {c : String × Align × List String} (hc : columns[i]? = some c) (hx : c.2.2 = xs.map f)
    (hs : ∀ x ∈ xs, shown (f x).toList = .ok (f x).toList) : g.cells? i = some (xs.map fun x => (f x).toList) := by
  obtain ⟨ds, hd, hm⟩ := cells?_ofMarkup h hc
  have hp : (xs.map f).mapM (fun s => plain s.toList) = .ok ((xs.map f).map String.toList) :=
    mapM_eq_ok_map.mpr (List.forall_mem_map.mpr fun x hm => (shown_eq_ok_iff.mp (hs x hm)).1)
  rw [hx, hp, List.map_map] at hm
  cases hm
  exact hd

theorem isOk_readColumn {c : String × Align × List String} (hc : (shown c.1.toList).isOk)
    (h : ∀ s ∈ c.2.2, (shown s.toList).isOk) : (readColumn c).isOk := by
  have hs : (c.2.2.mapM fun s => plain s.toList).isOk := by
    rw [isOk_mapM, List.all_eq_true]
    exact fun s hm => (isOk_shown_iff.mp (h s hm)).1
  have ⟨_, hs⟩ := isOk_iff.mp hs
  have ⟨_, hp⟩ := isOk_iff.mp (isOk_shown_iff.mp hc).1
  rw [readColumn, hp, hs]
  rfl

theorem eq_nil_or_mem_of_mem_markupRows {row : List (List Char)} {cs : List Char} (hr : row ∈ markupRows columns)
    (hc : cs ∈ row) : cs = [] ∨ ∃ c ∈ columns, ∃ s ∈ c.2.2, s.toList = cs := by
  obtain ⟨i, -, rfl⟩ := List.mem_map.mp hr
  obtain ⟨d, hd, rfl⟩ := List.mem_map.mp hc
  obtain ⟨c, hcm, rfl⟩ := List.mem_map.mp hd
  dsimp only
  cases hi : (c.2.2.map String.toList)[i]?
  case none    => exact .inl rfl
  case some cs =>
    have ⟨s, hs, he⟩ := List.mem_map.mp (List.mem_of_getElem? hi)
    exact .inr ⟨c, hcm, s, hs, he⟩

theorem isOk_ofMarkup (title : String)
    (h : ∀ c ∈ columns, (shown c.1.toList).isOk ∧ ∀ s ∈ c.2.2, (shown s.toList).isOk) :
    (ofMarkup title columns).isOk := by
  have hg : (columns.mapM readColumn).isOk := by
    rw [isOk_mapM, List.all_eq_true]
    exact fun c hc => isOk_readColumn (h c hc).1 (h c hc).2
  have hr : ((markupRows columns).forM fun row => row.forM checkStyles) = .ok () := by
    refine forM_eq_ok fun row hr => forM_eq_ok fun cs hc => ?_
    rcases eq_nil_or_mem_of_mem_markupRows hr hc with rfl | ⟨c, hcm, s, hs, rfl⟩
    case inl => exact checkStyles_of_isBare isBare_nil
    case inr => exact (isOk_shown_iff.mp ((h c hcm).2 s hs)).2
  have ⟨_, hg⟩ := isOk_iff.mp hg
  rw [ofMarkup_eq, hg, ok_bind, hr]
  rfl

end Grid
end Grids

section Branches

namespace Branch

-- The labels of a tree, each in front of those below it.
mutual

def labels : Branch → List String
  | mk label below => label :: labelsBelow below

def labelsBelow : List Branch → List String
  | []      => []
  | b :: bs => labels b ++ labelsBelow bs

end

mutual

theorem isOk_lines (n : Nat) (first next : List Char) {b : Branch} (h : ∀ l ∈ b.labels, (shown l.toList).isOk) :
    (b.lines n first next).isOk := by
  cases b
  case mk label below =>
    rw [labels, List.forall_mem_cons] at h
    have hl : (labelLines (n - next.length) label).isOk := by
      unfold labelLines
      split
      case isTrue  => rfl
      case isFalse => rw [isOk_map]; exact h.1
    have ⟨ls, hl⟩   := isOk_iff.mp hl
    have ⟨rest, hr⟩ := isOk_iff.mp (isOk_linesBelow n next h.2)
    rw [lines, hl, hr]
    rfl

theorem isOk_linesBelow (n : Nat) (next : List Char) {bs : List Branch}
    (h : ∀ l ∈ labelsBelow bs, (shown l.toList).isOk) : (linesBelow n next bs).isOk := by
  match bs with
  | []           => rfl
  | [b]          =>
    rw [linesBelow]
    exact isOk_lines _ _ _ fun l hl => h l (by simpa [labelsBelow] using hl)
  | b :: c :: bs =>
    rw [labelsBelow, List.forall_mem_append] at h
    have ⟨ls, hl⟩ := isOk_iff.mp (isOk_lines n (next ++ "├── ".toList) (next ++ "│   ".toList) h.1)
    have ⟨rest, hr⟩ := isOk_iff.mp (isOk_linesBelow n next h.2)
    rw [linesBelow, hl, hr]
    rfl
    nofun

end

end Branch
end Branches
end Console

namespace Analysis

open Console Markup Number Text

section Labels

-- What a node is called: the unit, or the similarity and the names of the units below.
def nodeText : Dendrogram Float → String
  | .leaf u       => u
  | .fusion l r s => "sim=" ++ fixedText 3 s ++ " \x7b" ++ ", ".intercalate (Dendrogram.fusion l r s).members ++ "\x7d"

theorem labels_branch (t : Dendrogram Float) : (branch t).labels = t.walk.map nodeLabel := by
  induction t
  case leaf u => rw [Dendrogram.walk_leaf]; rfl
  case fusion l r s hl hr =>
    rw [Dendrogram.walk_fusion, branch, Branch.labels, Branch.labelsBelow, Branch.labelsBelow, Branch.labelsBelow, hl,
      hr, List.append_nil, List.map_cons, List.map_append]

-- A name is shown as it is between tags.
structure IsNameUnmarked (u : UnitName) : Prop where
  unmarked   : IsUnmarked u.toList
  unstripped : ∀ c ∈ u.toList, isStripped c = false
  ending     : u.toList.getLast? ≠ some '\\'

theorem shown_leafLabel_iff (u : UnitName) :
    Markup.shown (nodeLabel (.leaf u)).toList = .ok u.toList ↔ IsNameUnmarked u := by
  have he : (nodeLabel (.leaf u)).toList = styled "bold".toList u.toList := by
    simp [nodeLabel, styled]
  rw [he, shown_styled_eq_self_iff (isStyle_of_mem "bold" (by decide)) (by decide)]
  exact ⟨fun h => ⟨h.1.1, h.1.2, h.2⟩, fun h => ⟨⟨h.unmarked, h.unstripped⟩, h.ending⟩⟩

theorem isInert_of_isFigure {c : Char} (h : isFigure c) : IsInert c ∧ isStripped c = false := by
  have hn : ∀ c ∈ ['[', ':', '\\', '\x07', '\x08', ']', '\x0b', '\x0c', '\x0d'], isFigure c = false :=
    List.all_iff_forall_prop.mp (by decide)
  have hc : c ∉ ['[', ':', '\\', '\x07', '\x08', ']', '\x0b', '\x0c', '\x0d'] := fun hm => by simp [hn c hm] at h
  simp only [List.mem_cons, List.not_mem_nil, or_false, not_or] at hc
  simp [IsInert, isMark, isStripped, hc]

theorem isUnmarked_of_isInert {cs : List Char} (h : ∀ c ∈ cs, IsInert c) : IsUnmarked cs := by
  have he : IsUnmarked (cs ++ ([] ++ [])) ↔ IsUnmarked [] := isUnmarked_enclosed_iff h nofun
  rw [List.append_nil, List.append_nil] at he
  exact he.mpr isUnmarked_nil

theorem shown_fusionLabel_iff (l r : Dendrogram Float) (s : Float) :
    Markup.shown (nodeLabel (.fusion l r s)).toList = .ok (nodeText (.fusion l r s)).toList ↔
      IsUnmarked (", ".intercalate (Dendrogram.fusion l r s).members).toList ∧
      ∀ c ∈ (", ".intercalate (Dendrogram.fusion l r s).members).toList, isStripped c = false := by
  rw [nodeLabel, nodeText]
  generalize (Dendrogram.fusion l r s).members = us
  have hv : ∀ c ∈ "sim=".toList ++ (fixedText 3 s).toList, IsInert c ∧ isStripped c = false := by
    have hs : ∀ c ∈ "sim=".toList, IsInert c ∧ isStripped c = false := List.all_iff_forall_prop.mp (by decide)
    exact List.forall_mem_append.mpr ⟨hs, fun c hc => isInert_of_isFigure (isFigure_of_mem_fixedText hc)⟩
  have hb : ∀ c ∈ " \x7b".toList, IsInert c ∧ isStripped c = false := List.all_iff_forall_prop.mp (by decide)
  have he : ∀ c ∈ "\x7d".toList, IsInert c ∧ isStripped c = false := List.all_iff_forall_prop.mp (by decide)
  have hl : ("sim=".toList ++ (fixedText 3 s).toList).getLast? ≠ some '\\' := fun h =>
    absurd (hv _ (List.mem_of_mem_getLast? h)).1.1 (by decide)
  have hi := shown_styled_eq_iff (" \x7b".toList ++ ((", ".intercalate us).toList ++ "\x7d".toList))
    (isStyle_of_mem "cyan" (by decide)) (isUnmarked_of_isInert fun c hc => (hv c hc).1) (fun c hc => (hv c hc).2) hl
  rw [isUnmarked_enclosed_iff (fun c hc => (hb c hc).1) (fun c hc => (he c hc).1), List.forall_mem_append,
    List.forall_mem_append, and_iff_right fun c hc => (hb c hc).2, and_iff_left fun c hc => (he c hc).2] at hi
  rw [← hi]
  have hl : ("[cyan]sim=" ++ fixedText 3 s ++ "[/cyan] \x7b" ++ ", ".intercalate us ++ "\x7d").toList =
      styled "cyan".toList ("sim=".toList ++ (fixedText 3 s).toList) ++
        (" \x7b".toList ++ ((", ".intercalate us).toList ++ "\x7d".toList)) := by
    simp [styled]
  have ht : ("sim=" ++ fixedText 3 s ++ " \x7b" ++ ", ".intercalate us ++ "\x7d").toList =
      "sim=".toList ++ (fixedText 3 s).toList ++
        (" \x7b".toList ++ ((", ".intercalate us).toList ++ "\x7d".toList)) := by
    simp
  rw [hl, ht]

end Labels

section Names

variable {g : CallGraph} {s : Settings} {a : Analysis}

-- Every name and every list of names is shown as it is: in the tables of weights and modules, and at the nodes of the
-- tree.
structure ShowsNames (a : Analysis) : Prop where
  weights : ∀ ws rows, a.coupling.rankedWeights = .ok ws → a.weightCells = .ok rows →
    ∃ grid, weightGrid rows = .ok grid ∧ grid.cells? 0 = some (ws.map fun p => p.1.a.toList) ∧
      grid.cells? 1 = some (ws.map fun p => p.1.b.toList)
  tree : ∀ t, a.clustering.root = some t →
    (branch t).labels.map (fun l => Markup.shown l.toList) = t.walk.map fun n => .ok (nodeText n).toList
  modules : ∃ grid, a.moduleGrid = .ok grid ∧
    grid.cells? 1 = some (a.extraction.modules.map fun m => (", ".intercalate m.members).toList)

-- There is no markup in any name and in any list of names.
structure NamesUnmarked (a : Analysis) : Prop where
  unit : ∀ u ∈ a.units, IsNameUnmarked u
  node : ∀ t, a.clustering.root = some t → ∀ n ∈ t.walk, IsUnmarked (", ".intercalate n.members).toList
  module : ∀ m ∈ a.extraction.modules, IsUnmarked (", ".intercalate m.members).toList

-- The characters of a list of names are those of the names and of what joins them.
theorem forall_mem_intercalate {P : Char → Prop} {us : List UnitName} (hs : ∀ c ∈ ", ".toList, P c)
    (h : ∀ u ∈ us, ∀ c ∈ u.toList, P c) : ∀ c ∈ (", ".intercalate us).toList, P c := by
  intro c hc
  rw [String.toList_intercalate] at hc
  rcases Dendrogram.mem_intercalate hc with hc | ⟨l, hl, hc⟩
  case inl => exact hs c hc
  case inr =>
    obtain ⟨u, hu, rfl⟩ := List.mem_map.mp hl
    exact h u hu c hc

theorem isOk_shown_of_not_mem {cs : List Char} (h : '[' ∉ cs) : (Markup.shown cs).isOk := by
  rw [shown_of_isBare (isBare_of_not_mem h)]
  rfl

theorem isOk_shown_of_isFigure {t : String} (h : ∀ c ∈ t.toList, isFigure c) : (Markup.shown t.toList).isOk :=
  isOk_shown_of_not_mem fun hc => absurd (h _ hc) (by decide)

-- The rows of the table of weights hold the names of a pair and two numbers.
theorem rows_weightCells {ws : List (Pair × Float)} {rows : List (List String)} (hw : a.coupling.rankedWeights = .ok ws)
    (hr : a.weightCells = .ok rows) : List.Forall₂ (fun p row => ∃ n x, row = [p.1.a, p.1.b, n, x] ∧
      (∀ c ∈ n.toList, isFigure c) ∧ ∀ c ∈ x.toList, isFigure c) ws rows := by
  rw [weightCells, hw, ok_bind] at hr
  refine (mapM_eq_ok.mp hr).imp fun p row h => ?_
  obtain ⟨x, hx, rfl⟩ := map_eq_ok.mp (mapError_eq_ok.mp h)
  exact ⟨_, x, rfl, fun c => isFigure_of_mem_toString_int, Places.isFigure_of_text hx⟩

theorem cellsOf_weightCells {ws : List (Pair × Float)} {rows : List (List String)}
    (hw : a.coupling.rankedWeights = .ok ws) (hr : a.weightCells = .ok rows) :
    cellsOf rows 0 = ws.map (·.1.a) ∧ cellsOf rows 1 = ws.map (·.1.b) ∧
      (∀ x ∈ cellsOf rows 2, ∀ c ∈ x.toList, isFigure c) ∧ ∀ x ∈ cellsOf rows 3, ∀ c ∈ x.toList, isFigure c := by
  have h := rows_weightCells hw hr
  clear hw hr
  induction h
  case nil => simp [cellsOf]
  case cons hp _ ih =>
    obtain ⟨n, x, rfl, hn, hx⟩ := hp
    obtain ⟨ha, hb, hc, hd⟩ := ih
    exact ⟨congrArg _ ha, congrArg _ hb, List.forall_mem_cons.mpr ⟨hn, hc⟩, List.forall_mem_cons.mpr ⟨hx, hd⟩⟩

theorem IsNameUnmarked.shown {u : UnitName} (h : IsNameUnmarked u) : Markup.shown u.toList = .ok u.toList :=
  shown_eq_self_iff.mpr ⟨h.unmarked, h.unstripped⟩

theorem isOk_weightGrid {ws : List (Pair × Float)} {rows : List (List String)} (hw : a.coupling.rankedWeights = .ok ws)
    (hr : a.weightCells = .ok rows) (h : ∀ p ∈ ws, IsNameUnmarked p.1.a ∧ IsNameUnmarked p.1.b) :
    (weightGrid rows).isOk := by
  have ⟨ha, hb, hc, hd⟩ := cellsOf_weightCells hw hr
  have hn {f : Pair × Float → UnitName} (h : ∀ p ∈ ws, IsNameUnmarked (f p)) :
      ∀ u ∈ ws.map f, (Markup.shown u.toList).isOk :=
    List.forall_mem_map.mpr fun p hp => isOk_iff.mpr ⟨_, (h p hp).shown⟩
  refine Grid.isOk_ofMarkup _ ?_
  simp only [List.forall_mem_cons, List.not_mem_nil, false_imp_iff, implies_true, and_true, ha, hb]
  refine ⟨⟨?_, hn fun p hp => (h p hp).1⟩, ⟨?_, hn fun p hp => (h p hp).2⟩,
    ⟨?_, fun x hx => isOk_shown_of_isFigure (hc x hx)⟩, ⟨?_, fun x hx => isOk_shown_of_isFigure (hd x hx)⟩⟩
  all_goals exact isOk_shown_of_not_mem (by decide)

theorem isOk_shown_styled (style : String) (cs rest : List Char)
    (hs : style ∈ ["bold", "bold cyan", "cyan", "green", "yellow", "dim", "red"]) (hc : '[' ∉ cs)
    (hl : cs.getLast? ≠ some '\\') (hr : '[' ∉ rest) : (Markup.shown (styled style.toList cs ++ rest)).isOk := by
  rw [shown_styled (isStyle_of_mem style hs) (isBare_of_not_mem hc) hl (isBare_of_not_mem hr)]
  rfl

theorem toList_styled (style t rest : String) : ("[" ++ style ++ "]" ++ t ++ "[/" ++ style ++ "]" ++ rest).toList =
    styled style.toList t.toList ++ rest.toList := by
  simp [styled]

theorem isOk_shown_averageLabel (threshold x : Float) : (Markup.shown (averageLabel threshold x).toList).isOk := by
  have hf {c : Char} (hn : isFigure c = false) : c ∉ (fixedText 4 x).toList := fun hc =>
    absurd (isFigure_of_mem_fixedText hc) (by simp [hn])
  have hs (style : String) (hs : style ∈ ["bold", "bold cyan", "cyan", "green", "yellow", "dim", "red"]) :
      (Markup.shown ("[" ++ style ++ "]" ++ fixedText 4 x ++ "[/" ++ style ++ "]").toList).isOk := by
    rw [← String.append_empty (s := _ ++ "]"), toList_styled]
    exact isOk_shown_styled _ _ _ hs (hf rfl) (fun h => hf rfl (List.mem_of_mem_getLast? h)) List.not_mem_nil
  unfold averageLabel
  dsimp only
  split
  case isTrue => exact hs "green" (by decide)
  case isFalse =>
    split
    case isTrue  => exact hs "yellow" (by decide)
    case isFalse => exact hs "dim" (by decide)

theorem isOk_moduleGrid (h : ∀ m ∈ a.extraction.modules, (Markup.shown (", ".intercalate m.members).toList).isOk) :
    a.moduleGrid.isOk := by
  refine Grid.isOk_ofMarkup _ ?_
  simp only [List.forall_mem_cons, List.not_mem_nil, false_imp_iff, implies_true, and_true, List.forall_mem_map]
  refine ⟨⟨?_, fun c _ => isOk_shown_of_isFigure fun _ => isFigure_of_mem_toString⟩, ⟨?_, h⟩,
    ⟨?_, fun m _ => isOk_shown_of_isFigure fun _ => isFigure_of_mem_toString⟩,
    ⟨?_, fun m _ => isOk_shown_averageLabel _ _⟩⟩
  all_goals exact isOk_shown_of_not_mem (by decide)

theorem mem_units_of_mem_ranked {ws : List (Pair × Float)} (h : run g s = .ok a)
    (hw : a.coupling.rankedWeights = .ok ws) {p : Pair × Float} (hp : p ∈ ws) : p.1.a ∈ a.units ∧ p.1.b ∈ a.units := by
  have hm : p.1 ∈ a.coupling.ranked.map (·.1) := rankedWeights_pairs hw ▸ List.mem_map_of_mem hp
  obtain ⟨c, hc, he⟩ := List.mem_map.mp hm
  rw [Coupling.ranked, List.mem_mergeSort] at hc
  rw [← he]
  exact ⟨mem_units_of_mentions h (.first hc), mem_units_of_mentions h (.second hc)⟩

theorem leaf_mem_walk {t : Dendrogram Float} {u : UnitName} (h : u ∈ t.units) : .leaf u ∈ t.walk := by
  induction t
  case leaf => simpa [Dendrogram.walk_leaf] using h
  case fusion l r s hl hr =>
    rw [Dendrogram.walk_fusion]
    exact .tail _ (List.mem_append.mpr ((List.mem_append.mp h).imp hl hr))

theorem labels_shown_iff {t : Dendrogram Float} :
    (branch t).labels.map (fun l => Markup.shown l.toList) = t.walk.map (fun n => .ok (nodeText n).toList) ↔
      ∀ n ∈ t.walk, Markup.shown (nodeLabel n).toList = .ok (nodeText n).toList := by
  rw [labels_branch, List.map_map, List.map_inj_left]
  rfl

theorem NamesUnmarked.unstripped (h : run g s = .ok a) (hu : a.NamesUnmarked) {us : List UnitName}
    (hm : ∀ u ∈ us, a.Mentions u) : ∀ c ∈ (", ".intercalate us).toList, isStripped c = false :=
  forall_mem_intercalate (List.all_iff_forall_prop.mp (by decide)) fun u hus =>
    (hu.unit u (mem_units_of_mentions h (hm u hus))).unstripped

theorem NamesUnmarked.shows (h : run g s = .ok a) (hu : a.NamesUnmarked) : a.ShowsNames := by
  refine ⟨fun ws rows hw hr => ?weights, fun t ht => labels_shown_iff.mpr fun n hn => ?tree, ?modules⟩
  case weights =>
    have hp : ∀ p ∈ ws, IsNameUnmarked p.1.a ∧ IsNameUnmarked p.1.b := fun p hp =>
      (mem_units_of_mem_ranked h hw hp).imp (hu.unit _) (hu.unit _)
    have ⟨grid, hg⟩  := isOk_iff.mp (isOk_weightGrid hw hr hp)
    have ⟨ha, hb, _⟩ := cellsOf_weightCells hw hr
    exact ⟨grid, hg, Grid.cells?_of_shown hg rfl ha fun p hm => (hp p hm).1.shown,
      Grid.cells?_of_shown hg rfl hb fun p hm => (hp p hm).2.shown⟩
  case tree =>
    cases n
    case leaf u =>
      have hm : a.Mentions u := .leaf ht ((Dendrogram.units_sublist hn).subset (by simp))
      exact (shown_leafLabel_iff u).mpr (hu.unit u (mem_units_of_mentions h hm))
    case fusion l r x =>
      have hm : ∀ u ∈ (Dendrogram.fusion l r x).members, a.Mentions u := fun u hm =>
        .leaf ht ((Dendrogram.units_sublist hn).subset (mem_sortedUnits.mp hm))
      exact (shown_fusionLabel_iff l r x).mpr ⟨hu.node t ht _ hn, hu.unstripped h hm⟩
  case modules =>
    have hs : ∀ m ∈ a.extraction.modules, Markup.shown (", ".intercalate m.members).toList =
        .ok (", ".intercalate m.members).toList :=
      fun m hm => shown_eq_self_iff.mpr ⟨hu.module m hm, hu.unstripped h fun u => .member hm⟩
    have ⟨grid, hg⟩ := isOk_iff.mp (isOk_moduleGrid fun m hm => isOk_iff.mpr ⟨_, hs m hm⟩)
    exact ⟨grid, hg, Grid.cells?_of_shown hg rfl rfl hs⟩

theorem ShowsNames.unmarked (h : run g s = .ok a) (hs : a.ShowsNames) : a.NamesUnmarked := by
  have hl (t : Dendrogram Float) (ht : a.clustering.root = some t) := labels_shown_iff.mp (hs.tree t ht)
  have hn' (u : UnitName) (hu : u ∈ a.units) : IsNameUnmarked u := by
    obtain ⟨t, ht, hm⟩ := exists_root_of_run h (List.ne_nil_of_mem hu)
    exact (shown_leafLabel_iff u).mp (hl t ht _ (leaf_mem_walk ((hm u).mpr hu)))
  refine ⟨hn', fun t ht n hn => ?node, fun m hm => ?module⟩
  case node =>
    cases n
    case leaf u =>
      have hu : u ∈ a.units := mem_units_of_mentions h (.leaf ht ((Dendrogram.units_sublist hn).subset (by simp)))
      have hm : ", ".intercalate (Dendrogram.leaf u : Dendrogram Float).members = u := by
        simp [Dendrogram.members, sortedUnits, List.eraseDups_cons]
      exact hm.symm ▸ (hn' u hu).unmarked
    case fusion l r x => exact ((shown_fusionLabel_iff l r x).mp (hl t ht _ hn)).1
  case module =>
    obtain ⟨grid, hg, hc⟩ := hs.modules
    obtain ⟨cs, hc', hcs⟩ := Grid.cells?_ofMarkup hg (i := 1) rfl
    cases hc.symm.trans hc'
    have hp : (a.extraction.modules.map fun m => ", ".intercalate m.members).mapM (fun s => plain s.toList) =
        .ok ((a.extraction.modules.map fun m => ", ".intercalate m.members).map String.toList) := by
      rw [List.map_map]
      exact hcs
    exact (plain_eq_self_iff.mp (List.forall_mem_map.mp (mapM_eq_ok_map.mp hp) m hm)).1

end Names

section Parts

variable {g : CallGraph} {s : Settings} {a : Analysis}

theorem isOk_print {n : Nat} {t : String} : (print n t).isOk = (Markup.shown t.toList).isOk :=
  isOk_map

theorem isOk_foldlM_append {ps : List (Except Failure String)} {t : String} :
    (ps.foldlM (fun s (p : Except Failure String) => p.map (s ++ ·)) t).isOk ↔ ∀ p ∈ ps, p.isOk := by
  induction ps generalizing t
  case nil => exact iff_of_true rfl nofun
  case cons p ps ih =>
    rw [List.foldlM_cons, List.forall_mem_cons]
    cases p
    case error => simp [Except.map, bind, Except.bind]
    case ok u  => exact ih.trans (and_iff_right rfl).symm

theorem isOk_shown_headLine : (Markup.shown a.headLine.toList).isOk := by
  refine isOk_shown_of_not_mem ?_
  have hf {t : String} (h : ∀ c ∈ t.toList, isFigure c) : '[' ∉ t.toList := fun hc => absurd (h _ hc) (by decide)
  have hn (n : Nat) : '[' ∉ (toString n).toList := hf fun _ => isFigure_of_mem_toString
  have hi (n : Int) : '[' ∉ (toString n).toList := hf fun _ => isFigure_of_mem_toString_int
  have hg (x : Float) : '[' ∉ (generalText x).toList := hf fun _ => isFigure_of_mem_generalText
  simp only [headLine, String.toList_append, List.mem_append, not_or]
  exact ⟨⟨⟨⟨⟨by decide, hn _⟩, by decide⟩, hi _⟩, by decide⟩, ⟨⟨by decide, hg _⟩, by decide⟩, hn _⟩

theorem repairNote_eq : a.repairNote = "[" ++ "yellow" ++ "]" ++ ("Module budget exceeded: " ++
    toString a.extraction.repairs ++ " smallest-module merge(s) applied; " ++ "result is not a pure dendrogram cut") ++
    "[/" ++ "yellow" ++ "]" ++ "" := by
  have hs : "[yellow]Module budget exceeded: " = "[" ++ "yellow" ++ "]" ++ "Module budget exceeded: " := by
    simp
  have he : "result is not a pure dendrogram cut[/yellow]" =
      "result is not a pure dendrogram cut" ++ "[/" ++ "yellow" ++ "]" ++ "" := by simp
  unfold repairNote toString instToStringString
  simp only [hs, he, String.append_assoc]

theorem isOk_shown_repairNote : (Markup.shown a.repairNote.toList).isOk := by
  have hn : '[' ∉ (toString a.extraction.repairs).toList := fun hc => absurd (isFigure_of_mem_toString hc) (by decide)
  rw [repairNote_eq, toList_styled]
  refine isOk_shown_styled _ _ _ (by decide) ?opening ?ending List.not_mem_nil
  case opening =>
    simp only [String.toList_append, List.mem_append, not_or]
    exact ⟨⟨⟨by decide, hn⟩, by decide⟩, by decide⟩
  case ending =>
    rw [String.toList_append, List.getLast?_append_of_ne_nil _ (by decide)]
    decide

theorem isOk_repairPart (n : Nat) : ∀ p ∈ a.repairPart n, p.isOk := by
  unfold repairPart
  split
  case isTrue  => exact List.forall_mem_singleton.mpr (by rw [isOk_mapError, isOk_print, isOk_shown_repairNote])
  case isFalse => nofun

theorem isOk_treeParts (hs : a.ShowsNames) (n : Nat) : ∀ p ∈ a.treeParts n, p.isOk := by
  unfold treeParts
  split
  case h_1 => nofun
  case h_2 t ht =>
    simp only [List.forall_mem_cons, List.not_mem_nil, false_imp_iff, implies_true, and_true, isOk_mapError, isOk_map]
    refine ⟨Branch.isOk_lines _ _ _ ?_, rfl⟩
    rw [Branch.labels, Branch.labelsBelow, Branch.labelsBelow, List.append_nil, List.forall_mem_cons]
    refine ⟨?root, fun l hl => ?node⟩
    case root =>
      have h := isOk_shown_styled "bold" "Dendrogram".toList " (average linkage)".toList
        (by decide) (by decide) (by decide) (by decide)
      exact h
    case node =>
      rw [labels_branch] at hl
      obtain ⟨n, hn, rfl⟩ := List.mem_map.mp hl
      exact isOk_iff.mpr ⟨_, labels_shown_iff.mp (hs.tree t ht) n hn⟩

theorem isOk_weightPart (h : run g s = .ok a) (hu : a.NamesUnmarked) (n : Nat) :
    (a.weightPart n).isOk ↔ a.coupling.counts = [] ∨ (Places.field s.precision).isOk := by
  obtain ⟨_, _, _, _, hs, hr, _⟩ := run_eq_ok h
  obtain ⟨ws, hw⟩ := isOk_iff.mp (hr ▸ isOk_rankedWeights : a.coupling.rankedWeights.isOk)
  have hc : a.weightCells.isOk ↔ a.coupling.counts = [] ∨ (Places.field s.precision).isOk := by
    rw [weightCells, hw, ok_bind, ← hs]
    simp only [isOk_mapM, isOk_mapError, isOk_map, Places.text]
    rw [all_const_iff, eq_nil_iff_of_rankedWeights hw]
  rw [← hc, weightPart]
  cases hrows : a.weightCells
  case error => exact iff_of_false Bool.false_ne_true Bool.false_ne_true
  case ok rows =>
    have hg := isOk_weightGrid hw hrows fun p hp => (mem_units_of_mem_ranked h hw hp).imp (hu.unit _) (hu.unit _)
    have hn := isOk_shown_styled "yellow" "No inter-unit calls between the analyzed units".toList [] (by decide)
      (by decide) (by decide) List.not_mem_nil
    refine iff_of_true ?_ rfl
    rw [ok_bind]
    split
    case isTrue  => rw [isOk_mapError, isOk_print]; exact hn
    case isFalse => rwa [isOk_mapError, isOk_map]

theorem isOk_display (h : run g s = .ok a) (hu : a.NamesUnmarked) (n : Nat) :
    (a.display n).isOk ↔ a.coupling.counts = [] ∨ (Places.field s.precision).isOk := by
  have hs := hu.shows h
  have hm : a.moduleGrid.isOk := isOk_iff.mpr (hs.modules.imp fun _ h => h.1)
  have ht : (Markup.shown "[bold cyan]COUPLING INSIGHT[/bold cyan]".toList).isOk :=
    isOk_shown_styled "bold cyan" "COUPLING INSIGHT".toList [] (by decide) (by decide)
      (by decide) List.not_mem_nil
  rw [← isOk_weightPart h hu n, display, isOk_foldlM_append, displayParts]
  simp only [List.forall_mem_append, List.forall_mem_cons, List.not_mem_nil, false_imp_iff, implies_true, and_true,
    isOk_mapError, isOk_map, isOk_print, isOk_ok, true_and, isOk_shown_headLine, hm]
  exact ⟨fun h => h.1.1.2, fun h => ⟨⟨⟨ht, h⟩, isOk_treeParts hs n⟩, isOk_repairPart n⟩⟩

theorem isOk_moduleGrid_of_display {n : Nat} (h : (a.display n).isOk) : a.moduleGrid.isOk := by
  have hp := isOk_foldlM_append.mp h
  simp only [displayParts, List.forall_mem_append, List.forall_mem_singleton, isOk_mapError, isOk_map] at hp
  exact hp.1.2

end Parts

section Reports

variable {g : CallGraph} {s : Settings} {a : Analysis}

theorem isUnmarked_of_chars {cs : List Char} (h : ∀ c ∈ cs, c ≠ '[' ∧ c ≠ ':' ∧ isStripped c = false) :
    IsUnmarked cs :=
  isUnmarked_of_not_mem (fun hc => (h _ hc).1 rfl) (fun hc => (h _ hc).2.1 rfl) fun c hc => (h c hc).2.2

-- Names with none of the characters that markup starts with are not taken as markup.
theorem namesUnmarked_of_chars (h : run g s = .ok a)
    (hu : ∀ u ∈ a.units, (∀ c ∈ u.toList, c ≠ '[' ∧ c ≠ ':' ∧ isStripped c = false) ∧ u.toList.getLast? ≠ some '\\') :
    a.NamesUnmarked := by
  have hl {us : List UnitName} (hm : ∀ u ∈ us, a.Mentions u) : IsUnmarked (", ".intercalate us).toList :=
    isUnmarked_of_chars <| forall_mem_intercalate (List.all_iff_forall_prop.mp (by decide)) fun u hus =>
      (hu u (mem_units_of_mentions h (hm u hus))).1
  refine ⟨fun u hm => ?unit, fun t ht n hn => ?node, fun m hm => hl fun u => .member hm⟩
  case unit =>
    have ⟨hc, he⟩ := hu u hm
    exact ⟨isUnmarked_of_chars hc, fun c h => (hc c h).2.2, he⟩
  case node => exact hl fun u hu => .leaf ht ((Dendrogram.units_sublist hn).subset (mem_sortedUnits.mp hu))

-- The names are shown as they are if and only if there is no markup in them and in their lists. The report is then made
-- whenever its numbers can be written.
theorem display_shows_names_iff (h : run g s = .ok a) :
    (a.ShowsNames ↔ a.NamesUnmarked) ∧
    (a.NamesUnmarked → ∀ n, (∃ text, a.display n = .ok text) ↔
      a.coupling.counts = [] ∨ ∃ f, Places.field s.precision = .ok f) ∧
    ((∀ u ∈ a.units, (∀ c ∈ u.toList, c ≠ '[' ∧ c ≠ ':' ∧ isStripped c = false) ∧ u.toList.getLast? ≠ some '\\') →
      a.NamesUnmarked) := by
  refine ⟨⟨fun hs => hs.unmarked h, fun hu => hu.shows h⟩, fun hu n => ?_, namesUnmarked_of_chars h⟩
  rw [← isOk_iff, ← isOk_iff]
  exact isOk_display h hu n

-- Brackets around a capital letter are not taken as markup.
theorem display_shows_names_iff_capital :
    ∃ a text, run (CallGraph.empty.insert ⟨"List[T].f", "C.g"⟩) .standard = .ok a ∧ a.units = ["List[T]"] ∧
      a.ShowsNames ∧ a.display 80 = .ok text := by
  have hp : ((run (CallGraph.empty.insert ⟨"List[T].f", "C.g"⟩) .standard).toOption.map fun a =>
      (a.units, a.clustering.root.map fun t => t.walk.map (·.members), a.extraction.modules.map (·.members))) =
      some (["List[T]"], some [["List[T]"]], [["List[T]"]]) := by decide +kernel
  obtain ⟨a, ha, hp⟩ := Option.map_eq_some_iff.mp hp
  rw [toOption_eq_some] at ha
  simp only [Prod.mk.injEq, Option.map_eq_some_iff] at hp
  obtain ⟨hu, ⟨t, ht, hw⟩, hm⟩ := hp
  have hs : Markup.shown "List[T]".toList = .ok "List[T]".toList := toOption_eq_some.mp (by decide +kernel)
  have hc := shown_eq_self_iff.mp hs
  have hl : IsUnmarked (", ".intercalate ["List[T]"]).toList := hc.1
  have hn : a.NamesUnmarked := by
    refine ⟨?unit, fun t' ht' n hn => ?node, fun m hm' => ?module⟩
    case unit =>
      rw [hu, List.forall_mem_singleton]
      exact ⟨hc.1, hc.2, by decide⟩
    case node =>
      cases ht.symm.trans ht'
      exact List.mem_singleton.mp (hw ▸ List.mem_map_of_mem hn : n.members ∈ [["List[T]"]]) ▸ hl
    case module => exact List.mem_singleton.mp (hm ▸ List.mem_map_of_mem hm' : m.members ∈ [["List[T]"]]) ▸ hl
  have ⟨hi, hd, _⟩ := display_shows_names_iff ha
  have ⟨text, htext⟩ := (hd hn 80).mpr (.inr (Places.field_int.mpr (by decide)))
  exact ⟨a, text, ha, hu, hi.mpr hn, htext⟩

-- Brackets around another one are a tag, and whatever they hold is gone. If they close a style that is not open, there
-- is no report at all.
theorem display_takes_names_as_tags :
    (∃ a grid, run (CallGraph.empty.insert ⟨"A[b].f", "C.g"⟩) .standard = .ok a ∧ a.units = ["A[b]"] ∧
      a.moduleGrid = .ok grid ∧ grid.cells? 1 = some ["A".toList] ∧ ¬a.ShowsNames) ∧
    ∃ a, run (CallGraph.empty.insert ⟨"A[/b].f", "C.g"⟩) .standard = .ok a ∧ a.units = ["A[/b]"] ∧
      ∃ e, a.display 80 = .error e := by
  constructor
  case left =>
    have hp : ((run (CallGraph.empty.insert ⟨"A[b].f", "C.g"⟩) .standard).toOption.bind fun a =>
        a.moduleGrid.toOption.map fun grid => (a.units, grid.cells? 1)) = some (["A[b]"], some ["A".toList]) := by
      decide +kernel
    obtain ⟨a, ha, hp⟩ := Option.bind_eq_some_iff.mp hp
    obtain ⟨grid, hg, hp⟩ := Option.map_eq_some_iff.mp hp
    obtain ⟨hu, hc⟩ := Prod.mk.inj hp
    rw [toOption_eq_some] at ha hg
    refine ⟨a, grid, ha, hu, hg, hc, fun hs => ?_⟩
    have hn := ((hs.unmarked ha).unit "A[b]" (by simp [hu])).unmarked
    exact hn.noTag ['b'] (by decide) (by decide)
  case right =>
    have hp : ((run (CallGraph.empty.insert ⟨"A[/b].f", "C.g"⟩) .standard).toOption.map fun a =>
        (a.units, a.moduleGrid.isOk)) = some (["A[/b]"], false) := by decide +kernel
    obtain ⟨a, ha, hp⟩ := Option.map_eq_some_iff.mp hp
    obtain ⟨hu, hg⟩ := Prod.mk.inj hp
    refine ⟨a, toOption_eq_some.mp ha, hu, not_isOk_iff.mp fun hd => ?_⟩
    exact absurd (isOk_moduleGrid_of_display hd) (by simp [hg])

end Reports

end Analysis
end ModuleDiscovery
