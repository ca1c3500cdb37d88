import ModuleDiscovery.Proofs.Distinct
import ModuleDiscovery.Proofs.Number.Figures
import ModuleDiscovery.Proofs.Report.DotReader
import ModuleDiscovery.Proofs.Report.Ranking

namespace ModuleDiscovery.Dot

variable {cs : List Char}

theorem spells_nodeLine (s : String) : Spells ((nodeLine s).toList ++ ['\n']) [.name s, .mark ';'] := by
  simpa [nodeLine] using (Spells.semicolon.quotedName s).indented

theorem spells_callLine (c : Call) :
    Spells ((callLine c).toList ++ ['\n']) [.name c.caller, .line true, .name c.callee, .mark ';'] := by
  have h := (Spells.semicolon.quotedName c.callee).blank
  simpa [callLine] using (h.directedLine.blank.quotedName c.caller).indented

theorem spells_boxes : Spells (boxes.toList ++ ['\n']) [.word "node", .mark '[', .word "shape", .mark '=', .word "box",
    .mark ',', .word "style", .mark '=', .word "rounded", .mark ']', .mark ';'] := by
  have h := (Spells.semicolon.mark ']' (by decide)).assignment "style" "rounded" (by decide) (by decide) rfl
  have h := (h.blank.mark ',' (by decide)).assignment "shape" "box" (by decide) (by decide) rfl
  simpa [boxes] using ((h.mark '[' (by decide)).blank.word "node" (by decide) rfl).indented

def IsPlain (c : Char) : Prop := c ≠ '"' ∧ c ≠ '\\'

theorem quoted_of_plain (h : ∀ c ∈ cs, IsPlain c) : quoted cs = '"' :: cs ++ ['"'] := by
  have hf : cs.flatMap (fun c => if c = '"' || c = '\\' then ['\\', c] else [c]) = cs := by
    induction cs
    case nil => rfl
    case cons c cs ih =>
      have ⟨⟨hq, hb⟩, hcs⟩ := List.forall_mem_cons.mp h
      rw [List.flatMap_cons, ih hcs]
      simp [hq, hb]
  rw [quoted_eq, hf]

theorem spells_pairLine (p : Pair) {label pen : String} (hl : ∀ c ∈ label.toList, IsPlain c) (hp : isWord pen) :
    Spells ((pairLine p label pen).toList ++ ['\n']) [.name p.a, .line false, .name p.b, .mark '[', .word "label",
      .mark '=', .name label, .mark ',', .word "penwidth", .mark '=', .word pen, .mark ']', .mark ';'] := by
  have h := (Spells.semicolon.mark ']' (by decide)).assignment "penwidth" pen hp (by decide) rfl
  have h := (((h.blank.mark ',' (by decide)).quotedName label).mark '=' (by decide)).word "label" (by decide) rfl
  have h := ((h.mark '[' (by decide)).blank.quotedName p.b).blank
  have h := (h.undirectedLine.blank.quotedName p.a).indented
  simpa [pairLine, Dot.quotedName, quoted_of_plain hl] using h

section Statements

variable {isDirected : Bool}

theorem forall₂_states_map {α : Type} {f : α → String} {st : α → Statement} {as : List α}
    (h : ∀ a ∈ as, States isDirected (f a) (st a)) : List.Forall₂ (States isDirected) (as.map f) (as.map st) :=
  List.forall₂_map_left_iff.mpr <| List.forall₂_map_right_iff.mpr <| List.forall₂_same.mpr h

theorem states_node (s : String) : States isDirected (nodeLine s) (.node s) :=
  ⟨[.name s], by simp, spells_nodeLine s, rfl⟩

def callEdge (c : Call) : Edge :=
  ⟨c.caller, c.callee, []⟩

theorem states_call (c : Call) : States true (callLine c) (.edge (callEdge c)) :=
  ⟨[.name c.caller, .line true, .name c.callee], by simp, spells_callLine c, rfl⟩

def pairEdge (p : Pair) (label pen : String) : Edge :=
  ⟨p.a, p.b, [("label", label), ("penwidth", pen)]⟩

theorem states_pair (p : Pair) {label pen : String} (hl : ∀ c ∈ label.toList, IsPlain c) (hp : isWord pen) :
    States false (pairLine p label pen) (.edge (pairEdge p label pen)) :=
  ⟨[.name p.a, .line false, .name p.b, .mark '[', .word "label", .mark '=', .name label, .mark ',', .word "penwidth",
    .mark '=', .word pen, .mark ']'], by simp, spells_pairLine p hl hp, rfl⟩

theorem states_boxes : States isDirected boxes (.defaults "node" [("shape", "box"), ("style", "rounded")]) :=
  ⟨[.word "node", .mark '[', .word "shape", .mark '=', .word "box", .mark ',', .word "style", .mark '=',
    .word "rounded", .mark ']'], by decide, spells_boxes, rfl⟩

theorem states_overlap : States isDirected "  graph [overlap=false];" (.defaults "graph" [("overlap", "false")]) := by
  have h := (Spells.semicolon.mark ']' (by decide)).assignment "overlap" "false" (by decide) (by decide) rfl
  have h := ((h.mark '[' (by decide)).blank.word "graph" (by decide) rfl).indented
  exact ⟨[.word "graph", .mark '[', .word "overlap", .mark '=', .word "false", .mark ']'], by decide, by simpa using h,
    rfl⟩

theorem states_rankdir : States isDirected "  rankdir=LR;" (.setting "rankdir" "LR") := by
  have h := (Spells.semicolon.assignment "rankdir" "LR" (by decide) (by decide) rfl).indented
  exact ⟨[.word "rankdir", .mark '=', .word "LR"], by decide, by simpa using h, rfl⟩

end Statements

end ModuleDiscovery.Dot

namespace ModuleDiscovery.Number

open Dot

theorem isWordPart_of_isUnsignedFigure {c : Char} (h : isUnsignedFigure c) : isWordPart c := by
  unfold isUnsignedFigure at h
  unfold isWordPart
  grind

theorem isWord_fixedText (places : Nat) (x : Float) : isWord (fixedText places x) := by
  obtain ⟨negative, cs, hn, hc, he⟩ := exists_fixedText places x
  replace hc : ∀ c ∈ cs, isWordPart c := fun c h => isWordPart_of_isUnsignedFigure (hc c h)
  rw [he, isWord, signed, String.toList_ofList]
  cases negative
  case true => simpa [isWordStart, hn] using hc
  case false =>
    obtain ⟨c, cs, rfl⟩ := List.exists_cons_of_ne_nil hn
    obtain ⟨hc, hcs⟩ := List.forall_mem_cons.mp hc
    have hm : c ≠ '-' := by
      rintro rfl
      exact absurd hc (by decide)
    simpa [isWordStart, hc, hm] using hcs

end ModuleDiscovery.Number

namespace ModuleDiscovery

open Dot

-- A written number needs no escapes, however it is asked for.
theorem Places.isPlain_of_text {v : Value} {x : Float} {label : String} (h : text v x = .ok label) :
    ∀ c ∈ label.toList, IsPlain c := by
  intro c hc
  have hf := isFigure_of_text h c hc
  constructor <;> rintro rfl <;> exact absurd hf (by decide)

section Coupling

variable {g : Coupling} {precision : Value} {ws : List (Pair × Float)} {ps : List (Pair × String × String)}

-- The counted pairs, the heaviest first, each with its label and the width of its line.
def Coupling.labelledPairs (g : Coupling) (precision : Value) : Except Failure (List (Pair × String × String)) := do
  (← g.rankedWeights).mapM fun (p, w) =>
    ((Places.text precision w).mapError .places).map fun label => (p, label, penWidth w)

theorem dot_eq (g : Coupling) (precision : Value) (name : String) :
    g.dot precision name = (g.labelledPairs precision).map fun ps =>
      graph (keyword false) name ("  graph [overlap=false];" :: boxes :: g.units.map nodeLine ++
        ps.map fun (p, label, pen) => pairLine p label pen) := by
  have hp (p : Pair × Float) :
      ((Places.text precision p.2).map fun label => pairLine p.1 label (penWidth p.2)).mapError Failure.places =
        (((Places.text precision p.2).mapError .places).map fun label => (p.1, label, penWidth p.2)).map
          fun (p, label, pen) => pairLine p label pen := by
    cases Places.text precision p.2 <;> rfl
  unfold Coupling.dot Coupling.labelledPairs
  simp only [hp, mapM_map]
  cases g.rankedWeights
  case error => rfl
  case ok ws =>
    rw [ok_bind, ok_bind]
    generalize ws.mapM (m := Except Failure) _ = ps
    cases ps <;> rfl

theorem labelledPairs_pairs (h : g.labelledPairs precision = .ok ps) : ps.map (·.1) = g.ranked.map (·.1) := by
  have ⟨ws, hw, h⟩ := bind_eq_ok.mp h
  rw [← rankedWeights_pairs hw]
  refine map_eq_of_mapM (fun (p, w) q hq => ?_) h
  obtain ⟨_, _, rfl⟩ := map_eq_ok.mp hq
  rfl

theorem of_mem_labelledPairs (h : g.labelledPairs precision = .ok ps) {p : Pair} {label pen : String}
    (hp : (p, label, pen) ∈ ps) :
    ∃ w, g.weight? p.a p.b = some w ∧ Places.text precision w = .ok label ∧ pen = penWidth w := by
  have ⟨ws, hw, h⟩     := bind_eq_ok.mp h
  have ⟨⟨_, w⟩, hm, h⟩ := exists_of_mem_mapM h hp
  have ⟨_, hl, he⟩     := map_eq_ok.mp h
  cases he
  exact ⟨w, weight?_of_mem_rankedWeights hw hm, mapError_eq_ok.mp hl, rfl⟩

-- Every statement but the two in front is a node or an edge.
theorem read?_coupling (h : g.labelledPairs precision = .ok ps) :
    (read? (graph (keyword false) "CouplingWeights" ("  graph [overlap=false];" :: boxes :: g.units.map nodeLine ++
      ps.map fun (p, label, pen) => pairLine p label pen))).map (fun d => (d.nodes, d.edges)) =
        some (g.units, ps.map fun (p, label, pen) => pairEdge p label pen) := by
  have hps : List.Forall₂ (States false) (ps.map fun (p, label, pen) => pairLine p label pen)
      (ps.map fun (p, label, pen) => .edge (pairEdge p label pen)) := by
    refine forall₂_states_map fun (p, label, pen) hp => ?_
    have ⟨w, _, hl, hp⟩ := of_mem_labelledPairs h hp
    rw [hp]
    exact states_pair p (Places.isPlain_of_text hl) (Number.isWord_fixedText ..)
  have hus : List.Forall₂ (States false) (g.units.map nodeLine) (g.units.map .node) :=
    forall₂_states_map fun u _ => states_node u
  have hr :=
    read?_graph "CouplingWeights" (.cons states_overlap (.cons states_boxes (List.rel_append hus hps))) (by decide)
  rw [List.cons_append, List.cons_append, hr]
  simp [Document.nodes, Document.edges, List.filterMap_map]

theorem isOk_dot (name : String) (hw : g.rankedWeights = .ok ws) :
    (g.dot precision name).isOk ↔ ws = [] ∨ (Places.field precision).isOk := by
  simp only [Coupling.dot, hw, Places.text, ok_bind, bind_pure_comp, isOk_functor_map, isOk_map, isOk_mapM,
    isOk_mapError, all_const_iff]

theorem exists_dot (calls : CallGraph) (us : List UnitName) (sep : Separator) {n : Nat} (h : n ≤ Places.maxPlaces)
    (name : String) : ∃ t, (Coupling.ofCalls calls us sep).dot (.int n) name = .ok t := by
  have ⟨ws, hw⟩ : ∃ ws, (Coupling.ofCalls calls us sep).rankedWeights = .ok ws := isOk_iff.mp isOk_rankedWeights
  exact isOk_iff.mp <| (isOk_dot name hw).mpr <| .inr <| isOk_iff.mpr (Places.field_int.mpr h)

end Coupling

section CallGraph

variable (g : CallGraph)

-- All methods by name.
def CallGraph.sortedNodes : List MethodKey :=
  g.nodes.mergeSort fun j k => j ≤ k

theorem sortedNodes_perm : g.sortedNodes.Perm g.nodes :=
  List.mergeSort_perm ..

-- As no method is listed twice, each name comes in front of the next.
theorem pairwise_sortedNodes : g.sortedNodes.Pairwise (· < ·) :=
  pairwise_lt_mergeSort Function.injective_id (fun _ _ => decide_eq_true_iff) (nodup_eraseDups _)

theorem read?_callGraph : (read? (g.dot "CallGraph")).map (fun d => (d.nodes, d.edges)) =
    some (g.sortedNodes, g.calls.map callEdge) := by
  have hcs : List.Forall₂ (States true) (g.calls.map callLine) (g.calls.map fun c => .edge (callEdge c)) :=
    forall₂_states_map fun c _ => states_call c
  have hns : List.Forall₂ (States true) (g.sortedNodes.map nodeLine) (g.sortedNodes.map .node) :=
    forall₂_states_map fun k _ => states_node k
  have hr := read?_graph "CallGraph" (.cons states_rankdir (.cons states_boxes (List.rel_append hns hcs))) (by decide)
  have hd : g.dot "CallGraph" = graph (keyword true) "CallGraph"
      ("  rankdir=LR;" :: boxes :: (g.sortedNodes.map nodeLine ++ g.calls.map callLine)) := rfl
  rw [hd, hr]
  simp [Document.nodes, Document.edges, List.filterMap_map]

-- An edge for each call, between the same methods.
theorem exists_read_countP (p : MethodKey → MethodKey → Bool) :
    ∃ d, read? (g.dot "CallGraph") = some d ∧
      (d.edges.countP fun e => p e.source e.target) = g.calls.countP fun c => p c.caller c.callee := by
  have ⟨d, hd, he⟩ := Option.map_eq_some_iff.mp (read?_callGraph g)
  refine ⟨d, hd, ?_⟩
  rw [(Prod.mk.inj he).2, List.countP_map]
  rfl

end CallGraph

-- Reading back gives the names, the labels and the widths of lines, whatever characters they are made of. A graph
-- of calls that were counted is there to be read for every number of places that numbers are written with.
theorem exports_read_back :
    (∀ s rest, readQuoted? (quoted s ++ rest) = some (s, rest)) ∧
    (∀ (g : Coupling) (precision : Value),
      (g.dot precision "CouplingWeights").map (fun t => (read? t).map fun d => (d.nodes, d.edges)) =
        (g.labelledPairs precision).map fun ps =>
          some (g.units, ps.map fun (p, label, pen) => ⟨p.a, p.b, [("label", label), ("penwidth", pen)]⟩)) ∧
    (∀ (g : Coupling) (precision : Value) (ps : List (Pair × String × String)), g.labelledPairs precision = .ok ps →
      ps.map (·.1) = g.ranked.map (·.1) ∧
      g.ranked.Perm g.counts ∧
      (g.ranked.Pairwise fun c d => d.2 < c.2 ∨ c.2 = d.2 ∧ c.1.le d.1) ∧
      ∀ p label pen, (p, label, pen) ∈ ps →
        ∃ w, g.weight? p.a p.b = some w ∧ Places.text precision w = .ok label ∧ pen = penWidth w) ∧
    (∀ (calls : CallGraph) (us : List UnitName) (sep : Separator) (n : Nat), n ≤ 2147483647 →
      ∃ t, (Coupling.ofCalls calls us sep).dot (.int n) "CouplingWeights" = .ok t) ∧
    ∀ g : CallGraph, ∃ ks, ks.Perm g.nodes ∧ ks.Pairwise (· < ·) ∧
      (read? (g.dot "CallGraph")).map (fun d => (d.nodes, d.edges)) =
        some (ks, g.calls.map fun c => ⟨c.caller, c.callee, []⟩) := by
  refine ⟨readQuoted?_quoted, fun g precision => ?read, fun g precision ps h => ?labels,
    fun calls us sep n h => exists_dot calls us sep h _,
    fun g => ⟨_, sortedNodes_perm g, pairwise_sortedNodes g, read?_callGraph g⟩⟩
  case read =>
    rw [dot_eq]
    cases h : g.labelledPairs precision
    case error f => rfl
    case ok ps   => exact congrArg Except.ok (read?_coupling h)
  case labels =>
    exact ⟨labelledPairs_pairs h, List.mergeSort_perm .., pairwise_ranked g, fun _ _ _ => of_mem_labelledPairs h⟩

-- A call between two units whose names hold quotes, backslashes, line ends and all that ends a statement.
theorem exports_read_back_marks_in_names :
    let g := CallGraph.empty.insert ⟨"a\" -- \"b\\.f", "];\n\\\".g"⟩
    let us := ["a\" -- \"b\\", "];\n\\\""]
    let c := Coupling.ofCalls g us .dot
    4 ≤ 2147483647 ∧ ∃ t ps, c.dot (.int 4) "CouplingWeights" = .ok t ∧ c.labelledPairs (.int 4) = .ok ps ∧
      ps.map (fun (p, _, _) => (p.a, p.b)) = [("];\n\\\"", "a\" -- \"b\\")] ∧
      (read? t).map (fun d => (d.nodes, d.edges)) =
        some (us, ps.map fun (p, label, pen) => ⟨p.a, p.b, [("label", label), ("penwidth", pen)]⟩) := by
  intro g us c
  have ⟨_, hc, hp, ht, _⟩ := exports_read_back
  have ⟨t, ht⟩ := ht g us .dot 4 (by decide)
  have hr := hc c (.int (4 : Nat))
  rw [ht] at hr
  have ⟨ps, hps, hr⟩ := map_eq_ok.mp hr.symm
  have hn : ps.map (fun (p, _, _) => (p.a, p.b)) = c.ranked.map fun d => (d.1.a, d.1.b) := by
    have h := congrArg (List.map fun p : Pair => (p.a, p.b)) (hp c _ ps hps).1
    rwa [List.map_map, List.map_map] at h
  exact ⟨by decide, t, ps, ht, hps, hn.trans (by decide +kernel), hr.symm⟩

end ModuleDiscovery
