import ModuleDiscovery.Proofs.Graph.Shares
import ModuleDiscovery.Report.Format

namespace ModuleDiscovery

namespace Coupling.Same

variable {α : Type} [Score α] {c d : Coupling} (h : Same c d)
include h

theorem weight? (u v : UnitName) : c.weight? (α := α) u v = d.weight? u v := by
  simp only [Coupling.weight?, share?, h.count, h.total]

theorem rankedWeights : c.rankedWeights = d.rankedWeights := by
  simp only [Coupling.rankedWeights, rankedWeights?, h.ranked, h.weight?]

theorem ofCoupling? (us : List UnitName) :
    Affinity.ofCoupling? (α := α) c us = Affinity.ofCoupling? d us := by
  simp only [Affinity.ofCoupling?, Affinity.rows?, h.weight?]

theorem csv (precision : Value) : c.csv precision = d.csv precision := by
  simp only [Coupling.csv, csvRows, h.rankedWeights]

theorem dot (precision : Value) (name : String) : c.dot precision name = d.dot precision name := by
  simp only [Coupling.dot, h.rankedWeights, h.units]

end Coupling.Same

namespace Analysis

-- All that a run gives to see, where `report` is any of its reports as a text.
structure Findings where
  count      : UnitName → UnitName → Int
  total      : Int
  history    : List (Fusion Float)
  root       : Option (Dendrogram Float)
  extraction : Extraction Float
  report     : Format → Except Failure String

def findings (a : Analysis) : Findings where
  count      := a.coupling.count
  total      := a.coupling.total
  history    := a.clustering.history
  root       := a.clustering.root
  extraction := a.extraction
  report     := Format.report a

section Reports

variable {s : Settings} {us : List UnitName} {c d : Coupling} {k : Clustering Float}
  {e : Extraction Float}

theorem display_congr (h : Coupling.Same c d) (columnCount : Nat) :
    display ⟨s, us, c, k, e⟩ columnCount = display ⟨s, us, d, k, e⟩ columnCount := by
  have hc : weightCells ⟨s, us, c, k, e⟩ = weightCells ⟨s, us, d, k, e⟩ := by
    simp only [weightCells, h.rankedWeights, h.count]
  have hw : weightPart ⟨s, us, c, k, e⟩ columnCount = weightPart ⟨s, us, d, k, e⟩ columnCount := by
    simp only [weightPart, hc, h.total]
  have hl : headLine ⟨s, us, c, k, e⟩ = headLine ⟨s, us, d, k, e⟩ := by
    simp only [headLine, h.total]
  simp only [display, displayParts, hw, hl]
  rfl

theorem summary_congr (h : Coupling.Same c d) :
    summary ⟨s, us, c, k, e⟩ = summary ⟨s, us, d, k, e⟩ := by
  simp only [summary, h.rankedWeights, h.total]

theorem report_congr (h : Coupling.Same c d) (f : Format) :
    Format.report ⟨s, us, c, k, e⟩ f = Format.report ⟨s, us, d, k, e⟩ f := by
  cases f
  case display => exact display_congr h _
  case json    => simp only [Format.report, jsonReport, summary_congr h]
  case csv     => exact h.csv _
  case dot     => exact h.dot _ _
  case text    => rfl

theorem findings_congr (h : Coupling.Same c d) :
    findings ⟨s, us, c, k, e⟩ = findings ⟨s, us, d, k, e⟩ := by
  have hc : c.count = d.count := funext fun u => funext fun v => h.count u v
  have hr : Format.report ⟨s, us, c, k, e⟩ = Format.report ⟨s, us, d, k, e⟩ :=
    funext fun f => report_congr h f
  simp only [findings, hc, h.total, hr]

end Reports

-- The stages of a run behind the coupling.
def ofCoupling (s : Settings) (us : List UnitName) (c : Coupling) : Except Failure Analysis :=
  match Affinity.ofCoupling? c us with
  | none   => .error (.weight ⟨⟩)
  | some w => .ok ⟨s, us, c, cluster w, extract w s.threshold (cluster w).root⟩

theorem ofCoupling_congr {s : Settings} {us : List UnitName} {c d : Coupling} (h : Coupling.Same c d) :
    (ofCoupling s us c).map findings = (ofCoupling s us d).map findings := by
  unfold ofCoupling
  rw [h.ofCoupling? us]
  split
  case h_1 => rfl
  case h_2 => simp only [Except.map, findings_congr h]

variable {s : Settings} {g h : CallGraph} {sep : Separator}

theorem separatorFor_of_nil (he : g.entries = []) : s.separatorFor g = .ok .dot := by
  simp [Settings.separatorFor, CallGraph.separator, he, Except.mapError]

theorem separatorFor_of_ne_nil (he : g.entries ≠ []) :
    s.separatorFor g = (Separator.ofValue s.separator).mapError .separator := by
  simp [Settings.separatorFor, CallGraph.separator, he]

theorem run_eq_stages (g : CallGraph) (s : Settings) :
    run g s = s.unitsFor g >>= fun us => s.separatorFor g >>= fun sep =>
      ofCoupling s us (Coupling.ofCalls g us sep) := by
  unfold run ofCoupling
  refine bind_congr fun us => bind_congr fun sep => ?_
  dsimp only
  cases Affinity.ofCoupling? (α := Float) (Coupling.ofCalls g us sep) us <;> rfl

theorem run_eq_bind (hn : s.allowedUnits ≠ []) :
    run g s = (s.separatorFor g).bind fun sep =>
      ofCoupling s s.allowedUnits (Coupling.ofCalls g s.allowedUnits sep) := by
  have hu : s.unitsFor g = .ok s.allowedUnits := by
    rw [Settings.unitsFor, if_neg (by simpa using hn)]
  rw [run_eq_stages, hu]
  rfl

-- A graph without entries is never separated, and would not notice any separator.
theorem run_eq_ofCoupling (hn : s.allowedUnits ≠ []) (hs : Separator.ofValue s.separator = .ok sep) :
    run g s = ofCoupling s s.allowedUnits (Coupling.ofCalls g s.allowedUnits sep) := by
  rw [run_eq_bind hn]
  by_cases he : g.entries = []
  case pos =>
    rw [separatorFor_of_nil he, Coupling.ofCalls_of_entries_nil he _ sep .dot]
    rfl
  case neg =>
    rw [separatorFor_of_ne_nil he, hs]
    rfl

theorem run_congr (hn : s.allowedUnits ≠ []) (hs : Separator.ofValue s.separator = .ok sep)
    (hc : g.crossCalls sep s.allowedUnits = h.crossCalls sep s.allowedUnits) :
    (run g s).map findings = (run h s).map findings := by
  rw [run_eq_ofCoupling hn hs, run_eq_ofCoupling hn hs]
  exact ofCoupling_congr (Coupling.same_ofCalls hc)

-- Keys that cannot be separated stop every run that comes upon a key.
theorem run_congr_of_error (hn : s.allowedUnits ≠ []) {f : SeparatorFault}
    (hs : Separator.ofValue s.separator = .error f) (he : g.entries = [] ↔ h.entries = []) :
    (run g s).map findings = (run h s).map findings := by
  rw [run_eq_bind hn, run_eq_bind hn]
  by_cases hg : g.entries = []
  case pos =>
    have hh := he.mp hg
    have hc : Coupling.ofCalls g s.allowedUnits .dot = Coupling.ofCalls h s.allowedUnits .dot := by
      simp [Coupling.ofCalls, CallGraph.calls, hg, hh]
    rw [separatorFor_of_nil hg, separatorFor_of_nil hh, Except.bind, Except.bind, hc]
  case neg =>
    have hh := mt he.mpr hg
    rw [separatorFor_of_ne_nil hg, separatorFor_of_ne_nil hh, hs]
    rfl

theorem exists_run (hn : s.allowedUnits ≠ []) (hs : Separator.ofValue s.separator = .ok sep)
    (g : CallGraph) : ∃ a, run g s = .ok a := by
  have ⟨w, hw⟩ : ∃ w : Affinity Float,
      Affinity.ofCoupling? (Coupling.ofCalls g s.allowedUnits sep) s.allowedUnits = some w :=
    Affinity.exists_ofCoupling? Coupling.exists_weight?
  rw [run_eq_ofCoupling hn hs, ofCoupling, hw]
  exact ⟨_, rfl⟩

end Analysis

open Analysis

-- The two runs are compared stage by stage: their couplings agree up to the order of counts, and from there on no
-- stage looks at that order. The graphs may have been built in any way: a `CallGraph` is whatever a history of merges
-- leaves.
theorem run_determined_by_crossCalls (s : Settings) (hn : s.allowedUnits ≠ []) :
    (∀ sep, Separator.ofValue s.separator = .ok sep → ∀ g h : CallGraph,
      g.crossCalls sep s.allowedUnits = h.crossCalls sep s.allowedUnits →
        ∃ a b, run g s = .ok a ∧ run h s = .ok b ∧ a.findings = b.findings) ∧
    (∀ f, Separator.ofValue s.separator = .error f → ∀ g h : CallGraph,
      (g.entries = [] ↔ h.entries = []) → (run g s).map findings = (run h s).map findings) ∧
    (∀ files start ps qs g rs, (∀ p, p ∈ qs ↔ p ∈ ps) → CallGraph.load files start ps = .ok (g, rs) →
      ∃ h rs', CallGraph.load files start qs = .ok (h, rs') ∧
        (run g s).map findings = (run h s).map findings) := by
  refine ⟨?separated, fun f hf g h => run_congr_of_error hn hf, ?loaded⟩
  case separated =>
    intro sep hs g h hc
    have ⟨a, ha⟩ := exists_run hn hs g
    have ⟨b, hb⟩ := exists_run hn hs h
    have he := run_congr hn hs hc
    rw [ha, hb] at he
    exact ⟨a, b, ha, hb, Except.ok.inj he⟩
  case loaded =>
    intro files start ps qs g rs hq hg
    have ⟨h, rs', hh, hm⟩ := CallGraph.load_of_mem_iff hg hq
    refine ⟨h, rs', hh, ?_⟩
    cases hs : Separator.ofValue s.separator
    case ok sep =>
      refine run_congr hn hs (Set.ext fun c => ?_)
      simp only [CallGraph.crossCalls, Set.mem_ofPred_eq, hm]
    case error f =>
      refine run_congr_of_error hn hs ?_
      rw [(CallGraph.load_calls hg).2.entries_iff, (CallGraph.load_calls hh).2.entries_iff]
      simp only [List.eq_nil_iff_forall_not_mem, hm]

-- Two calls in either order, once with a caller that calls nothing and a call within a unit.
theorem run_determined_by_two_calls :
    let s : Settings := { Settings.standard with allowedUnits := ["a", "b"] }
    let cs : List Call := [⟨"a.f", "b.g"⟩, ⟨"b.g", "a.f"⟩]
    let g := (CallGraph.empty.merge cs).1
    let h := (((CallGraph.empty.record "c.f").merge cs.reverse).1.merge [⟨"a.f", "a.g"⟩]).1
    s.allowedUnits ≠ [] ∧ g.entries ≠ h.entries ∧
    ∃ a b, run g s = .ok a ∧ run h s = .ok b ∧ a.findings = b.findings := by
  intro s cs g h
  have hn : s.allowedUnits ≠ [] := by decide
  have hg : ∀ c ∈ g.calls, (Coupling.pairOf? .dot s.allowedUnits c).isSome → c ∈ h.calls := by
    decide +kernel
  have hh : ∀ c ∈ h.calls, (Coupling.pairOf? .dot s.allowedUnits c).isSome → c ∈ g.calls := by
    decide +kernel
  have hc : g.crossCalls .dot s.allowedUnits = h.crossCalls .dot s.allowedUnits := by
    ext c
    simp only [CallGraph.crossCalls, Set.mem_ofPred_eq, ← Coupling.isSome_pairOf?]
    exact ⟨fun ⟨hm, hp⟩ => ⟨hg c hm hp, hp⟩, fun ⟨hm, hp⟩ => ⟨hh c hm hp, hp⟩⟩
  exact ⟨hn, by decide +kernel, (run_determined_by_crossCalls s hn).1 .dot rfl g h hc⟩

end ModuleDiscovery
