import ModuleDiscovery.Proofs.Analysis.Reportable
import ModuleDiscovery.Proofs.Graph.CallCounts

namespace ModuleDiscovery

theorem owningUnit_ne_empty {sep : Separator} {k : MethodKey} : owningUnit sep k ≠ some "" := by
  unfold owningUnit
  split
  case h_1 => simp [← String.toList_inj]
  case h_2 => exact nofun

namespace Settings

variable {s : Settings} {us : List UnitName} {g : CallGraph} {sep : Separator} {x : String}

theorem namesOne_text : namesOne us (.text x) = false ↔ x ∉ us := by
  simp [namesOne]

theorem unitsFor_of_ne_nil (hn : s.allowedUnits ≠ []) : s.unitsFor g = .ok s.allowedUnits := by
  simp [unitsFor, hn]

-- The units that own callers, without the one that stands for unresolved calls.
theorem unitsFor_of_nil (hn : s.allowedUnits = []) (hs : Separator.ofValue s.separator = .ok sep)
    (hx : s.unresolved = .text x) : s.unitsFor g = .ok ((g.callerUnits sep).filter (· ≠ x)) := by
  have hu (sep : Separator) : (g.callerUnits sep).filter (fun u => !namesOne [u] s.unresolved) =
      (g.callerUnits sep).filter (· ≠ x) := by
    refine List.filter_congr fun u _ => ?_
    simp [hx, namesOne, eq_comm]
  rw [unitsFor, if_pos (by simpa using hn)]
  by_cases he : g.entries = []
  case pos =>
    have hc (sep : Separator) : g.callerUnits sep = [] := by simp [CallGraph.callerUnits, CallGraph.callers, he]
    rw [Analysis.separatorFor_of_nil he]
    simp [Except.map, hc]
  case neg =>
    rw [Analysis.separatorFor_of_ne_nil he, hs]
    exact congrArg Except.ok (hu sep)

end Settings

namespace Analysis

variable {s : Settings} {es : List (String × Value)} {g : CallGraph} {a : Analysis} {us : List UnitName} {u : UnitName}
  {t x : String}

-- The places of an analysis in which units stand: counted pairs, leaves of the dendrogram, and modules.
inductive Mentions (a : Analysis) : UnitName → Prop
  | first {c}  : c ∈ a.coupling.counts → Mentions a c.1.a
  | second {c} : c ∈ a.coupling.counts → Mentions a c.1.b
  | leaf {d u} : d ∈ a.clustering.root → u ∈ d.units → Mentions a u
  | member {m u} : m ∈ a.extraction.modules → u ∈ m.members → Mentions a u

theorem mem_units_of_mentions (h : run g s = .ok a) (hm : a.Mentions u) : u ∈ a.units := by
  have ⟨sep, w, _, _, hw, ha⟩ := stages_of_run h
  have hc : a.coupling = Coupling.ofCalls g a.units sep := by rw [ha]
  have ht : (a.clustering.root.elim [] Dendrogram.units).Perm a.units.eraseDups := by
    rw [ha, ← Affinity.units_of_ofCoupling? hw]
    exact cluster_units_perm
  cases hm
  case first c hmem =>
    rw [hc] at hmem
    exact (Coupling.mem_counts hmem).1
  case second c hmem =>
    rw [hc] at hmem
    exact (Coupling.mem_counts hmem).2.1
  case leaf d hd hu =>
    have hd : a.clustering.root = some d := hd
    exact List.mem_eraseDups.mp (ht.subset (by rwa [hd]))
  case member m hmem hu =>
    have ⟨_, _, hu', _, _, _, hcov⟩ := run_eq_ok h
    have ⟨_, _, hus, _⟩ := stages_of_run h
    cases hu'.symm.trans hus
    exact List.mem_eraseDups.mp (hcov.perm.subset (List.mem_flatMap_of_mem hmem hu))

-- In order of the first caller.
theorem pairwise_callerUnits (g : CallGraph) (sep : Separator) : (g.callerUnits sep).Pairwise fun u v =>
    g.callers.findIdx (owningUnit sep · = some u) < g.callers.findIdx (owningUnit sep · = some v) := by
  simpa [CallGraph.callerUnits, beq_eq_decide] using pairwise_eraseDups (owningUnit sep) g.callers

-- The separator and the unit of unresolved calls have to be texts. No repetition among the units that are given
-- reaches an analysis, and wherever units stand in what it finds they are its own.
theorem runs_keep_to_their_units (h : s.Accepted) (ht : s.separator = .text t) (hx : s.unresolved = .text x)
    (g : CallGraph) : ∃ sep a, sep.chars = t.toList ∧ run g s = .ok a ∧
      (a.units.Nodup ∧ "" ∉ a.units ∧ x ∉ a.units) ∧
      (∀ es, Settings.ofFields es = .ok s → ∃ names : List UnitName,
        Settings.elements (Settings.field es "allowed_units") = .ok (names.map .text) ∧
        (∀ u, u ∈ s.allowedUnits ↔ u ∈ names) ∧
        s.allowedUnits.Pairwise fun u v => names.idxOf u < names.idxOf v) ∧
      (s.allowedUnits ≠ [] → a.units = s.allowedUnits) ∧
      (s.allowedUnits = [] → (∀ u, u ∈ a.units ↔ u ≠ x ∧ ∃ k ∈ g.callers, owningUnit sep k = some u) ∧
        a.units.Pairwise fun u v =>
          g.callers.findIdx (owningUnit sep · = some u) < g.callers.findIdx (owningUnit sep · = some v)) ∧
      ∀ u, a.Mentions u → u ∈ a.units ∧ u ≠ x := by
  obtain ⟨_, hc⟩ := h.checked
  obtain ⟨names, -, he, hn⟩ := Settings.units_eq_ok hc.units
  have hxu : x ∉ s.allowedUnits := Settings.namesOne_text.mp (hx ▸ hc.notUnresolved)
  obtain ⟨sep, hsep⟩ := h.separator_ofValue ht
  obtain ⟨a, ha⟩ := isOk_iff.mp (isOk_run hsep g)
  obtain ⟨_, -, hu, -⟩ := stages_of_run ha
  have hchars : sep.chars = t.toList := by
    rw [ht, Separator.ofValue] at hsep
    split at hsep
    case isTrue  => contradiction
    case isFalse => cases hsep; rfl
  have hgiven : s.allowedUnits ≠ [] → a.units = s.allowedUnits :=
    fun hne => Except.ok.inj <| hu.symm.trans (Settings.unitsFor_of_ne_nil hne)
  have hcallers : s.allowedUnits = [] → a.units = (g.callerUnits sep).filter (· ≠ x) :=
    fun hnil => Except.ok.inj <| hu.symm.trans (Settings.unitsFor_of_nil hnil hsep hx)
  have hclean : a.units.Nodup ∧ "" ∉ a.units ∧ x ∉ a.units := by
    by_cases hnil : s.allowedUnits = []
    case pos =>
      rw [hcallers hnil]
      refine ⟨(nodup_eraseDups _).filter _, fun hm => ?_, by simp⟩
      have hm := List.mem_eraseDups.mp (List.mem_filter.mp hm).1
      obtain ⟨_, -, ho⟩ := List.mem_filterMap.mp hm
      exact owningUnit_ne_empty ho
    case neg =>
      rw [hgiven hnil, hn]
      exact ⟨nodup_eraseDups _, by simpa using he, hn ▸ hxu⟩
  refine ⟨sep, a, hchars, ha, hclean, ?allowed, hgiven, ?callers, fun u hm => ?mentions⟩
  case allowed =>
    intro es hes
    obtain ⟨names, hv, -, hn⟩ := Settings.units_eq_ok (Settings.checked_of_ofFields hes).units
    rw [hn]
    exact ⟨names, hv, fun _ => List.mem_eraseDups, pairwise_idxOf_eraseDups names⟩
  case callers =>
    intro hnil
    rw [hcallers hnil]
    exact ⟨by simp [CallGraph.callerUnits, and_comm], (pairwise_callerUnits g sep).filter _⟩
  case mentions =>
    have hm := mem_units_of_mentions ha hm
    exact ⟨hm, fun he => hclean.2.2 (he ▸ hm)⟩

-- The unit of unresolved calls owns a caller, and another unit comes in front of the ones that are left.
theorem runs_keep_to_their_units_two_of_three :
    let g := (CallGraph.empty.merge [⟨"B.f", "<external>.h"⟩, ⟨"<external>.h", "A.g"⟩, ⟨"A.g", "C.k"⟩]).1
    Settings.ofFields [] = .ok Settings.standard ∧ Settings.standard.separator = .text "." ∧
      Settings.standard.unresolved = .text "<external>" ∧
      ∃ a, run g Settings.standard = .ok a ∧ (∀ u, u ∈ a.units ↔ u = "B" ∨ u = "A") ∧
        ¬a.Mentions "<external>" ∧ ¬a.Mentions "C" := by
  intro g
  have hs : Settings.ofFields [] = .ok Settings.standard := rfl
  have ⟨sep, a, hsep, ha, _, _, _, hcallers, hm⟩ := runs_keep_to_their_units (.given hs) rfl rfl g
  obtain rfl : sep = .dot := by cases sep; cases hsep; rfl
  have hc : g.callers.map (owningUnit .dot) = [some "B", some "<external>", some "A"] := by decide +kernel
  have hu : ∀ u, u ∈ a.units ↔ u = "B" ∨ u = "A" := by
    intro u
    rw [(hcallers rfl).1, ← List.mem_map, hc]
    grind
  refine ⟨hs, rfl, rfl, a, ha, hu, fun h => (hm _ h).2 rfl, fun h => ?_⟩
  exact absurd ((hu _).mp (hm _ h).1) (by decide)

end Analysis
end ModuleDiscovery
