import ModuleDiscovery.Proofs.Analysis.Findings
import ModuleDiscovery.Proofs.Extraction.Partition
import ModuleDiscovery.Proofs.Report.Dot
import ModuleDiscovery.Proofs.Settings.Accepted

namespace ModuleDiscovery

open Analysis

section Reports

variable {v : Value} {c : Coupling} {a : Analysis}

theorem isOk_csv {ws : List (Pair × Float)} (hw : c.rankedWeights = .ok ws) :
    (c.csv v).isOk ↔ ws = [] ∨ (Places.field v).isOk := by
  simp only [Coupling.csv, Coupling.csvRows, hw, Places.text, ok_bind, isOk_map, isOk_mapM, isOk_mapError,
    all_const_iff]

theorem isOk_textReport :
    a.textReport.isOk ↔ a.extraction.modules = [] ∨ (Places.field a.settings.precision).isOk := by
  simp only [textReport, moduleLines, moduleLine, Places.text, bind_pure_comp, isOk_functor_map, isOk_mapError,
    isOk_mapM, isOk_map, all_const_iff, List.zipIdx_eq_nil_iff]

theorem isOk_outline {α : Type} {round : α → Except PlacesFault Value} (h : ∀ x, (round x).isOk)
    (t : Dendrogram α) : (t.outline round).isOk := by
  induction t
  case leaf => rfl
  case fusion l r x hl hr =>
    have ⟨_, hx⟩ := isOk_iff.mp (h x)
    have ⟨_, hl⟩ := isOk_iff.mp hl
    have ⟨_, hr⟩ := isOk_iff.mp hr
    simp [Dendrogram.outline, hx, hl, hr]

theorem isOk_jsonReport (hw : a.coupling.rankedWeights.isOk)
    (hr : ∀ x, (Places.round a.settings.precision x).isOk) : a.jsonReport.isOk := by
  obtain ⟨ranked, hranked⟩ := isOk_iff.mp hw
  have hweights :
      ((ranked.mapM fun c => weightEntry a.settings.precision c.1 c.2).mapError Failure.places).isOk := by
    simp [weightEntry, hr]
  have hmodules :
      ((a.extraction.modules.mapM (moduleEntry a.settings.precision)).mapError Failure.places).isOk := by
    simp [moduleEntry, hr]
  obtain ⟨weights, hweights⟩ := isOk_iff.mp hweights
  obtain ⟨modules, hmodules⟩ := isOk_iff.mp hmodules
  simp only [jsonReport, isOk_map, summary, hranked, ok_bind, hweights]
  cases a.clustering.root
  case none   => rw [hmodules]; rfl
  case some t =>
    have ho : ((t.outline (Places.round a.settings.precision)).mapError Failure.places).isOk := by
      rw [isOk_mapError]
      exact isOk_outline hr t
    obtain ⟨dendrogram, ho⟩ := isOk_iff.mp ho
    simp only [ho, hmodules, ok_bind]
    rfl

end Reports

section Runs

variable {s : Settings} {g : CallGraph} {us : List UnitName} {sep : Separator} {a : Analysis}

theorem isOk_ofCoupling (us : List UnitName) : (ofCoupling s us (Coupling.ofCalls g us sep)).isOk := by
  have ⟨w, hw⟩ : ∃ w : Affinity Float, Affinity.ofCoupling? (Coupling.ofCalls g us sep) us = some w :=
    Affinity.exists_ofCoupling? Coupling.exists_weight?
  simp [ofCoupling, hw]

theorem isOk_separatorFor (hs : Separator.ofValue s.separator = .ok sep) (g : CallGraph) :
    (s.separatorFor g).isOk := by
  by_cases he : g.entries = []
  case pos => simp [separatorFor_of_nil he]
  case neg => simp [separatorFor_of_ne_nil he, hs]

theorem isOk_run (hs : Separator.ofValue s.separator = .ok sep) (g : CallGraph) : (run g s).isOk := by
  have hsep := isOk_separatorFor hs g
  have hu : (s.unitsFor g).isOk := by
    unfold Settings.unitsFor
    split
    case isTrue  => rwa [isOk_map]
    case isFalse => rfl
  have ⟨us, hu⟩    := isOk_iff.mp hu
  have ⟨sep, hsep⟩ := isOk_iff.mp hsep
  rw [run_eq_stages, hu, hsep]
  exact isOk_ofCoupling us

-- What the stages of a run leave.
theorem stages_of_run (h : run g s = .ok a) : ∃ sep w, s.unitsFor g = .ok a.units ∧ s.separatorFor g = .ok sep ∧
    Affinity.ofCoupling? (Coupling.ofCalls g a.units sep) a.units = some w ∧
    a = ⟨s, a.units, Coupling.ofCalls g a.units sep, cluster w, extract w s.threshold (cluster w).root⟩ := by
  rw [run_eq_stages] at h
  have ⟨us, hu, h⟩    := bind_eq_ok.mp h
  have ⟨sep, hsep, h⟩ := bind_eq_ok.mp h
  unfold ofCoupling at h
  split at h
  case h_1 => contradiction
  case h_2 w hw =>
    cases h
    exact ⟨sep, w, hu, hsep, hw, rfl⟩

theorem run_eq_ok (h : run g s = .ok a) : ∃ us sep, s.unitsFor g = .ok us ∧ s.separatorFor g = .ok sep ∧
    a.settings = s ∧ a.coupling = Coupling.ofCalls g us sep ∧
    Extraction.Covers us.eraseDups a.extraction.modules := by
  have ⟨sep, w, hu, hsep, hw, ha⟩ := stages_of_run h
  refine ⟨a.units, sep, hu, hsep, by rw [ha], by rw [ha], ?_⟩
  rw [ha, ← Affinity.units_of_ofCoupling? hw]
  exact covers_extract (Affinity.nodup_of_ofCoupling? hw) cluster_units_perm _

theorem exists_root_of_run (h : run g s = .ok a) (hn : a.units ≠ []) :
    ∃ t, a.clustering.root = some t ∧ ∀ u, u ∈ t.units ↔ u ∈ a.units := by
  have ⟨sep, w, _, _, hw, ha⟩ := stages_of_run h
  have hu (u : UnitName) : u ∈ w.units ↔ u ∈ a.units := Affinity.mem_units_of_ofCoupling? hw
  have hc : a.clustering = cluster w := by rw [ha]
  have ⟨v, hv⟩ := List.exists_mem_of_ne_nil _ hn
  have ⟨t, ht, _⟩ := cluster_runs (List.ne_nil_of_mem ((hu v).mpr hv))
  have hp := cluster_units_perm (w := w)
  rw [ht, Option.elim_some] at hp
  exact ⟨t, hc ▸ ht, fun u => hp.mem_iff.trans (hu u)⟩

end Runs

section Keys

variable {sep : Separator} {u : UnitName} {cs : List Char}

theorem before?_of_length_lt (h : cs.length < sep.chars.length) : sep.before? cs = none := by
  induction cs
  case nil          => rfl
  case cons c cs ih =>
    have hp : ¬sep.chars <+: c :: cs := fun hp => Nat.not_lt.mpr hp.length_le h
    rw [Separator.before?, ih (Nat.lt_of_succ_lt h)]
    simpa using hp

theorem before?_chars : sep.before? sep.chars = some [] := by
  obtain ⟨c, cs, hc⟩ := List.exists_cons_of_ne_nil sep.nonempty
  have hn : sep.before? cs = none := before?_of_length_lt (by simp [hc])
  rw [hc, Separator.before?, hn, ← hc]
  simp

-- The key of a unit whose method has no name.
theorem owningUnit_append (hu : u ≠ "") : owningUnit sep (u ++ String.ofList sep.chars) = some u := by
  have hb : sep.before? (u.toList ++ (sep.chars ++ [])) = some u.toList :=
    Separator.before?_append (by rw [List.append_nil, before?_chars])
  have hl : u.toList ≠ [] := by simpa using hu
  obtain ⟨c, cs, hc⟩ := List.exists_cons_of_ne_nil hl
  rw [List.append_nil, hc] at hb
  rw [owningUnit, String.toList_append, String.toList_ofList, hc, hb]
  simp [← hc]

end Keys

section Settings

variable {s : Settings} {sep : Separator}

theorem exists_unit_not_named (v : Value) : ∃ u : UnitName, u ≠ "" ∧ Settings.namesOne [u] v = false := by
  cases v
  case text t =>
    by_cases ht : t = "a"
    case pos => exact ⟨"b", by decide, by rw [ht]; rfl⟩
    case neg => exact ⟨"a", by decide, by simp [Settings.namesOne, ht]⟩
  all_goals exact ⟨"a", by decide, rfl⟩

-- Whatever the settings, there is something that they make an analysis find.
theorem exists_run_modules_ne_nil (hs : Separator.ofValue s.separator = .ok sep) :
    ∃ g a, run g s = .ok a ∧ a.extraction.modules ≠ [] := by
  obtain ⟨g, us, hu, hn⟩ : ∃ g us, s.unitsFor g = .ok us ∧ us ≠ [] := by
    by_cases ha : s.allowedUnits = []
    case neg => exact ⟨.empty, s.allowedUnits, by simp [Settings.unitsFor, ha], ha⟩
    case pos =>
      obtain ⟨u, hu, hr⟩ := exists_unit_not_named s.unresolved
      let g := CallGraph.empty.record (u ++ String.ofList sep.chars)
      have hg : s.separatorFor g = .ok sep := by
        rw [separatorFor_of_ne_nil (List.cons_ne_nil _ _), hs]
        rfl
      have hc : g.callerUnits sep = [u] := by
        have hk : g.callers = [u ++ String.ofList sep.chars] := rfl
        simp [CallGraph.callerUnits, hk, owningUnit_append hu, List.eraseDups_cons]
      exact ⟨g, [u], by simp [Settings.unitsFor, ha, hg, hc, hr, Except.map], List.cons_ne_nil _ _⟩
  obtain ⟨a, ha⟩ := isOk_iff.mp (isOk_run hs g)
  obtain ⟨vs, _, hv, _, _, _, hc⟩ := run_eq_ok ha
  cases hu.symm.trans hv
  obtain ⟨u, hm⟩ := List.exists_mem_of_ne_nil us hn
  have hd : us.eraseDups ≠ [] := List.ne_nil_of_mem (List.mem_eraseDups.mpr hm)
  exact ⟨g, a, ha, mt hc.eq_nil_iff.mp hd⟩

theorem separator_of_isOk_run (h : ∀ g, (run g s).isOk) : ∃ t, s.separator = .text t := by
  have ⟨a, ha⟩ := isOk_iff.mp (h (CallGraph.empty.record ""))
  have ⟨_, sep, _, hsep, _⟩ := run_eq_ok ha
  rw [separatorFor_of_ne_nil (List.cons_ne_nil _ _)] at hsep
  cases hv : s.separator
  case text t => exact ⟨t, rfl⟩
  all_goals
    rw [hv] at hsep
    contradiction

end Settings

section Places

open Places

variable {s : Settings} {g : CallGraph} {a : Analysis}

theorem isOk_round_int (n : Nat) (x : Float) : (Places.round (.int n) x).isOk := by
  have ⟨y, hy⟩ := Number.exists_roundToPlaces? x n
  simp [Places.round, hy, Places.round.real]

-- A truth value is a number of places where numbers are rounded.
theorem isOk_round_bool (b : Bool) (x : Float) : (Places.round (.bool b) x).isOk := by
  have he : Places.round (.bool b) x = Places.round (.int (if b then 1 else 0 : Nat)) x := by cases b <;> rfl
  rw [he]
  exact isOk_round_int _ x

theorem isOk_json_of_run (h : run g s = .ok a) (hr : ∀ x, (Places.round s.precision x).isOk) :
    (Format.json.report a).isOk := by
  have ⟨_, _, _, _, hs, hc, _⟩ := run_eq_ok h
  exact isOk_jsonReport (hc ▸ isOk_rankedWeights) (hs ▸ hr)

theorem isOk_report_of_run (h : run g s = .ok a) {n : Nat} (hp : s.precision = .int n) (hn : n ≤ maxPlaces) :
    ∀ f ∈ [Format.csv, .dot, .json, .text], (f.report a).isOk := by
  have ⟨_, _, _, _, hs, hc, _⟩ := run_eq_ok h
  have hr : a.coupling.rankedWeights.isOk := hc ▸ isOk_rankedWeights
  have ⟨ws, hw⟩ := isOk_iff.mp hr
  have hf : (field a.settings.precision).isOk := by
    rw [hs, hp]
    exact isOk_iff.mpr (field_int.mpr hn)
  simp only [List.forall_mem_cons]
  refine ⟨?csv, ?dot, ?json, ?text, nofun⟩
  case csv  => exact (isOk_csv hw).mpr (.inr hf)
  case dot  => exact (isOk_dot _ hw).mpr (.inr hf)
  case json => exact isOk_json_of_run h (hp ▸ isOk_round_int n)
  case text => exact isOk_textReport.mpr (.inr hf)

-- Without a number of places nothing is reported in which a number has to be written.
theorem not_isOk_report (hf : ¬(field a.settings.precision).isOk) (hw : a.coupling.rankedWeights.isOk)
    (hc : a.coupling.counts ≠ []) (hm : a.extraction.modules ≠ []) :
    ∀ f ∈ [Format.csv, .dot, .text], ¬(f.report a).isOk := by
  have ⟨ws, hw⟩ := isOk_iff.mp hw
  have hn : ws ≠ [] := mt (eq_nil_iff_of_rankedWeights hw).mp hc
  simp only [List.forall_mem_cons]
  refine ⟨?csv, ?dot, ?text, nofun⟩
  case csv  => exact fun h => ((isOk_csv hw).mp h).elim hn hf
  case dot  => exact fun h => ((isOk_dot _ hw).mp h).elim hn hf
  case text => exact fun h => (isOk_textReport.mp h).elim hm hf

-- Of what is accepted only integers that are not too large are written behind a point.
theorem precision_of_isOk_field (h : s.Accepted) (hf : (field s.precision).isOk) :
    ∃ n : Nat, s.precision = .int n ∧ n ≤ maxPlaces := by
  obtain ⟨n, hp⟩ | ⟨b, hp⟩ | ⟨x, hp⟩ := h.precision_cases
  case inl =>
    rw [hp] at hf
    exact ⟨n, hp, field_int.mp (isOk_iff.mp hf)⟩
  case inr.inl =>
    have ⟨_, he⟩ := field_bool b
    simp [hp, he] at hf
  case inr.inr =>
    have ⟨_, he⟩ := field_real x
    simp [hp, he] at hf

end Places

-- The settings may be given or come from files, variables and what is given directly. Reports for a terminal
-- are left out: names are put into their markup.
theorem accepted_settings_report_iff {s : Settings} (h : s.Accepted) :
    (∀ g, ∃ a, run g s = .ok a ∧ ∀ f ∈ [Format.csv, .dot, .json, .text], ∃ t, f.report a = .ok t) ↔
      (∃ t, s.separator = .text t) ∧ ∃ n : Nat, s.precision = .int n ∧ n ≤ 2147483647 := by
  constructor
  case mp =>
    intro hr
    have hrun : ∀ g, (run g s).isOk := fun g => isOk_iff.mpr ((hr g).imp fun _ h => h.1)
    have ⟨t, ht⟩ := separator_of_isOk_run hrun
    have ⟨sep, hs⟩ := h.separator_ofValue ht
    have ⟨g, a, ha, hm⟩ := exists_run_modules_ne_nil hs
    refine ⟨⟨t, ht⟩, precision_of_isOk_field h ?_⟩
    have ⟨b, hb, hrep⟩ := hr g
    cases ha.symm.trans hb
    have ⟨_, _, _, _, hset, _⟩ := run_eq_ok ha
    have hfield := isOk_textReport.mp (isOk_iff.mpr (hrep .text (by simp)))
    exact hset ▸ hfield.resolve_left hm
  case mpr =>
    rintro ⟨⟨t, ht⟩, n, hp, hn⟩ g
    have ⟨sep, hs⟩ := h.separator_ofValue ht
    have ⟨a, ha⟩ := isOk_iff.mp (isOk_run hs g)
    exact ⟨a, ha, fun f hf => isOk_iff.mp (isOk_report_of_run ha hp hn f hf)⟩

-- A truth value is accepted as a number of places.
theorem accepted_settings_report_iff_bool :
    ∃ s, Settings.ofFields [("weight_precision", .bool true)] = .ok s ∧
      ¬∀ g, ∃ a, run g s = .ok a ∧ ∀ f ∈ [Format.csv, .dot, .json, .text], ∃ t, f.report a = .ok t := by
  have hs : Settings.ofFields [("weight_precision", .bool true)] =
      .ok { Settings.standard with precision := .bool true } := rfl
  refine ⟨_, hs, fun h => ?_⟩
  have ⟨_, n, hn, _⟩ := (accepted_settings_report_iff (.given hs)).mp h
  cases hn

-- Two calls that couple two units. The rounded weights are reported, but no written ones.
theorem unreported_bool :
    ∃ s a, Settings.ofFields [("weight_precision", .bool true)] = .ok s ∧
      run (CallGraph.empty.merge [⟨"A.f", "B.g"⟩, ⟨"B.g", "A.f"⟩]).1 s = .ok a ∧
      (∃ t, Format.json.report a = .ok t) ∧
      ∀ f ∈ [Format.csv, .dot, .text], ∃ e, f.report a = .error e := by
  let s : Settings := { Settings.standard with precision := .bool true }
  let g := (CallGraph.empty.merge [⟨"A.f", "B.g"⟩, ⟨"B.g", "A.f"⟩]).1
  have hs : Separator.ofValue s.separator = .ok .dot := rfl
  have ⟨a, ha⟩ := isOk_iff.mp (isOk_run hs g)
  refine ⟨s, a, rfl, ha, isOk_iff.mp (isOk_json_of_run ha (isOk_round_bool true)), ?_⟩
  have ⟨us, sep, hu, hsep, hset, hc, hm⟩ := run_eq_ok ha
  have hu' : s.unitsFor g = .ok ["A", "B"] := by rfl
  cases hu.symm.trans hu'
  have hsep' : s.separatorFor g = .ok .dot := by rfl
  cases hsep.symm.trans hsep'
  have hn : (Coupling.ofCalls g ["A", "B"] .dot).counts ≠ [] := by decide +kernel
  have hf : ¬(Places.field a.settings.precision).isOk := hset ▸ not_isOk_iff.mpr (Places.field_bool true)
  have he : ["A", "B"].eraseDups ≠ [] := by decide
  intro f hmem
  exact not_isOk_iff.mp <|
    not_isOk_report hf (hc ▸ isOk_rankedWeights) (hc ▸ hn) (mt hm.eq_nil_iff.mp he) f hmem

end ModuleDiscovery
