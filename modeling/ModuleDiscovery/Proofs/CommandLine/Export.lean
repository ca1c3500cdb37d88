import ModuleDiscovery.Proofs.Analysis.Reportable
import ModuleDiscovery.Proofs.CommandLine.Output
import ModuleDiscovery.Proofs.Graph.Restriction
import ModuleDiscovery.Proofs.Report.Dot

namespace ModuleDiscovery
namespace CommandLine

variable {s : Surroundings} {q r : Request} {threshold : Option String} {quiet : Bool} {a : Analysis}
  {us : List UnitName} {sep : Separator} {h : CallGraph}

-- The graph that a request exports, where calls to and from other units are left out.
structure Exports (s : Surroundings) (r : Request) (sep : Separator) (us : List UnitName) (h : CallGraph) : Prop where
  usable : r.check s = .ok ()
  made   : ∃ settings g records, CommandLine.settings s r none false = .ok settings ∧
    CallGraph.load s.files s.working.location r.files = .ok (g, records) ∧ settings.unitsFor g = .ok us ∧
    settings.separatorFor g = .ok sep ∧ h = g.restrict sep us

theorem callGraphProgress_of_exports (hr : Exports s r sep us h) :
    ∃ records, callGraphProgress s r false = (Progress.deliver s r.output (h.dot "CallGraph")).note records := by
  obtain ⟨settings, g, records, hs, hg, hu, hsep, rfl⟩ := hr.made
  refine ⟨records, ?_⟩
  simp only [callGraphProgress, hs, hg, ok_bind, hu, hsep, pure, Except.pure, Bool.false_eq_true, if_false]

-- Two requests for the same graph and the same settings.
structure Alike (s : Surroundings) (q : Request) (threshold : Option String) (quiet : Bool) (r : Request) : Prop where
  usable   : q.check s = .ok () ∧ r.check s = .ok ()
  files    : q.files = r.files
  settings : CommandLine.settings s q threshold quiet = CommandLine.settings s r none false

theorem exports_of_comesTo (hq : Alike s q threshold quiet r) (ha : ComesTo s q threshold quiet a) :
    ∃ sep us h, Exports s r sep us h := by
  have ⟨settings, g, records, hs, hg, ha⟩ := ha.made
  have ⟨us, sep, hu, hsep, _⟩ := run_eq_ok ha
  exact ⟨sep, us, _, hq.usable.2, settings, g, records, hq.settings ▸ hs, hq.files ▸ hg, hu, hsep, rfl⟩

theorem comesTo_of_exports (hq : Alike s q threshold quiet r) (hr : Exports s r sep us h) :
    ∃ a, ComesTo s q threshold quiet a := by
  have ⟨settings, g, records, hs, hg, hu, hsep, _⟩ := hr.made
  have ⟨a, ha⟩ : ∃ a, Analysis.run g settings = .ok a := by
    rw [Analysis.run_eq_stages, hu, hsep]
    exact isOk_iff.mp (isOk_ofCoupling us)
  exact ⟨a, hq.usable.1, settings, g, records, hq.settings ▸ hs, hq.files ▸ hg, ha⟩

theorem countP_of_comesTo (hq : Alike s q threshold quiet r) (ha : ComesTo s q threshold quiet a)
    (hr : Exports s r sep us h) :
    ((h.calls.countP fun c => owningUnit sep c.caller ≠ owningUnit sep c.callee : Nat) : Int) = a.coupling.total := by
  have ⟨settings, g, _, hs, hg, ha⟩ := ha.made
  have ⟨settings', g', _, hs', hg', hu, hsep, hh⟩ := hr.made
  cases (hq.settings ▸ hs).symm.trans hs'
  cases (hq.files ▸ hg).symm.trans hg'
  have ⟨us', sep', hu', hsep', _, hc, _⟩ := run_eq_ok ha
  cases hu.symm.trans hu'
  cases hsep.symm.trans hsep'
  rw [hh, hc, Coupling.countP_calls_restrict]

-- What the export says is read from its text.
theorem exists_read_countP_of_count {n : Int}
    (hn : ((h.calls.countP fun c => owningUnit sep c.caller ≠ owningUnit sep c.callee : Nat) : Int) = n) :
    ∃ d, Dot.read? (h.dot "CallGraph") = some d ∧
      ((d.edges.countP fun e => owningUnit sep e.source ≠ owningUnit sep e.target : Nat) : Int) = n := by
  have ⟨d, hd, he⟩ := exists_read_countP h fun j k => owningUnit sep j ≠ owningUnit sep k
  exact ⟨d, hd, he ▸ hn⟩

-- The two ways to select calls by units, in themselves and where the commands take them.
theorem restriction_counts_with_coupling :
    (∀ (g : CallGraph) (sep : Separator) (us : List UnitName),
      let h := g.restrict sep us
      g.restrictByMerging sep us = h ∧
      h.calls = g.calls.filter (fun c =>
        (∃ u ∈ us, owningUnit sep c.caller = some u) ∧ ∃ v ∈ us, owningUnit sep c.callee = some v) ∧
      h.callers = g.callers.filter (fun k => ∃ u ∈ us, owningUnit sep k = some u) ∧
      (∀ vs, h.restrict sep vs = g.restrict sep (us ∩ vs)) ∧
      Coupling.ofCalls h us sep = Coupling.ofCalls g us sep ∧
      ((h.calls.countP fun c => owningUnit sep c.caller ≠ owningUnit sep c.callee : Nat) : Int) =
        (Coupling.ofCalls g us sep).total ∧
      ∃ d, Dot.read? (h.dot "CallGraph") = some d ∧
        ((d.edges.countP fun e => owningUnit sep e.source ≠ owningUnit sep e.target : Nat) : Int) =
          (Coupling.ofCalls g us sep).total) ∧
    (∀ s q threshold quiet r, Alike s q threshold quiet r →
      ((∃ a, ComesTo s q threshold quiet a) ↔ ∃ sep us h, Exports s r sep us h) ∧
      ∀ a sep us h, ComesTo s q threshold quiet a → Exports s r sep us h →
        (∃ records, callGraphProgress s r false =
          (Progress.deliver s r.output (h.dot "CallGraph")).note records) ∧
        ((h.calls.countP fun c => owningUnit sep c.caller ≠ owningUnit sep c.callee : Nat) : Int) =
          a.coupling.total ∧
        ∃ d, Dot.read? (h.dot "CallGraph") = some d ∧
          ((d.edges.countP fun e => owningUnit sep e.source ≠ owningUnit sep e.target : Nat) : Int) =
            a.coupling.total) := by
  constructor
  case left =>
    intro g sep us h
    refine ⟨CallGraph.restrictByMerging_eq, ?calls, ?callers, CallGraph.restrict_restrict,
      Coupling.ofCalls_restrict, Coupling.countP_calls_restrict,
      exists_read_countP_of_count Coupling.countP_calls_restrict⟩
    case calls =>
      refine CallGraph.calls_restrict.trans (List.filter_congr fun c _ => ?_)
      rw [Bool.eq_iff_iff, Bool.and_eq_true, decide_eq_true_iff, CallGraph.isOwnedBy_iff, CallGraph.isOwnedBy_iff]
    case callers =>
      refine CallGraph.callers_restrict.trans (List.filter_congr fun k _ => ?_)
      rw [Bool.eq_iff_iff, decide_eq_true_iff, CallGraph.isOwnedBy_iff]
  case right =>
    intro s q threshold quiet r hq
    refine ⟨⟨fun ⟨a, ha⟩ => exports_of_comesTo hq ha, fun ⟨sep, us, h, hr⟩ => comesTo_of_exports hq hr⟩, ?_⟩
    intro a sep us h ha hr
    have hc := countP_of_comesTo hq ha hr
    exact ⟨callGraphProgress_of_exports hr, hc, exists_read_countP_of_count hc⟩

-- One call in each file: between the units, within a unit, to another unit and from a method without a unit. One
-- request is for a file, the other one for the terminal.
theorem restriction_counts_with_coupling_four_calls :
    let file (content : String) : Files.Node := .file (Text.encodeUtf8 content)
    let s : Surroundings := {
      files       := (((Files.Tree.empty.put ["a.json"] (file "[[\"A.f\",\"B.g\"]]")).put
        ["b.json"] (file "[[\"A.f\",\"A.h\"]]")).put
        ["c.json"] (file "[[\"A.f\",\"C.k\"]]")).put
        ["d.json"] (file "[[\"f\",\"A.h\"]]")
      working     := ⟨[], ""⟩
      home        := ⟨["home"], "home"⟩
      environment := [] }
    let paths := ["a.json", "b.json", "c.json", "d.json"]
    let q : Request := ⟨paths, ["A", "B"], some "out.txt", none, false, [.unit, .output]⟩
    let r : Request := ⟨paths, ["A", "B"], none, none, false, [.unit]⟩
    Alike s q none false r ∧ ∃ a sep us h, ComesTo s q none false a ∧ Exports s r sep us h ∧
      h.calls = [⟨"A.f", "B.g"⟩, ⟨"A.f", "A.h"⟩] ∧
      ((h.calls.countP fun c => owningUnit sep c.caller ≠ owningUnit sep c.callee : Nat) : Int) =
        a.coupling.total ∧
      ∃ d, Dot.read? (h.dot "CallGraph") = some d ∧
        ((d.edges.countP fun e => owningUnit sep e.source ≠ owningUnit sep e.target : Nat) : Int) =
          a.coupling.total := by
  intro file s paths q r
  have hq : Alike s q none false r := ⟨by decide +kernel, rfl, rfl⟩
  have hx : (CommandLine.settings s r none false >>= fun settings =>
      CallGraph.load s.files s.working.location r.files >>= fun loaded => settings.unitsFor loaded.1 >>= fun us =>
        settings.separatorFor loaded.1 >>= fun sep =>
          .ok (loaded.1.restrict sep us).calls).toOption = some [⟨"A.f", "B.g"⟩, ⟨"A.f", "A.h"⟩] := by
    decide +kernel
  have ⟨settings, hs, hx⟩ := bind_eq_ok.mp (toOption_eq_some.mp hx)
  have ⟨⟨g, records⟩, hg, hx⟩ := bind_eq_ok.mp hx
  have ⟨us, hu, hx⟩ := bind_eq_ok.mp hx
  have ⟨sep, hsep, hx⟩ := bind_eq_ok.mp hx
  have hr : Exports s r sep us (g.restrict sep us) := ⟨hq.usable.2, settings, g, records, hs, hg, hu, hsep, rfl⟩
  have ⟨hi, hc⟩ := restriction_counts_with_coupling.2 s q none false r hq
  have ⟨a, ha⟩ := hi.mpr ⟨sep, us, _, hr⟩
  exact ⟨hq, a, sep, us, _, ha, hr, Except.ok.inj hx, (hc a sep us _ ha hr).2⟩

end CommandLine
end ModuleDiscovery
