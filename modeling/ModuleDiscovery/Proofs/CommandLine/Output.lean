import ModuleDiscovery.CommandLine.Run
import ModuleDiscovery.Proofs.Report.Unrefused
import ModuleDiscovery.Proofs.Settings.Accepted

namespace ModuleDiscovery

namespace Format

theorem ofName?_eq_some_iff {t : String} {f : Format} : ofName? t = some f ↔ f.name = t := by
  constructor
  case mp => exact fun h => by simpa using List.find?_some h
  case mpr =>
    rintro rfl
    cases f <;> decide

theorem name_inj {f g : Format} (h : f.name = g.name) : f = g :=
  Option.some.inj ((ofName?_eq_some_iff.mpr h).symm.trans (ofName?_eq_some_iff.mpr rfl))

end Format

namespace CommandLine

open Console

section Progress

variable {p : Progress} {all : Bool} {word : String} {e : Failure}

theorem tell_output : (p.tell word e).stdout = p.stdout ∧ (p.tell word e).written = p.written := by
  unfold Progress.tell
  split <;> exact ⟨rfl, rfl⟩

-- To tell of a failure takes nothing back and adds nothing but to the error output.
theorem outcome_output : (p.outcome all).stdout = p.stdout ∧ (p.outcome all).written = p.written := by
  unfold Progress.outcome
  split
  case h_1 => exact ⟨rfl, rfl⟩
  case h_2 => exact tell_output
  case h_3 =>
    split
    case isTrue  => exact tell_output
    case isFalse => exact ⟨rfl, rfl⟩

-- What comes to its end without a failure ends well.
theorem failure_of_outcome (h : (p.outcome all).ending ≠ .exit 0) : p.failure ≠ none :=
  fun hn => h (by simp only [Progress.outcome, hn])

theorem printAll_failure {ps : List (Except Failure String)} (h : (printAll ps).2 = some e) : .error e ∈ ps := by
  induction ps
  case nil => contradiction
  case cons p ps ih =>
    cases p
    case error => exact Option.some.inj h ▸ List.mem_cons_self
    case ok    => exact .tail _ (ih h)

theorem printAll_ok {t : String} {ps : List (Except Failure String)} :
    (printAll (.ok t :: ps)).1 = t ++ (printAll ps).1 :=
  rfl

end Progress

section Analyses

variable {s : Surroundings} {r : Request} {threshold : Option String} {quiet : Bool} {a : Analysis} {f : Format}
  {path report : String} {w : Written}

-- The analysis that a request comes to, if nothing fails before.
structure ComesTo (s : Surroundings) (r : Request) (threshold : Option String) (quiet : Bool) (a : Analysis) :
    Prop where
  usable : r.check s = .ok ()
  made   : ∃ settings g records, CommandLine.settings s r threshold quiet = .ok settings ∧
    CallGraph.load s.files s.working.location r.files = .ok (g, records) ∧ Analysis.run g settings = .ok a

-- What is in a file once a report has been written to it, or could not be stored.
structure IsLeft (s : Surroundings) (path report : String) (w : Written) : Prop where
  path     : w.path = Files.pathText path
  location : s.files.writable s.working.location w.path = .ok w.location
  text     : w.text = if (Text.encodeFault? report).isSome then "" else report

theorem toFile_stdout : (Progress.toFile s path report).stdout = "" := by
  unfold Progress.toFile
  dsimp only
  split
  case h_1 => rfl
  case h_2 => rfl
  case h_3 => split <;> rfl

theorem toFile_written : (Progress.toFile s path report).written =
    (s.files.writable s.working.location (Files.pathText path)).toOption.map fun l =>
      ⟨l, Files.pathText path, if (Text.encodeFault? report).isSome then "" else report⟩ := by
  unfold Progress.toFile
  dsimp only
  cases s.files.writable s.working.location (Files.pathText path)
  case error => rfl
  case ok l =>
    cases Text.encodeFault? report
    case some => rfl
    case none =>
      dsimp only
      split <;> rfl

theorem toFile_written_iff : (Progress.toFile s path report).written = some w ↔ IsLeft s path report w := by
  rw [toFile_written, Option.map_eq_some_iff]
  constructor
  case mp =>
    rintro ⟨l, hl, rfl⟩
    refine ⟨rfl, ?_, rfl⟩
    dsimp only
    rw [toOption_eq_some.mp hl]
  case mpr =>
    intro ⟨hp, hl, ht⟩
    refine ⟨w.location, toOption_eq_some.mpr (hp ▸ hl), ?_⟩
    rw [← hp, ← ht]

theorem deliver_some : Progress.deliver s (some path) report = Progress.toFile s path report :=
  rfl

-- A report that could not be made is nowhere, and one that was printed has not failed.
theorem ofReport_stdout {x : Except Failure String}
    (h : (ofReport x (Progress.deliver s r.output)).failure ≠ none) :
    (ofReport x (Progress.deliver s r.output)).stdout = "" := by
  cases x
  case error => rfl
  case ok report =>
    generalize r.output = output at h
    cases output
    case none      => exact absurd rfl h
    case some path => rw [ofReport, deliver_some, toFile_stdout]

theorem reportAnalysis_display (ho : r.output = none) :
    (reportAnalysis s r a .display).stdout = (printAll (a.displayParts columnCount)).1 ∧
    (reportAnalysis s r a .display).written = none ∧
    (reportAnalysis s r a .display).failure = (printAll (a.displayParts columnCount)).2 := by
  unfold reportAnalysis
  generalize printAll (a.displayParts columnCount) = o, r.output = output at ho
  subst ho
  cases o
  exact ⟨rfl, rfl, rfl⟩

theorem reportAnalysis_whole (h : ¬(f = .display ∧ r.output = none)) :
    reportAnalysis s r a f = ofReport (f.report a) (Progress.deliver s r.output) := by
  unfold reportAnalysis
  generalize printAll (a.displayParts columnCount) = o, r.output = output at h
  cases f
  case display =>
    cases output
    case none => exact absurd ⟨rfl, rfl⟩ h
    case some => rfl
  all_goals rfl

-- A report for the terminal begins with an empty line, which cannot fail.
theorem stdout_reportAnalysis (h : (reportAnalysis s r a f).failure ≠ none) :
    (reportAnalysis s r a f).stdout ≠ "" ↔ f = .display ∧ r.output = none := by
  by_cases hd : f = .display ∧ r.output = none
  case pos =>
    obtain ⟨rfl, ho⟩ := hd
    have ⟨ps, hp⟩ : ∃ ps, a.displayParts columnCount = .ok "\n" :: ps := ⟨_, rfl⟩
    rw [(reportAnalysis_display ho).1, hp, printAll_ok]
    exact iff_of_true (by simp) ⟨rfl, ho⟩
  case neg =>
    rw [reportAnalysis_whole hd] at h ⊢
    exact iff_of_false (not_not_intro (ofReport_stdout h)) hd

theorem written_reportAnalysis : (reportAnalysis s r a f).written = some w ↔
    ∃ path report, r.output = some path ∧ f.report a = .ok report ∧ IsLeft s path report w := by
  by_cases hd : f = .display ∧ r.output = none
  case pos =>
    obtain ⟨rfl, ho⟩ := hd
    simp [(reportAnalysis_display ho).2.1, ho]
  case neg =>
    rw [reportAnalysis_whole hd]
    cases f.report a
    case error => simp [ofReport, Progress.failed, Progress.nothing]
    case ok t =>
      cases r.output
      case none      => simp [ofReport, Progress.deliver, Progress.onTerminal, Progress.nothing]
      case some path => simp [ofReport, Progress.deliver, toFile_written_iff]

theorem toFile_unrefused {e : Refusal} : (Progress.toFile s path report).failure ≠ some (.refused e) := by
  unfold Progress.toFile
  dsimp only
  split
  case h_1 => exact nofun
  case h_2 => exact nofun
  case h_3 => split <;> exact nofun

theorem ofReport_unrefused {x : Except Failure String} (hx : Unrefused x) {output : Option String} {e : Refusal} :
    (ofReport x (Progress.deliver s output)).failure ≠ some (.refused e) := by
  cases x
  case error e' => exact fun h => hx e (congrArg _ (Option.some.inj h))
  case ok report =>
    cases output
    case none      => exact nofun
    case some path =>
      rw [ofReport, deliver_some]
      exact toFile_unrefused

-- Once there is an analysis, whatever fails is no refusal.
theorem reportAnalysis_unrefused {e : Refusal} : (reportAnalysis s r a f).failure ≠ some (.refused e) := by
  by_cases hd : f = .display ∧ r.output = none
  case pos =>
    obtain ⟨rfl, ho⟩ := hd
    rw [(reportAnalysis_display ho).2.2]
    exact fun h => unrefused_displayParts a _ _ (printAll_failure h) e rfl
  case neg =>
    rw [reportAnalysis_whole hd]
    exact ofReport_unrefused (unrefused_report a f)

theorem ComesTo.unique {b : Analysis} (ha : ComesTo s r threshold quiet a) (hb : ComesTo s r threshold quiet b) :
    a = b := by
  have ⟨_, _, _, hs, hg, ha⟩ := ha.made
  have ⟨_, _, _, hs', hg', hb⟩ := hb.made
  cases hs.symm.trans hs'
  cases hg.symm.trans hg'
  exact Except.ok.inj (ha.symm.trans hb)

theorem analyzeProgress_of_comesTo (h : ComesTo s r threshold quiet a) (f : Format) :
    ∃ rs, analyzeProgress s r f threshold quiet = (reportAnalysis s r a f).note rs := by
  have ⟨settings, g, records, hs, hg, ha⟩ := h.made
  refine ⟨records ++ a.records, ?_⟩
  simp only [analyzeProgress, hs, hg, ok_bind, pure, Except.pure, ha]

-- Before there is an analysis nothing is printed and no file is opened.
theorem analyzeProgress_of_not_comesTo (hu : r.check s = .ok ()) (h : ∀ a, ¬ComesTo s r threshold quiet a)
    (f : Format) : (analyzeProgress s r f threshold quiet).stdout = "" ∧
      (analyzeProgress s r f threshold quiet).written = none := by
  unfold analyzeProgress
  dsimp only
  split
  case h_1 => exact ⟨rfl, rfl⟩
  case h_2 settings g records hl =>
    have ⟨settings', hs, hl⟩ := bind_eq_ok.mp hl
    have ⟨(g', records'), hg, hl⟩ := bind_eq_ok.mp hl
    cases hl
    split
    case h_1 => exact ⟨rfl, rfl⟩
    case h_2 a ha => exact absurd ⟨hu, _, _, _, hs, hg, ha⟩ (h a)

end Analyses

section Runs

variable {s : Surroundings} {args : List String} {r : Request} {format : String} {threshold : Option String}
  {quiet : Bool} {f : Format}

theorem run_of_format (hc : Command.ofArguments args = .ok (.analyze r format threshold quiet))
    (hu : r.check s = .ok ()) (hf : f.name = format) :
    (run s args).stdout = (analyzeProgress s r f threshold quiet).stdout ∧
    (run s args).written = (analyzeProgress s r f threshold quiet).written ∧
    ((run s args).ending ≠ .exit 0 → (analyzeProgress s r f threshold quiet).failure ≠ none) := by
  simp only [run, hc, checked, hu, analyze, Format.ofName?_eq_some_iff.mpr hf]
  exact ⟨outcome_output.1, outcome_output.2, failure_of_outcome⟩

theorem run_nothing (hc : Command.ofArguments args = .ok (.analyze r format threshold quiet))
    (h : r.check s ≠ .ok () ∨ ∀ f : Format, f.name ≠ format) :
    (run s args).stdout = "" ∧ (run s args).written = none := by
  simp only [run, hc, checked]
  split
  case h_1 hu =>
    have hf : Format.ofName? format = none :=
      Option.eq_none_iff_forall_ne_some.mpr fun f hf =>
        h.elim (absurd hu) fun h => h f (Format.ofName?_eq_some_iff.mp hf)
    simp only [analyze, hf]
    exact tell_output
  case h_2 => exact ⟨rfl, rfl⟩
  case h_3 => exact ⟨rfl, rfl⟩

-- A run either comes to an analysis, and all that it prints and writes is its report, or to nothing.
theorem run_cases (hc : Command.ofArguments args = .ok (.analyze r format threshold quiet)) :
    ((run s args).stdout = "" ∧ (run s args).written = none ∧
      ∀ (a : Analysis) (f : Format), f.name = format → ¬ComesTo s r threshold quiet a) ∨
    ∃ (a : Analysis) (f : Format), f.name = format ∧ ComesTo s r threshold quiet a ∧
      (run s args).stdout = (reportAnalysis s r a f).stdout ∧
      (run s args).written = (reportAnalysis s r a f).written ∧
      ((run s args).ending ≠ .exit 0 → (reportAnalysis s r a f).failure ≠ none) := by
  by_cases hv : r.check s = .ok () ∧ ∃ f : Format, f.name = format
  case neg =>
    rw [Classical.not_and_iff_not_or_not, not_exists] at hv
    have ⟨ho, hw⟩ := run_nothing hc hv
    exact .inl ⟨ho, hw, fun a f hf ha => hv.elim (absurd ha.usable) fun hv => hv f hf⟩
  case pos =>
    obtain ⟨hu, f, hf⟩ := hv
    have ⟨ho, hw, hn⟩ := run_of_format hc hu hf
    by_cases ha : ∃ a, ComesTo s r threshold quiet a
    case neg =>
      have hna := not_exists.mp ha
      have ⟨hpo, hpw⟩ := analyzeProgress_of_not_comesTo hu hna f
      exact .inl ⟨ho.trans hpo, hw.trans hpw, fun a _ _ => hna a⟩
    case pos =>
      obtain ⟨a, ha⟩ := ha
      have ⟨rs, hp⟩ := analyzeProgress_of_comesTo ha f
      rw [hp] at ho hw hn
      exact .inr ⟨a, f, hf, ha, ho, hw, hn⟩

-- An analysis that does not end well: its failure is told of, or breaks it off. What a verbose one tells of the
-- place of a failure is not considered.
structure FailedAnalysis (s : Surroundings) (args : List String) (r : Request) (format : String)
    (threshold : Option String) (quiet : Bool) : Prop where
  command : Command.ofArguments args = .ok (.analyze r format threshold quiet)
  terse   : r.verbose = false
  fails   : (run s args).ending ≠ .exit 0

namespace FailedAnalysis

variable (h : FailedAnalysis s args r format threshold quiet)
include h

theorem stdout_iff : (run s args).stdout ≠ "" ↔
    ∃ a, ComesTo s r threshold quiet a ∧ format = "rich" ∧ r.output = none := by
  cases run_cases (s := s) h.command
  case inl hn =>
    have ⟨ho, _, hn⟩ := hn
    refine iff_of_false (not_not_intro ho) ?_
    rintro ⟨a, ha, hf, -⟩
    exact hn a .display hf.symm ha
  case inr hr =>
    have ⟨a, f, hf, ha, ho, _, hfail⟩ := hr
    rw [ho, stdout_reportAnalysis (hfail h.fails)]
    constructor
    case mp =>
      rintro ⟨rfl, hn⟩
      exact ⟨a, ha, hf.symm, hn⟩
    case mpr =>
      rintro ⟨_, _, hd, hn⟩
      exact ⟨Format.name_inj (hf.trans hd), hn⟩

theorem written_iff (w : Written) : (run s args).written = some w ↔
    ∃ (a : Analysis) (f : Format) (path report : String), ComesTo s r threshold quiet a ∧ f.name = format ∧
      r.output = some path ∧ f.report a = .ok report ∧ IsLeft s path report w := by
  cases run_cases (s := s) h.command
  case inl hn =>
    have ⟨_, hw, hn⟩ := hn
    refine iff_of_false (by simp [hw]) ?_
    rintro ⟨a, f, -, -, ha, hf, -⟩
    exact hn a f hf ha
  case inr hr =>
    have ⟨a, f, hf, ha, _, hw, _⟩ := hr
    rw [hw, written_reportAnalysis]
    constructor
    case mp =>
      rintro ⟨path, report, hl⟩
      exact ⟨a, f, path, report, ha, hf, hl⟩
    case mpr =>
      rintro ⟨b, g, path, report, hb, hg, hl⟩
      rw [← hf] at hg
      exact ⟨path, report, ha.unique hb ▸ Format.name_inj hg ▸ hl⟩

theorem nothing_of_refused {e : Refusal}
    (he : (analyzeProgress s r f threshold quiet).failure = some (.refused e)) :
    (run s args).stdout = "" ∧ (run s args).written = none := by
  cases run_cases (s := s) h.command
  case inl hn => exact ⟨hn.1, hn.2.1⟩
  case inr hr =>
    have ⟨a, g, hg, ha, _⟩ := hr
    have ⟨rs, hp⟩ := analyzeProgress_of_comesTo ha f
    rw [hp] at he
    exact absurd he reportAnalysis_unrefused

end FailedAnalysis

-- As long as no analysis has been made nothing is printed and no file is opened, so that refusals leave nothing
-- behind. Whatever else fails behind the analysis does, unless it is the making of a report that is not printed part
-- by part, or the opening of the file.
theorem failed_analysis_output (h : FailedAnalysis s args r format threshold quiet) :
    let o := run s args
    (o.stdout ≠ "" ↔ ∃ a, ComesTo s r threshold quiet a ∧ format = "rich" ∧ r.output = none) ∧
    (∀ w, o.written = some w ↔ ∃ (a : Analysis) (f : Format) (path report : String),
      ComesTo s r threshold quiet a ∧ f.name = format ∧ r.output = some path ∧ f.report a = .ok report ∧
      IsLeft s path report w) ∧
    (∀ (f : Format) (e : Refusal), f.name = format →
      (analyzeProgress s r f threshold quiet).failure = some (.refused e) → o.stdout = "" ∧ o.written = none) :=
  ⟨h.stdout_iff, h.written_iff, fun _ _ _ => h.nothing_of_refused⟩

-- The code that a run ends with, unless it breaks off.
def Ending.code? : Ending → Option Nat
  | exit n   => some n
  | failed _ => none

theorem Ending.ne_exit_zero {e : Ending} {n : Nat} (h : e.code? = some (n + 1)) : e ≠ .exit 0 := by
  rintro rfl
  cases h

theorem code_of_tell {p : Progress} {word : String} {f : Failure}
    (h : (print columnCount ("[red]" ++ word ++ ":[/red] " ++ f.message)).isOk) :
    (p.tell word f).ending.code? = some 1 := by
  have ⟨told, ht⟩ := isOk_iff.mp h
  rw [Progress.tell, ht]
  rfl

-- What is told of a failure that is no refusal decides on the code.
theorem code_of_format (hc : Command.ofArguments args = .ok (.analyze r format threshold quiet))
    (hu : r.check s = .ok ()) (hf : f.name = format) {e : Text.EncodeFault}
    (he : (analyzeProgress s r f threshold quiet).failure = some (.notStorable e))
    (hp : (print columnCount ("[red]" ++ "Unexpected error" ++ ":[/red] " ++ e.message)).isOk) :
    (run s args).ending.code? = some 1 := by
  simp only [run, hc, checked, hu, analyze, Format.ofName?_eq_some_iff.mpr hf, Progress.outcome, he]
  exact code_of_tell hp

def storageFault? : Failure → Option Text.EncodeFault
  | .notStorable f => some f
  | _              => none

theorem eq_of_storageFault? {x : Option Failure} {f : Text.EncodeFault}
    (h : x.bind storageFault? = some f) : x = some (.notStorable f) := by
  obtain ⟨e, rfl, he⟩ := Option.bind_eq_some_iff.mp h
  clear h
  unfold storageFault? at he
  split at he
  case h_1 => cases he; rfl
  case h_2 => cases he

-- More places than a number is written with: the head of the report is printed, and then the table of weights
-- cannot be.
theorem failed_analysis_output_half_printed :
    let s : Surroundings := {
      files       := Files.Tree.empty.put ["e.json"] (.file (Text.encodeUtf8 "[[\"A.f\",\"B.g\"]]"))
      working     := ⟨[], ""⟩
      home        := ⟨["home"], "home"⟩
      environment := [("COUPLING_INSIGHT_WEIGHT_PRECISION", "2147483648")] }
    let args := ["analyze", "e.json", "-u", "A", "-u", "B"]
    let r : Request := ⟨["e.json"], ["A", "B"], none, none, false, [.unit]⟩
    let o := run s args
    FailedAnalysis s args r "rich" none false ∧ o.ending.code? = some 1 ∧
      o.stdout = "\nCOUPLING INSIGHT\n  2 units, 1 inter-unit calls, CP=0.3, max modules=1\n\n" ∧
      ∃ a, ComesTo s r none false a := by
  intro s args r o
  have ⟨ho, ht⟩ : o.ending.code? = some 1 ∧
      o.stdout = "\nCOUPLING INSIGHT\n  2 units, 1 inter-unit calls, CP=0.3, max modules=1\n\n" := by
    decide +kernel
  have hf : FailedAnalysis s args r "rich" none false := ⟨rfl, rfl, Ending.ne_exit_zero ho⟩
  have ⟨hs, _⟩ := failed_analysis_output hf
  have ⟨a, ha, _⟩ := hs.mp (by rw [ht]; decide)
  exact ⟨hf, ho, ht, a, ha⟩

-- The name of a unit that cannot be stored: the file is left empty, whatever it held before.
theorem failed_analysis_output_emptied :
    let s : Surroundings := {
      files       := (Files.Tree.empty.put ["e.json"] (.file (Text.encodeUtf8 "[[\"\\ud800.f\",\"B.g\"]]"))).put
        ["out.txt"] (.file (Text.encodeUtf8 "old\n"))
      working     := ⟨[], ""⟩
      home        := ⟨["home"], "home"⟩
      environment := [] }
    let o := run s ["analyze", "e.json", "-f", "text", "-o", "out.txt"]
    o.ending.code? = some 1 ∧ o.written.map (fun w => (w.path, w.text)) = some ("out.txt", "") := by
  intro s o
  have hc : Command.ofArguments ["analyze", "e.json", "-f", "text", "-o", "out.txt"] =
    .ok (.analyze ⟨["e.json"], [], some "out.txt", none, false, [.format, .output]⟩ "text" none false) := rfl
  have hu : Request.check s ⟨["e.json"], [], some "out.txt", none, false, [.format, .output]⟩ = .ok () :=
    toOption_eq_some.mp (by decide +kernel)
  have ⟨_, hw, _⟩ := run_of_format (f := .text) hc hu rfl
  have ⟨hf, ht⟩ :
      (analyzeProgress s ⟨["e.json"], [], some "out.txt", none, false, [.format, .output]⟩ .text none false
        ).failure.bind storageFault? = some ⟨31, 0xd800, 1⟩ ∧
      (analyzeProgress s ⟨["e.json"], [], some "out.txt", none, false, [.format, .output]⟩ .text none false
        ).written.map (fun w => (w.path, w.text)) = some ("out.txt", "") := by
    decide +kernel
  exact ⟨code_of_format hc hu rfl (eq_of_storageFault? hf) (by decide +kernel), (congrArg _ hw).trans ht⟩

end Runs
end CommandLine
end ModuleDiscovery
