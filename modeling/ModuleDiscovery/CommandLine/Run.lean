import ModuleDiscovery.CommandLine.Command
import ModuleDiscovery.EdgeFile.Load
import ModuleDiscovery.Report.Format

namespace ModuleDiscovery.CommandLine

open Console

inductive Ending
  | exit   (code : Nat)
  -- The run broke off with a failure.
  | failed (f : Failure)

structure Written where
  location : Files.Location
  path     : String
  text     : String

structure Outcome where
  ending  : Ending
  stdout  : String
  stderr  : String
  written : Option Written
  records : List Record

-- What a command has done so far, and the failure that stopped it if one did.
structure Progress where
  stdout  : String
  stderr  : String
  written : Option Written
  records : List Record
  failure : Option Failure

def columnCount : Nat := 1000

def version : String := "coupling-insight 0.1.0"

namespace Progress

def nothing : Progress := ⟨"", "", none, [], none⟩

def failed (f : Failure) : Progress := { nothing with failure := some f }

def note (rs : List Record) (p : Progress) : Progress :=
  { p with records := rs ++ p.records }

-- A report as it is printed: without markup, and without the controls that terminals act upon.
def onTerminal (report : String) : Progress :=
  let cs := report.toList.filter (!Markup.isStripped ·)
  { nothing with stdout := String.ofList (layOutRaw columnCount cs) }

-- A report written to a file, which is told of on the error output. The file is left empty if the
-- report cannot be stored.
def toFile (s : Surroundings) (path report : String) : Progress :=
  let path := Files.pathText path
  match s.files.writable s.working.location path, Text.encodeFault? report with
  | .error f, _    => failed (.file f)
  | .ok l, some f  => { nothing with written := some ⟨l, path, ""⟩, failure := some (.notStorable f) }
  | .ok l, none    =>
    let file : Written := ⟨l, path, report⟩
    match print columnCount ("Wrote [green]" ++ path ++ "[/green]") with
    | .ok told => { nothing with written := some file, stderr := told }
    | .error f => { nothing with written := some file, failure := some (.markup f) }

-- A report that goes to a file if one is given and is printed else.
def deliver (s : Surroundings) (output : Option String) (report : String) : Progress :=
  match output with
  | some path => toFile s path report
  | none      => onTerminal report

-- The outcome where the failure is told of on the error output behind a word.
def tell (p : Progress) (word : String) (f : Failure) : Outcome :=
  match print columnCount ("[red]" ++ word ++ ":[/red] " ++ f.message) with
  | .ok told  => ⟨.exit 1, p.stdout, p.stderr ++ told, p.written, p.records⟩
  | .error f' => ⟨.failed (.markup f'), p.stdout, p.stderr, p.written, p.records⟩

-- The outcome where a failure other than a refusal is told of if `all` says so. A failure that nobody tells of ends
-- the run at once.
def outcome (p : Progress) (all : Bool) : Outcome :=
  match p.failure with
  | none              => ⟨.exit 0, p.stdout, p.stderr, p.written, p.records⟩
  | some (.refused r) => p.tell "Error" (.refused r)
  | some f            =>
    if all then p.tell "Unexpected error" f
    else ⟨.failed f, p.stdout, p.stderr, p.written, p.records⟩

end Progress

section Commands

variable (s : Surroundings) (r : Request)

def settings (threshold : Option String) (quiet : Bool) : Except Failure Settings := do
  let threshold ← threshold.mapM Threshold.ofText
  let units := if r.units.isEmpty then [] else [("allowed_units", Value.tuple (r.units.map .text))]
  let overrides :=
    [("verbose", Value.bool r.verbose), ("quiet", .bool quiet)] ++ units ++
      (threshold.map fun x => (Refusal.thresholdKey, Value.real x)).toList
  Settings.load s r.config overrides

-- Hands a report that could be made on, and stops else.
def ofReport (report : Except Failure String) (k : String → Progress) : Progress :=
  match report with
  | .ok t    => k t
  | .error f => .failed f

-- The report of an analysis. Only a report for the terminal is printed part by part.
def reportAnalysis (a : Analysis) (format : Format) : Progress :=
  match format, r.output with
  | .display, none =>
    let (text, failure) := printAll (a.displayParts columnCount)
    { Progress.nothing with stdout := text, failure }
  | f, output => ofReport (f.report a) (Progress.deliver s output)

def analyzeProgress (format : Format) (threshold : Option String) (quiet : Bool) : Progress :=
  let loaded : Except Failure (Settings × CallGraph × List Record) := do
    let settings ← settings s r threshold quiet
    let (g, records) ← CallGraph.load s.files s.working.location r.files
    return (settings, g, records)
  match loaded with
  | .error f => .failed f
  | .ok (settings, g, records) =>
    match Analysis.run g settings with
    | .error f => (Progress.failed f).note records
    | .ok a    => (reportAnalysis s r a format).note (records ++ a.records)

def analyze (format : String) (threshold : Option String) (quiet : Bool) : Outcome :=
  match Format.ofName? format with
  | some f => (analyzeProgress s r f threshold quiet).outcome true
  | none   =>
    let known := ", ".intercalate (Format.all.map Format.name)
    let message := "unknown format " ++ Text.quoted format ++ " (choose from " ++ known ++ ")"
    Progress.nothing.tell "Error" (.refused (.general message []))

def callGraphProgress (includeExternal : Bool) : Progress :=
  let loaded : Except Failure (CallGraph × List Record) := do
    let settings ← settings s r none false
    let (g, records) ← CallGraph.load s.files s.working.location r.files
    if includeExternal then return (g, records)
    let us ← settings.unitsFor g
    let sep ← settings.separatorFor g
    return (g.restrict sep us, records)
  match loaded with
  | .error f         => .failed f
  | .ok (g, records) => (Progress.deliver s r.output (g.dot "CallGraph")).note records

def callGraph (includeExternal : Bool) : Outcome :=
  (callGraphProgress s r includeExternal).outcome false

end Commands

def usage (f : UsageFault) : Outcome :=
  ⟨.exit 2, "", "Error: " ++ f.message ++ "\n", none, []⟩

def helpText : String :=
  "\n".intercalate [
    "Usage: coupling-insight COMMAND [ARGS]...",
    "",
    "Commands:",
    "  analyze    Cluster units by call coupling and cut the dendrogram into modules.",
    "  callgraph  Export the merged method call graph as Graphviz DOT.",
    "  version    Show the installed version.",
    ""]

-- A run of a command on files once its paths have been checked. Of its records those are kept that the
-- user wants to see.
def checked (s : Surroundings) (r : Request) (quiet : Bool) (o : Outcome) : Outcome :=
  match r.check s with
  | .ok ()          =>
    { o with records := o.records.filter fun c => Level.ofChoice r.verbose quiet ≤ c.level }
  | .error (.inr f) => usage f
  | .error (.inl f) => ⟨.failed (.file f), "", "", none, []⟩

def run (s : Surroundings) (args : List String) : Outcome :=
  match Command.ofArguments args with
  | .error f                                 => usage f
  | .ok .help                                => ⟨.exit 0, helpText, "", none, []⟩
  | .ok .version                             => ⟨.exit 0, version ++ "\n", "", none, []⟩
  | .ok (.analyze r format threshold quiet)  => checked s r quiet (analyze s r format threshold quiet)
  | .ok (.callGraph r includeExternal)       => checked s r false (callGraph s r includeExternal)

end ModuleDiscovery.CommandLine
