import ModuleDiscovery.Clustering.Extraction
import ModuleDiscovery.Journal
import ModuleDiscovery.Settings.Basic

namespace ModuleDiscovery

-- All that an analysis of a call graph gives.
structure Analysis where
  settings   : Settings
  units      : List UnitName
  coupling   : Coupling
  clustering : Clustering Float
  extraction : Extraction Float

namespace Settings

variable (s : Settings) (g : CallGraph)

-- The separator of keys, as far as there are keys to separate.
def separatorFor : Except Failure Separator :=
  (g.separator s.separator).mapError .separator

-- The units to be analysed: the allowed ones if there are any, else those that own a caller, without
-- the one that stands for unresolved calls.
def unitsFor : Except Failure (List UnitName) :=
  if s.allowedUnits.isEmpty then
    (s.separatorFor g).map fun sep =>
      (g.callerUnits sep).filter fun u => !namesOne [u] s.unresolved
  else
    .ok s.allowedUnits

end Settings

namespace Analysis

def run (g : CallGraph) (s : Settings) : Except Failure Analysis := do
  let us ← s.unitsFor g
  let sep ← s.separatorFor g
  let coupling := Coupling.ofCalls g us sep
  match Affinity.ofCoupling? coupling us with
  | none => throw (.weight ⟨⟩)
  | some w =>
    let clustering := cluster w
    return {
      settings   := s
      units      := us
      coupling
      clustering
      extraction := extract w s.threshold clustering.root }

section Records

open Number

def unitsLiteral (us : List UnitName) : String :=
  Value.literal (.tuple (us.map .text))

def couplingRecord (a : Analysis) : Record :=
  ⟨Level.debug, "coupling_insight.graph.coupling",
    s!"Coupling graph: {a.coupling.units.length} units, {a.coupling.counts.length} coupled pairs, " ++
      s!"{a.coupling.total} inter-unit calls"⟩

def fusionRecord (f : Fusion Float) : Record :=
  ⟨Level.debug, "coupling_insight.clustering.hierarchical",
    "Merged " ++ unitsLiteral f.left ++ " + " ++ unitsLiteral f.right ++ " at similarity " ++
      fixedText 4 f.similarity⟩

def clusteringRecords (a : Analysis) : List Record :=
  if a.clustering.root.isNone then
    [⟨Level.debug, "coupling_insight.clustering.hierarchical", "No units to cluster"⟩]
  else
    a.clustering.history.map fusionRecord

-- A branch was accepted below the threshold.
def acceptanceRecord (a : Analysis) (t : Dendrogram Float) : Record :=
  let average := fixedText 4 (a.clustering.affinity.within t.units)
  let threshold := fixedText 4 a.extraction.threshold
  ⟨Level.debug, "coupling_insight.clustering.modules",
    "Accepting " ++ unitsLiteral t.units ++
      s!" below threshold (avg {average} < {threshold}): module budget reached"⟩

def extractionRecords (a : Analysis) : List Record :=
  let w := a.clustering.affinity
  let e := a.extraction
  match a.clustering.root with
  | none   => []
  | some t =>
    let branches := Extraction.cut w e.threshold e.budget 0 t
    let accepted := branches.filter fun b => !Extraction.stands w e.threshold b
    let repaired : List Record :=
      if e.isRepaired then
        [⟨Level.info, "coupling_insight.clustering.modules",
          s!"Module budget exceeded: merged smallest modules {e.repairs} time(s) to fit " ++
            s!"{e.budget} modules"⟩]
      else []
    accepted.map a.acceptanceRecord ++
      ⟨Level.debug, "coupling_insight.clustering.modules",
        s!"Dendrogram cut produced {branches.length} modules (budget {e.budget})"⟩ :: repaired

def summaryRecord (a : Analysis) : Record :=
  let repaired := if a.extraction.isRepaired then ", repaired" else ""
  ⟨Level.info, "coupling_insight.pipeline",
    s!"Analyzed {a.units.length} units ({a.coupling.total} inter-unit calls): " ++
      s!"{a.extraction.modules.length} modules, budget {a.extraction.budget}{repaired}"⟩

def records (a : Analysis) : List Record :=
  a.couplingRecord :: a.clusteringRecords ++ a.extractionRecords ++ [a.summaryRecord]

end Records
end Analysis
end ModuleDiscovery
