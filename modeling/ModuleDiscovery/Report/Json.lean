import ModuleDiscovery.Analysis
import ModuleDiscovery.Json.Printer
import ModuleDiscovery.Report.Csv
import ModuleDiscovery.Report.Listing

namespace ModuleDiscovery.Analysis

def weightEntry (precision : Value) (p : Pair) (w : Float) : Except PlacesFault Value := do
  return .table [("unit_a", .text p.a), ("unit_b", .text p.b), ("weight", ← Places.round precision w)]

def moduleEntry (precision : Value) (m : Module Float) : Except PlacesFault Value := do
  return .table [
    ("members", .list (m.members.map .text)),
    ("average_coupling", ← Places.round precision m.average)]

-- All that an analysis found, as one value.
def summary (a : Analysis) : Except Failure Value := do
  let precision := a.settings.precision
  let e := a.extraction
  let ranked ← a.coupling.rankedWeights
  let weights ← (ranked.mapM fun (p, w) => weightEntry precision p w).mapError .places
  let dendrogram ←
    match a.clustering.root with
    | none   => pure .null
    | some t => (t.outline (Places.round precision)).mapError .places
  let modules ← (e.modules.mapM (moduleEntry precision)).mapError .places
  return .table [
    ("units", .list (a.units.map .text)),
    ("total_calls", .int a.coupling.total),
    ("weights", .list weights),
    ("dendrogram", dendrogram),
    ("modules", .list modules),
    ("threshold", .real e.threshold),
    ("max_modules", .int e.budget),
    ("repaired", .bool e.isRepaired),
    ("repair_merges", .int e.repairs)]

def jsonReport (a : Analysis) : Except Failure String :=
  a.summary.map ModuleDiscovery.Json.indented

end ModuleDiscovery.Analysis
