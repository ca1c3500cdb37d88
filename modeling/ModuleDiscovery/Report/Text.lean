import ModuleDiscovery.Analysis
import ModuleDiscovery.Report.Listing

namespace ModuleDiscovery.Analysis

open Number Text

-- The lines of the listing, or a line that says there is none.
def listingLines (a : Analysis) : List String :=
  let ls := splitLines (Dendrogram.listing "  " a.clustering.root).toList
  if ls.isEmpty then ["(no units)"] else ls.map String.ofList

def moduleLine (precision : Value) (n : Nat) (m : Module Float) : Except PlacesFault String := do
  let average ← Places.text precision m.average
  return s!"  Module {n}: " ++ "\x7b" ++ ", ".intercalate m.members ++ "\x7d" ++
    s!"  avg={average}  (pairs={m.pairCount})"

def moduleLines (a : Analysis) : Except PlacesFault (List String) :=
  a.extraction.modules.zipIdx.mapM fun (m, i) => moduleLine a.settings.precision (i + 1) m

-- What is said of modules that had to be joined.
def repairLines (a : Analysis) : List String :=
  if a.extraction.isRepaired then
    ["", s!"Module budget exceeded: {a.extraction.repairs} smallest-module merge(s) applied"]
  else []

def textReport (a : Analysis) : Except Failure String := do
  let modules ← a.moduleLines.mapError .places
  let e := a.extraction
  return "\n".intercalate (
    "Dendrogram (average linkage)" :: a.listingLines ++
    ["", s!"Modules (CP={generalText e.threshold}, max={e.budget})"] ++ modules ++ a.repairLines) ++ "\n"

end ModuleDiscovery.Analysis
