import ModuleDiscovery.Clustering.Dendrogram
import ModuleDiscovery.Failure
import ModuleDiscovery.Number.Layout

namespace ModuleDiscovery.Dendrogram

open Number

-- The line of a leaf without its indentation.
def leafLine (u : UnitName) : String :=
  "- " ++ u

-- The line of a fusion without its indentation.
def fusionLine (t : Dendrogram Float) : String :=
  "[merge sim=" ++ fixedText 3 t.similarity ++ "] \x7b" ++ ", ".intercalate t.members ++ "\x7d"

-- The subtrees of a fusion come in front of its own line, one step further in.
def listingLines (indent : String) (depth : Nat) : Dendrogram Float → List String
  | leaf u       => [String.join (List.replicate depth indent) ++ leafLine u]
  | fusion l r s =>
    listingLines indent (depth + 1) l ++ listingLines indent (depth + 1) r ++
      [String.join (List.replicate depth indent) ++ fusionLine (fusion l r s)]

-- The listing of a dendrogram, with every line ended; nothing where there is none.
def listing (indent : String) : Option (Dendrogram Float) → String
  | none   => ""
  | some t => "\n".intercalate (listingLines indent 0 t) ++ "\n"

-- The outline of a dendrogram, given how similarities are rounded.
def outline {α} (round : α → Except PlacesFault Value) : Dendrogram α → Except PlacesFault Value
  | leaf u       => .ok (.table [("unit", .text u)])
  | fusion l r s => do
    let similarity ← round s
    let left ← outline round l
    let right ← outline round r
    return .table [
      ("similarity", similarity),
      ("members", .list ((fusion l r s).members.map .text)),
      ("children", .list [left, right])]

-- The outline of a dendrogram, which has to be there.
def outlineOf {α} (round : α → Except PlacesFault Value) :
    Option (Dendrogram α) → Except Failure Value
  | none   => .error .nothingToOutline
  | some t => (t.outline round).mapError .places

end ModuleDiscovery.Dendrogram
