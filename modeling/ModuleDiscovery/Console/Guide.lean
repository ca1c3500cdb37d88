import ModuleDiscovery.Console.Markup
import ModuleDiscovery.Console.Wrap

namespace ModuleDiscovery.Console

-- A label, as markup, with the branches below it.
inductive Branch
  | mk (label : String) (below : List Branch)

namespace Branch

-- The lines of a label in a number of columns. Where there is no room for any it is not even read.
def labelLines (columnCount : Nat) (label : String) : Except MarkupFault (List (List Char)) :=
  if columnCount = 0 then .ok []
  else (Markup.shown label.toList).map (layOut .floating .fold columnCount)

-- `first` stands in front of the first line of the label, `next` in front of its other lines and of all
-- that is below.
mutual

def lines (columnCount : Nat) (first next : List Char) : Branch → Except MarkupFault (List (List Char))
  | mk label below => do
    let ls ← labelLines (columnCount - next.length) label
    let heads := first :: List.replicate (ls.length - 1) next
    let rest ← linesBelow columnCount next below
    return (heads.zip ls).map (fun (h, l) => h ++ l) ++ rest

def linesBelow (columnCount : Nat) (next : List Char) :
    List Branch → Except MarkupFault (List (List Char))
  | []      => .ok []
  | [b]     => lines columnCount (next ++ "└── ".toList) (next ++ "    ".toList) b
  | b :: bs => do
    let ls ← lines columnCount (next ++ "├── ".toList) (next ++ "│   ".toList) b
    let rest ← linesBelow columnCount next bs
    return ls ++ rest

end

end Branch
end ModuleDiscovery.Console
