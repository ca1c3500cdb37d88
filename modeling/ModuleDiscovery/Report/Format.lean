import ModuleDiscovery.Report.Display
import ModuleDiscovery.Report.Dot
import ModuleDiscovery.Report.Json
import ModuleDiscovery.Report.Text

namespace ModuleDiscovery

inductive Format
  | display
  | json
  | csv
  | dot
  | text
deriving DecidableEq, Repr

namespace Format

def all : List Format := [display, json, csv, dot, text]

def name : Format → String
  | display => "rich"
  | json    => "json"
  | csv     => "csv"
  | dot     => "dot"
  | text    => "text"

def ofName? (s : String) : Option Format :=
  all.find? (·.name = s)

def ofName (s : String) : Except Failure Format :=
  match ofName? s with
  | some f => .ok f
  | none   => .error (.unknownReport s ((all.map name).mergeSort fun s t => s ≤ t))

-- Columns of a report that is kept as a text.
def textColumns : Nat := 100

def report (a : Analysis) : Format → Except Failure String
  | display => a.display textColumns
  | json    => a.jsonReport
  | csv     => a.coupling.csv a.settings.precision
  | dot     => a.coupling.dot a.settings.precision "CouplingWeights"
  | text    => a.textReport

-- The report of an analysis as it is printed, in a number of columns where it is for a terminal.
def printed (columnCount : Nat) (a : Analysis) : Format → Except Failure String
  | display => a.display columnCount
  | json    => a.jsonReport.map (· ++ "\n")
  | f       => report a f

end Format
end ModuleDiscovery
