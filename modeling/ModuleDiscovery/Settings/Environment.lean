import ModuleDiscovery.Settings.Basic
import ModuleDiscovery.Text.Split

namespace ModuleDiscovery.Environment

open Text

-- What the text of a variable stands for.
inductive Reading
  | names
  | int
  | real
  | text
deriving DecidableEq, Repr

-- Names separated by commas.
def names (s : String) : List String :=
  let parts := (splitAtChar ',' s.toList).map (stripEnds isBlank)
  (parts.filter (!·.isEmpty)).map String.ofList

def Reading.read (s : String) : Reading → Except Number.NumeralFault Value
  | names => .ok (.tuple ((Environment.names s).map .text))
  | int   => (Number.readInt s).map .int
  | real  => (Number.readReal s).map .real
  | text  => .ok (.text s)

def variableOf (name : String) : String :=
  "COUPLING_INSIGHT_" ++ name.toUpper

-- How the variable of a setting is read; thresholds have their own reading.
def readingOf (name : String) : Reading :=
  if name = "allowed_units" then .names
  else if name = "weight_precision" then .int
  else .text

-- The value of a setting, given the text of its variable.
def value (name s : String) : Except Failure Value :=
  if name = Refusal.thresholdKey then
    (Threshold.ofText s).map .real
  else
    match (readingOf name).read s with
    | .ok v    => .ok v
    | .error f =>
      .error (.refused (.configuration ("Invalid " ++ variableOf name ++ ": " ++ f.message) []))

-- The settings that variables give, in the order of the settings. A variable that is set several times
-- has its last text.
def fields (environment : List (String × String)) : Except Failure (List (String × Value)) := do
  let fs ← Settings.defaults.mapM fun (name, _) =>
    match environment.reverse.lookup (variableOf name) with
    | none   => .ok none
    | some s => (value name s).map fun v => some (name, v)
  return fs.filterMap id

end ModuleDiscovery.Environment
