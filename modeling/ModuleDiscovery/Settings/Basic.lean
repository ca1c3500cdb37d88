import ModuleDiscovery.Settings.Threshold

namespace ModuleDiscovery

inductive Verbosity
  | quiet
  | normal
  | verbose
deriving DecidableEq, Repr

-- What the checks let through as it is stays a `Value`: the unit that stands for unresolved calls, the separator of
-- keys and the number of decimal places.
structure Settings where
  -- The units to be analysed, in this order; none stands for all units that own a caller.
  allowedUnits : List UnitName
  threshold    : Float
  -- The unit of calls whose target is unknown, which is never analysed.
  unresolved   : Value
  separator    : Value
  -- Decimal places of weights in reports.
  precision    : Value
  verbosity    : Verbosity

namespace Verbosity

def name : Verbosity → String
  | quiet   => "quiet"
  | normal  => "normal"
  | verbose => "verbose"

def ofValue? : Value → Option Verbosity
  | .text s => [quiet, normal, verbose].find? (·.name = s)
  | _       => none

end Verbosity

namespace Settings

-- Names of the settings, each with the value it has where none is given.
def defaults : List (String × Value) := [
  ("allowed_units", .tuple []),
  (Refusal.thresholdKey, .real 0.3),
  ("unresolved_unit", .text "<external>"),
  ("key_separator", .text "."),
  ("weight_precision", .int 4),
  ("verbosity", .text "normal")]

def field (es : List (String × Value)) (name : String) : Value :=
  ((Value.entry? name es).or (Value.entry? name defaults)).getD .null

def refuse {α} (key : String) (v : Value) (reason : String) : Except Failure α :=
  Failure.ofRefusal (Refusal.ofSetting key v reason)

-- Accepts names of settings only. The fault is the first name that is none.
def checkNames (es : List (String × Value)) : Except Failure Unit :=
  match (es.map (·.1)).find? fun k => (Value.entry? k defaults).isNone with
  | none   => .ok ()
  | some k => .error (.settings (if k = "self" then .reserved k else .unknown k))

def elements (v : Value) : Except Failure (List Value) :=
  match v with
  | .list vs | .tuple vs => .ok vs
  | .table es            => .ok (es.map fun e => .text e.1)
  | .map es              => .ok (es.map (·.1))
  | .text _              => refuse "allowed_units" v "must be a list of unit names"
  | _                    => .error (.settings (.notIterable v.kind))

-- The names of units among values, all of which have to be such names.
def unitNames : List Value → Except Failure (List UnitName)
  | []      => .ok []
  | v :: vs =>
    match v with
    | .text s =>
      if s = "" then refuse "allowed_units" v "unit names must be non-empty strings"
      else (unitNames vs).map (s :: ·)
    | _ => refuse "allowed_units" v "unit names must be non-empty strings"

-- How many pairs of values inside one another can be compared; about as much room as for writing.
def maxCompareDepth : Nat := Value.maxDepth + 3

-- Looks for a key among others. It is compared with those of its hash, until it is found.
def isAmong (v : Value) : List Value → Except Failure Bool
  | []      => .ok false
  | w :: ws =>
    if !Value.sameHash w v then isAmong v ws
    else if maxCompareDepth < Value.compareDepth w v then .error (.tooDeep Failure.comparing)
    else if Value.sameKey w v then .ok true
    else isAmong v ws

-- Accepts lists of keys, each of which is looked for among the ones in front of it.
def checkKeys (seen : List Value) : List Value → Except Failure Unit
  | []      => .ok ()
  | v :: vs => do
    v.checkKey.mapError fun f => .settings (.notKeyable f)
    let found ← isAmong v seen
    checkKeys (if found then seen else seen ++ [v]) vs

-- The units that a value lists, each once and in order.
def units (v : Value) : Except Failure (List UnitName) := do
  let vs ← elements v
  checkKeys [] vs
  return (← unitNames vs).eraseDups

-- Whether a value is the name of one of the units.
def namesOne (us : List UnitName) : Value → Bool
  | .text s => us.contains s
  | _       => false

-- Whether a number of places is below zero.
def isBelowZero : Value → Except Failure Bool
  | .int n  => .ok (n < 0)
  | .bool _ => .ok false
  | .real x => .ok (x < 0.0)
  | v       => .error (.settings (.notComparable v.kind))

-- The settings that named values give. Each setting that is missing has its default.
def ofFields (es : List (String × Value)) : Except Failure Settings := do
  checkNames es
  let threshold ← Threshold.ofValue (field es Refusal.thresholdKey)
  let us ← units (field es "allowed_units")
  let unresolved := field es "unresolved_unit"
  if namesOne us unresolved then
    refuse "allowed_units" unresolved "the unresolved sentinel cannot be analyzed"
  let separator := field es "key_separator"
  if !separator.isSet then refuse "key_separator" separator "must not be empty"
  let precision := field es "weight_precision"
  if ← isBelowZero precision then refuse "weight_precision" precision "must be non-negative"
  match Verbosity.ofValue? (field es "verbosity") with
  | none => refuse "verbosity" (field es "verbosity") "expected quiet, normal or verbose"
  | some verbosity =>
    return { allowedUnits := us, threshold, unresolved, separator, precision, verbosity }

def standard : Settings where
  allowedUnits := []
  threshold    := 0.3
  unresolved   := .text "<external>"
  separator    := .text "."
  precision    := .int 4
  verbosity    := .normal

-- How the places of weights are asked for.
def weightFormat (s : Settings) : Except Number.NumeralFault String :=
  (s.precision.checkWritten Value.maxDepth).map fun _ => "." ++ s.precision.shown ++ "f"

end Settings
end ModuleDiscovery
