import ModuleDiscovery.Graph.Pair

namespace ModuleDiscovery

-- What the program refuses, and why. Every refusal has a message and details.
inductive Refusal
  | general       (message : String) (details : List (String × String))
  | analysis      (message : String) (details : List (String × String))
  | pair          (fault : PairFault)
  -- A file of calls that cannot be read.
  | edgeFile      (path reason : String)
  -- A file that states no calls.
  | edgeFormat    (path reason : String)
  | configuration (message : String) (details : List (String × String))
  | setting       (key : String) (value : Value) (reason : String)
  | threshold     (value : Value) (reason : String)

namespace Refusal

-- The refusal of a value of a setting, which its message has to show. To refuse a threshold takes two
-- calls more than to refuse another setting.
def ofSetting (key : String) (v : Value) (reason : String) : Except Number.NumeralFault Refusal :=
  (v.checkWritten (Value.maxDepth + 2)).map fun _ => .setting key v reason

def ofThreshold (v : Value) (reason : String) : Except Number.NumeralFault Refusal :=
  (v.checkWritten Value.maxDepth).map fun _ => .threshold v reason

-- Kinds of refusals, from particular ones to the kind of all.
inductive Kind
  | pair
  | edgeFile
  | edgeFormat
  | analysis
  | threshold
  | setting
  | configuration
  | any
deriving DecidableEq, Repr

def kind : Refusal → Kind
  | general _ _       => .any
  | analysis _ _      => .analysis
  | pair _            => .pair
  | edgeFile _ _      => .edgeFile
  | edgeFormat _ _    => .edgeFormat
  | configuration _ _ => .configuration
  | setting _ _ _     => .setting
  | threshold _ _     => .threshold

-- The kinds that a kind belongs to, itself first.
def Kind.lineage : Kind → List Kind
  | pair          => [pair, analysis, any]
  | edgeFile      => [edgeFile, analysis, any]
  | edgeFormat    => [edgeFormat, analysis, any]
  | analysis      => [analysis, any]
  | threshold     => [threshold, setting, configuration, any]
  | setting       => [setting, configuration, any]
  | configuration => [configuration, any]
  | any           => [any]

def thresholdKey : String := "coupling_threshold"

def message : Refusal → String
  | general m _       => m
  | analysis m _      => m
  | pair f            => f.message
  | edgeFile p _      => "Cannot read edge file: " ++ p
  | edgeFormat p _    => "Malformed edge file: " ++ p
  | configuration m _ => m
  | setting k v _     => "Invalid configuration for " ++ k ++ ": " ++ v.literal
  | threshold v _     => "Invalid configuration for " ++ thresholdKey ++ ": " ++ v.literal

def details : Refusal → List (String × String)
  | general _ ds | analysis _ ds | configuration _ ds => ds
  | pair f                        => [("unit", f.unit)]
  | edgeFile p r | edgeFormat p r => [("filepath", p), ("reason", r)]
  | setting k v r                 => [("key", k), ("value", v.shown), ("reason", r)]
  | threshold v r                 => [("key", thresholdKey), ("value", v.shown), ("reason", r)]

def text (r : Refusal) : String :=
  if r.details.isEmpty then
    r.message
  else
    r.message ++ " (" ++ ", ".intercalate (r.details.map fun (k, v) => k ++ "=" ++ v) ++ ")"

end Refusal
end ModuleDiscovery
