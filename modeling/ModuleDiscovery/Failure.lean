import ModuleDiscovery.Clustering.Affinity
import ModuleDiscovery.Console.Markup
import ModuleDiscovery.Files.Tree
import ModuleDiscovery.Refusal
import ModuleDiscovery.Report.Places

namespace ModuleDiscovery

-- Why values make no settings, other than by a refusal.
inductive SettingsFault
  -- A setting that does not exist.
  | unknown       (name : String)
  -- A name that is taken by what the settings are made into.
  | reserved      (name : String)
  | notComparable (kind : String)
  | notIterable   (kind : String)
  | notKeyable    (f : Value.KeyFault)
  -- The file of settings is named twice.
  | fileTwice
deriving DecidableEq, Repr

namespace SettingsFault

def message : SettingsFault → String
  | unknown n       => s!"ClusteringConfig.__init__() got an unexpected keyword argument '{n}'"
  | reserved n      => s!"ClusteringConfig.__init__() got multiple values for argument '{n}'"
  | notComparable k => s!"'<' not supported between instances of '{k}' and 'int'"
  | notIterable k   => s!"'{k}' object is not iterable"
  | notKeyable f    => f.message
  | fileTwice       => "load_config() got multiple values for argument 'config_file'"

end SettingsFault

-- All that can keep an operation from giving a result. A refusal is meant for the user. The other failures are faults
-- of values that nothing has checked before they are used, and of the surroundings.
inductive Failure
  | refused   (r : Refusal)
  | separator (f : SeparatorFault)
  | settings  (f : SettingsFault)
  | key       (f : Value.KeyFault)
  | numeral   (f : Number.NumeralFault)
  | places    (f : PlacesFault)
  | weight    (f : Coupling.WeightFault)
  | position  (f : Affinity.PositionFault)
  | unpack    (f : CallGraph.UnpackFault)
  | notADocument (reason : String)
  | notUtf8   (f : Text.Utf8Fault)
  | notStorable (f : Text.EncodeFault)
  | markup    (f : Console.MarkupFault)
  | file      (f : Files.Fault)
  -- An integer that no double can hold.
  | intTooLarge
  -- Fewer than two modules cannot be joined.
  | nothingToJoin
  | nothingToOutline
  | unknownReport (name : String) (known : List String)
  -- A document or a value is nested too deep; what was being done then.
  | tooDeep (activity : String)

namespace Failure

-- What was being done when a value turned out to be nested too deep: it was written, or compared.
def writing : String := " while getting the repr of an object"

def comparing : String := " in comparison"

-- Fails with a refusal, or with what keeps it from being told.
def ofRefusal {α} (r : Except Number.NumeralFault Refusal) : Except Failure α :=
  match r with
  | .ok r           => .error (.refused r)
  | .error .tooDeep => .error (.tooDeep writing)
  | .error f        => .error (.numeral f)

def message : Failure → String
  | refused r         => r.text
  | separator f       => f.message
  | settings f        => f.message
  | key f             => f.message
  | numeral f         => f.message
  | places f          => f.message
  | weight f          => f.message
  | position f        => f.message
  | unpack f          => f.message
  | notADocument r    => r
  | notUtf8 f         => f.message
  | notStorable f     => f.message
  | markup f          => f.message
  | file f            => f.message
  | intTooLarge       => "int too large to convert to float"
  | nothingToJoin     => "min() arg is an empty sequence"
  | nothingToOutline  => "'NoneType' object has no attribute 'is_leaf'"
  | unknownReport n l =>
    "Unknown formatter: " ++ Text.quoted n ++ ". Choose from: " ++ ", ".intercalate l
  | tooDeep activity  => "maximum recursion depth exceeded" ++ activity

end Failure
end ModuleDiscovery
