import ModuleDiscovery.Proofs.Settings.Outcome
import ModuleDiscovery.Proofs.Toml.Dotted

namespace ModuleDiscovery.Settings

open Number

variable {v : Value} {es : List (String × Value)} {around : Surroundings} {file : Option String}
  {overrides : List (String × Value)} {content : Text.Bytes}

end ModuleDiscovery.Settings
