import ModuleDiscovery.Proofs.Results
import ModuleDiscovery.Toml.Document

namespace ModuleDiscovery.Toml

open Number Cursor

variable {ch d : Char} {cs ds : List Char} {n pos room fuel : Nat} {f : ReadFault}

section Brackets

end Brackets

section Digits

end Digits

end ModuleDiscovery.Toml
