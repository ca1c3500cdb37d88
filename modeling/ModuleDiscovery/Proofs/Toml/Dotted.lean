import ModuleDiscovery.Proofs.Settings.Nesting
import ModuleDiscovery.Proofs.Toml.Excess

namespace ModuleDiscovery.Toml

open Number Cursor

variable {k cs rest : List Char} {n pos fuel : Nat}

section Names

end Names

section Tables

variable {lists : Bool} {change : Table → Option Table} {t : Table} {p : Path} {v : Value}

end Tables

section Entry

variable {c : Char} {d : Draft}

end Entry

end ModuleDiscovery.Toml
