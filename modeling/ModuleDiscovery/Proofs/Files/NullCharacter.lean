import ModuleDiscovery.Files.Path
import ModuleDiscovery.Files.Tree
import ModuleDiscovery.Proofs.Results

namespace ModuleDiscovery

namespace Text

variable {c sep : Char} {cs : List Char} {ps : List (List Char)}

end Text

namespace Files

open Text

variable {c : Char} {path : String}

namespace Tree

variable {t : Tree} {start l : Location} {name : String} {k : Fault.Kind}

end Tree
end Files
end ModuleDiscovery
