import Mathlib.Data.List.TakeWhile
import ModuleDiscovery.Json.Reader
import ModuleDiscovery.Proofs.Results

namespace ModuleDiscovery.Json

namespace Reader

variable {s s' : State} {t : Token} {ts : List Token} {v : Value} {f : Frame} {w : Wanted} {e : ReadFault}
  {shape : Token.Shape}

section Steps

end Steps

section Depth

-- Whether a token opens a list or a table.
def opens (t : Token) : Bool :=
  match t.shape with
  | .openList | .openTable => true
  | _                      => false

end Depth

end Reader

namespace Token

open Number Reader

variable {c : Char} {cs : List Char} {pos skip n : Nat} {t : Token}

section Digits

end Digits

end Token

open Number Reader

variable {text : String} {e : ReadFault}

section Reached

variable {n : Nat} {ds : List Char}

end Reached

end ModuleDiscovery.Json
