import ModuleDiscovery.Failure

namespace ModuleDiscovery.Threshold

open Number

def refuse {α} (v : Value) (reason : String) : Except Failure α :=
  Failure.ofRefusal (Refusal.ofThreshold v reason)

-- A real number as a threshold. `v` is the value it was given as. Thresholds above one are legal. No module reaches
-- them, so that the budget alone decides.
def check (v : Value) (x : Float) : Except Failure Float :=
  match Binary.ofFloat x with
  | .nan | .infinite _ => refuse v "must be finite"
  | .finite _ _ _      => if x < 0.0 then refuse v "must be non-negative" else .ok x

def ofValue (v : Value) : Except Failure Float :=
  match v with
  | .real x => check v x
  | .int n  =>
    match floatOfInt n with
    | some x => check v x
    | none   => .error .intTooLarge
  | _ => refuse v "must be a real number"

def ofText (s : String) : Except Failure Float :=
  match readReal s with
  | .ok x    => ofValue (.real x)
  | .error _ => refuse (.text s) "must be a real number"

end ModuleDiscovery.Threshold
