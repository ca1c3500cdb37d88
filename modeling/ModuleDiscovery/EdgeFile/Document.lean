import ModuleDiscovery.Graph.CallGraph

namespace ModuleDiscovery.EdgeFile

inductive DocumentFault
  -- What stands beside a caller is no list of texts.
  | calleesNotTexts (caller : MethodKey)
  | notAPair (item : Value)
  | notADocument

namespace DocumentFault

def message : DocumentFault → String
  | calleesNotTexts k => s!"callees of {Text.quoted k} must be a list of strings"
  | notAPair v        => s!"expected [caller, callee] pair, got {v.literal}"
  | notADocument      => "expected an object or a list of pairs"

end DocumentFault

def callsOfTable : List (String × Value) → Except DocumentFault (List Call)
  | []           => .ok []
  | (k, v) :: es =>
    match v.texts? with
    | none    => .error (.calleesNotTexts k)
    | some ks => (callsOfTable es).map (ks.map (Call.mk k) ++ ·)

def callsOfList : List Value → Except DocumentFault (List Call)
  | []      => .ok []
  | v :: vs =>
    match v.texts? with
    | some [caller, callee] => (callsOfList vs).map (⟨caller, callee⟩ :: ·)
    | _                     => .error (.notAPair v)

-- The calls that a document states, in order and with repetitions. A document is either a table from callers to lists
-- of callees or a list of pairs of a caller and a callee. Anything else states nothing, whatever good parts it has.
def calls : Value → Except DocumentFault (List Call)
  | .table es => callsOfTable es
  | .list vs  => callsOfList vs
  | _         => .error .notADocument

-- Calls by caller and callee, each once.
def sorted (cs : List Call) : List Call :=
  cs.eraseDups.mergeSort Call.le

end ModuleDiscovery.EdgeFile
