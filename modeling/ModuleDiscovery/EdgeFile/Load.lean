import ModuleDiscovery.EdgeFile.Document
import ModuleDiscovery.Failure
import ModuleDiscovery.Files.Path
import ModuleDiscovery.Journal
import ModuleDiscovery.Json.Reader

namespace ModuleDiscovery

namespace EdgeFile

open Text

def documentOf (text : String) : Except Failure Value :=
  match Json.read text with
  | .error (.malformed f)     => .error (.notADocument (f.message text))
  | .error (.longInt n)       => .error (.numeral (.tooManyDigits n))
  | .error (.tooDeep inTable) =>
    let what := if inTable then "object" else "array"
    .error (.tooDeep (" while decoding a JSON " ++ what ++ " from a unicode string"))
  | .ok v => .ok v

-- The calls that a document states, by caller and callee. `path` is where it comes from.
def callsOf (path : String) (v : Value) : Except Failure (List Call) :=
  match calls v with
  | .ok cs   => .ok (sorted cs)
  | .error f => .error (.refused (.edgeFormat path f.message))

-- The calls that the text of a file states. A text that is no document is refused.
def callsOfText (path text : String) : Except Failure (List Call) :=
  match documentOf text with
  | .error (.notADocument reason) => .error (.refused (.edgeFormat path ("invalid JSON: " ++ reason)))
  | .error f                      => .error f
  | .ok v                         => callsOf path v

-- The calls that the file behind a path states.
def load (files : Files.Tree) (start : Files.Location) (path : String) :
    Except Failure (List Call) :=
  let path := Files.pathText path
  match files.read start path with
  | .error f =>
    if f.kind = .nullCharacter then .error (.file f)
    else .error (.refused (.edgeFile path f.kind.reason))
  | .ok content =>
    match decodeUtf8 content with
    | .error f => .error (.notUtf8 f)
    | .ok s    => callsOfText path (String.ofList (unifyLineEnds s.toList))

def record (path : String) (cs : List Call) : Record :=
  ⟨Level.debug, "coupling_insight.edges",
    s!"Loaded {cs.length} call edges from {Files.pathText path}"⟩

end EdgeFile

namespace CallGraph

-- What is noted when calls have been merged: how many were new.
def mergeRecord (g : CallGraph) (added : Nat) : Record :=
  ⟨Level.debug, "coupling_insight.graph.call_graph",
    s!"Merged {added} new call edges ({g.callCount} total)"⟩

-- A call graph with the calls of files merged one after the other, and what is noted on the way.
def load (files : Files.Tree) (start : Files.Location) (paths : List String) :
    Except Failure (CallGraph × List Record) :=
  paths.foldlM (fun (g, rs) path => do
    let cs ← EdgeFile.load files start path
    let (g, added) := g.merge cs
    return (g, rs ++ [EdgeFile.record path cs, g.mergeRecord added])) (empty, [])

end CallGraph
end ModuleDiscovery
