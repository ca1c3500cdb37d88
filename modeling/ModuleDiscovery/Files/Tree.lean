import ModuleDiscovery.Text.Bytes
import ModuleDiscovery.Text.Split

namespace ModuleDiscovery.Files

open Text

-- The names that lead to a file or directory from the top.
abbrev Location := List String

inductive Node
  | directory
  | file (content : Bytes)

-- Files and directories by location. The top is a directory.
structure Tree where
  nodes : List (Location × Node)

inductive Fault.Kind
  | notFound
  | notADirectory
  | isADirectory
  | nameTooLong
  -- The path holds a null character, which no path may.
  | nullCharacter
deriving DecidableEq, Repr

structure Fault where
  kind : Fault.Kind
  path : String
deriving DecidableEq, Repr

namespace Fault

def Kind.reason : Kind → String
  | notFound      => "No such file or directory"
  | notADirectory => "Not a directory"
  | isADirectory  => "Is a directory"
  | nameTooLong   => "File name too long"
  | nullCharacter => "embedded null byte"

-- The number under which a system knows the fault.
def Kind.number : Kind → Nat
  | notFound      => 2
  | notADirectory => 20
  | isADirectory  => 21
  | nameTooLong   => 36
  | nullCharacter => 22

-- A null character is found before the system is asked.
def message (f : Fault) : String :=
  match f.kind with
  | .nullCharacter => f.kind.reason
  | k              => s!"[Errno {k.number}] {k.reason}: {quoted f.path}"

end Fault

-- Longest name in a path, and shortest path that is too long, in bytes.
def maxNameLength : Nat := 255
def pathLimit : Nat := 4096

namespace Tree

def empty : Tree := ⟨[]⟩

variable (t : Tree)

def node? (l : Location) : Option Node :=
  if l.isEmpty then some .directory else t.nodes.lookup l

-- Puts a file or directory at a location, and the directories that lead there where they are missing.
def put (l : Location) (n : Node) : Tree :=
  let parents := ((List.range l.length).map l.take).filter fun p => (t.node? p).isNone
  ⟨(l, n) :: parents.map (·, .directory) ++ t.nodes.filter (·.1 ≠ l)⟩

-- One step of a path from a location. A single dot, and nothing between two slashes, stay where they are.
def step (l : Location) (name : String) : Except Fault.Kind Location :=
  match t.node? l with
  | none           => .error .notFound
  | some (.file _) => .error .notADirectory
  | some .directory =>
    if name = "" ∨ name = "." then .ok l
    else if name = ".." then .ok l.dropLast
    else if maxNameLength < (encodeUtf8 name).length then .error .nameTooLong
    else .ok (l ++ [name])

-- Where a path leads from a directory, whether or not anything is there.
def locate (start : Location) (path : String) : Except Fault.Kind Location :=
  let cs := path.toList
  if cs.contains '\x00' then .error .nullCharacter
  else if cs.isEmpty then .error .notFound
  else if pathLimit ≤ (encodeUtf8 path).length then .error .nameTooLong
  else
    let names := (splitAtChar '/' cs).map String.ofList
    names.foldlM t.step (if cs.head? = some '/' then [] else start)

def look (start : Location) (path : String) : Except Fault Node :=
  match t.locate start path with
  | .error k => .error ⟨k, path⟩
  | .ok l    =>
    match t.node? l with
    | some n => .ok n
    | none   => .error ⟨.notFound, path⟩

def read (start : Location) (path : String) : Except Fault Bytes := do
  match ← t.look start path with
  | .file content => return content
  | .directory    => throw ⟨.isADirectory, path⟩

-- Where a file may be written by a path: in a directory that exists, and not over a directory.
def writable (start : Location) (path : String) : Except Fault Location :=
  match t.locate start path with
  | .error k => .error ⟨k, path⟩
  | .ok l    =>
    match t.node? l, t.node? l.dropLast with
    | some .directory, _    => .error ⟨.isADirectory, path⟩
    | _, some .directory    => .ok l
    | _, some (.file _)     => .error ⟨.notADirectory, path⟩
    | _, none               => .error ⟨.notFound, path⟩

end Tree
end ModuleDiscovery.Files
