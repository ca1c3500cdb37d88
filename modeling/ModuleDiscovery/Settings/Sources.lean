import ModuleDiscovery.Files.Path
import ModuleDiscovery.Settings.Environment
import ModuleDiscovery.Toml.Document

namespace ModuleDiscovery

-- A directory with the path it is shown by.
structure Directory where
  location : Files.Location
  path     : String

-- What a run can see around it.
structure Surroundings where
  files       : Files.Tree
  working     : Directory
  home        : Directory
  environment : List (String × String)

namespace Settings

open Files

def fileName : String := "coupling-insight.toml"

def refuseFile {α} (path reason : String) : Except Failure α :=
  .error (.refused (.configuration ("Invalid config file '" ++ path ++ "': " ++ reason) []))

-- The settings that a document states, at its top or in a table of their own.
def tableOf (path : String) (content : Text.Bytes) : Except Failure Toml.Table :=
  match Text.decodeUtf8 content with
  | .error f => .error (.notUtf8 f)
  | .ok s    =>
    match Toml.read s with
    | .error (.malformed f) => refuseFile path (f.message (Toml.source s))
    | .error (.longInt n)   => .error (.numeral (.tooManyDigits n))
    | .error .tooDeep       => .error (.tooDeep "")
    | .ok t                 =>
      match Value.entry? "coupling_insight" t with
      | none            => .ok t
      | some (.table t) => .ok t
      | some _          => refuseFile path "[coupling_insight] must be a table"

def ofNode (path : String) : Node → Except Failure Toml.Table
  | .directory    => refuseFile path (Fault.message ⟨.isADirectory, path⟩)
  | .file content => tableOf path content

-- The settings of a file in a directory, none if there is no such file.
def ofDirectory (files : Tree) (d : Directory) (name : String) : Except Failure Toml.Table :=
  match files.look d.location name with
  | .ok n    => ofNode (d.path ++ "/" ++ name) n
  | .error _ => .ok []

def ofFile (s : Surroundings) (path : String) : Except Failure Toml.Table :=
  let path := pathText path
  match s.files.look s.working.location path with
  | .ok n    => ofNode path n
  | .error f =>
    if f.kind = .nameTooLong then .error (.file f)
    else .error (.refused (.configuration ("Config file not found: " ++ path) []))

-- What is given directly, without what is null. To be verbose or quiet is a verbosity.
def ofOverrides (es : List (String × Value)) : List (String × Value) :=
  let isOn (k : String) : Bool := (Value.entry? k es).any Value.isSet
  let others := es.filter fun e => e.1 ≠ "verbose" ∧ e.1 ≠ "quiet"
  let others := if isOn "verbose" then Value.setEntry "verbosity" (.text "verbose") others else others
  let others := if isOn "quiet" then Value.setEntry "verbosity" (.text "quiet") others else others
  others.filter fun e => match e.2 with | .null => false | _ => true

-- The entries of one table, overridden by those of another.
def override (t u : List (String × Value)) : List (String × Value) :=
  u.foldl (fun t (k, v) => Value.setEntry k v t) t

-- A later source overrides an earlier one, setting by setting: the file in the home directory, the file in the
-- working directory, a file that was asked for, the environment, and what is given directly. A value that is of no
-- use anywhere is a refusal of the whole. What is given directly may not name the file.
def load (s : Surroundings) (file : Option String) (overrides : List (String × Value)) :
    Except Failure Settings := do
  if (Value.entry? "config_file" overrides).isSome then throw (.settings .fileTwice)
  let home ← ofDirectory s.files s.home ("." ++ fileName)
  let working ← ofDirectory s.files s.working fileName
  let asked ← match file with | some path => ofFile s path | none => pure []
  let stated ← Environment.fields s.environment
  let all := [home, working, asked, stated, ofOverrides overrides].foldl override []
  match ofFields all with
  | .error (.settings f) =>
    .error (.refused (.configuration ("Invalid configuration: " ++ f.message) []))
  | r => r

end Settings
end ModuleDiscovery
