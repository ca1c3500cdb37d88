import ModuleDiscovery.CommandLine.Arguments
import ModuleDiscovery.Settings.Sources

namespace ModuleDiscovery.CommandLine

open Files

-- What the commands on call graphs have in common.
structure Request where
  files    : List String
  units    : List String
  output   : Option String
  config   : Option String
  verbose  : Bool
  -- The switches that are given, in the order in which they first come.
  switches : List Switch

inductive Command
  | analyze (request : Request) (format : String) (threshold : Option String) (quiet : Bool)
  | callGraph (request : Request) (includeExternal : Bool)
  | version
  | help

namespace Command

def commonSpellings : Spellings := [
  ("--unit", .unit), ("-u", .unit), ("--output", .output), ("-o", .output), ("--config", .config),
  ("-c", .config), ("--verbose", .verbose), ("-v", .verbose), ("--help", .help)]

def analyzeSpellings : Spellings :=
  commonSpellings ++ [
    ("--threshold", .threshold), ("-t", .threshold), ("--format", .format), ("-f", .format),
    ("--quiet", .quiet), ("-q", .quiet)]

def callGraphSpellings : Spellings :=
  commonSpellings ++ [("--include-external", .includeExternal)]

def request (a : Arguments) : Request where
  files    := a.rest
  units    := a.values .unit
  output   := a.value? .output
  config   := a.value? .config
  verbose  := a.has .verbose
  switches := (a.switches.map (·.1)).eraseDups

-- A command on files, unless only help is wanted.
def onFiles (sp : Spellings) (args : List String) (command : Arguments → Command) :
    Except UsageFault Command := do
  let a ← Arguments.sortOut sp none args
  return if a.has .help then .help else command a

def named (name : String) (args : List String) : Except UsageFault Command :=
  if name = "analyze" then
    onFiles analyzeSpellings args fun a =>
      .analyze (request a) ((a.value? .format).getD "rich") (a.value? .threshold) (a.has .quiet)
  else if name = "callgraph" then
    onFiles callGraphSpellings args fun a => .callGraph (request a) (a.has .includeExternal)
  else if name = "version" then do
    let a ← Arguments.sortOut [("--help", .help)] none args
    match a.has .help, a.rest with
    | true, _       => return .help
    | false, []     => return .version
    | false, r :: _ => throw (.unwantedArgument r)
  else
    .error (.unknownCommand name)

-- The command that arguments state. Without any they ask for help.
def ofArguments : List String → Except UsageFault Command
  | []                   => .ok .help
  | ["--"]               => .error .missingCommand
  | "--" :: name :: args => named name args
  | name :: args         =>
    if name = "--help" then .ok .help
    else if name.toList.head? = some '-' ∧ name ≠ "-" then .error (.unknownSwitch name)
    else named name args

end Command

namespace Request

-- Why a path cannot be used at all, or is no use of a command.
abbrev PathFault := Files.Fault ⊕ UsageFault

-- Checks that there is a file behind a path.
def checkFile (s : Surroundings) (path : String) : Except PathFault Unit :=
  match s.files.look s.working.location path with
  | .ok (.file _)   => .ok ()
  | .ok .directory  => .error (.inr (.isADirectory path))
  | .error f        =>
    if f.kind = .nullCharacter then .error (.inl f) else .error (.inr (.noSuchFile path))

-- Checks that a path of an output is not that of a directory.
def checkOutput (s : Surroundings) (path : String) : Except PathFault Unit :=
  match s.files.look s.working.location path with
  | .ok (.file _)   => .ok ()
  | .ok .directory  => .error (.inr (.isADirectory path))
  | .error f        => if f.kind = .nullCharacter then .error (.inl f) else .ok ()

-- Checks the path that a switch gives.
def checkSwitch (s : Surroundings) (r : Request) : Switch → Except PathFault Unit
  | .output => r.output.forM (checkOutput s)
  | .config => r.config.forM (checkFile s)
  | _       => .ok ()

-- Checks all paths of a request: those of the switches in the order of the switches, and then the
-- files, of which there has to be one at least.
def check (s : Surroundings) (r : Request) : Except PathFault Unit := do
  r.switches.forM (checkSwitch s r)
  if r.files.isEmpty then throw (.inr .missingFiles)
  r.files.forM (checkFile s)

end Request
end ModuleDiscovery.CommandLine
