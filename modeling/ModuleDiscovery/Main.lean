import ModuleDiscovery.CommandLine.Run

namespace ModuleDiscovery

open Files CommandLine

-- A text from outside, in which all characters are meant themselves.
def textOf (s : String) : String := Text.ofPlain s.toList

-- What is behind an absolute path.
def nodeAt (path : String) : IO (Option Node) := do
  match ← (IO.FS.readBinFile (Text.toPlain path)).toBaseIO with
  | .ok content                    => return some (.file content.toList)
  | .error (.inappropriateType ..) => return some .directory
  | .error _                       => return none

-- Adds what is at a location.
def see (t : Tree) (l : Location) : IO Tree := do
  match ← nodeAt ("/" ++ "/".intercalate l) with
  | some n => return t.put l n
  | none   => return t

-- Adds everything that a path leads through.
def seePath (start : Location) (t : Tree) (path : String) : IO Tree := do
  let mut t := t
  let mut l := if path.toList.head? = some '/' then [] else start
  for name in (Text.splitAtChar '/' path.toList).map String.ofList do
    t ← see t l
    match t.step l name with
    | .ok next => l := next
    | .error _ => return t
  see t l

def directoryOf (path : String) : Directory where
  location := (components path.toList).map String.ofList
  path     := if path = "/" then "" else pathText path

def pathsOf (args : List String) : List String :=
  match Command.ofArguments args with
  | .ok (.analyze r ..)   => r.output.toList ++ r.config.toList ++ r.files
  | .ok (.callGraph r ..) => r.output.toList ++ r.config.toList ++ r.files
  | _                     => []

-- What a run needs of the file system is read before it starts: everything that a path in its arguments leads
-- through, and the files of settings in the working and home directories.
def surroundings (args : List String) : IO Surroundings := do
  let working := directoryOf (textOf (← IO.currentDir).toString)
  let home := directoryOf (textOf ((← IO.getEnv "HOME").getD "/"))
  let named ← (pathsOf args).foldlM (seePath working.location) .empty
  let own ← seePath working.location named Settings.fileName
  let files ← seePath home.location own ("." ++ Settings.fileName)
  let environment ← Settings.defaults.filterMapM fun (name, _) => do
    let key := Environment.variableOf name
    return (← IO.getEnv key).map fun s => (key, textOf s)
  return { files, working, home, environment }

def carryOut (o : Outcome) : IO UInt32 := do
  let err ← IO.getStderr
  for r in o.records do
    err.putStrLn (Text.toPlain r.line)
  IO.print (Text.toPlain o.stdout)
  if let some w := o.written then
    IO.FS.writeFile (Text.toPlain w.path) (Text.toPlain w.text)
  err.putStr (Text.toPlain o.stderr)
  match o.ending with
  | .exit n   => return n.toUInt32
  | .failed f =>
    err.putStrLn (Text.toPlain f.message)
    return 1

end ModuleDiscovery

def main (args : List String) : IO UInt32 := do
  let args := args.map ModuleDiscovery.textOf
  let s ← ModuleDiscovery.surroundings args
  ModuleDiscovery.carryOut (ModuleDiscovery.CommandLine.run s args)
