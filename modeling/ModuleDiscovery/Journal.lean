import ModuleDiscovery.Files.Path
import ModuleDiscovery.Text.Lines
import ModuleDiscovery.Value

namespace ModuleDiscovery

-- A level of importance. Any number may be one.
abbrev Level := Int

-- A record belongs to a logger, whose name tells where it comes from.
structure Record where
  level   : Level
  logger  : String
  message : String

namespace Level

def debug : Level := 10
def info : Level := 20
def warning : Level := 30
def error : Level := 40
def critical : Level := 50

def names : List (Level × String) := [
  (0, "NOTSET"), (debug, "DEBUG"), (info, "INFO"), (warning, "WARNING"), (error, "ERROR"),
  (critical, "CRITICAL")]

def name (l : Level) : String :=
  (names.lookup l).getD s!"Level {l}"

-- The level from which on records are kept. Quiet wins over verbose.
def ofChoice (verbose quiet : Bool) : Level :=
  if quiet then error else if verbose then debug else warning

end Level

namespace Record

def line (r : Record) : String :=
  let name := r.level.name.toList
  String.ofList (name ++ List.replicate (8 - name.length) ' ') ++ " " ++ r.logger ++ ": " ++ r.message

end Record

-- Records kept from some level on. A journal can be set up anew at any time; records then go to the file of the last
-- set-up.
structure Journal where
  -- The level from which on records are kept, once it has been set.
  threshold : Option Level
  -- The file that records are appended to.
  target    : Option String
  -- The files written so far, with their lines.
  files     : List (String × List String)

namespace Journal

def rootLogger : String := "coupling_insight"

-- The name of a logger below the root, which is put in front of names from elsewhere.
def loggerName (name : Option String) : String :=
  match name with
  | none   => rootLogger
  | some s =>
    if s = rootLogger || (rootLogger ++ ".").toList.isPrefixOf s.toList then s
    else rootLogger ++ "." ++ s

def start : Journal := ⟨none, none, []⟩

def append (name : String) (ls : List String) : List (String × List String) → List (String × List String)
  | []      => [(name, ls)]
  | f :: fs => if f.1 = name then (name, f.2 ++ ls) :: fs else f :: append name ls fs

-- Starts over with a level and perhaps a file. An empty name is no file.
def setUp (j : Journal) (verbose quiet : Bool) (file : Option String) : Journal :=
  let target := (file.filter (· ≠ "")).map Files.followedText
  { threshold := some (Level.ofChoice verbose quiet)
    target    := target
    files     := match target with | some f => append f [] j.files | none => j.files }

def effective (j : Journal) : Level :=
  j.threshold.getD Level.warning

-- Whether records of a level are kept. Levels up to zero never are.
def isEnabled (j : Journal) (l : Level) : Bool :=
  0 < l && j.effective ≤ l

def log (j : Journal) (r : Record) : Journal :=
  match j.target with
  | some f =>
    if j.isEnabled r.level then
      let ls := Text.splitLines (r.line.toList ++ ['\n'])
      { j with files := append f (ls.map String.ofList) j.files }
    else j
  | none => j

end Journal
end ModuleDiscovery
