namespace ModuleDiscovery.CommandLine

inductive Switch
  | unit
  | threshold
  | format
  | output
  | config
  | verbose
  | quiet
  | includeExternal
  | help
deriving DecidableEq, Repr

-- Why arguments are no use of a command.
inductive UsageFault
  | missingCommand
  | unknownCommand   (name : String)
  | unknownSwitch    (name : String)
  | missingValue     (name : String)
  | unwantedValue    (name : String)
  | missingFiles
  | unwantedArgument (argument : String)
  | noSuchFile       (path : String)
  | isADirectory     (path : String)
deriving DecidableEq, Repr

namespace UsageFault

def message : UsageFault → String
  | missingCommand     => "Missing command."
  | unknownCommand n   => s!"No such command '{n}'."
  | unknownSwitch n    => s!"No such option: {n}"
  | missingValue n     => s!"Option '{n}' requires an argument."
  | unwantedValue n    => s!"Option '{n}' does not take a value."
  | missingFiles       => "Missing argument 'EDGE_FILES...'."
  | unwantedArgument a => s!"Got unexpected extra argument ({a})"
  | noSuchFile p       => s!"File '{p}' does not exist."
  | isADirectory p     => s!"File '{p}' is a directory."

end UsageFault

-- The switches of a command by their spellings.
abbrev Spellings := List (String × Switch)

def Switch.takesValue : Switch → Bool
  | unit | threshold | format | output | config => true
  | verbose | quiet | includeExternal | help    => false

-- Arguments sorted out. Switches stand in their order, those without a value with an empty one.
structure Arguments where
  switches : List (Switch × String)
  rest     : List String

namespace Arguments

-- A switch that waits for its value, with its spelling.
abbrev Waiting := Option (String × Switch)

-- The switches that the characters behind a single hyphen are. Short switches may share one argument.
def cluster (sp : Spellings) : List Char → Except UsageFault (List (Switch × String) × Waiting)
  | []      => .ok ([], none)
  | c :: cs =>
    let name := String.ofList ['-', c]
    match sp.lookup name with
    | none => .error (.unknownSwitch name)
    | some s =>
      if !s.takesValue then (cluster sp cs).map fun (ss, w) => ((s, "") :: ss, w)
      else if cs.isEmpty then .ok ([], some (name, s))
      else .ok ([(s, String.ofList cs)], none)

-- The switch that an argument with two hyphens is. A long switch stands on its own, or with its value behind an
-- equals sign.
def long (sp : Spellings) (cs : List Char) : Except UsageFault (List (Switch × String) × Waiting) :=
  let name := String.ofList (cs.takeWhile (· ≠ '='))
  let value := cs.dropWhile (· ≠ '=')
  match sp.lookup name with
  | none => .error (.unknownSwitch name)
  | some s =>
    match s.takesValue, value with
    | true, []       => .ok ([], some (name, s))
    | true, _ :: cs  => .ok ([(s, String.ofList cs)], none)
    | false, []      => .ok ([(s, "")], none)
    | false, _ :: _  => .error (.unwantedValue name)

def addRest (r : String) (a : Arguments) : Arguments :=
  { a with rest := r :: a.rest }

def addSwitches (ss : List (Switch × String)) (a : Arguments) : Arguments :=
  { a with switches := ss ++ a.switches }

-- Sorts arguments out, the first of which may be the value of a switch in front of them. A switch takes the next
-- argument as its value whatever that is, and two hyphens end the switches.
def sortOut (sp : Spellings) : Waiting → List String → Except UsageFault Arguments
  | none, []               => .ok ⟨[], []⟩
  | some (name, _), []     => .error (.missingValue name)
  | some (_, s), arg :: as => (sortOut sp none as).map (addSwitches [(s, arg)])
  | none, arg :: as        =>
    match arg.toList with
    | ['-', '-']     => .ok ⟨[], as⟩
    | '-' :: '-' :: _ => do
      let (ss, w) ← long sp arg.toList
      return addSwitches ss (← sortOut sp w as)
    | '-' :: c :: cs => do
      let (ss, w) ← cluster sp (c :: cs)
      return addSwitches ss (← sortOut sp w as)
    | _ => (sortOut sp none as).map (addRest arg)

def has (a : Arguments) (s : Switch) : Bool :=
  a.switches.any (·.1 = s)

def values (a : Arguments) (s : Switch) : List String :=
  (a.switches.filter (·.1 = s)).map (·.2)

-- The value of a switch; of several the last one counts.
def value? (a : Arguments) (s : Switch) : Option String :=
  (a.values s).getLast?

end Arguments
end ModuleDiscovery.CommandLine
