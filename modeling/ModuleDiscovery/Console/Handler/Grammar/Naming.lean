import ModuleDiscovery.Console.Handler.Reader

namespace ModuleDiscovery.Console.Handler.Grammar

open Reader

variable (rule : Rules)

def assigned : Reader Expression := do
  let _ ← name
  op ":="
  let _ ← rule .expression
  return .named

def unassigned : Reader Expression := do
  let x ← rule .expression
  notAhead (op ":=")
  return x

def anyUnstarred : Reader Expression :=
  assigned rule <|> hinted (rule .misnamed) <|> unassigned rule

def starredOperation : Reader Expression := do
  op "*"
  return .starred (← rule (.operation 0))

-- What may stand behind an equals sign that stands for a comparison or a name.
def comparand : Reader Unit := do
  let _ ← rule (.operation 0)
  notAhead (op "=" <|> op ":=")

-- An expression with a star that needs one.
def starred : Reader Expression :=
  (do op "*"; return .starred (← rule .expression)) <|>
  (do op "*"; fault .strayStar)

def element : Reader Expression :=
  starredOperation rule <|> anyUnstarred rule

-- Parts of a list in brackets, and maybe a comma behind them.
def elements : Reader (List Expression) := do
  let xs ← separated "," (element rule)
  let _ ← (op ",").attempt
  return xs

-- Expressions with commas between them are a tuple.
def tupleOf (r : Reader Expression) : Reader Expression := do
  let x ← r
  let xs ← (op "," *> r).many
  let comma ← (op ",").attempt
  return if xs.isEmpty ∧ comma.isNone then x else .tuple (x :: xs)

-- A list without brackets, parts of which may be starred.
def listing : Reader Expression :=
  tupleOf (rule .listed)

def listed : Reader Expression :=
  starredOperation rule <|> rule .expression

end ModuleDiscovery.Console.Handler.Grammar
