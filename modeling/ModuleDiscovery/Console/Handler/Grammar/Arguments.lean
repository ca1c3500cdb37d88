import ModuleDiscovery.Console.Handler.Grammar.Loop

namespace ModuleDiscovery.Console.Handler.Grammar

open Reader

variable (rule : Rules)

def nameMistakes : Reader Unit :=
  (do
    let w ← ["True", "False", "None"].foldl (fun r w => r <|> (word w *> pure w)) miss
    op "="
    fault (.notAssignable w)) <|>
  (do
    let _ ← name
    op "="
    let _ ← rule .expression
    loops rule
    fault .singleEquals) <|>
  (do
    notAhead (name *> op "=")
    let _ ← rule .expression
    op "="
    fault .assignedArgument)

def namedArgument : Reader Expression := do
  let _ ← name
  op "="
  let _ ← rule .expression
  return .namedArgument false

def namedOrStarred : Reader Expression :=
  hinted (nameMistakes rule) <|> namedArgument rule <|> starred rule

def namedOrTable : Reader Expression :=
  hinted (nameMistakes rule) <|> namedArgument rule <|> (do
    op "**"
    let _ ← rule .expression
    return .namedArgument true)

def namedArguments : Reader (List Expression) :=
  (do
    let xs ← separated "," (namedOrStarred rule)
    op ","
    let ys ← separated "," (namedOrTable rule)
    return xs ++ ys) <|>
  separated "," (namedOrStarred rule) <|>
  separated "," (namedOrTable rule)

def unnamedArgument : Reader Expression :=
  starred rule <|> (do
    let x ← assigned rule <|> unassigned rule
    notAhead (op "=")
    return x)

def unnamedArguments : Reader (List Expression) :=
  separated "," (unnamedArgument rule)

-- First arguments without names, among which may be starred ones, then those with names, among which may be starred
-- and doubly starred ones.
def argumentList : Reader (List Expression) :=
  (do
    let xs ← unnamedArguments rule
    let ys ← (op "," *> namedArguments rule).attempt
    return xs ++ ys.getD []) <|>
  namedArguments rule

def isNamed : Expression → Bool
  | .namedArgument _ => true
  | _                => false

def isTable : Expression → Bool
  | .namedArgument t => t
  | _                => false

def argumentMistakes : Reader Unit :=
  (do
    let _ ← (unnamedArguments rule *> op "," *> namedArguments rule) <|> namedArguments rule
    op ","
    let _ ← separated "," (starred rule <* notAhead (op "="))
    fault .starredAfterTable) <|>
  (do
    let _ ← rule .expression
    loops rule
    op ","
    let _ ← ((do let _ ← argumentList rule) <|> (rule .expression *> loops rule)).attempt
    fault .bareGenerator) <|>
  (do
    let _ ← name
    op "="
    let _ ← rule .expression
    loops rule
    fault .singleEquals) <|>
  (do
    let xs ← argumentList rule
    loops rule
    if 1 < (xs.filter (!isNamed ·)).length then fault .bareGenerator) <|>
  (do
    let _ ← argumentList rule
    op ","
    let _ ← rule .expression
    loops rule
    fault .bareGenerator) <|>
  (do
    let xs ← argumentList rule
    op ","
    let _ ← argumentList rule
    fault (if xs.any isTable then .afterTable else .afterNamed))

-- The arguments of a call up to the parenthesis behind them.
def arguments : Reader Expression :=
  (do
    let xs ← argumentList rule
    let _ ← (op ",").attempt
    ahead (op ")")
    return .tuple xs) <|>
  hinted (argumentMistakes rule)

end ModuleDiscovery.Console.Handler.Grammar
