import ModuleDiscovery.Console.Handler.Reader

namespace ModuleDiscovery.Console.Handler.Grammar

open Reader

variable (rule : Rules)

def parameterDefault : Reader Unit :=
  (do op "="; let _ ← rule .expression) <|>
  hinted (do op "="; ahead (op ")" <|> op ","); (fault .missingDefault : Reader Unit))

-- What ends a parameter: a comma, or the colon behind all of them.
def parameterEnd (r : Reader Unit) : Reader Unit :=
  (r *> op ",") <|> (r *> ahead (op ":"))

def parameterName : Reader Unit := do
  let _ ← name

def plainParameter : Reader Unit :=
  parameterEnd parameterName

def defaultParameter : Reader Unit :=
  parameterEnd (parameterName *> parameterDefault rule)

def anyParameter : Reader Unit :=
  parameterEnd (do parameterName; let _ ← (parameterDefault rule).attempt)

def plainWithSlash : Reader Unit := do
  let _ ← plainParameter.many1
  parameterEnd (op "/")

def defaultWithSlash : Reader Unit := do
  let _ ← plainParameter.many
  let _ ← (defaultParameter rule).many1
  parameterEnd (op "/")

def doubleStarMistakes : Reader Unit :=
  (do op "**"; parameterName; op "="; fault .doubleStarWithDefault) <|>
  (do op "**"; parameterName; op ","; parameterName; fault .afterDoubleStar) <|>
  (do op "**"; parameterName; op ","; op "*" <|> op "**" <|> op "/"; fault .afterDoubleStar)

def doubleStarParameter : Reader Unit :=
  hinted doubleStarMistakes <|> (op "**" *> plainParameter)

def starMistakes : Reader Unit :=
  (do op "*"; op ":" <|> (op "," *> (op ":" <|> op "**")); fault .bareStar) <|>
  (do op "*"; parameterName; op "="; fault .starWithDefault) <|>
  (do
    op "*"
    plainParameter <|> op ","
    let _ ← (anyParameter rule).many
    op "*"
    plainParameter <|> op ","
    fault .secondStar)

def starParameters : Reader Unit :=
  hinted (starMistakes rule) <|>
  (do
    op "*"
    plainParameter
    let _ ← (anyParameter rule).many
    let _ ← doubleStarParameter.attempt) <|>
  (do
    op "*"
    op ","
    let _ ← (anyParameter rule).many1
    let _ ← doubleStarParameter.attempt) <|>
  doubleStarParameter

-- Parameters with defaults and what stars collect.
def parametersBehind (defaults : Reader (List Unit)) : Reader Unit := do
  let _ ← defaults
  let _ ← (starParameters rule).attempt

-- Parameters with defaults follow those without. All in front of a slash have no names for the caller, and all behind
-- a star have nothing but names. What a star or two collect comes last.
def correctParameters : Reader Unit :=
  let defaults := (defaultParameter rule).many
  (plainWithSlash *> plainParameter.many *> parametersBehind rule defaults) <|>
  (defaultWithSlash rule *> parametersBehind rule defaults) <|>
  (plainParameter.many1 *> parametersBehind rule defaults) <|>
  parametersBehind rule (defaultParameter rule).many1 <|>
  starParameters rule

def anyWithSlash : Reader Unit :=
  plainWithSlash <|> defaultWithSlash rule

def parameterMistakes : Reader Unit :=
  (do
    let _ ← plainParameter.many
    defaultWithSlash rule <|> (do let _ ← (defaultParameter rule).many1)
    plainParameter
    fault .withoutDefault) <|>
  (do
    let _ ← plainParameter.many
    op "("
    let _ ← separated "," parameterName
    let _ ← (op ",").attempt
    op ")"
    fault .bracketedParameters) <|>
  (do op "/"; op ","; fault .nothingBeforeSlash) <|>
  (do
    anyWithSlash rule
    let _ ← (anyParameter rule).many
    op "/"
    fault .secondSlash) <|>
  (do
    let _ ← (anyWithSlash rule).attempt
    let _ ← (anyParameter rule).many
    op "*"
    op "," <|> plainParameter
    let _ ← (anyParameter rule).many
    op "/"
    fault .slashAfterStar) <|>
  (do
    let _ ← (anyParameter rule).many1
    op "/"
    op "*"
    fault .missingCommaAfterSlash)

def parameters : Reader Unit :=
  hinted (parameterMistakes rule) <|> correctParameters rule

-- A function that is stated on the spot.
def functionOnSpot : Reader Expression := do
  word "lambda"
  let _ ← (parameters rule).attempt
  op ":"
  let _ ← rule .expression
  return .function

end ModuleDiscovery.Console.Handler.Grammar
