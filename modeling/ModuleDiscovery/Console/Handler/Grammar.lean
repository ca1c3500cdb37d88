import ModuleDiscovery.Console.Handler.Grammar.Operation

namespace ModuleDiscovery.Console.Handler.Grammar

open Reader

variable (rule : Rules)

section Conditions

def comparison : Reader Expression := do
  let x ← rule (.operation 0)
  match ← (compared rule).many with
  | []     => return x
  | m :: _ => return .comparison x m

-- An expression that may be a comparison or negated.
def negation : Reader Expression :=
  (do
    word "not"
    let _ ← rule .negation
    return .logic) <|>
  comparison rule

-- Conditions of a kind that are joined by a word.
def joined (w : String) (part : Rule) : Reader Expression := do
  let x ← rule part
  let xs ← (word w *> rule part).many
  return if xs.isEmpty then x else .logic

def conditional : Reader Expression := do
  let _ ← rule .disjunction
  word "if"
  let _ ← rule .disjunction
  word "else"
  let _ ← rule .expression
  return .conditional

def simpleExpression : Reader Expression :=
  conditional rule <|> rule .disjunction <|> functionOnSpot rule

end Conditions

section Mistakes

-- Words that are names and yet may start a statement.
def softKeywords : List String := ["match", "case", "_"]

-- A name in front of a text, or the first letters of a word that may start a statement.
def startsStatement : Reader Unit :=
  (do let _ ← name; let _ ← text) <|>
  (do
    let s ← name
    if softKeywords.any fun w => s.toList.isPrefixOf w.toList then pure () else miss)

def commandsOfOld : List String := ["print", "exec"]

def isCommandOfOld : Expression → Bool
  | .name s => commandsOfOld.contains s
  | _       => false

-- Rules named after mistakes find nothing: all they do is to meet a fault that says more than that something is
-- wrong.
def mistakes : Reader Unit :=
  (do
    notAhead startsStatement
    let x ← rule .disjunction
    let _ ← withoutHints (simpleExpression rule)
    if !isCommandOfOld x ∧ !(← last).brackets.isEmpty then fault .missingComma) <|>
  (do
    let _ ← rule .disjunction
    word "if"
    let _ ← rule .disjunction
    notAhead (word "else" <|> op ":")
    fault .missingElse)

-- A command of old with what it was given.
def commandMistake : Reader Unit := do
  let s ← name
  notAhead (op "(")
  let _ ← listing rule
  if commandsOfOld.contains s then fault (.commandOfOld s)

def misnamed : Reader Expression :=
  (do
    let x ← rule .expression
    op ":="
    let _ ← rule .expression
    fault (.notNameable x.kind)) <|>
  (do
    let _ ← name
    op "="
    comparand rule
    fault .singleEquals) <|>
  (do
    notAhead (tuple rule <|> generator rule <|> constant)
    let x ← rule (.operation 0)
    op "="
    comparand rule
    fault (.notComparable x.kind))

end Mistakes

def expression : Reader Expression :=
  hinted (mistakes rule) <|> hinted (commandMistake rule) <|> simpleExpression rule

-- Each rule in terms of readers for all of them.
def body : Rule → Reader Expression
  | .expression  => expression rule
  | .listed      => listed rule
  | .disjunction => joined rule "or" .conjunction
  | .conjunction => joined rule "and" .negation
  | .negation    => negation rule
  | .operation n => operation rule n
  | .factor      => factor rule
  | .awaited     => awaited rule
  | .primary     => primary rule
  | .arguments   => arguments rule
  | .texts       => texts
  | .target      => target rule
  | .bareTarget  => bareTarget rule
  | .targetHead  => targetHead rule
  | .misnamed    => misnamed rule

-- Readers for all rules that go at most `n` rules deep.
def rules : Nat → Rules
  | 0,     _ => miss
  | n + 1, r => remember r (body (rules n) r)

def line : Reader Expression :=
  tupleOf (rule .expression)

-- An expression and nothing behind it.
def whole : Reader Expression := do
  let x ← line rule
  let _ ← (shape .newline).many
  shape .finish
  return x

end ModuleDiscovery.Console.Handler.Grammar
