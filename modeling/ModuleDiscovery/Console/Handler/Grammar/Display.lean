import ModuleDiscovery.Console.Handler.Grammar.Loop

namespace ModuleDiscovery.Console.Handler.Grammar

open Reader

variable (rule : Rules)

section Parentheses

def tuple : Reader Expression := do
  op "("
  let xs ← (do
    let x ← element rule
    op ","
    let xs ← (elements rule).attempt
    return x :: xs.getD []).attempt
  op ")"
  return .tuple (xs.getD [])

-- What a function hands out while it goes on.
def yielded : Reader Expression :=
  (do
    word "yield"
    word "from"
    let _ ← rule .expression
    return .yielded) <|>
  (do
    word "yield"
    let _ ← (listing rule).attempt
    return .yielded)

def groupMistakes : Reader Unit :=
  (do
    op "("
    let _ ← starred rule
    op ")"
    fault .starredAlone) <|>
  (do
    op "("
    op "**"
    let _ ← rule .expression
    op ")"
    fault .doubleStarredAlone)

def group : Reader Expression :=
  (do
    op "("
    let x ← yielded rule <|> anyUnstarred rule
    op ")"
    return x) <|>
  hinted (groupMistakes rule)

def inParentheses : Reader Expression :=
  tuple rule <|> group rule <|> generator rule

end Parentheses

section Braces

def entry : Reader (Expression × Expression) := do
  let k ← rule .expression
  op ":"
  let x ← rule .expression
  return (k, x)

def entryOrTable : Reader (Option Expression × Expression) :=
  (do
    op "**"
    return (none, ← rule (.operation 0))) <|>
  (do
    let (k, x) ← entry rule
    return (some k, x))

-- Mistakes in tables are looked for at once, since nothing else starts like a table with an entry in it.

def valueMistakes : Reader Unit :=
  (do
    let _ ← rule .expression
    op ":"
    op "*"
    let _ ← rule (.operation 0)
    fault .starredEntry) <|>
  (do
    let _ ← rule .expression
    op ":"
    ahead (op "\x7d" <|> op ",")
    fault .missingEntry)

def entryMistakes : Reader Unit :=
  (do
    let _ ← separated "," (entryOrTable rule)
    op ","
    (do
      let _ ← rule .expression
      notAhead (op ":")
      fault .missingColon) <|> valueMistakes rule) <|>
  valueMistakes rule

def table : Reader Expression :=
  (do
    op "\x7b"
    let es ← (do
      let es ← separated "," (entryOrTable rule)
      let _ ← (op ",").attempt
      return es).attempt
    op "\x7d"
    return .table (es.getD [])) <|>
  (op "\x7b" *> entryMistakes rule *> miss)

def set : Reader Expression := do
  op "\x7b"
  let xs ← elements rule
  op "\x7d"
  return .set xs

def tableLoop : Reader Expression :=
  (do
    op "\x7b"
    let _ ← entry rule
    loops rule
    op "\x7d"
    return .tableLoop) <|>
  hinted (do
    op "\x7b"
    op "**"
    let _ ← rule (.operation 0)
    loops rule
    op "\x7d"
    (fault .doubleStarredLoop : Reader Unit))

def setLoop : Reader Expression :=
  (do
    op "\x7b"
    let _ ← anyUnstarred rule
    loops rule
    op "\x7d"
    return .setLoop) <|>
  hinted (loopMistakes rule)

def inBraces : Reader Expression :=
  table rule <|> set rule <|> tableLoop rule <|> setLoop rule

end Braces

end ModuleDiscovery.Console.Handler.Grammar
