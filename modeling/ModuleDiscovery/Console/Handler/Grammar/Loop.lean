import ModuleDiscovery.Console.Handler.Grammar.Naming

namespace ModuleDiscovery.Console.Handler.Grammar

open Reader

variable (rule : Rules)

section Targets

def targetAtom : Reader Expression :=
  (do return .name (← name)) <|>
  (do
    op "("
    let x ← rule .bareTarget
    op ")"
    return x) <|>
  (do
    op "("
    let xs ← (do
      let x ← rule .target
      let xs ← (op "," *> rule .target).many
      if xs.isEmpty then op "," else let _ ← (op ",").attempt
      return x :: xs).attempt
    op ")"
    return .tuple (xs.getD []))

-- What goes on behind the head of a target.
def goesOn : Reader Unit :=
  op "(" <|> op "."

-- An attribute or a name.
def bareTarget : Reader Expression :=
  (do
    let _ ← rule .targetHead
    op "."
    let _ ← name
    notAhead goesOn
    return .member) <|>
  targetAtom rule

def target : Reader Expression :=
  (do
    op "*"
    notAhead (op "*")
    return .starred (← rule .target)) <|>
  rule .bareTarget

def targets : Reader Unit :=
  (do
    let _ ← rule .target
    notAhead (op ",")) <|>
  (do
    let _ ← separated "," (rule .target)
    let _ ← (op ",").attempt)

end Targets

-- The source of the values and the conditions that they have to meet.
def loopSource : Reader Unit := do
  let _ ← rule .disjunction
  let _ ← (word "if" *> rule .disjunction).many

-- One loop. There is no way back behind its `in`.
def loop : Reader Unit := do
  let head := do
    word "for"
    targets rule
    word "in"
  match ← (word "async" *> head).attempt with
  | some _ => loopSource rule
  | none   =>
    match ← head.attempt with
    | some _ => loopSource rule
    | none   => hinted do
      let _ ← (word "async").attempt
      word "for"
      if let some x := (← listing rule).notTarget? then (fault (.notAssignable x.kind) : Reader Unit)

def loops : Reader Unit := do
  let _ ← (loop rule).many1

def loopMistakes : Reader Unit :=
  (do
    op "(" <|> op "\x7b"
    let _ ← starred rule
    loops rule
    fault .starredLoop) <|>
  (do
    op "\x7b"
    let _ ← element rule
    op ","
    let _ ← elements rule
    loops rule
    fault .bareLoopValue) <|>
  (do
    op "\x7b"
    let _ ← element rule
    op ","
    loops rule
    fault .bareLoopValue)

-- A sequence that is made by loops.
def generator : Reader Expression :=
  (do
    op "("
    let _ ← assigned rule <|> unassigned rule
    loops rule
    op ")"
    return .generator) <|>
  hinted (loopMistakes rule)

end ModuleDiscovery.Console.Handler.Grammar
