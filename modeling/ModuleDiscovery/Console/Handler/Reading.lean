import ModuleDiscovery.Console.Handler.Grammar
import ModuleDiscovery.Text.Lines

namespace ModuleDiscovery.Console.Handler

namespace Source

-- The most rules that call each other from one token to the next.
def rulesPerToken : Nat := 32

def rules (s : Source) : Rules :=
  Grammar.rules (rulesPerToken * (s.tokens.size + 2))

-- The outcome of a reader from the start, and the last token that it has seen.
def run {α} (s : Source) (hints : Bool) (seen : Nat) (r : Reader α) : Outcome α × Nat :=
  let (o, p) := r s ⟨0, seen, hints, ∅⟩
  (o, p.seen)

-- The fault of the tokens behind the one at `seen`, which is the last one that has been looked at. An
-- open bracket or a backslash there is none, but a bracket is one that has been opened in a line
-- before.
def tokenFault? (s : Source) (seen : Nat) : Option TokenFault := do
  let t ← s.tokens.back?
  match t.shape with
  | .fault (.neverClosed _) | .fault .strayBackslash =>
    let (b, line) ← t.brackets.head?
    if line < (← s.tokens[seen]?).line then some (.neverClosed b) else none
  | .fault f => some f
  | _        => none

-- What is reported where a fault has been met. What is no token goes before all else, and so does what
-- the tokens behind are found to be, unless the end of the text has been met already.
def report (s : Source) (seen : Nat) : ExpressionFault → ExpressionFault
  | .token f => .token f
  | f        =>
    if (s.tokens[seen]?).any (·.atEnd) then f else ((s.tokenFault? seen).map .token).getD f

-- What is reported where nothing has been found in a second reading either.
def reportMalformed (s : Source) (first seen : Nat) : ExpressionFault :=
  if (s.tokens[first]?).any (·.shape = .indent) then .indented
  else ((s.tokenFault? seen).map .token).getD .malformed

-- An expression is read twice if it is ill-formed: the second reading looks for the usual mistakes, so that the fault
-- can say more than that something is wrong.
def read {α} (s : Source) (r : Reader α) : Except ExpressionFault α :=
  match s.run false 0 r with
  | (.found x, _)     => .ok x
  | (.faulty f, seen) => .error (s.report seen f)
  | (.missed, first)  =>
    match s.run true first r with
    | (.faulty f, seen) => .error (s.report seen f)
    | (_, seen)         => .error (s.reportMalformed first seen)

end Source

namespace Expression

-- Accepts what fills a place of a template, in which there are templates at most `n` deep.
def checkFilling : Nat → List Char → Except ExpressionFault Unit
  | 0, _ => .ok ()
  | n + 1, cs =>
    let s : Source := ⟨(Token.scan ('(' :: cs ++ [')', '\n'])).toArray, checkFilling n⟩
    match s.read (Grammar.listing s.rules) with
    | .ok _    => .ok ()
    | .error f => .error f.inFilling

def read (cs : List Char) : Except ExpressionFault Expression := do
  if cs.contains '\x00' then throw .nullCharacter
  let s : Source := ⟨(Token.scan (Text.unifyLineEnds cs)).toArray, checkFilling cs.length⟩
  s.read (Grammar.whole s.rules)

end Expression
end ModuleDiscovery.Console.Handler
