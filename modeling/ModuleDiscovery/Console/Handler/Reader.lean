import ModuleDiscovery.Console.Handler.Expression
import ModuleDiscovery.Console.Handler.Fault
import Std.Data.HashMap

namespace ModuleDiscovery.Console.Handler

-- The rules of the grammar that call each other or themselves.
inductive Rule
  | expression
  -- An expression or a starred one in a list without brackets.
  | listed
  | disjunction
  | conjunction
  | negation
  -- Operators with two sides; a higher level binds more.
  | operation (level : Nat)
  | factor
  | awaited
  | primary
  | arguments
  | texts
  | target
  | bareTarget
  | targetHead
  | misnamed
deriving DecidableEq, Hashable, Repr

-- What readers share.
structure Source where
  tokens : Array Token
  -- Accepts what fills a place of a template.
  fill   : List Char → Except ExpressionFault Unit

structure Progress where
  place : Nat
  -- The place of the last token that has been looked at.
  seen  : Nat
  -- Whether the usual mistakes are looked for.
  hints : Bool
  found : Std.HashMap (Rule × Nat) (Option (Expression × Nat))

inductive Outcome (α : Type) where
  | found (x : α)
  | missed
  | faulty (f : ExpressionFault)

-- A way through tokens, which finds something, misses it, or meets a fault. A reader that misses leaves nothing
-- behind but what it has seen: alternatives are tried from the same place one after the other, and a fault ends them
-- all.
def Reader (α : Type) : Type :=
  Source → Progress → Outcome α × Progress

namespace Reader

instance : Monad Reader where
  pure x := fun _ p => (.found x, p)
  bind r f := fun s p =>
    match r s p with
    | (.found x, p)  => f x s p
    | (.missed, p)   => (.missed, p)
    | (.faulty f, p) => (.faulty f, p)

def miss {α} : Reader α :=
  fun _ p => (.missed, p)

def fault {α} (f : ExpressionFault) : Reader α :=
  fun _ p => (.faulty f, p)

-- Tries the second reader where the first one misses.
def orElse {α} (r : Reader α) (r' : Unit → Reader α) : Reader α :=
  fun s p =>
    match r s p with
    | (.missed, p') => r' () s { p' with place := p.place }
    | o             => o

instance {α} : OrElse (Reader α) where
  orElse := orElse

-- Finds nothing where the reader misses.
def attempt {α} (r : Reader α) : Reader (Option α) :=
  (some <$> r) <|> pure none

-- Looks without moving.
def ahead {α} (r : Reader α) : Reader Unit := fun s p =>
  match r s p with
  | (.found _, p')  => (.found (), { p' with place := p.place })
  | (.missed, p')   => (.missed, p')
  | (.faulty f, p') => (.faulty f, p')

def notAhead {α} (r : Reader α) : Reader Unit := fun s p =>
  match r s p with
  | (.found _, p')  => (.missed, p')
  | (.missed, p')   => (.found (), { p' with place := p.place })
  | (.faulty f, p') => (.faulty f, p')

-- At most `n` findings in a row.
def upTo {α} (r : Reader α) : Nat → Reader (List α)
  | 0     => pure []
  | n + 1 => do
    match ← r.attempt with
    | none   => return []
    | some x => return x :: (← upTo r n)

def tokensLeft : Reader Nat :=
  fun s p => (.found (s.tokens.size - p.place), p)

-- Findings in a row, maybe none. Each takes a token at least.
def many {α} (r : Reader α) : Reader (List α) := do
  r.upTo (← tokensLeft)

-- Findings in a row, at least one.
def many1 {α} (r : Reader α) : Reader (List α) := do
  return (← r) :: (← r.many)

-- At most `n` further steps from `x`.
def stepsUpTo {α} (step : α → Reader α) : Nat → α → Reader α
  | 0, x     => pure x
  | n + 1, x => do
    match ← (step x).attempt with
    | none   => return x
    | some y => stepsUpTo step n y

-- Steps from `x` as far as they go. Each takes a token at least.
def steps {α} (step : α → Reader α) (x : α) : Reader α := do
  stepsUpTo step (← tokensLeft) x

section Tokens

-- The next token. What is no token is a fault as soon as it is looked at.
def next : Reader Token := fun s p =>
  let t := (s.tokens[p.place]?).getD ⟨.finish, 0, [], true⟩
  let seen := { p with seen := max p.seen p.place }
  match t.shape with
  | .fault f => (.faulty (.token f), seen)
  | _        => (.found t, { seen with place := p.place + 1 })

def satisfying (q : Token.Shape → Bool) : Reader Unit := do
  if q (← next).shape then pure () else miss

def shape (s : Token.Shape) : Reader Unit :=
  satisfying (· = s)

def op (s : String) : Reader Unit :=
  shape (.op s)

-- One of the words that are no names.
def word (s : String) : Reader Unit :=
  shape (.name s)

def oneOp (ops : List String) : Reader String := do
  match (← next).shape with
  | .op s => if ops.contains s then return s else miss
  | _     => miss

def keywords : List String := [
  "False", "None", "True", "and", "as", "assert", "async", "await", "break", "class", "continue", "def",
  "del", "elif", "else", "except", "finally", "for", "from", "global", "if", "import", "in", "is",
  "lambda", "nonlocal", "not", "or", "pass", "raise", "return", "try", "while", "with", "yield"]

def name : Reader String := do
  match (← next).shape with
  | .name s => if keywords.contains s then miss else return s
  | _       => miss

-- Findings with an operator between them.
def separated {α} (sep : String) (r : Reader α) : Reader (List α) := do
  return (← r) :: (← (op sep *> r).many)

def last : Reader Token :=
  fun s p => (.found ((s.tokens[p.place - 1]?).getD ⟨.finish, 0, [], true⟩), p)

end Tokens

section Hints

-- Looks for a usual mistake, if such are looked for, and finds nothing else.
def hinted {α β} (r : Reader α) : Reader β := fun s p =>
  if p.hints then (r *> miss) s p else (.missed, p)

def withoutHints {α} (r : Reader α) : Reader α := fun s p =>
  let (o, p') := r s { p with hints := false }
  (o, { p' with hints := p.hints })

end Hints

-- Finds what has been found before for a rule, if it was looked for at this place.
def remember (rule : Rule) (r : Reader Expression) : Reader Expression := fun s p =>
  match p.found[(rule, p.place)]? with
  | some (some (x, place)) => (.found x, { p with place })
  | some none              => (.missed, p)
  | none                   =>
    match r s p with
    | (.found x, p')  => (.found x, { p' with found := p'.found.insert (rule, p.place) (some (x, p'.place)) })
    | (.missed, p')   => (.missed, { p' with found := p'.found.insert (rule, p.place) none })
    | (.faulty f, p') => (.faulty f, p')

end Reader

abbrev Rules := Rule → Reader Expression

end ModuleDiscovery.Console.Handler
