import ModuleDiscovery.Console.Handler.Reading
import ModuleDiscovery.Text.Blank
import ModuleDiscovery.Text.Bytes

namespace ModuleDiscovery.Console.Handler

open Text

inductive LiteralFault
  | malformed
  -- An entry of a table without a key.
  | keyless
  | notKeyable (kind : String)
deriving DecidableEq, Repr

namespace LiteralFault

def message : LiteralFault → String
  | malformed    => "malformed node or string"
  | keyless      => "malformed node or string: None"
  | notKeyable k => s!"unhashable type: '{k}'"

end LiteralFault

namespace Expression

def isNumber : Expression → Bool
  | number _ => true
  | _        => false

-- Whether an expression is a real number, with a sign or without one.
def isReal : Expression → Bool
  | number i | signed (number i) => !i
  | _                            => false

-- Tables and sets can change and are therefore no keys; a tuple is one if all its parts are.
mutual

-- The kind of the part of a literal that keeps it from being a key.
def unkeyable? : Expression → Option String
  | set _ | call _ => some "set"
  | table _        => some "dict"
  | tuple xs       => firstUnkeyable? xs
  | _              => none

def firstUnkeyable? : List Expression → Option String
  | []      => none
  | x :: xs => (unkeyable? x).or (firstUnkeyable? xs)

end

def checkKey (x : Expression) : Except LiteralFault Unit :=
  match x.unkeyable? with
  | none   => .ok ()
  | some k => .error (.notKeyable k)

mutual

-- Accepts literals only.
def checkLiteral : Expression → Except LiteralFault Unit
  | number _ | text | constant _ | ellipsis | call true => .ok ()
  | signed x => if x.isNumber then .ok () else .error .malformed
  | sum x y  =>
    if x.isReal && y.isNumber && !y.isReal then .ok () else .error .malformed
  | tuple xs => checkLiterals xs
  | set xs   => checkMembers xs
  | table es => checkEntries es
  | _        => .error .malformed

def checkLiterals : List Expression → Except LiteralFault Unit
  | []      => .ok ()
  | x :: xs => do
    checkLiteral x
    checkLiterals xs

def checkMembers : List Expression → Except LiteralFault Unit
  | []      => .ok ()
  | x :: xs => do
    checkLiteral x
    checkKey x
    checkMembers xs

def checkEntries : List (Option Expression × Expression) → Except LiteralFault Unit
  | []               => .ok ()
  | (none, _) :: _   => .error .keyless
  | (some k, x) :: es => do
    checkLiteral k
    checkLiteral x
    checkKey k
    checkEntries es

end

end Expression

-- Why what is stated for a handler is no call of it.
inductive Fault
  -- A lone surrogate in the arguments.
  | storage (stated : List Char) (f : EncodeFault)
  | expression (arguments stated : List Char) (f : ExpressionFault)
  | literal (stated : List Char) (f : LiteralFault)
deriving DecidableEq, Repr

namespace Fault

def message : Fault → String
  | storage stated f =>
    s!"error parsing {quoted (String.ofList stated)}; {f.message}"
  | expression arguments stated f =>
    s!"error parsing {quoted (String.ofList arguments)} in {quoted (String.ofList stated)}; {f.message}"
  | literal stated f => s!"error parsing {quoted (String.ofList stated)}; {f.message}"

end Fault

-- The arguments that are stated for a handler: what stands in parentheses behind its name, or all that
-- is stated where that has another form.
def arguments (stated : List Char) : List Char :=
  let cs := stripEnds isBlank stated
  let rest := cs.dropWhile fun c => isWordChar c || c = '.'
  if rest.isEmpty then ['(', ')']
  else if rest.head? = some '(' ∧ rest.getLast? = some ')' ∧ '\n' ∉ rest then rest
  else cs

-- Nothing is ever called, but what is stated for a handler has to be a call of it with literals.
def check (stated : List Char) : Except Fault Unit := do
  let args := arguments stated
  let s := String.ofList (args.dropWhile fun c => c = ' ' || c = '\t')
  if let some f := encodeFault? s then throw (.storage stated f)
  let x ← (Expression.read (toPlain s).toList).mapError (.expression args stated)
  x.checkLiteral.mapError (.literal stated)

end ModuleDiscovery.Console.Handler
