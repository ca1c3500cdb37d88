namespace ModuleDiscovery.Console.Handler

-- Expressions, as far as it matters whether they are literals and how a fault speaks of them.
inductive Expression
  | number (imaginary : Bool)
  | text
  -- A truth value or nothing.
  | constant (word : String)
  | ellipsis
  | name (s : String)
  | member
  -- A call. `bareSet` tells whether it makes an empty set.
  | call (bareSet : Bool)
  | tuple (xs : List Expression)
  | set (xs : List Expression)
  -- A table, in which a value that stands for several entries has no key.
  | table (es : List (Option Expression × Expression))
  | signed (x : Expression)
  | sum (x y : Expression)
  | operation
  -- What conditions are joined to, or negated.
  | logic
  -- A comparison of `x` with more. `isMembership` tells whether it first asks what holds `x`.
  | comparison (x : Expression) (isMembership : Bool)
  | conditional
  | function
  | named
  | starred (x : Expression)
  | template
  | generator
  | setLoop
  | tableLoop
  | yielded
  | awaited
  -- An argument with a name, or several of them if `isTable` says so.
  | namedArgument (isTable : Bool)
deriving Inhabited

namespace Expression

def kind : Expression → String
  | number _ | text                => "literal"
  | constant w                     => w
  | ellipsis                       => "ellipsis"
  | name _                         => "name"
  | member                         => "attribute"
  | call _                         => "function call"
  | tuple _                        => "tuple"
  | set _                          => "set display"
  | table _                        => "dict literal"
  | signed _ | sum _ _ | operation => "expression"
  | logic                          => "expression"
  | comparison _ _                 => "comparison"
  | conditional                    => "conditional expression"
  | function                       => "lambda"
  | named                          => "named expression"
  | starred _                      => "starred"
  | template                       => "f-string expression"
  | generator                      => "generator expression"
  | setLoop                        => "set comprehension"
  | tableLoop                      => "dict comprehension"
  | yielded                        => "yield expression"
  | awaited                        => "await expression"
  | namedArgument _                => "argument"

-- What stands between `for` and `in` is read as an expression together with the `in`, and so a question
-- for membership stands for its left side.
mutual

-- The first part of an expression to which the values of a loop cannot be given.
def notTarget? : Expression → Option Expression
  | tuple xs          => firstNotTarget? xs
  | starred x         => notTarget? x
  | comparison x true => notTarget? x
  | comparison _ false | name _ | member => none
  | x                 => some x

def firstNotTarget? : List Expression → Option Expression
  | []      => none
  | x :: xs => (notTarget? x).or (firstNotTarget? xs)

end

end Expression
end ModuleDiscovery.Console.Handler
