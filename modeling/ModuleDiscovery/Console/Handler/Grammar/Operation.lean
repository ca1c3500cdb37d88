import ModuleDiscovery.Console.Handler.Grammar.Arguments
import ModuleDiscovery.Console.Handler.Grammar.Display
import ModuleDiscovery.Console.Handler.Grammar.Leaf
import ModuleDiscovery.Console.Handler.Grammar.Parameters

namespace ModuleDiscovery.Console.Handler.Grammar

open Reader

variable (rule : Rules)

section Primaries

def atom : Reader Expression :=
  (do return .name (← name)) <|>
  constant <|>
  (ahead text *> rule .texts) <|>
  number <|>
  (ahead (op "(") *> inParentheses rule) <|>
  (ahead (op "\x7b") *> inBraces rule) <|>
  ellipsis

-- An attribute or a call behind an expression.
def trailer (x : Expression) : Reader Expression :=
  (do
    op "."
    let _ ← name
    return .member) <|>
  (do
    let _ ← generator rule
    return .call false) <|>
  (do
    op "("
    let xs ← (rule .arguments).attempt
    op ")"
    return .call (xs.isNone && x matches .name "set"))

def primary : Reader Expression := do
  steps (trailer rule) (← atom rule)

-- What stands in front of the last attribute of a target.
def targetHead : Reader Expression := do
  let x ← atom rule
  ahead goesOn
  steps (fun x => do
    let x ← trailer rule x
    ahead goesOn
    return x) x

end Primaries

section Operators

def awaited : Reader Expression :=
  (do
    word "await"
    let _ ← rule .primary
    return .awaited) <|>
  rule .primary

def power : Reader Expression :=
  (do
    let _ ← rule .awaited
    op "**"
    let _ ← rule .factor
    return .operation) <|>
  rule .awaited

def factor : Reader Expression :=
  (do
    let s ← oneOp ["+", "-", "~"]
    let x ← rule .factor
    return if s = "~" then .operation else .signed x) <|>
  power rule

def operators : List (List String) :=
  [["|"], ["^"], ["&"], ["<<", ">>"], ["+", "-"], ["*", "/", "//", "%", "@"]]

-- Operators of a level between operands of the next.
def operation (level : Nat) : Reader Expression :=
  match operators[level]? with
  | none     => rule .factor
  | some ops => do
    steps (fun x => do
      let s ← oneOp ops
      let y ← rule (.operation (level + 1))
      return if s = "+" ∨ s = "-" then .sum x y else .operation) (← rule (.operation (level + 1)))

-- A comparing operator, and whether it asks what holds its left side.
def comparator : Reader Bool :=
  (do
    let _ ← oneOp ["==", "!=", "<=", "<", ">=", ">"]
    return false) <|>
  (word "not" *> word "in" *> pure false) <|>
  (word "in" *> pure true) <|>
  (word "is" *> word "not" *> pure false) <|>
  (word "is" *> pure false)

-- What an operator compares with.
def compared : Reader Bool :=
  comparator <* rule (.operation 0)

end Operators

end ModuleDiscovery.Console.Handler.Grammar
