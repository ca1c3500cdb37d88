import ModuleDiscovery.Console.Handler.Fault

namespace ModuleDiscovery.Console.Handler
namespace Template

-- What stands in front of the next brace that is not doubled.
structure Piece where
  text   : List Char
  rest   : List Char
  -- Whether the piece ends with a doubled brace and the next one follows directly.
  goesOn : Bool

inductive Place
  | outside
  | behindBackslash
  | behindNameLetter
  | inName
deriving DecidableEq, Repr

-- The first piece of a text, or of a format if `inFormat` says so.
def Piece.ofChars (raw inFormat : Bool) (p : Place) : List Char → Except ExpressionFault Piece
  | [] => .ok ⟨[], [], false⟩
  | c :: cs =>
    let put (p : Place) := (ofChars raw inFormat p cs).map fun r => { r with text := c :: r.text }
    match p with
    | .inName           => put (if c = '\x7d' then .outside else .inName)
    | .behindNameLetter => put (if c = '\x7b' then .inName else .outside)
    | p =>
      if p = .behindBackslash ∧ c = 'N' then put .behindNameLetter
      else if c = '\x7b' ∨ c = '\x7d' then
        if inFormat then .ok ⟨[], c :: cs, false⟩
        else if cs.head? = some c then .ok ⟨[c], cs.drop 1, true⟩
        else if c = '\x7d' then .error (.template .strayBrace)
        else .ok ⟨[], c :: cs, false⟩
      else put (if c = '\\' ∧ !raw ∧ p = .outside then .behindBackslash else .outside)

-- The quotes around a character, and how many of them there are.
abbrev Quotes := Option (Char × Nat)

-- What fills a place, and the rest behind it. The first `skip` characters have been looked at.
def filling (quotes : Quotes) (bs : List Char) (skip : Nat) :
    List Char → Except TemplateFault (List Char × List Char)
  | [] =>
    match quotes, bs with
    | some _, _       => .error .unendedText
    | none, b :: _    => .error (.unmatched b)
    | none, []        => .error .unended
  | c :: cs =>
    let put (quotes : Quotes) (bs : List Char) (skip : Nat) :=
      (filling quotes bs skip cs).map fun (text, rest) => (c :: text, rest)
    if skip > 0 then put quotes bs (skip - 1)
    else if c = '\\' then .error .backslash
    else
      match quotes with
      | some (q, n) =>
        if c = q ∧ (List.replicate (n - 1) q).isPrefixOf cs then put none bs (n - 1)
        else put quotes bs 0
      | none =>
        if c = '\'' ∨ c = '"' then
          if [c, c].isPrefixOf cs then put (some (c, 3)) bs 2 else put (some (c, 1)) bs 0
        else if Token.opens c then
          if bs.length < Token.maxDepth then put none (c :: bs) 0 else .error .tooManyBrackets
        else if c = '#' then .error .comment
        else if bs.isEmpty ∧ ['!', '=', '<', '>'].contains c ∧ cs.head? = some '=' then put none bs 1
        else if bs.isEmpty ∧ ['!', ':', '\x7d', '='].contains c then .ok ([], c :: cs)
        else
          match Token.partner? c, bs with
          | none, bs         => put none bs 0
          | some _, []       => .error (.unmatched c)
          | some o, b :: bs' => if b = o then put none bs' 0 else .error (.mismatched c b)

def isBlank (c : Char) : Bool :=
  c = ' ' || c = '\t' || c = '\n' || c = '\x0c'

-- What follows an equals sign that shows the filling too.
def afterShown : List Char → List Char
  | '=' :: cs => cs.dropWhile fun c => isBlank c || c = '\x0b' || c = '\r'
  | cs        => cs

-- What follows a conversion.
def afterConversion : List Char → Except TemplateFault (List Char)
  | '!' :: c :: cs =>
    if c = 's' ∨ c = 'r' ∨ c = 'a' then .ok cs else .error .unknownConversion
  | '!' :: []      => .error .unended
  | cs             => .ok cs

-- Accepts a text, or a format `level` levels down in it, with fillings that `fill` accepts, and gives
-- what follows. Each step takes a character, so their number is fuel enough.
def accept (fill : List Char → Except ExpressionFault Unit) (raw : Bool) :
    Nat → Nat → List Char → Except ExpressionFault (List Char)
  | 0, _, cs => .ok cs
  | n + 1, level, cs => do
    let piece ← Piece.ofChars raw (0 < level) .outside cs
    if !raw then
      if let some f := TextFault.ofChars 0 piece.text then throw (.text f)
    if piece.goesOn then accept fill raw n level piece.rest
    else
      match piece.rest with
      | '\x7b' :: cs =>
        if 2 ≤ level then throw (.template .tooDeep)
        let (x, cs) ← (filling none [] 0 cs).mapError .template
        if x.all isBlank then
          throw (.template (if cs.head? = some '\x7d' then .empty else .emptyBefore (cs.headD ' ')))
        fill x
        let cs ← (afterConversion (afterShown cs)).mapError .template
        let cs ←
          match cs with
          | ':' :: c :: cs => accept fill raw n (level + 1) (c :: cs)
          | cs             => pure cs
        if cs.head? ≠ some '\x7d' then throw (.template .unended)
        accept fill raw n level (cs.drop 1)
      | cs =>
        if 0 < level ∧ cs.isEmpty then throw (.template .unended)
        return cs

end Template

-- Accepts what a template holds, with fillings that `fill` accepts. A place holds an expression, then maybe an
-- exclamation mark with a conversion, then maybe a colon with a format, in which there may be places again. Outside
-- of formats a brace that stands for itself is doubled.
def checkTemplate (fill : List Char → Except ExpressionFault Unit) (raw : Bool) (cs : List Char) :
    Except ExpressionFault Unit :=
  (Template.accept fill raw (cs.length + 1) 0 cs).map fun _ => ()

end ModuleDiscovery.Console.Handler
