import ModuleDiscovery.Text.Quoted
import ModuleDiscovery.Text.Word

namespace ModuleDiscovery.Console.Handler

open Text

inductive TokenFault
  -- A text in quotes does not end; the line in which that is seen.
  | unendedText      (line : Nat)
  -- The same for a text in three quotes, which may have several lines.
  | unendedLongText  (line : Nat)
  -- A number goes on with what is no part of a number of its kind.
  | malformedNumber  (kind : String)
  | foreignDigit     (digit : Char) (kind : String)
  | leadingZeros
  | foreignCharacter (c : Char)
  | strayBackslash
  | tooManyBrackets
  | unopened         (closing : Char)
  -- A bracket is closed by one of another kind; the line of the first if it is not that of the second.
  | mismatched       (closing opening : Char) (line : Option Nat)
  | neverClosed      (opening : Char)
deriving DecidableEq, Repr

namespace TokenFault

def message : TokenFault → String
  | unendedText n       => s!"unterminated string literal (detected at line {n})"
  | unendedLongText n   => s!"unterminated triple-quoted string literal (detected at line {n})"
  | malformedNumber k   => s!"invalid {k} literal"
  | foreignDigit d k    => s!"invalid digit '{d}' in {k} literal"
  | leadingZeros        =>
    "leading zeros in decimal integer literals are not permitted; " ++
      "use an 0o prefix for octal integers"
  | foreignCharacter c  =>
    let code := String.ofList ((hex 4 c.toNat).map Char.toUpper)
    if isPrintable c then s!"invalid character '{c}' (U+{code})"
    else s!"invalid non-printable character U+{code}"
  | strayBackslash      => "unexpected character after line continuation character"
  | tooManyBrackets     => "too many nested parentheses"
  | unopened c          => s!"unmatched '{c}'"
  | mismatched c o line =>
    let place := (line.map fun n => s!" on line {n}").getD ""
    s!"closing parenthesis '{c}' does not match opening parenthesis '{o}'{place}"
  | neverClosed o       => s!"'{o}' was never closed"

end TokenFault

inductive Token.Shape
  | name (s : String)
  -- A number; `digits` is their number if it is a decimal integer and zero else.
  | number (imaginary : Bool) (digits : Nat)
  -- A text in quotes, with the small forms of the letters in front of it.
  | text (lead content : List Char)
  | op (s : String)
  | newline
  -- White space in front of a line outside of brackets, where there is more of it than before.
  | indent
  | finish
  | fault (f : TokenFault)
deriving DecidableEq, Repr

-- The brackets that are open, with their lines, the last one first.
abbrev Brackets := List (Char × Nat)

-- Whether a token ends where the next character is none of it. Others show their ends themselves.
def Token.Shape.isOpenEnded : Shape → Bool
  | text _ _ => false
  | op s     => s.length < 3
  | _        => true

-- A token, with the line in which it starts and the brackets that are open behind it.
structure Token where
  shape    : Token.Shape
  line     : Nat
  brackets : Brackets
  -- Whether the end of the text has been met where the token ends.
  atEnd    : Bool

namespace Token

section Numbers

-- What follows digits, between which single underscores may stand. The fault is what follows an
-- underscore instead of a digit.
def afterDigits (p : Char → Bool) : List Char → Except (List Char) (List Char)
  | [] => .ok []
  | c :: cs =>
    if c = '_' then
      if cs.head?.any p then afterDigits p cs else .error cs
    else if p c then afterDigits p cs
    else .ok (c :: cs)

-- Words that may follow a number without a space.
def wordsBehind : List (List Char) :=
  ["and", "else", "for", "or", "not"].map String.toList

-- The first two letters of further such words, whatever follows them.
def startsBehind : List (List Char) :=
  ["if", "in", "is"].map String.toList

-- Whether a character belongs to a run that is taken as a name, for better or worse.
def inRun (c : Char) : Bool :=
  c.isAlphanum || c = '_' || 0x80 ≤ c.toNat

def endNumber (kind : String) (rest : List Char) : Except TokenFault (List Char) :=
  if wordsBehind.contains (rest.takeWhile inRun) ∨ startsBehind.any (·.isPrefixOf rest) then .ok rest
  else if rest.head?.any fun c => c.isAlphanum || c = '_' then .error (.malformedNumber kind)
  else .ok rest

-- What follows a number with a base, of which the base has been read.
def afterBased (kind : String) (p : Char → Bool) (cs : List Char) : Except TokenFault (List Char) :=
  let digits := if cs.head?.any fun c => p c || c = '_' then afterDigits p cs else .error cs
  match digits with
  | .ok rest | .error rest =>
    match rest.head?.filter Char.isDigit, digits with
    | some d, _    => .error (.foreignDigit d kind)
    | none, .ok _  => endNumber kind rest
    | none, _      => .error (.malformedNumber kind)

def isHexDigit (c : Char) : Bool :=
  c.isDigit || ('a' ≤ c.toLower && c.toLower ≤ 'f')

def afterDecimals (cs : List Char) : Except TokenFault (List Char) :=
  (afterDigits Char.isDigit cs).mapError fun _ => .malformedNumber "decimal"

-- What follows the end of a number behind its fraction, and whether the number is imaginary.
def afterUnit : List Char → Except TokenFault (List Char × Bool)
  | c :: cs =>
    if c.toLower = 'j' then (endNumber "imaginary" cs).map (·, true)
    else (endNumber "decimal" (c :: cs)).map (·, false)
  | [] => .ok ([], false)

-- The same, in front of the exponent.
def afterExponent : List Char → Except TokenFault (List Char × Bool)
  | c :: cs =>
    if c.toLower ≠ 'e' then afterUnit (c :: cs)
    else
      let signed := cs.head?.any fun c => c = '+' || c = '-'
      let digits := if signed then cs.drop 1 else cs
      if digits.head?.any Char.isDigit then afterDecimals digits >>= afterUnit
      else if signed then .error (.malformedNumber "decimal")
      else (endNumber "decimal" (c :: cs)).map (·, false)
  | [] => .ok ([], false)

-- The same, in front of the digits of the fraction.
def afterPoint (cs : List Char) : Except TokenFault (List Char × Bool) :=
  if cs.head?.any Char.isDigit then afterDecimals cs >>= afterExponent else afterExponent cs

def decimal (cs : List Char) : Except TokenFault (Shape × List Char) := do
  let rest ← afterDecimals cs
  let digits := (cs.take (cs.length - rest.length)).filter Char.isDigit
  match rest with
  | '.' :: rest => return real (← afterPoint rest)
  | c :: _      =>
    if c.toLower = 'e' ∨ c.toLower = 'j' then return real (← afterExponent rest)
  | []          => pure ()
  if digits.head? = some '0' ∧ digits.any (· ≠ '0') then throw .leadingZeros
  return (.number false digits.length, ← endNumber "decimal" rest)
where
  real (r : List Char × Bool) : Shape × List Char := (.number r.2 0, r.1)

def number : List Char → Except TokenFault (Shape × List Char)
  | '.' :: cs      => (afterPoint cs).map fun (rest, i) => (.number i 0, rest)
  | '0' :: c :: cs =>
    match c.toLower with
    | 'x' => (afterBased "hexadecimal" isHexDigit cs).map (.number false 0, ·)
    | 'o' => (afterBased "octal" (fun d => '0' ≤ d && d ≤ '7') cs).map (.number false 0, ·)
    | 'b' => (afterBased "binary" (fun d => d = '0' || d = '1') cs).map (.number false 0, ·)
    | _   => decimal ('0' :: c :: cs)
  | cs             => decimal cs

end Numbers

section Texts

-- What follows a text in single quotes `q`, from behind the opening one. The fault is the number of
-- lines that it runs over without an end.
def afterText (q : Char) : List Char → Except Nat (List Char)
  | []                 => .error 0
  | '\\' :: '\n' :: cs => (afterText q cs).mapError (· + 1)
  | '\\' :: _ :: cs    => afterText q cs
  | c :: cs            => if c = q then .ok cs else if c = '\n' then .error 0 else afterText q cs

-- The same for three quotes.
def afterLongText (q : Char) : List Char → Except Nat (List Char)
  | []              => .error 0
  | '\\' :: c :: cs => (afterLongText q cs).mapError (· + if c = '\n' then 1 else 0)
  | c :: cs         =>
    if c = q ∧ [q, q].isPrefixOf cs then .ok (cs.drop 2)
    else (afterLongText q cs).mapError (· + if c = '\n' then 1 else 0)

-- The shape of a text with letters `lead` in front of it, and what follows it.
def text (line : Nat) (lead : List Char) (q : Char) (cs : List Char) :
    Except TokenFault (Shape × List Char) := do
  let isLong := [q, q].isPrefixOf cs
  let quotes := if isLong then 3 else 1
  let cs := cs.drop (quotes - 1)
  let rest ←
    if isLong then (afterLongText q cs).mapError (.unendedLongText <| line + ·)
    else (afterText q cs).mapError (.unendedText <| line + ·)
  return (.text lead (cs.take (cs.length - rest.length - quotes)), rest)

-- The letters that may stand in front of a text.
def leads : List (List Char) :=
  ["b", "u", "r", "f", "br", "rb", "fr", "rf"].map String.toList

-- Letters in front of a text, its quote and what follows that.
def lead? (cs : List Char) : Option (List Char × Char × List Char) :=
  let letters := (cs.takeWhile Char.isAlpha).map Char.toLower
  match cs.drop letters.length with
  | q :: rest =>
    if (q = '"' ∨ q = '\'') ∧ (letters.isEmpty ∨ leads.contains letters) then some (letters, q, rest)
    else none
  | [] => none

end Texts

section Operators

def longOperators : List (List Char) := [
  "**=", "//=", ">>=", "<<=", "...", "**", "//", ">>", "<<", "==", "!=", "<=", ">=", "->", "+=", "-=",
  "*=", "/=", "%=", "&=", "|=", "^=", "@=", ":=", "<>"].map String.toList

-- The operator at the front; any other character counts as one too.
def operator (cs : List Char) : List Char :=
  (longOperators.find? (·.isPrefixOf cs)).getD (cs.take 1)

def maxDepth : Nat := 200

def opens (c : Char) : Bool :=
  c = '(' || c = '{' || c = '['

-- The bracket that a bracket closes.
def partner? : Char → Option Char
  | ')' => some '('
  | '}' => some '{'
  | ']' => some '['
  | _   => none

-- The brackets that are open behind a character.
def bracketsBehind (line : Nat) (c : Char) (bs : Brackets) : Except TokenFault Brackets :=
  if opens c then
    if bs.length < maxDepth then .ok ((c, line) :: bs) else .error .tooManyBrackets
  else
    match partner? c, bs with
    | none, bs              => .ok bs
    | some _, []            => .error (.unopened c)
    | some o, (b, n) :: bs' =>
      if b = o then .ok bs' else .error (.mismatched c b (if n = line then none else some n))

end Operators

-- A name, with the fault of the first character that may not stand where it does.
def name (cs : List Char) : Except TokenFault Shape :=
  match cs with
  | [] => .ok (.name "")
  | c :: rest =>
    if !startsName c then .error (.foreignCharacter c)
    else
      match rest.find? (!isNameChar ·) with
      | some d => .error (.foreignCharacter d)
      | none   => .ok (.name (String.ofList cs))

-- The shape of what stands at the front, which is no white space, and what follows it.
def shapeAt (line : Nat) (cs : List Char) : Except TokenFault (Shape × List Char) :=
  let run := cs.takeWhile inRun
  match lead? cs with
  | some (lead, q, rest) => text line lead q rest
  | none =>
    if cs.head?.any Char.isDigit || (cs.head? = some '.' && (cs.drop 1).head?.any Char.isDigit) then
      number cs
    else if !run.isEmpty then
      (name run).map (·, cs.drop run.length)
    else
      match cs.head?.filter (!isPrintable ·) with
      | some c => .error (.foreignCharacter c)
      | none   => .ok (.op (String.ofList (operator cs)), cs.drop (operator cs).length)

def isSpace (c : Char) : Bool :=
  c = ' ' || c = '\t' || c = '\x0c'

section Lines

-- How far a line is indented. Tabs can be counted in two ways, and both are kept.
abbrev Indent := Nat × Nat

-- The indents of the lines that the line at hand belongs to, the last one first.
abbrev Indents := List Indent

-- The indent of a line that is at `i` already, nothing if the line holds no token. The first of several
-- lines that are joined by backslashes counts, unless it is not indented.
def indent? (i : Indent) (joined : Nat) : List Char → Option Indent
  | []                 => none
  | '\\' :: '\n' :: cs => indent? i (if joined = 0 then i.1 else joined) cs
  | c :: cs            =>
    if c = ' ' then indent? (i.1 + 1, i.2 + 1) joined cs
    else if c = '\t' then indent? ((i.1 / 8 + 1) * 8, i.2 + 1) joined cs
    else if c = '\x0c' then indent? (0, 0) joined cs
    else if c = '\n' ∨ c = '#' ∨ c = '\\' then none
    else some (if joined = 0 then i else (joined, joined))

def maxIndents : Nat := 98

-- The indents behind the start of a line, and whether there is one more of them. Nothing if the line is
-- in none of the places where it may start.
def Indents.enter? (i : Indent) (is : Indents) : Option (Bool × Indents) :=
  let last := is.head?.getD (0, 0)
  if last.1 < i.1 then
    if last.2 < i.2 ∧ is.length ≤ maxIndents then some (true, i :: is) else none
  else
    let is := is.dropWhile (i.1 < ·.1)
    if i = is.head?.getD (0, 0) then some (false, is) else none

-- The same for a line of which all characters are given.
def Indents.behind? (is : Indents) (cs : List Char) : Option (Bool × Indents) :=
  match indent? (0, 0) 0 cs with
  | none   => some (false, is)
  | some i => is.enter? i

end Lines

-- The tokens of a text, the first `skip` characters of which belong to a token already made. `fresh`
-- tells whether the line holds no token so far. Nothing is read behind a line that starts in a wrong
-- place.
def scanFrom (line skip : Nat) (fresh : Bool) (is : Indents) (bs : Brackets) : List Char → List Token
  | [] =>
    match bs with
    | []          => (if fresh then [] else [⟨.newline, line, [], false⟩]) ++ [⟨.finish, line, [], false⟩]
    | (b, _) :: _ => [⟨.fault (.neverClosed b), line, bs, false⟩]
  | c :: cs =>
    let next := if c = '\n' then line + 1 else line
    if skip > 0 then
      scanFrom next (skip - 1) fresh is bs cs
    else if c = '\n' then
      if !bs.isEmpty then scanFrom next 0 fresh is bs cs
      else
        (if fresh then [] else [⟨.newline, line, [], false⟩]) ++
          match is.behind? cs with
          | none              => [⟨.finish, next, [], false⟩]
          | some (isMore, is) =>
            (if isMore then [⟨.indent, next, [], false⟩] else []) ++ scanFrom next 0 true is bs cs
    else if isSpace c then
      scanFrom next 0 fresh is bs cs
    else if c = '#' then
      scanFrom next (cs.takeWhile (· ≠ '\n')).length fresh is bs cs
    else if c = '\\' then
      if cs.head? = some '\n' then scanFrom next 1 fresh is bs cs
      else [⟨.fault .strayBackslash, line, bs, false⟩]
    else
      match shapeAt line (c :: cs), bracketsBehind line c bs with
      | .error f, _ | _, .error f  => [⟨.fault f, line, bs, false⟩]
      | .ok (shape, rest), .ok bs' =>
        ⟨shape, line, bs', rest.isEmpty && shape.isOpenEnded⟩ :: scanFrom next (cs.length - rest.length) false is bs' cs

-- The tokens of a text, which end with `finish`, or with the fault that keeps the rest of it from being cut into
-- tokens. An open bracket at the end is such a fault too.
def scan (cs : List Char) : List Token :=
  match Indents.behind? [] cs with
  | none              => [⟨.finish, 1, [], false⟩]
  | some (isMore, is) => (if isMore then [⟨.indent, 1, [], false⟩] else []) ++ scanFrom 1 0 true is [] cs

end Token
end ModuleDiscovery.Console.Handler
