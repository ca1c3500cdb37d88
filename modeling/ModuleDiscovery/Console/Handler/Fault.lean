import ModuleDiscovery.Console.Handler.Escape
import ModuleDiscovery.Console.Handler.Token
import ModuleDiscovery.Number.Numeral

namespace ModuleDiscovery.Console.Handler

inductive TemplateFault
  | unended
  | strayBrace
  | empty
  -- Nothing stands in front of a character that ends what fills a place.
  | emptyBefore (c : Char)
  | backslash
  | comment
  | unendedText
  | tooManyBrackets
  | unmatched (bracket : Char)
  | mismatched (closing opening : Char)
  | unknownConversion
  | tooDeep
deriving DecidableEq, Repr

namespace TemplateFault

-- All but two of them are headed like the faults of what fills a place.
def message : TemplateFault → String
  | unended           => "f-string: expecting '\x7d'"
  | strayBrace        => "f-string: single '\x7d' is not allowed"
  | empty             => "f-string: empty expression not allowed"
  | emptyBefore c     => s!"f-string: expression required before '{c}'"
  | backslash         => "f-string expression part cannot include a backslash"
  | comment           => "f-string expression part cannot include '#'"
  | unendedText       => "f-string: unterminated string"
  | tooManyBrackets   => "f-string: too many nested parenthesis"
  | unmatched c       => s!"f-string: unmatched '{c}'"
  | mismatched c o    =>
    s!"f-string: closing parenthesis '{c}' does not match opening parenthesis '{o}'"
  | unknownConversion => "f-string: invalid conversion character: expected 's', 'r', or 'a'"
  | tooDeep           => "f-string: expressions nested too deeply"

end TemplateFault

inductive ExpressionFault
  | token (f : TokenFault)
  | malformed
  -- White space in front of a line that starts nothing new.
  | indented
  | missingComma
  | missingElse
  | singleEquals
  | notComparable (kind : String)
  | notNameable   (kind : String)
  -- Values cannot be given to an expression of that kind.
  | notAssignable (kind : String)
  -- A command of old that has become a function.
  | commandOfOld  (name : String)
  | assignedArgument
  | afterNamed
  | afterTable
  | starredAfterTable
  | bareGenerator
  | strayStar
  | starredAlone
  | doubleStarredAlone
  | starredEntry
  | starredLoop
  | doubleStarredLoop
  | bareLoopValue
  | missingEntry
  | missingColon
  | missingDefault
  | withoutDefault
  | bracketedParameters
  | nothingBeforeSlash
  | secondSlash
  | slashAfterStar
  | missingCommaAfterSlash
  | bareStar
  | secondStar
  | starWithDefault
  | doubleStarWithDefault
  | afterDoubleStar
  | mixedTexts
  | text (f : TextFault)
  | template (f : TemplateFault)
  -- A fault of what fills a place of a template.
  | inTemplate (f : ExpressionFault)
  | tokenInTemplate (f : TokenFault)
  | nullCharacter
  | longInt (digits : Nat)
deriving DecidableEq, Repr

namespace ExpressionFault

def message : ExpressionFault → String
  | token f                => f.message
  | malformed              => "invalid syntax"
  | indented               => "unexpected indent"
  | missingComma           => "invalid syntax. Perhaps you forgot a comma?"
  | missingElse            => "expected 'else' after 'if' expression"
  | singleEquals           => "invalid syntax. Maybe you meant '==' or ':=' instead of '='?"
  | notComparable k        => s!"cannot assign to {k} here. Maybe you meant '==' instead of '='?"
  | notNameable k          => s!"cannot use assignment expressions with {k}"
  | notAssignable k        => s!"cannot assign to {k}"
  | commandOfOld n         => s!"Missing parentheses in call to '{n}'. Did you mean {n}(...)?"
  | assignedArgument       => "expression cannot contain assignment, perhaps you meant \"==\"?"
  | afterNamed             => "positional argument follows keyword argument"
  | afterTable             => "positional argument follows keyword argument unpacking"
  | starredAfterTable      => "iterable argument unpacking follows keyword argument unpacking"
  | bareGenerator          => "Generator expression must be parenthesized"
  | strayStar              => "Invalid star expression"
  | starredAlone           => "cannot use starred expression here"
  | doubleStarredAlone     => "cannot use double starred expression here"
  | starredEntry           => "cannot use a starred expression in a dictionary value"
  | starredLoop            => "iterable unpacking cannot be used in comprehension"
  | doubleStarredLoop      => "dict unpacking cannot be used in dict comprehension"
  | bareLoopValue          => "did you forget parentheses around the comprehension target?"
  | missingEntry           => "expression expected after dictionary key and ':'"
  | missingColon           => "':' expected after dictionary key"
  | missingDefault         => "expected default value expression"
  | withoutDefault         => "non-default argument follows default argument"
  | bracketedParameters    => "Lambda expression parameters cannot be parenthesized"
  | nothingBeforeSlash     => "at least one argument must precede /"
  | secondSlash            => "/ may appear only once"
  | slashAfterStar         => "/ must be ahead of *"
  | missingCommaAfterSlash => "expected comma between / and *"
  | bareStar               => "named arguments must follow bare *"
  | secondStar             => "* argument may appear only once"
  | starWithDefault        => "var-positional argument cannot have default value"
  | doubleStarWithDefault  => "var-keyword argument cannot have default value"
  | afterDoubleStar        => "arguments cannot follow var-keyword argument"
  | mixedTexts             => "cannot mix bytes and nonbytes literals"
  | text f                 => f.message
  | template f             => f.message
  | inTemplate f           => "f-string: " ++ f.message
  | tokenInTemplate f      => f.message
  | nullCharacter          => "source code string cannot contain null bytes"
  | longInt n              =>
    (Number.NumeralFault.tooManyDigits n).message ++
      " - Consider hexadecimal for huge integer literals to avoid decimal conversion limits."

-- A fault as it is reported where the expression fills a place of a template.
def inFilling : ExpressionFault → ExpressionFault
  | token f           => tokenInTemplate f
  | tokenInTemplate f => tokenInTemplate f
  | inTemplate f      => inTemplate f
  | f                 => inTemplate f

end ExpressionFault
end ModuleDiscovery.Console.Handler
