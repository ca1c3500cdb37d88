import ModuleDiscovery.Console.Palette
import ModuleDiscovery.Json.Token
import ModuleDiscovery.Number.Numeral
import ModuleDiscovery.Text.Blank
import ModuleDiscovery.Text.Case
import ModuleDiscovery.Text.Split

namespace ModuleDiscovery.Console

open Number Text

-- What the words of a style say. They are attributes, which may be negated, a colour, a background colour behind
-- `on`, and a link.
structure Style where
  attributes : List (String × Bool)
  colour     : Option String
  background : Option String
  link       : Option String

namespace Style

-- Attributes in the order in which they are listed, with the words that stand for them.
def attributeWords : List (String × List String) := [
  ("bold", ["bold", "b"]), ("dim", ["dim", "d"]), ("italic", ["italic", "i"]),
  ("underline", ["underline", "u"]), ("blink", ["blink"]), ("blink2", ["blink2"]),
  ("reverse", ["reverse", "r"]), ("conceal", ["conceal", "c"]), ("strike", ["strike", "s"]),
  ("underline2", ["underline2", "uu"]), ("frame", ["frame"]), ("encircle", ["encircle"]),
  ("overline", ["overline", "o"])]

def attribute? (word : String) : Option String :=
  (attributeWords.find? (·.2.contains word)).map (·.1)

-- What stands in brackets behind a word, up to the end.
def inBrackets? (word : String) (cs : List Char) : Option (List Char) :=
  let opening := word.toList ++ ['(']
  if opening.isPrefixOf cs ∧ cs.getLast? = some ')' then some (cs.drop opening.length).dropLast
  else none

-- Whether a word is a colour by six hexadecimal digits.
def isHexColour : List Char → Bool
  | '#' :: ds => ds.length = 6 && ds.all fun d => (Text.hexValue? d).isSome
  | _         => false

-- Whether a word is a colour by its number in the palette.
def isNumberedColour (cs : List Char) : Bool :=
  (inBrackets? "color" cs).any fun ds =>
    0 < ds.length && ds.length ≤ 3 && ds.all (·.isDigit) && natOfDigits ds ≤ 255

-- Only digits and commas may stand in the brackets, but a part may be empty and is then no number.
-- Whether a word is a colour by its parts of red, green and blue, all of which have to be numbers.
def isMixedColour (cs : List Char) : Except NumeralFault Bool :=
  match inBrackets? "rgb" cs with
  | none       => .ok false
  | some inner =>
    let parts := splitAtChar ',' inner
    if !inner.isEmpty && parts.length = 3 && parts.all (·.all fun c => (digitValue? c).isSome) then
      (parts.mapM fun ds => readInt (String.ofList ds)).map fun ns => ns.all (· ≤ 255)
    else
      .ok false

def isColour (word : String) : Except NumeralFault Bool :=
  let cs := word.toList
  if Palette.names.contains word || isHexColour cs || isNumberedColour cs then .ok true
  else isMixedColour cs

def empty : Style := ⟨[], none, none, none⟩

def setAttribute (s : Style) (a : String) (b : Bool) : Style :=
  { s with attributes := (a, b) :: s.attributes.filter (·.1 ≠ a) }

-- Adds what the words say, `none` if they are no style.
def ofWords? (s : Style) : List String → Except NumeralFault (Option Style)
  | []      => .ok (some s)
  | w :: ws =>
    match lowerText w, ws with
    | "on", c :: ws => do
      if ← isColour (lowerText c) then ofWords? { s with background := some (lowerText c) } ws
      else return none
    | "not", a :: ws =>
      match attribute? a with
      | some a => ofWords? (s.setAttribute a false) ws
      | none   => .ok none
    | "link", l :: ws => ofWords? { s with link := some l } ws
    | w, ws =>
      match attribute? w with
      | some a => ofWords? (s.setAttribute a true) ws
      | none   => do
        if ← isColour w then ofWords? { s with colour := some w } ws else return none

def words (s : Style) : List String :=
  let attributes := attributeWords.filterMap fun (a, _) =>
    (s.attributes.lookup a).map fun on => if on then a else "not " ++ a
  attributes ++ s.colour.toList ++ (s.background.map ("on " ++ ·)).toList ++
    (s.link.map ("link " ++ ·)).toList

end Style

def splitWords (cs : List Char) : List (List Char) :=
  (go cs).filter (!·.isEmpty)
where
  go : List Char → List (List Char)
    | []      => [[]]
    | c :: cs =>
      if isBlank c then [] :: go cs
      else
        match go cs with
        | []      => [[c]]
        | w :: ws => (c :: w) :: ws

-- The normal form of a style, so that a tag closes it whatever words it was opened with. What is no style is its own
-- name.
def styleName (cs : List Char) : Except NumeralFault String := do
  let words := (splitWords cs).map String.ofList
  if words.isEmpty ∨ words = ["none"] then
    return "none"
  match ← Style.empty.ofWords? words with
  | some s => return " ".intercalate s.words
  | none   => return String.ofList (lowerCase (stripEnds isBlank cs))

end ModuleDiscovery.Console
