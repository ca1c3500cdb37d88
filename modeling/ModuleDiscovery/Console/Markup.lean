import ModuleDiscovery.Console.Handler
import ModuleDiscovery.Console.Picture
import ModuleDiscovery.Console.StyleName

namespace ModuleDiscovery.Console

open Text

inductive MarkupFault
  -- A tag closes a style that is not open.
  | notOpen (tag : String) (offset : Nat)
  -- A tag closes the last style, and none is open.
  | nothingOpen (offset : Nat)
  -- A handler cannot be called as stated.
  | handler (f : Handler.Fault)
  -- A part of a colour is no number.
  | colour (f : Number.NumeralFault)
deriving DecidableEq, Repr

def MarkupFault.message : MarkupFault → String
  | notOpen tag n => s!"closing tag '{tag}' at position {n} doesn't match any open tag"
  | nothingOpen n => s!"closing tag '[/]' at position {n} has nothing to close"
  | handler f     => f.message
  | colour f      => f.message

-- A fault in a text, with its offset counted in what the text stands for.
def MarkupFault.within (cs : List Char) : MarkupFault → MarkupFault
  | notOpen tag n => notOpen tag (units (cs.take n)).length
  | nothingOpen n => nothingOpen (units (cs.take n)).length
  | f             => f

namespace Markup

inductive Piece
  | text    (cs : List Char)
  -- What backslashes and a tag behind them stand for.
  | literal (cs : List Char)
  | tag     (body : List Char) (offset : Nat)
deriving DecidableEq, Repr

def startsTag (c : Char) : Bool :=
  ('a' ≤ c && c ≤ 'z') || c = '#' || c = '/' || c = '@'

-- The body of a tag at the front, and what follows the tag. A tag is a bracketed piece that starts with a small
-- letter, `#`, `/` or `@` and holds no further opening bracket.
def tag? : List Char → Option (List Char × List Char)
  | '[' :: c :: cs =>
    let body := cs.takeWhile fun c => c ≠ '[' ∧ c ≠ ']'
    match cs.drop body.length with
    | ']' :: rest => if startsTag c then some (c :: body, rest) else none
    | _           => none
  | _ => none

theorem length_lt_of_tag? {cs : List Char} {p : List Char × List Char} (h : tag? cs = some p) :
    p.2.length < cs.length := by
  unfold tag? at h
  split at h
  case h_2 => cases h
  case h_1 c cs =>
    dsimp only at h
    split at h
    case h_2 => cases h
    case h_1 rest hd =>
      split at h
      case isFalse => cases h
      case isTrue =>
        obtain rfl := Option.some.inj h
        have hl := congrArg List.length hd
        simp only [List.length_drop, List.length_cons] at hl ⊢
        omega

def addText (c : Char) : List Piece → List Piece
  | .text cs :: ps => .text (c :: cs) :: ps
  | ps             => .text [c] :: ps

-- The pieces that `n` backslashes and a tag behind them make. If they are odd in number the tag is plain text; of the
-- others each two stand for one.
def tagPieces (n offset : Nat) (body : List Char) : List Piece :=
  let slashes := if n < 2 then [] else [.literal (List.replicate (n / 2) '\\')]
  let final :=
    if n % 2 = 1 then Piece.literal ('[' :: body ++ [']']) else .tag body (offset + n)
  slashes ++ [final]

-- In front of a bracket that starts no tag, one backslash may be written that does not count.
-- The pieces of a text, the first character of which has the given offset.
def pieces (offset : Nat) (cs : List Char) : List Piece :=
  match cs with
  | [] => []
  | c :: cs =>
    let n := ((c :: cs).takeWhile (· = '\\')).length
    match h : tag? ((c :: cs).drop n) with
    | some p => tagPieces n offset p.1 ++ pieces (offset + n + p.1.length + 2) p.2
    | none =>
      if c = '\\' ∧ cs.head? = some '[' then pieces (offset + 1) cs
      else addText c (pieces (offset + 1) cs)
termination_by cs.length
decreasing_by
  · have := length_lt_of_tag? h
    simp only [List.length_drop, List.length_cons] at this ⊢
    omega
  all_goals simp

-- The name of a tag, and what is stated behind an equals sign if there is one.
def nameAndStated (body : List Char) : List Char × Option (List Char) :=
  let name := body.takeWhile (· ≠ '=')
  (name, if name.length < body.length then some (body.drop (name.length + 1)) else none)

-- A tag that is open: the normal form of its name, and what it states.
structure OpenTag where
  name   : String
  stated : Option (List Char)
deriving DecidableEq, Repr

namespace OpenTag

def isHandler (t : OpenTag) : Bool :=
  t.name.toList.head? = some '@'

-- Looks at a tag that is closed. A handler has to be callable unless nothing is stated for it.
def check (t : OpenTag) : Except MarkupFault Unit :=
  match t.stated with
  | some (c :: cs) => if t.isHandler then (Handler.check (c :: cs)).mapError .handler else .ok ()
  | _              => .ok ()

def style (t : OpenTag) : List Char :=
  t.name.toList ++ (t.stated.map (' ' :: ·)).getD []

end OpenTag

def normalName (cs : List Char) : Except MarkupFault String :=
  (styleName cs).mapError .colour

-- The tag that a body opens.
def openTag (body : List Char) : Except MarkupFault OpenTag :=
  let (name, stated) := nameAndStated body
  (normalName name).map (⟨·, stated⟩)

-- The tags that are open after a tag, the last one first. A slash closes a tag that is open.
def applyTag (body : List Char) (offset : Nat) (unclosed : List OpenTag) :
    Except MarkupFault (List OpenTag) :=
  match (nameAndStated body).1 with
  | '/' :: name =>
    if (stripEnds isBlank name).isEmpty then
      match unclosed with
      | []        => .error (.nothingOpen offset)
      | t :: rest => t.check.map fun _ => rest
    else do
      let n ← normalName name
      match unclosed.find? (·.name = n) with
      | some t => t.check.map fun _ => unclosed.eraseP (·.name = n)
      | none   => throw (.notOpen (String.ofList ('[' :: body ++ [']'])) offset)
  | _ => (openTag body).map (· :: unclosed)

-- What stands in front between two colons, without white space.
def code? : List Char → Option (List Char)
  | ':' :: cs =>
    let code := cs.takeWhile fun c => c ≠ ':' ∧ !isBlank c
    if cs[code.length]? = some ':' then some code else none
  | _ => none

-- What may stand behind the name of a picture: the sign that asks for it as text, or in colours.
def variants : List (String × Char) := [("-text", '\ufe0e'), ("-emoji", '\ufe0f')]

-- What a code stands for, if it is the code of a picture.
def picture? (code : List Char) : Option (List Char) :=
  let variant := variants.findSome? fun (ending, sign) =>
    (Picture.before? ending.toList code).map (·, [sign])
  let (name, signs) := variant.getD (code, [])
  (Picture.ofName? name).map (· ++ signs)

-- Replaces picture codes in a text, of which the first `skip` characters stay as they are. A colon
-- belongs to one code only.
def replacePictures (skip : Nat) (cs : List Char) : List Char :=
  match cs with
  | [] => []
  | c :: cs =>
    if skip > 0 then c :: replacePictures (skip - 1) cs
    else
      match code? (c :: cs) with
      | none      => c :: replacePictures 0 cs
      | some code =>
        match picture? code with
        | some p => p ++ replacePictures 0 (cs.drop (code.length + 1))
        | none   => c :: replacePictures (code.length + 1) cs
termination_by cs.length
decreasing_by all_goals simp; try omega

-- Controls that terminals act upon, and that are left out: bell, backspace, vertical tab, form feed,
-- carriage return.
def isStripped (c : Char) : Bool :=
  c ∈ ['\x07', '\x08', '\x0b', '\x0c', '\x0d']

def shownText (cs : List Char) : List Char :=
  (replacePictures 0 cs).filter (!isStripped ·)

-- The text that pieces show, given the tags that are open.
def textOfPieces (unclosed : List OpenTag) : List Piece → Except MarkupFault (List Char)
  | []                       => .ok []
  | .text cs :: ps           => (textOfPieces unclosed ps).map (shownText cs ++ ·)
  | .literal cs :: ps        => (textOfPieces unclosed ps).map (shownText cs ++ ·)
  | .tag body offset :: ps   => do textOfPieces (← applyTag body offset unclosed) ps

def plain (cs : List Char) : Except MarkupFault (List Char) :=
  (textOfPieces [] (pieces 0 cs)).mapError (·.within cs)

-- Looks at the style that a tag sets, which is done only when its text is shown.
def checkStyle : Piece → Except MarkupFault Unit
  | .tag body _ =>
    if body.head? = some '/' then .ok ()
    else do
      let t ← openTag body
      let _ ← normalName t.style
      return ()
  | _ => .ok ()

-- Looks at the styles that tags set.
def checkStyles (cs : List Char) : Except MarkupFault Unit :=
  (pieces 0 cs).forM checkStyle

def shown (cs : List Char) : Except MarkupFault (List Char) := do
  let text ← plain cs
  checkStyles cs
  return text

end Markup
end ModuleDiscovery.Console
