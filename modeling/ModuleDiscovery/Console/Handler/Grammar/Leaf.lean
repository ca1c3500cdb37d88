import ModuleDiscovery.Console.Handler.Reader
import ModuleDiscovery.Console.Handler.Template

namespace ModuleDiscovery.Console.Handler.Grammar

open Reader

section Texts

def isBytes (lead : List Char) : Bool :=
  lead.contains 'b'

def isRaw (lead : List Char) : Bool :=
  lead.contains 'r'

def isTemplate (lead : List Char) : Bool :=
  lead.contains 'f'

-- The fault of what a text holds. There are no escapes in a raw text.
def textFault? (lead content : List Char) : Option TextFault :=
  if isTemplate lead then none
  else if isBytes lead ∧ !content.all TextFault.isAscii then some .foreignByte
  else if isRaw lead then none
  else if isBytes lead then TextFault.ofBytes 0 content
  else TextFault.ofChars 0 content

-- Accepts texts that can be joined: all of them are in bytes, or none is.
def checkTexts (fill : List Char → Except ExpressionFault Unit) (bytes : Bool) :
    List (List Char × List Char) → Except ExpressionFault Unit
  | []                       => .ok ()
  | (lead, content) :: texts => do
    if let some f := textFault? lead content then throw (.text f)
    if isBytes lead ≠ bytes then throw .mixedTexts
    if isTemplate lead then checkTemplate fill (isRaw lead) content
    checkTexts fill bytes texts

def text : Reader (List Char × List Char) := do
  match (← next).shape with
  | .text lead content => return (lead, content)
  | _                  => miss

def ofExcept {α} : Except ExpressionFault α → Reader α
  | .ok x    => pure x
  | .error f => fault f

def filler : Reader (List Char → Except ExpressionFault Unit) :=
  fun s p => (.found s.fill, p)

-- Texts that follow each other are one.
def texts : Reader Expression := do
  let ts ← text.many1
  ofExcept (checkTexts (← filler) ((ts.head?.map (isBytes ·.1)).getD false) ts)
  return if ts.any (isTemplate ·.1) then .template else .text

end Texts

def number : Reader Expression := do
  match (← next).shape with
  | .number i digits =>
    if Number.maxIntDigits < digits then fault (.longInt digits) else return .number i
  | _ => miss

def constant : Reader Expression :=
  ["True", "False", "None"].foldl (fun r w => r <|> (word w *> pure (.constant w))) miss

def ellipsis : Reader Expression := do
  op "..."
  return .ellipsis

end ModuleDiscovery.Console.Handler.Grammar
