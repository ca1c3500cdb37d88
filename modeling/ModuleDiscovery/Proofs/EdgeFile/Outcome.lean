import ModuleDiscovery.EdgeFile.Load
import ModuleDiscovery.Proofs.Files.NullCharacter
import ModuleDiscovery.Proofs.Json.Limits
import ModuleDiscovery.Proofs.Text.Utf8

namespace ModuleDiscovery.EdgeFile

open Text

variable {files : Files.Tree} {start : Files.Location} {path text : String} {v : Value}

section Contents

-- The text of the file behind a path.
def textAt (files : Files.Tree) (start : Files.Location) (path : String) : Option String := do
  let content ← (files.read start (Files.pathText path)).toOption
  let s ← (decodeUtf8 content).toOption
  return String.ofList (unifyLineEnds s.toList)

-- The document that the file behind a path holds.
def documentAt (files : Files.Tree) (start : Files.Location) (path : String) : Option Value := do
  (documentOf (← textAt files start path)).toOption

theorem load_of_textAt (h : textAt files start path = some text) :
    load files start path = callsOfText (Files.pathText path) text := by
  simp only [textAt, Option.bind_eq_bind, Option.bind_eq_some_iff, toOption_eq_some] at h
  obtain ⟨content, hr, s, hs, ⟨⟩⟩ := h
  simp only [load, hr, hs]

theorem load_of_documentAt (h : documentAt files start path = some v) :
    load files start path = callsOf (Files.pathText path) v := by
  have ⟨text, ht, hv⟩ := Option.bind_eq_some_iff.mp h
  rw [load_of_textAt ht, callsOfText, toOption_eq_some.mp hv]

end Contents

-- What loading is said to come to.
inductive Documented : Except Failure (List Call) → Prop
  | loaded cs              : Documented (.ok cs)
  | unreadable path reason : Documented (.error (.refused (.edgeFile path reason)))
  | malformed path reason  : Documented (.error (.refused (.edgeFormat path reason)))

-- What else it comes to: a failure of the path, of the bytes, or of a document that is given up for its size.
inductive Escapes : Failure → Prop
  | nullCharacter {f} : f.kind = .nullCharacter → Escapes (.file f)
  | notUtf8 f         : Escapes (.notUtf8 f)
  | longInteger n     : Escapes (.numeral (.tooManyDigits n))
  | tooDeep activity  : Escapes (.tooDeep activity)

end ModuleDiscovery.EdgeFile
