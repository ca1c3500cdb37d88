import ModuleDiscovery.Text.Surrogate

namespace ModuleDiscovery.Text

def isLineEnd (c : Char) : Bool :=
  c ∈ ['\n', '\x0b', '\x0c', '\r', '\x1c', '\x1d', '\x1e', '\u0085', '\u2028', '\u2029']

-- The lines of a text without their ends. A carriage return with a line feed ends one line, and a line
-- end at the very end of the text starts no further line.
def splitLines : List Char → List (List Char)
  | []                => []
  | '\r' :: '\n' :: cs => [] :: splitLines cs
  | c :: cs           =>
    if isLineEnd c then
      [] :: splitLines cs
    else
      match splitLines cs with
      | []      => [[c]]
      | l :: ls => (c :: l) :: ls

-- Turns a carriage return, alone or with a line feed, into a line feed.
def unifyLineEnds : List Char → List Char
  | []                 => []
  | '\r' :: '\n' :: cs => '\n' :: unifyLineEnds cs
  | '\r' :: cs         => '\n' :: unifyLineEnds cs
  | c :: cs            => c :: unifyLineEnds cs

-- Where a position in a text is: its line and its column, both counted from one.
structure Place where
  line   : Nat
  column : Nat
deriving DecidableEq, Repr

-- The place behind a text.
def Place.after (cs : List Char) : Place :=
  (units cs).foldl
    (fun p n => if n = '\n'.toNat then ⟨p.line + 1, 1⟩ else ⟨p.line, p.column + 1⟩) ⟨1, 1⟩

@[simp]
theorem splitLines_nil : splitLines [] = [] := rfl

theorem splitLines_eq_nil {cs : List Char} : splitLines cs = [] ↔ cs = [] := by
  fun_cases splitLines cs <;> simp_all

end ModuleDiscovery.Text
