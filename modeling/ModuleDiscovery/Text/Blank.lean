import ModuleDiscovery.Text.Ranges

namespace ModuleDiscovery.Text

-- The white space characters: the ASCII ones with the four separators from `U+001C`, the next-line
-- control, and the space separators with the line and paragraph separators.
def blanks : Ranges := #[
  (0x0009, 0x000d), (0x001c, 0x0020), (0x0085, 0x0085), (0x00a0, 0x00a0), (0x1680, 0x1680),
  (0x2000, 0x200a), (0x2028, 0x2029), (0x202f, 0x202f), (0x205f, 0x205f), (0x3000, 0x3000)]

def isBlank (c : Char) : Bool :=
  blanks.contains c

section Strip

variable (p : Char → Bool)

-- Without the characters at the end that satisfy `p`.
def stripEnd (cs : List Char) : List Char :=
  (cs.reverse.dropWhile p).reverse

-- Without the characters at both ends that satisfy `p`.
def stripEnds (cs : List Char) : List Char :=
  stripEnd p (cs.dropWhile p)

@[simp]
theorem stripEnd_nil : stripEnd p [] = [] := rfl

@[simp]
theorem stripEnds_nil : stripEnds p [] = [] := rfl

end Strip
end ModuleDiscovery.Text
