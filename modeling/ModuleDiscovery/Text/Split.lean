namespace ModuleDiscovery.Text

-- The pieces between the occurrences of a character, of which there is one more than occurrences.
def splitAtChar (sep : Char) : List Char → List (List Char)
  | []      => [[]]
  | c :: cs =>
    if c = sep then
      [] :: splitAtChar sep cs
    else
      match splitAtChar sep cs with
      | []      => [[c]]
      | p :: ps => (c :: p) :: ps

-- Pieces with a character between each two.
def joinWith (sep : Char) : List (List Char) → List Char
  | []          => []
  | [p]         => p
  | p :: q :: ps => p ++ sep :: joinWith sep (q :: ps)

section

variable {sep : Char} {cs : List Char}

theorem splitAtChar_ne_nil : splitAtChar sep cs ≠ [] := by
  fun_cases splitAtChar sep cs <;> simp_all

-- Nothing is lost by a cut.
theorem joinWith_splitAtChar : joinWith sep (splitAtChar sep cs) = cs := by
  induction cs with
  | nil => rfl
  | cons c cs ih =>
    rw [splitAtChar]
    split
    case isTrue h =>
      match hp : splitAtChar sep cs with
      | []      => exact absurd hp splitAtChar_ne_nil
      | p :: ps => simp [joinWith, ← hp, ih, h]
    case isFalse =>
      split
      case h_1 hp => exact absurd hp splitAtChar_ne_nil
      case h_2 p ps hp =>
        rw [hp] at ih
        cases ps <;> simp_all [joinWith]

end
end ModuleDiscovery.Text
