import ModuleDiscovery.Value

namespace ModuleDiscovery

-- Name of a unit: a class, a module, whatever owns methods.
abbrev UnitName := String

-- Key of a method, which starts with the name of its unit.
abbrev MethodKey := String

-- What stands between the unit and the method of a key.
structure Separator where
  chars    : List Char
  nonempty : chars ≠ []

inductive SeparatorFault
  | empty
  | notText (kind : String)
deriving DecidableEq, Repr

namespace SeparatorFault

def message : SeparatorFault → String
  | empty        => "empty separator"
  | notText kind => s!"must be str, not {kind}"

end SeparatorFault

namespace Separator

def dot : Separator := ⟨['.'], by simp⟩

def ofValue : Value → Except SeparatorFault Separator
  | .text s => if h : s.toList = [] then .error .empty else .ok ⟨s.toList, h⟩
  | v       => .error (.notText v.kind)

-- The text in front of the last occurrence of a separator.
def before? (sep : Separator) : List Char → Option (List Char)
  | [] => none
  | c :: cs =>
    match sep.before? cs with
    | some u => some (c :: u)
    | none   => if sep.chars.isPrefixOf (c :: cs) then some [] else none

end Separator

-- The unit that owns a method: all in front of the last separator of its key, unless that is nothing. A unit may be
-- qualified, and so hold the separator itself.
def owningUnit (sep : Separator) (key : MethodKey) : Option UnitName :=
  match sep.before? key.toList with
  | some (c :: cs) => some (String.ofList (c :: cs))
  | _              => none

namespace Separator

variable {sep : Separator}

@[simp]
theorem before?_nil : sep.before? [] = none := rfl

theorem before?_append {u m : List Char} (h : sep.before? (sep.chars ++ m) = some []) :
    sep.before? (u ++ (sep.chars ++ m)) = some u := by
  induction u with
  | nil => exact h
  | cons c u ih => simp [before?, ih]

end Separator
end ModuleDiscovery
