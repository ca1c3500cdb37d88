import ModuleDiscovery.Toml.Cursor

namespace ModuleDiscovery.Toml

-- The names that lead to a table or a value.
abbrev Path := List String

abbrev Table := List (String × Value)

namespace Table

-- `change` is applied to the table at the end of the path. Missing tables are created on the way.
-- Changes the table behind a path; `none` if something on the path is no table. Through a list of
-- tables a path leads only if `lists` allows it.
def update? (lists : Bool) (change : Table → Option Table) : Path → Table → Option Table
  | [], t      => change t
  | k :: ks, t =>
    match Value.entry? k t with
    | none              => (update? lists change ks []).map fun n => Value.setEntry k (.table n) t
    | some (.table n)   => (update? lists change ks n).map fun n => Value.setEntry k (.table n) t
    | some (.list vs)   =>
      match lists, vs.getLast? with
      | true, some (.table n) =>
        (update? lists change ks n).map fun n =>
          Value.setEntry k (.list (vs.dropLast ++ [.table n])) t
      | _, _ => none
    | some _            => none

def add? (k : String) (v : Value) (t : Table) : Option Table :=
  if (Value.entry? k t).isSome then none else some (t ++ [(k, v)])

-- Appends an empty table to the list of tables with a name.
def append? (k : String) (t : Table) : Option Table :=
  match Value.entry? k t with
  | none            => some (t ++ [(k, .list [.table []])])
  | some (.list vs) => some (Value.setEntry k (.list (vs ++ [.table []])) t)
  | some _          => none

end Table

-- A table that is declared by a header is declared once; a list or a table given as a value never changes.
inductive Mark
  -- The table behind the path has been declared.
  | declared
  -- Nothing behind the path, or further on, may change.
  | frozen
deriving DecidableEq, Repr

-- What is settled about the paths of a document.
abbrev Marks := List (Mark × Path)

namespace Marks

def isDeclared (ms : Marks) (p : Path) : Bool :=
  ms.contains (.declared, p)

def isFrozen (ms : Marks) (p : Path) : Bool :=
  ms.any fun m => m.1 = .frozen && m.2.isPrefixOf p

-- Forgets a path and all paths that start with it.
def forget (ms : Marks) (p : Path) : Marks :=
  ms.filter fun m => !p.isPrefixOf m.2

end Marks

-- A document as far as it has been read.
structure Draft where
  table   : Table
  marks   : Marks
  -- Marks that hold from the next header on.
  pending : Marks
  -- The table that the statements under the last header belong to.
  header  : Path

namespace Draft

def empty : Draft := ⟨[], [], [], []⟩

def settle (d : Draft) : Draft :=
  { d with marks := d.pending ++ d.marks, pending := [] }

-- Opens the table of a header.
def declare (d : Draft) (p : Path) : Except Fault.Kind Draft :=
  if d.marks.isDeclared p || d.marks.isFrozen p then .error (.declaredTwice p)
  else
    match Table.update? true some p d.table with
    | none   => .error .overwritten
    | some t => .ok { d with table := t, marks := (.declared, p) :: d.marks, header := p }

-- Opens a new last element of the list of tables of a header.
def declareElement (d : Draft) (p : Path) : Except Fault.Kind Draft :=
  if d.marks.isFrozen p then .error (.immutable p)
  else
    match Table.update? true (Table.append? (p.getLast?.getD "")) p.dropLast d.table with
    | none   => .error .overwritten
    | some t =>
      .ok { d with table := t, marks := (.declared, p) :: d.marks.forget p, header := p }

-- Whether a value is a list or a table, which is frozen where it stands.
def isNested : Value → Bool
  | .list _ | .table _ => true
  | _                  => false

-- The tables that a dotted path opens below the header.
def opened (d : Draft) (p : Path) : List Path :=
  (List.range (p.length - 1)).map fun n => d.header ++ p.take (n + 1)

-- Gives a path below the header a value.
def assign (d : Draft) (p : Path) (v : Value) : Except Fault.Kind Draft :=
  let whole := d.header ++ p
  let parent := d.header ++ p.dropLast
  match (d.opened p).find? d.marks.isDeclared with
  | some q => .error (.redefined q)
  | none   =>
    if d.marks.isFrozen parent then .error (.immutable parent)
    else
      match Table.update? true (Table.add? (p.getLast?.getD "") v) parent d.table with
      | none   => .error .overwritten
      | some t =>
        .ok { d with
          table   := t
          marks   := if isNested v then (.frozen, whole) :: d.marks else d.marks
          pending := (d.opened p).map (.declared, ·) ++ d.pending }

end Draft
end ModuleDiscovery.Toml
