import ModuleDiscovery.Toml.Namespace
import ModuleDiscovery.Toml.Scalar

namespace ModuleDiscovery.Toml

namespace Cursor

def isBare (c : Char) : Bool :=
  c.isAlphanum || c = '-' || c = '_'

-- One name of a path.
def name (c : Cursor) : Except ReadFault (String × Cursor) :=
  match c.head? with
  | some '"'  => c.lineText.map fun (cs, c) => (String.ofList cs, c)
  | some '\'' => c.literalText.map fun (cs, c) => (String.ofList cs, c)
  | _ =>
    let cs := c.rest.takeWhile isBare
    if cs.isEmpty then c.fail .invalidKey else .ok (String.ofList cs, c.advance cs.length)

-- At most `n` names joined by dots, and the position behind the white space that follows them.
def names : Nat → Cursor → Except ReadFault (Path × Cursor)
  | 0, c => c.fail .invalidKey
  | n + 1, c => do
    let (k, c) ← c.name
    let c := c.skipWhile isSpace
    if c.head? = some '.' then
      let (ks, c) ← names n ((c.advance 1).skipWhile isSpace)
      return (k :: ks, c)
    else
      return ([k], c)

def path (c : Cursor) : Except ReadFault (Path × Cursor) :=
  names (c.rest.length + 1) c

-- A path up to its equals sign, and the position of its value.
def pathOfValue (c : Cursor) : Except ReadFault (Path × Cursor) := do
  let (p, c) ← c.path
  if c.head? ≠ some '=' then c.fail .expectedEquals
  return (p, (c.advance 1).skipWhile isSpace)

def between (c : Cursor) : Except ReadFault Cursor :=
  c.skipBetween (c.rest.length + 1)

end Cursor

-- How much nesting a value may have. A list takes two steps of it and a table in braces three, one of
-- them for the entry. Steps are calls, of which a thousand may be nested in all: this is what is left for
-- a value if settings are loaded by the thirteenth of them. A caller that is further in leaves less room.
def maxNesting : Nat := 980

namespace Inline

-- Adds a value to a table in braces.
def assign (t : Table) (marks : Marks) (p : Path) (v : Value) : Except Fault.Kind Table :=
  if marks.isFrozen p then .error (.immutable p)
  else
    let k := p.getLast?.getD ""
    match Table.update? false some p.dropLast t with
    | none   => .error .overwritten
    | some _ =>
      match Table.update? false (Table.add? k v) p.dropLast t with
      | none   => .error (.duplicateKey k)
      | some t => .ok t

-- Between two steps that go down without taking a character there is one that takes one, so twice the
-- number of characters is fuel enough.
mutual

-- A value of any kind with room for that much nesting.
def value (room : Nat) : Nat → Cursor → Except ReadFault (Value × Cursor)
  | 0, c => c.fail .invalidValue
  | fuel + 1, c =>
    match c.head? with
    | some '"' =>
      (if c.startsWith "\"\"\"" then c.multilineText '"' else c.lineText).map
        fun (cs, c) => (.text (String.ofList cs), c)
    | some '\'' =>
      (if c.startsWith "'''" then c.multilineText '\'' else c.literalText).map
        fun (cs, c) => (.text (String.ofList cs), c)
    | some '[' =>
      match room with
      | room + 2 => do
        let c ← (c.advance 1).between
        if c.head? = some ']' then return (.list [], c.advance 1)
        (elements room fuel c).map fun (vs, c) => (.list vs, c)
      | _ => .error .tooDeep
    | some '{' =>
      match room with
      | room + 3 =>
        let c := (c.advance 1).skipWhile Cursor.isSpace
        if c.head? = some '}' then .ok (.table [], c.advance 1)
        else (entries room fuel [] [] c).map fun (t, c) => (.table t, c)
      | _ => .error .tooDeep
    | _ => c.scalar

-- The elements of a list, of which there is at least one more, and its end.
def elements (room : Nat) : Nat → Cursor → Except ReadFault (List Value × Cursor)
  | 0, c => c.fail .unclosedList
  | fuel + 1, c => do
    let (v, c) ← value room fuel c
    let c ← c.between
    match c.head? with
    | some ']' => return ([v], c.advance 1)
    | some ',' =>
      let c ← (c.advance 1).between
      if c.head? = some ']' then return ([v], c.advance 1)
      (elements room fuel c).map fun (vs, c) => (v :: vs, c)
    | _ => c.fail .unclosedList

-- The entries of a table in braces, of which there is at least one more, and its end.
def entries (room : Nat) :
    Nat → Table → Marks → Cursor → Except ReadFault (Table × Cursor)
  | 0, _, _, c => c.fail .unclosedTable
  | fuel + 1, t, marks, c => do
    let (p, c) ← c.pathOfValue
    let (v, c) ← value room fuel c
    match assign t marks p v with
    | .error k => c.fail k
    | .ok t    =>
      let c := c.skipWhile Cursor.isSpace
      match c.head? with
      | some '}' => return (t, c.advance 1)
      | some ',' =>
        let marks := if Draft.isNested v then (.frozen, p) :: marks else marks
        entries room fuel t marks ((c.advance 1).skipWhile Cursor.isSpace)
      | _ => c.fail .unclosedTable

end

end Inline

namespace Document

def ofResult (c : Cursor) : Except Fault.Kind Draft → Except ReadFault Draft
  | .ok d    => .ok d
  | .error k => c.fail k

-- A path and its value.
def pair (d : Draft) (c : Cursor) : Except ReadFault (Draft × Cursor) := do
  let (p, c) ← c.pathOfValue
  let (v, c) ← Inline.value maxNesting (2 * c.rest.length + 2) c
  let d ← ofResult c (d.assign p v)
  return (d, c)

def header (d : Draft) (c : Cursor) : Except ReadFault (Draft × Cursor) := do
  let d := d.settle
  if c.startsWith "[[" then
    let (p, c) ← ((c.advance 2).skipWhile Cursor.isSpace).path
    let d ← ofResult c (d.declareElement p)
    if !c.startsWith "]]" then c.fail .expectedTableListEnd
    return (d, c.advance 2)
  else
    let (p, c) ← ((c.advance 1).skipWhile Cursor.isSpace).path
    let d ← ofResult c (d.declare p)
    if !c.startsWith "]" then c.fail .expectedTableEnd
    return (d, c.advance 1)

-- What stands on a line in front of its comment. It is a header, which opens a table, or a path with a value.
def statement (d : Draft) (c : Cursor) : Except ReadFault (Draft × Cursor) :=
  match c.head? with
  | some '['  => header d c
  | some '#'  => .ok (d, c)
  | some ch   =>
    if Cursor.isBare ch || ch = '"' || ch = '\'' then pair d c else c.fail .invalidStatement
  | none      => .ok (d, c)

def lines : Nat → Draft → Cursor → Except ReadFault Draft
  | 0, d, _ => .ok d
  | n + 1, d, c => do
    let c := c.skipWhile Cursor.isSpace
    match c.head? with
    | none      => return d
    | some '\n' => lines n d (c.advance 1)
    | some _    =>
      let (d, c) ← statement d c
      let c ← (c.skipWhile Cursor.isSpace).skipComment
      match c.head? with
      | none      => return d
      | some '\n' => lines n d (c.advance 1)
      | some _    => c.fail .expectedNewline

end Document

-- The characters of a document, in which a carriage return with a line feed is a line feed. Positions
-- of faults count these.
def source (s : String) : List Char :=
  joinLineEnds s.toList
where
  joinLineEnds : List Char → List Char
    | '\r' :: '\n' :: cs => '\n' :: joinLineEnds cs
    | c :: cs            => c :: joinLineEnds cs
    | []                 => []

def read (s : String) : Except ReadFault Table :=
  let cs := source s
  (Document.lines (cs.length + 1) .empty (.ofChars cs)).map (·.table)

end ModuleDiscovery.Toml
