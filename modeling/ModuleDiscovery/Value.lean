import ModuleDiscovery.Number.Numeral
import ModuleDiscovery.Number.Quantity
import ModuleDiscovery.Text.Quoted

namespace ModuleDiscovery

structure Date where
  year  : Nat
  month : Nat
  day   : Nat
deriving DecidableEq, Repr

structure Clock where
  hour   : Nat
  minute : Nat
  second : Nat
  micros : Nat
deriving DecidableEq, Repr

-- A time of day on a day, with the distance from universal time in minutes if that is known.
structure Moment where
  date   : Date
  clock  : Clock
  offset : Option Int
deriving DecidableEq, Repr

-- What documents and settings hold. `literal` is how messages show a value, `text` how they show it where a text may
-- stand bare.
inductive Value
  | null
  | bool   (b : Bool)
  | int    (n : Int)
  | real   (x : Float)
  | text   (s : String)
  | list   (vs : List Value)
  | tuple  (vs : List Value)
  | table  (entries : List (String × Value))
  -- A table whose keys need not be texts.
  | map    (entries : List (Value × Value))
  | date   (d : Date)
  | clock  (c : Clock)
  | moment (m : Moment)
deriving Inhabited

-- A decimal filled up with zeros to `len` digits.
def padded (len n : Nat) : String :=
  let ds := Number.digitsOf n
  String.ofList (List.replicate (len - ds.length) '0' ++ ds)

namespace Date

def literal (d : Date) : String :=
  s!"datetime.date({d.year}, {d.month}, {d.day})"

def text (d : Date) : String :=
  s!"{padded 4 d.year}-{padded 2 d.month}-{padded 2 d.day}"

end Date

namespace Clock

-- Seconds and microseconds are left out where they and all behind them are zero.
def literalFields (c : Clock) : String :=
  if c.micros ≠ 0 then s!"{c.hour}, {c.minute}, {c.second}, {c.micros}"
  else if c.second ≠ 0 then s!"{c.hour}, {c.minute}, {c.second}"
  else s!"{c.hour}, {c.minute}"

def literal (c : Clock) : String :=
  s!"datetime.time({c.literalFields})"

def text (c : Clock) : String :=
  let whole := s!"{padded 2 c.hour}:{padded 2 c.minute}:{padded 2 c.second}"
  if c.micros = 0 then whole else s!"{whole}.{padded 6 c.micros}"

end Clock

namespace Moment

-- A distance to the west is counted from the day before.
def zoneLiteral (minutes : Int) : String :=
  let seconds := minutes * 60
  if seconds = 0 then "datetime.timezone.utc"
  else if 0 < seconds then s!"datetime.timezone(datetime.timedelta(seconds={seconds}))"
  else s!"datetime.timezone(datetime.timedelta(days=-1, seconds={seconds + 86400}))"

def zoneText (minutes : Int) : String :=
  let sign := if minutes < 0 then "-" else "+"
  s!"{sign}{padded 2 (minutes.natAbs / 60)}:{padded 2 (minutes.natAbs % 60)}"

-- How many values the zone consists of, one inside the other: universal time is a single one.
def zoneDepth (m : Moment) : Nat :=
  match m.offset with
  | none   => 0
  | some 0 => 1
  | some _ => 2

def literal (m : Moment) : String :=
  let zone := (m.offset.map fun o => ", tzinfo=" ++ zoneLiteral o).getD ""
  s!"datetime.datetime({m.date.year}, {m.date.month}, {m.date.day}, {m.clock.literalFields}{zone})"

def text (m : Moment) : String :=
  m.date.text ++ " " ++ m.clock.text ++ (m.offset.map zoneText).getD ""

end Moment

namespace Value

-- A tuple of one keeps a comma, which tells it from a value in brackets.
mutual

def literal : Value → String
  | null      => "None"
  | bool b    => if b then "True" else "False"
  | int n     => toString n
  | real x    => Number.naturalText x
  | text s    => Text.quoted s
  | list vs   => "[" ++ ", ".intercalate (literals vs) ++ "]"
  | tuple [v] => "(" ++ literal v ++ ",)"
  | tuple vs  => "(" ++ ", ".intercalate (literals vs) ++ ")"
  | table es  => "\x7b" ++ ", ".intercalate (entryLiterals es) ++ "\x7d"
  | map es    => "\x7b" ++ ", ".intercalate (mapLiterals es) ++ "\x7d"
  | date d    => d.literal
  | clock c   => c.literal
  | moment m  => m.literal

def literals : List Value → List String
  | []      => []
  | v :: vs => literal v :: literals vs

def entryLiterals : List (String × Value) → List String
  | []           => []
  | (k, v) :: es => (Text.quoted k ++ ": " ++ literal v) :: entryLiterals es

def mapLiterals : List (Value × Value) → List String
  | []           => []
  | (k, v) :: es => (literal k ++ ": " ++ literal v) :: mapLiterals es

end

-- A value where a text may stand bare.
def shown : Value → String
  | text s   => s
  | date d   => d.text
  | clock c  => c.text
  | moment m => m.text
  | v        => literal v

-- How many values may stand inside one another to be written. Each of them takes a call: this is what is
-- left for the refusal of a threshold where `Toml.maxNesting` is left for a document, and a caller that is
-- further in leaves less.
def maxDepth : Nat := 980

-- A key of a table is a text, which takes no more room than the value beside it.
mutual

-- The first thing that keeps a value from being written, with room for so many values inside one
-- another. The zone of a moment and its distance count as further values.
def writeFault? : Value → Nat → Option Number.NumeralFault
  | _, 0            => some .tooDeep
  | int n, _ + 1    => if Nat.pow 10 Number.maxIntDigits ≤ n.natAbs then some .tooLong else none
  | list vs, k + 1  => firstFault? vs k
  | tuple vs, k + 1 => firstFault? vs k
  | table es, k + 1 => entryFault? es k
  | map es, k + 1   => pairFault? es k
  | moment m, k + 1 => if k < m.zoneDepth then some .tooDeep else none
  | _, _ + 1        => none

def firstFault? : List Value → Nat → Option Number.NumeralFault
  | [], _      => none
  | v :: vs, k => (writeFault? v k).or (firstFault? vs k)

def entryFault? : List (String × Value) → Nat → Option Number.NumeralFault
  | [], _           => none
  | (_, v) :: es, k => (writeFault? v k).or (entryFault? es k)

def pairFault? : List (Value × Value) → Nat → Option Number.NumeralFault
  | [], _            => none
  | (k, v) :: es, n => (writeFault? k n).or ((writeFault? v n).or (pairFault? es n))

end

-- Accepts values that can be written with that much room.
def checkWritten (room : Nat) (v : Value) : Except Number.NumeralFault Unit :=
  match v.writeFault? room with
  | none   => .ok ()
  | some f => .error f

def kind : Value → String
  | null     => "NoneType"
  | bool _   => "bool"
  | int _    => "int"
  | real _   => "float"
  | text _   => "str"
  | list _   => "list"
  | tuple _  => "tuple"
  | table _  => "dict"
  | map _    => "dict"
  | date _   => "datetime.date"
  | clock _  => "datetime.time"
  | moment _ => "datetime.datetime"

-- Whether a value counts as set: neither null, false, zero nor empty.
def isSet : Value → Bool
  | null     => false
  | bool b   => b
  | int n    => n ≠ 0
  | real x   => x != 0.0
  | text s   => s ≠ ""
  | list vs  => !vs.isEmpty
  | tuple vs => !vs.isEmpty
  | table es => !es.isEmpty
  | map es   => !es.isEmpty
  | _        => true

-- Lists and tables can change and are therefore no keys; a tuple is one if all its elements are.
mutual

-- The part of a value that keeps it from being a key.
def unkeyable? : Value → Option Value
  | list vs  => some (list vs)
  | table es => some (table es)
  | map es   => some (map es)
  | tuple vs => firstUnkeyable? vs
  | _        => none

def firstUnkeyable? : List Value → Option Value
  | []      => none
  | v :: vs => (unkeyable? v).or (firstUnkeyable? vs)

end

-- The kind of the part that keeps a value from being a key.
structure KeyFault where
  kind : String
deriving DecidableEq, Repr

def KeyFault.message (f : KeyFault) : String :=
  s!"unhashable type: '{f.kind}'"

-- Accepts keys.
def checkKey (v : Value) : Except KeyFault Unit :=
  match v.unkeyable? with
  | none   => .ok ()
  | some w => .error ⟨w.kind⟩

-- Gives a key of a table a value: in its place if the table has the key, else at the end.
def setEntry (k : String) (v : Value) : List (String × Value) → List (String × Value)
  | []           => [(k, v)]
  | (k', w) :: es => if k' = k then (k, v) :: es else (k', w) :: setEntry k v es

-- The entries of a table as a document states them: a key stands where it came first and has the value
-- that came last.
def entriesOf (es : List (String × Value)) : List (String × Value) :=
  es.foldl (fun t (k, v) => setEntry k v t) []

-- A value as a number; truth values count as one and zero.
def number? : Value → Option Number.Quantity
  | bool b => some (.whole (if b then 1 else 0))
  | int n  => some (.whole n)
  | real x => some (.real x)
  | _      => none

section Keys

variable (same : Number.Quantity → Number.Quantity → Bool)

mutual

-- Whether two keys are the same, up to numbers in the same places that `same` relates.
def agree : Value → Value → Bool
  | null, null           => true
  | text s, text t       => s = t
  | date d, date e       => d = e
  | clock c, clock d     => c = d
  | moment m, moment n   => m = n
  | tuple vs, tuple ws   => allAgree vs ws
  | v, w                 =>
    match v.number?, w.number? with
    | some x, some y => same x y
    | _, _           => false

def allAgree : List Value → List Value → Bool
  | [], []           => true
  | v :: vs, w :: ws => agree v w && allAgree vs ws
  | _, _             => false

end

end Keys

-- Whether two values are the same key. Numbers are, whatever their kinds, if they are equal.
def sameKey (v w : Value) : Bool :=
  agree Number.Quantity.same v w

-- Whether two keys have the same hash. Of unequal keys only those do whose numbers do.
def sameHash (v w : Value) : Bool :=
  agree Number.Quantity.sameHash v w

-- Whether two values are never apart: there is only one null, one empty tuple, and one of each truth
-- value, small integer and Latin letter. All other values are taken to be made anew where they stand.
def isOne : Value → Value → Bool
  | null, null         => true
  | bool a, bool b     => a = b
  | int m, int n       => m = n ∧ -5 ≤ m ∧ m ≤ 256
  | text s, text t     => s = t ∧ s.length ≤ 1 ∧ s.toList.all (·.toNat < 0x100)
  | tuple [], tuple [] => true
  | _, _               => false

mutual

-- How many pairs of values inside one another are looked at to tell two keys apart.
def compareDepth : Value → Value → Nat
  | tuple vs, tuple ws => compareDepths vs ws + 1
  | _, _               => 1

-- Elements are compared up to the first ones that differ.
def compareDepths : List Value → List Value → Nat
  | v :: vs, w :: ws =>
    let d := if isOne v w then 0 else compareDepth v w
    if sameKey v w then max d (compareDepths vs ws) else d
  | _, _ => 0

end

def setMapEntry (k v : Value) : List (Value × Value) → List (Value × Value)
  | []            => [(k, v)]
  | (k', w) :: es => if sameKey k' k then (k', v) :: es else (k', w) :: setMapEntry k v es

-- The table of entries with any keys, a `table` if all of them are texts.
def ofEntries (es : List (Value × Value)) : Value :=
  match es.mapM fun | (text k, v) => some (k, v) | _ => none with
  | some es => table (entriesOf es)
  | none    => map (es.foldl (fun t (k, v) => setMapEntry k v t) [])

def entry? (k : String) (es : List (String × Value)) : Option Value :=
  (es.find? (·.1 = k)).map (·.2)

def texts? : Value → Option (List String)
  | list vs => vs.mapM fun | text s => some s | _ => none
  | _       => none

end Value
end ModuleDiscovery
