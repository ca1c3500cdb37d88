import ModuleDiscovery.Toml.Text

namespace ModuleDiscovery.Toml

open Number

namespace Scalar

-- Digits, between any two of which there may be an underscore.
def digitGroup (p : Char → Bool) : List Char → List Char
  | '_' :: c :: cs => if p c then '_' :: c :: digitTail p cs else []
  | c :: cs        => if p c then c :: digitTail p cs else []
  | []             => []
where
  digitTail (p : Char → Bool) : List Char → List Char
    | '_' :: c :: cs => if p c then '_' :: c :: digitTail p cs else []
    | c :: cs        => if p c then c :: digitTail p cs else []
    | []             => []

-- A group that starts with a digit.
def digits (p : Char → Bool) (cs : List Char) : List Char :=
  if cs.head? = some '_' then [] else digitGroup p cs

def plain (cs : List Char) : List Char := cs.filter (· ≠ '_')

def isHexDigit (c : Char) : Bool := (Text.hexValue? c).isSome

def valueIn (base : Nat) (ds : List Char) : Nat :=
  (plain ds).foldl (fun n c => base * n + (Text.hexValue? c).getD 0) 0

-- An integer in base sixteen, eight or two.
def baseInt? (cs : List Char) : Option (Value × Nat) :=
  let go (base : Nat) (p : Char → Bool) (cs : List Char) :=
    let ds := digits p cs
    if ds.isEmpty then none else some (Value.int (valueIn base ds), ds.length + 2)
  match cs with
  | '0' :: 'x' :: cs => go 16 isHexDigit cs
  | '0' :: 'b' :: cs => go 2 (fun c => c = '0' || c = '1') cs
  | '0' :: 'o' :: cs => go 8 (fun c => '0' ≤ c && c ≤ '7') cs
  | _                => none

-- A decimal number as its sign, the digits in front of its point, the part from the point to the
-- exponent, and the exponent with its marker.
def decimal? (cs : List Char) : Option (List Char × List Char × List Char × List Char) :=
  let sign := (cs.take 1).filter fun c => c = '+' || c = '-'
  let body := cs.drop sign.length
  let whole := if body.head? = some '0' then ['0'] else digits Char.isDigit body
  if whole.isEmpty then none
  else
    let rest := body.drop whole.length
    let fraction := match rest with
      | '.' :: cs =>
        let ds := digits Char.isDigit cs
        if ds.isEmpty then [] else '.' :: ds
      | _ => []
    let rest := rest.drop fraction.length
    let exponent := match rest with
      | e :: cs =>
        if e = 'e' || e = 'E' then
          let mark := (cs.take 1).filter fun c => c = '+' || c = '-'
          let ds := digits Char.isDigit (cs.drop mark.length)
          if ds.isEmpty then [] else e :: mark ++ ds
        else []
      | [] => []
    some (sign, whole, fraction, exponent)

-- A number, whose integers have a limited number of digits.
def number? (cs : List Char) : Except ReadFault (Option (Value × Nat)) :=
  match baseInt? cs with
  | some r => .ok (some r)
  | none =>
    match decimal? cs with
    | none => .ok none
    | some (sign, whole, fraction, exponent) =>
      let negative := sign = ['-']
      let length := sign.length + whole.length + fraction.length + exponent.length
      let ds := plain whole
      if fraction.isEmpty && exponent.isEmpty then
        let n := natOfDigits ds
        if ds.length > maxIntDigits then .error (.longInt ds.length)
        else .ok (some (.int (if negative then -(n : Int) else n), length))
      else
        let fs := plain (fraction.drop 1)
        let e := (Numeral.exponent? (plain exponent)).getD 0 - fs.length
        .ok (some (.real (floatOfDecimal negative (natOfDigits (ds ++ fs)) e), length))

-- A natural number of two digits up to a bound, at the front.
def two? (low high : Nat) (cs : List Char) : Option (Nat × List Char) :=
  match cs with
  | a :: b :: rest =>
    let n := natOfDigits [a, b]
    if a.isDigit && b.isDigit && low ≤ n && n ≤ high then some (n, rest) else none
  | _ => none

-- The rest behind an expected character.
def after? (p : Char → Bool) : List Char → Option (List Char)
  | c :: cs => if p c then some cs else none
  | []      => none

-- Digits of a fraction of a second, of which six count.
def micros (cs : List Char) : Nat × List Char :=
  match cs with
  | '.' :: rest =>
    let ds := rest.takeWhile Char.isDigit
    if ds.isEmpty then (0, cs)
    else (natOfDigits ((ds ++ List.replicate 6 '0').take 6), rest.drop ds.length)
  | _ => (0, cs)

-- A time of day and what follows it.
def clock? (cs : List Char) : Option (Clock × List Char) := do
  let (hour, cs) ← two? 0 23 cs
  let cs ← after? (· = ':') cs
  let (minute, cs) ← two? 0 59 cs
  let cs ← after? (· = ':') cs
  let (second, cs) ← two? 0 59 cs
  let (micros, cs) := micros cs
  return (⟨hour, minute, second, micros⟩, cs)

-- A distance from universal time in minutes, and what follows it.
def zone? (cs : List Char) : Option (Int × List Char) :=
  match cs with
  | [] => none
  | s :: rest =>
    if s = 'Z' || s = 'z' then some (0, rest)
    else if s = '+' || s = '-' then do
      let (hours, rest) ← two? 0 23 rest
      let rest ← after? (· = ':') rest
      let (minutes, rest) ← two? 0 59 rest
      let n : Int := hours * 60 + minutes
      return (if s = '-' then -n else n, rest)
    else none

-- A date as it is written, and what follows it.
def date? (cs : List Char) : Option (Date × List Char) := do
  let year := cs.take 4
  if year.length ≠ 4 || !year.all Char.isDigit then none
  let cs ← after? (· = '-') (cs.drop 4)
  let (month, cs) ← two? 1 12 cs
  let cs ← after? (· = '-') cs
  let (day, cs) ← two? 1 31 cs
  return (⟨natOfDigits year, month, day⟩, cs)

def isLeap (year : Nat) : Bool :=
  year % 4 = 0 && (year % 100 ≠ 0 || year % 400 = 0)

def daysIn (year month : Nat) : Nat :=
  if month = 2 then (if isLeap year then 29 else 28)
  else if month ∈ [4, 6, 9, 11] then 30
  else 31

def isDay (d : Date) : Bool :=
  0 < d.year && d.day ≤ daysIn d.year d.month

-- A date, alone or with a time of day, and what follows it.
def moment? (cs : List Char) : Option (Value × Date × List Char) := do
  let (date, rest) ← date? cs
  let timed := do
    let rest ← after? (fun c => c = 'T' || c = 't' || c = ' ') rest
    let (clock, rest) ← clock? rest
    match zone? rest with
    | some (offset, rest) => some (Value.moment ⟨date, clock, some offset⟩, date, rest)
    | none                => some (Value.moment ⟨date, clock, none⟩, date, rest)
  timed.or (some (.date date, date, rest))

-- The values that are words, with an optional sign where that is a number.
def words : List (List Char × Value) := [
  (['t', 'r', 'u', 'e'], .bool true),
  (['f', 'a', 'l', 's', 'e'], .bool false),
  (['i', 'n', 'f'], .real (infinity false)),
  (['+', 'i', 'n', 'f'], .real (infinity false)),
  (['-', 'i', 'n', 'f'], .real (infinity true)),
  (['n', 'a', 'n'], .real notANumber),
  (['+', 'n', 'a', 'n'], .real notANumber),
  (['-', 'n', 'a', 'n'], .real notANumber)]

end Scalar

-- A word, a date, a time or a number.
def Cursor.scalar (c : Cursor) : Except ReadFault (Value × Cursor) :=
  match Scalar.words.find? (fun w => w.1.isPrefixOf c.rest) with
  | some (w, v) => .ok (v, c.advance w.length)
  | none =>
    match Scalar.moment? c.rest with
    | some (v, date, rest) =>
      if Scalar.isDay date then .ok (v, c.advance (c.rest.length - rest.length))
      else c.fail .invalidDate
    | none =>
      match Scalar.clock? c.rest with
      | some (t, rest) => .ok (.clock t, c.advance (c.rest.length - rest.length))
      | none => do
        let some (v, n) ← Scalar.number? c.rest | c.fail .invalidValue
        return (v, c.advance n)

end ModuleDiscovery.Toml
