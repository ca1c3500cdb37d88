import ModuleDiscovery.Json.Token
import ModuleDiscovery.Text.Lines

namespace ModuleDiscovery.Json

open Text

inductive ReadFault
  | malformed (f : Fault)
  -- An integer with more digits than are read.
  | longInt (digits : Nat)
  -- A list, or a table, within too many others.
  | tooDeep (inTable : Bool)
deriving DecidableEq, Repr

-- How deep lists and tables may be nested. Calls may be nested a thousand deep in all: this is what is
-- left for a document if its file is loaded by the fifth of them. A caller that is further in, as the
-- command line is, comes to the end of its room earlier.
def maxDepth : Nat := 990

namespace Reader

-- A list or table whose end has not been reached. Parts are kept last first.
inductive Frame
  | list  (done : List Value)
  | table (done : List (String × Value))
  -- A table with the name of the entry that is being read.
  | entry (done : List (String × Value)) (name : String)

-- What comes next.
inductive Wanted
  | value
  -- A value or the end of the list just opened.
  | firstValue
  | name
  -- A name or the end of the table just opened.
  | firstName
  | colon
  -- What may follow a complete value.
  | delimiter

-- The reader goes over the tokens with a stack of the lists and tables that are still open. As it takes a token a
-- step, the first fault of the document is the one reported.
structure State where
  wanted : Wanted
  unclosed  : List Frame
  -- The value of the document, once it is complete.
  result : Value

def start : State := ⟨.value, [], .null⟩

-- Hands a complete value to what it is part of.
def State.complete (s : State) (v : Value) : State :=
  match s.unclosed with
  | .list done :: fs       => ⟨.delimiter, .list (v :: done) :: fs, s.result⟩
  | .entry done name :: fs => ⟨.delimiter, .table ((name, v) :: done) :: fs, s.result⟩
  | fs                     => ⟨.delimiter, fs, v⟩

-- Opens a list or a table.
def State.push (s : State) (f : Frame) (w : Wanted) : Except ReadFault State :=
  if s.unclosed.length < maxDepth then .ok ⟨w, f :: s.unclosed, s.result⟩
  else .error (.tooDeep (match f with | .list _ => false | _ => true))

-- Closes the innermost list or table, which the token has to fit.
def State.close? (s : State) (shape : Token.Shape) : Option State :=
  match shape, s.unclosed with
  | .closeList, .list done :: fs => some (complete { s with unclosed := fs } (.list done.reverse))
  | .closeTable, .table done :: fs =>
    some (complete { s with unclosed := fs } (.table (Value.entriesOf done.reverse)))
  | _, _ => none

def malformed (kind : Fault.Kind) (offset : Nat) : Except ReadFault State :=
  .error (.malformed ⟨kind, offset⟩)

def stepValue (s : State) (t : Token) : Except ReadFault State :=
  match t.shape with
  | .openList     => s.push (.list []) .firstValue
  | .openTable    => s.push (.table []) .firstName
  | .text v       => .ok (s.complete (.text v))
  | .scalar v     => .ok (s.complete v)
  | .brokenText f => .error (.malformed f)
  | .longInt n    => .error (.longInt n)
  | _             => malformed .expectingValue t.offset

def stepName (s : State) (t : Token) : Except ReadFault State :=
  match t.shape, s.unclosed with
  | .text name, .table done :: fs => .ok ⟨.colon, .entry done name :: fs, s.result⟩
  | .brokenText f, _              => .error (.malformed f)
  | _, _                          => malformed .expectingName t.offset

def stepDelimiter (s : State) (t : Token) : Except ReadFault State :=
  match t.shape, s.unclosed with
  | .finish, []               => .ok s
  | _, []                     => malformed .extraData t.offset
  | .comma, .list _ :: _      => .ok { s with wanted := .value }
  | .comma, _                 => .ok { s with wanted := .name }
  | shape, _ =>
    match s.close? shape with
    | some s => .ok s
    | none   => malformed .expectingComma t.offset

def step (s : State) (t : Token) : Except ReadFault State :=
  match s.wanted with
  | .value      => stepValue s t
  | .firstValue => match s.close? t.shape with | some s => .ok s | none => stepValue s t
  | .name       => stepName s t
  | .firstName  => match s.close? t.shape with | some s => .ok s | none => stepName s t
  | .delimiter  => stepDelimiter s t
  | .colon      =>
    match t.shape with
    | .colon => .ok { s with wanted := .value }
    | _      => malformed .expectingColon t.offset

end Reader

def read (s : String) : Except ReadFault Value :=
  if s.toList.head? = some '\ufeff' then
    .error (.malformed ⟨.byteOrderMark, 0⟩)
  else
    ((Token.scan s.toList).foldlM Reader.step Reader.start).map (·.result)

namespace Fault

def Kind.message : Kind → String
  | expectingValue       => "Expecting value"
  | expectingName        => "Expecting property name enclosed in double quotes"
  | expectingColon       => "Expecting ':' delimiter"
  | expectingComma       => "Expecting ',' delimiter"
  | extraData            => "Extra data"
  | unterminatedString   => "Unterminated string starting at"
  | controlCharacter     => "Invalid control character at"
  | invalidEscape        => "Invalid \\escape"
  | invalidUnicodeEscape => "Invalid \\uXXXX escape"
  | byteOrderMark        => "Unexpected UTF-8 BOM (decode using utf-8-sig)"

-- The fault with its place in the document.
def message (f : Fault) (document : String) : String :=
  let before := document.toList.take f.offset
  let place := Place.after before
  let count := (units before).length
  s!"{f.kind.message}: line {place.line} column {place.column} (char {count})"

end Fault
end ModuleDiscovery.Json
