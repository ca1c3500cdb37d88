import ModuleDiscovery.Text.Quoted

namespace ModuleDiscovery.Text

-- The contents of a file.
abbrev Bytes := List UInt8

inductive Utf8Fault.Kind
  -- A byte that starts no character.
  | start
  -- A byte that does not continue the character begun before it.
  | continuation
  -- The bytes end within a character.
  | truncated
deriving DecidableEq, Repr

-- A faulty character: its kind, the offset of its first byte, that byte, and the number of bytes that
-- belong to it.
structure Utf8Fault where
  kind   : Utf8Fault.Kind
  offset : Nat
  byte   : UInt8
  length : Nat
deriving DecidableEq, Repr

namespace Utf8Fault

def Kind.message : Kind → String
  | start        => "invalid start byte"
  | continuation => "invalid continuation byte"
  | truncated    => "unexpected end of data"

def message (f : Utf8Fault) : String :=
  let what :=
    if f.length = 1 then
      let digits := String.ofList (hex 2 f.byte.toNat)
      s!"byte 0x{digits} in position {f.offset}"
    else
      let last := f.offset + f.length - 1
      s!"bytes in position {f.offset}-{last}"
  s!"'utf-8' codec can't decode {what}: {f.kind.message}"

end Utf8Fault

namespace Utf8

-- Number of bytes after a first byte, `none` if no character starts with it.
def tailLength? (b : UInt8) : Option Nat :=
  if b < 0x80 then some 0
  else if 0xc2 ≤ b ∧ b < 0xe0 then some 1
  else if 0xe0 ≤ b ∧ b < 0xf0 then some 2
  else if 0xf0 ≤ b ∧ b < 0xf5 then some 3
  else none

-- The bounds keep out overlong forms, surrogates, and what lies beyond the last code point.
-- Whether `c` may stand behind `taken` bytes of a character with the first byte `b`.
def continues (b : UInt8) (taken : Nat) (c : UInt8) : Bool :=
  if taken ≠ 1 then 0x80 ≤ c && c < 0xc0
  else if b = 0xe0 then 0xa0 ≤ c && c < 0xc0
  else if b = 0xed then 0x80 ≤ c && c < 0xa0
  else if b = 0xf0 then 0x90 ≤ c && c < 0xc0
  else if b = 0xf4 then 0x80 ≤ c && c < 0x90
  else 0x80 ≤ c && c < 0xc0

-- The bits that a first byte with `n` bytes after it carries.
def leadBits (b : UInt8) : Nat → Nat
  | 0 => b.toNat
  | 1 => b.toNat % 0x20
  | 2 => b.toNat % 0x10
  | _ => b.toNat % 0x08

-- `taken` bytes of the character have been read, with `bits` as their value and `b` as the first.
-- Reads the `n` bytes that continue a character; gives the character and the bytes behind it.
def tail (offset : Nat) (b : UInt8) (bits taken : Nat) :
    Nat → Bytes → Except Utf8Fault (Char × Bytes)
  | 0, bs          => .ok (Char.ofNat bits, bs)
  | _ + 1, []      => .error ⟨.truncated, offset, b, taken⟩
  | n + 1, c :: bs =>
    if continues b taken c then
      tail offset b (bits * 0x40 + c.toNat % 0x40) (taken + 1) n bs
    else
      .error ⟨.continuation, offset, b, taken⟩

theorem tail_length_le {offset b bits taken n bs r}
    (h : tail offset b bits taken n bs = .ok r) : r.2.length ≤ bs.length := by
  induction n generalizing bs bits taken with
  | zero => simp [tail] at h; simp [← h]
  | succ n ih =>
    cases bs with
    | nil => simp [tail] at h
    | cons c bs =>
      rw [tail] at h
      split at h
      · exact Nat.le_succ_of_le (ih h)
      · cases h

-- One character after another, from the given offset on.
def decodeFrom (offset : Nat) (bs : Bytes) : Except Utf8Fault (List Char) :=
  match bs with
  | [] => .ok []
  | b :: bs =>
    match tailLength? b with
    | none   => .error ⟨.start, offset, b, 1⟩
    | some n =>
      match h : tail offset b (leadBits b n) 1 n bs with
      | .error f => .error f
      | .ok r    => (decodeFrom (offset + n + 1) r.2).map (r.1 :: ·)
termination_by bs.length
decreasing_by have := tail_length_le h; simp; omega

end Utf8

def decodeUtf8 (bs : Bytes) : Except Utf8Fault String :=
  (Utf8.decodeFrom 0 bs).map ofPlain

-- The bytes of a text, with replacement characters for lone surrogates.
def encodeUtf8 (s : String) : Bytes :=
  (toPlain s).toUTF8.toList

-- Why a text has no bytes: a run of lone surrogates, of which the first has the given offset.
structure EncodeFault where
  offset : Nat
  unit   : Nat
  length : Nat
deriving DecidableEq, Repr

namespace EncodeFault

def message (f : EncodeFault) : String :=
  let what :=
    if f.length = 1 then
      let digits := String.ofList (hex 4 f.unit)
      s!"character '\\u{digits}' in position {f.offset}"
    else
      let last := f.offset + f.length - 1
      s!"characters in position {f.offset}-{last}"
  s!"'utf-8' codec can't encode {what}: surrogates not allowed"

end EncodeFault

-- What keeps a text from being stored as bytes.
def encodeFault? (s : String) : Option EncodeFault :=
  let before := (units s.toList).takeWhile (!isSurrogate ·)
  let run := ((units s.toList).drop before.length).takeWhile isSurrogate
  run.head?.map fun n => ⟨before.length, n, run.length⟩

end ModuleDiscovery.Text
