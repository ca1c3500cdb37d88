namespace ModuleDiscovery.Text

namespace Surrogate

-- A text holds characters only, so a lone surrogate, which is half of a character without the other half, is spelled,
-- by a lead and binary digits. Leads and digits are the four code points in front of the surrogates, to which no
-- character is assigned; where one of these is meant itself it is spelled too. As leads stand in front of spellings
-- only, and all spellings are of one length, texts are in the order of what they stand for, and one is found in
-- another where it is found in what that stands for.
def first : Nat := 0xd800

-- The first code point that is spelled.
def firstSpelled : Nat := 0xd7fc

-- What follows the last surrogate.
def bound : Nat := 0xe000

-- The lead of the code points that are no surrogates.
def otherLead : Char := '\ud7fc'
def lead : Char := '\ud7fd'
def zero : Char := '\ud7fe'
def one : Char := '\ud7ff'

def digitCount : Nat := 12

def digits : Nat → Nat → List Char
  | 0, _       => []
  | len + 1, n => digits len (n / 2) ++ [if n % 2 = 1 then one else zero]

def value (ds : List Char) : Nat :=
  ds.foldl (fun n d => 2 * n + if d = one then 1 else 0) 0

def isLead (c : Char) : Bool :=
  c = otherLead || c = lead

theorem length_digits {len n : Nat} : (digits len n).length = len := by
  induction len generalizing n with
  | zero => rfl
  | succ len ih => simp [digits, ih]

theorem value_append {ds : List Char} {d : Char} :
    value (ds ++ [d]) = 2 * value ds + if d = one then 1 else 0 := by
  simp [value]

theorem value_digits {len n : Nat} (h : n < Nat.pow 2 len) : value (digits len n) = n := by
  induction len generalizing n with
  | zero =>
    obtain rfl : n = 0 := Nat.lt_one_iff.mp h
    rfl
  | succ len ih =>
    have hs : Nat.pow 2 (len + 1) = Nat.pow 2 len * 2 := rfl
    rw [digits, value_append, ih (by omega)]
    have hz : zero ≠ one := by decide
    by_cases hn : n % 2 = 1
    · rw [if_pos hn, if_pos rfl]
      omega
    · rw [if_neg hn, if_neg hz]
      omega

end Surrogate

open Surrogate

def isSurrogate (n : Nat) : Bool :=
  first ≤ n && n < bound

def isSpelled (n : Nat) : Bool :=
  firstSpelled ≤ n && n < bound

-- The text that stands for a code point or a lone surrogate.
def ofUnit (n : Nat) : List Char :=
  if isSpelled n then
    (if isSurrogate n then lead else otherLead) :: digits digitCount (n - firstSpelled)
  else
    [Char.ofNat n]

def ofUnits (us : List Nat) : List Char :=
  us.flatMap ofUnit

-- The code points and lone surrogates that a text stands for, of which the first `skip` characters
-- belong to a spelling that has been read.
def unitsFrom (skip : Nat) : List Char → List Nat
  | []      => []
  | c :: cs =>
    if skip > 0 then unitsFrom (skip - 1) cs
    else if isLead c then (firstSpelled + value (cs.take digitCount)) :: unitsFrom digitCount cs
    else c.toNat :: unitsFrom 0 cs

def units (cs : List Char) : List Nat :=
  unitsFrom 0 cs

-- The text in which all of the characters are meant themselves.
def ofPlain (cs : List Char) : String :=
  String.ofList (ofUnits (cs.map Char.toNat))

-- The characters that a text stands for, with replacement characters for lone surrogates.
def toPlain (s : String) : String :=
  String.ofList ((units s.toList).map fun n => if isSurrogate n then '\ufffd' else Char.ofNat n)

@[simp]
theorem units_nil : units [] = [] := rfl

theorem units_cons {c : Char} {cs : List Char} (h : isLead c = false) :
    units (c :: cs) = c.toNat :: units cs := by
  simp [units, unitsFrom, h]

theorem unitsFrom_append {ds cs : List Char} : unitsFrom ds.length (ds ++ cs) = units cs := by
  induction ds with
  | nil => rfl
  | cons d ds ih => simpa [unitsFrom] using ih

theorem units_spelling {c : Char} {ds cs : List Char} (h : isLead c = true)
    (hd : ds.length = digitCount) :
    units (c :: (ds ++ cs)) = (firstSpelled + value ds) :: units cs := by
  have ht : (ds ++ cs).take digitCount = ds := hd ▸ List.take_left
  have hr : unitsFrom digitCount (ds ++ cs) = units cs := hd ▸ unitsFrom_append
  rw [units, unitsFrom, if_neg (by omega), if_pos h, ht, hr]

theorem isSpelled_iff {n : Nat} : isSpelled n = true ↔ 0xd7fc ≤ n ∧ n < 0xe000 := by
  simp only [isSpelled, Bool.and_eq_true, decide_eq_true_eq]
  rfl

theorem isValidChar_of_not_isSpelled {n : Nat} (h : ¬isSpelled n) (hn : n < 0x110000) :
    n.isValidChar := by
  rw [isSpelled_iff] at h
  unfold Nat.isValidChar
  omega

theorem toNat_ofNat {n : Nat} (h : n.isValidChar) : (Char.ofNat n).toNat = n := by
  rw [Char.ofNat, dif_pos h]
  rfl

theorem not_isLead_ofNat {n : Nat} (h : ¬isSpelled n) (hn : n < 0x110000) :
    isLead (Char.ofNat n) = false := by
  have hc := toNat_ofNat (isValidChar_of_not_isSpelled h hn)
  have ho : otherLead.toNat = 0xd7fc := rfl
  have hl : lead.toNat = 0xd7fd := rfl
  rw [isSpelled_iff] at h
  rw [isLead, Bool.or_eq_false_iff, decide_eq_false_iff_not, decide_eq_false_iff_not]
  constructor <;> intro he <;> rw [he] at hc <;> omega

theorem units_ofUnit_append {n : Nat} {cs : List Char} (h : n < 0x110000) :
    units (ofUnit n ++ cs) = n :: units cs := by
  unfold ofUnit
  split
  case isTrue hs =>
    rw [isSpelled_iff] at hs
    have hf : firstSpelled = 0xd7fc := rfl
    have hl : isLead (if isSurrogate n then lead else otherLead) = true := by
      split <;> rfl
    have hp : n - firstSpelled < Nat.pow 2 digitCount := by
      have : Nat.pow 2 digitCount = 4096 := rfl
      omega
    rw [List.cons_append, units_spelling hl length_digits, value_digits hp]
    refine congrArg (· :: units cs) ?_
    omega
  case isFalse hs =>
    rw [List.singleton_append, units_cons (not_isLead_ofNat hs h),
      toNat_ofNat (isValidChar_of_not_isSpelled hs h)]

-- A text is read back as the units that it was made of.
theorem units_ofUnits {us : List Nat} (h : ∀ n ∈ us, n < 0x110000) : units (ofUnits us) = us := by
  induction us with
  | nil => rfl
  | cons n us ih =>
    rw [ofUnits, List.flatMap_cons, units_ofUnit_append (h n (by simp))]
    exact congrArg _ (ih fun m hm => h m (by simp [hm]))

section Unspelled

variable {cs ds : List Char}

-- Characters that spell nothing and need not be spelled.
def IsUnspelled (cs : List Char) : Prop :=
  ∀ c ∈ cs, isSpelled c.toNat = false

-- The list is gone through, not all characters that there are.
instance : Decidable (IsUnspelled cs) :=
  List.decidableBAll _ cs

theorem IsUnspelled.of_subset (h : IsUnspelled cs) (hs : ds ⊆ cs) : IsUnspelled ds :=
  fun c hc => h c (hs hc)

theorem ofUnits_of_unspelled (h : IsUnspelled cs) : ofUnits (cs.map Char.toNat) = cs := by
  induction cs with
  | nil => rfl
  | cons c cs ih =>
    have ⟨hc, hcs⟩ := List.forall_mem_cons.mp h
    rw [List.map_cons, ofUnits, List.flatMap_cons, ← ofUnits, ih hcs, ofUnit, if_neg (by simp [hc])]
    simp

theorem units_of_unspelled (h : IsUnspelled cs) : units cs = cs.map Char.toNat := by
  have hu : ∀ n ∈ cs.map Char.toNat, n < 0x110000 := by
    simp only [List.mem_map]
    rintro _ ⟨c, -, rfl⟩
    have hc : c.toNat.isValidChar := c.valid
    unfold Nat.isValidChar at hc
    omega
  calc units cs
    _ = units (ofUnits (cs.map Char.toNat)) := by rw [ofUnits_of_unspelled h]
    _ = cs.map Char.toNat                   := units_ofUnits hu

end Unspelled

end ModuleDiscovery.Text
