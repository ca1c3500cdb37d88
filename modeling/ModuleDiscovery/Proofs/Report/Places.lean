import Mathlib.Data.List.Basic
import Mathlib.Data.List.TakeWhile
import ModuleDiscovery.Proofs.Number.Rounding
import ModuleDiscovery.Proofs.Results
import ModuleDiscovery.Proofs.Settings.Nesting
import ModuleDiscovery.Report.Places

namespace ModuleDiscovery

open Number Text

section Digits

variable {c : Char} {n : Nat}

theorem digitValue?_of_isDigit (h : c.isDigit) : digitValue? c = some (c.toNat - '0'.toNat) := by
  have ht : ∀ k < 58, 48 ≤ k → digitValue? (Char.ofNat k) = some (k - 48) := by decide +kernel
  simp only [Char.isDigit, Bool.and_eq_true, decide_eq_true_eq, ge_iff_le, UInt32.le_iff_toNat_le] at h
  have hc := ht c.toNat (Nat.lt_succ_of_le h.2) h.1
  rwa [Char.ofNat_toNat] at hc

theorem filling?_of_isDigit (h : c.isDigit) : Places.filling? c = none := by
  unfold Places.filling?
  split <;> first | rfl | contradiction

theorem isDigit_of_mem_digitsOf (h : c ∈ digitsOf n) : c.isDigit :=
  Nat.isDigit_of_mem_toDigits (by decide) (by decide) h

-- The digits of a number spell it.
theorem foldl_digitsOf : (digitsOf n).foldl (fun k c => 10 * k + (digitValue? c).getD 0) 0 = n := by
  have he : ∀ k : Nat, ∀ c ∈ digitsOf n, 10 * k + (digitValue? c).getD 0 = 10 * k + (c.toNat - '0'.toNat) := by
    intro k c hc
    rw [digitValue?_of_isDigit (isDigit_of_mem_digitsOf hc), Option.getD_some]
  rw [List.foldl_ext _ _ _ he, ← Nat.ofDigitChars_eq_foldl]
  exact Nat.ofDigitChars_ten_toDigits

end Digits

namespace Places

variable {cs : List Char} {n : Nat}

theorem leadingCount_digitsOf :
    leadingCount (digitsOf n) = if maxCount < n then .error .tooManyDigits else .ok (some n, []) := by
  have ht : (digitsOf n).takeWhile (fun c => (digitValue? c).isSome) = digitsOf n := by
    refine List.takeWhile_eq_self_iff.mpr fun c hc => ?_
    rw [digitValue?_of_isDigit (isDigit_of_mem_digitsOf hc), Option.isSome_some]
  have hn : (digitsOf n).isEmpty = false := List.isEmpty_eq_false_iff.mpr Nat.toDigits_ne_nil
  simp only [leadingCount, ht, foldl_digitsOf, hn, List.drop_length, Bool.false_eq_true, if_false]

-- Without a sign for a filling the text of a value is a number of places.
theorem leadingField_of_head (h : ∀ c ∈ cs.head?, filling? c = none) :
    leadingField cs =
      (leadingPlaces cs).map fun (n, rest) => (⟨.inFront, .none, false, false, 0, none, n⟩, rest) := by
  have hm : mark? filling? cs = (none, cs) := by
    unfold mark?
    cases cs
    case nil       => rfl
    case cons c cs => rw [List.head?_cons, Option.bind_some, h c (by simp)]
  rw [leadingField, hm]

theorem shown_int : (Value.int n).shown.toList = digitsOf n := by
  change (Nat.repr n).toList = digitsOf n
  rw [Nat.repr_eq_ofList_toDigits, String.toList_ofList, digitsOf]

theorem filling?_of_head {c : Char} (h : cs.head? = some c) (hc : filling? c = none) :
    ∀ d ∈ cs.head?, filling? d = none := by
  intro d hd
  cases h.symm.trans hd
  exact hc

section Fields

variable {v : Value}

theorem field_eq_of_head (h : ∀ c ∈ v.shown.toList.head?, filling? c = none) :
    field v = ((v.checkWritten Value.maxDepth).mapError .unwritten).bind fun _ =>
      (leadingPlaces v.shown.toList).bind fun (n, rest) =>
        if !rest.isEmpty then .error (.malformed v.shown)
        else if maxPlaces < n then .error .tooLarge
        else .ok ⟨.inFront, .none, false, false, 0, none, n⟩ := by
  unfold field
  rw [leadingField_of_head h]
  cases (v.checkWritten Value.maxDepth).mapError PlacesFault.unwritten
  case error => rfl
  case ok =>
    cases leadingPlaces v.shown.toList
    case error => rfl
    case ok p =>
      simp only [bind, Except.bind, Except.map, pure, Except.pure, throw, throwThe, MonadExceptOf.throw]

theorem checkWritten_int (h : n ≤ maxCount) : (Value.int n).checkWritten Value.maxDepth = .ok () := by
  have hk : 20 ≤ maxIntDigits := by decide
  have hm : maxCount < 10 ^ 20 := by decide
  have hl : ¬Nat.pow 10 maxIntDigits ≤ (n : Int).natAbs := by
    generalize maxIntDigits = k at hk
    exact Nat.not_le.mpr <| (h.trans_lt hm).trans_le (Nat.pow_le_pow_right (by decide) hk)
  refine Value.checkWritten_eq_ok.mpr ⟨?_, Nat.le_add_left 1 979⟩
  rwa [Value.hasLongInt, decide_eq_false_iff_not]

theorem head_digitsOf : ∀ c ∈ (digitsOf n).head?, filling? c = none :=
  fun _ hc => filling?_of_isDigit (isDigit_of_mem_digitsOf (List.mem_of_mem_head? hc))

-- The field for a number of places: without a width, a separator or a sign where none is needed.
def plainField (n : Nat) : Field :=
  ⟨.inFront, .none, false, false, 0, none, n⟩

theorem field_of_le (h : n ≤ maxPlaces) : field (.int n) = .ok (plainField n) := by
  have hc : n ≤ maxCount := h.trans (by decide)
  rw [field_eq_of_head (by rw [shown_int]; exact head_digitsOf), shown_int, leadingPlaces, leadingCount_digitsOf,
    checkWritten_int hc, if_neg (Nat.not_lt.mpr hc)]
  simp [Except.mapError, Except.bind, bind, pure, Except.pure, Nat.not_lt.mpr h, plainField]

-- An integer from zero on is a number of places, unless it is too large.
theorem field_int : (∃ f, field (.int n) = .ok f) ↔ n ≤ maxPlaces := by
  refine ⟨fun ⟨f, hf⟩ => ?_, fun h => ⟨_, field_of_le h⟩⟩
  rw [field_eq_of_head (by rw [shown_int]; exact head_digitsOf), shown_int, leadingPlaces,
    leadingCount_digitsOf] at hf
  by_cases hn : n ≤ maxCount
  case pos =>
    rw [checkWritten_int hn, if_neg (Nat.not_lt.mpr hn)] at hf
    by_contra hp
    simp [Except.mapError, Except.bind, bind, pure, Except.pure, Nat.not_le.mp hp] at hf
  case neg =>
    rw [if_pos (Nat.not_le.mp hn)] at hf
    cases hc : (Value.int n).checkWritten Value.maxDepth <;> rw [hc] at hf <;> contradiction

-- What stands behind the digits at the front remains.
theorem leadingPlaces_rest (hc : ∃ c ∈ cs, digitValue? c = none) {r : Nat × List Char}
    (h : leadingPlaces cs = .ok r) : r.2 ≠ [] := by
  have hr : cs.drop (cs.takeWhile fun c => (digitValue? c).isSome).length ≠ [] := by
    intro hd
    have hl := List.drop_eq_nil_iff.mp hd
    have he := (List.takeWhile_prefix _).eq_of_length_le hl
    obtain ⟨c, hc, hn⟩ := hc
    have hs := List.takeWhile_eq_self_iff.mp he c hc
    simp [hn] at hs
  simp only [leadingPlaces, leadingCount] at h
  split at h
  case isTrue => contradiction
  case isFalse =>
    split at h
    case isTrue => contradiction
    case isFalse =>
      cases h
      exact hr

-- A text that has more than digits is malformed as a number of places, if it is one at all.
theorem field_error (hh : ∀ c ∈ v.shown.toList.head?, filling? c = none)
    (hc : ∃ c ∈ v.shown.toList, digitValue? c = none) : ∃ f, field v = .error f := by
  rw [field_eq_of_head hh]
  cases (v.checkWritten Value.maxDepth).mapError PlacesFault.unwritten
  case error f => exact ⟨f, rfl⟩
  case ok =>
    cases hp : leadingPlaces v.shown.toList
    case error f => exact ⟨f, rfl⟩
    case ok r =>
      have hr : (!r.2.isEmpty) = true := by simpa using leadingPlaces_rest hc hp
      exact ⟨.malformed v.shown, by simp only [Except.bind, hr, if_true]⟩

theorem field_negative (n : Nat) : ∃ f, field (.int (.negSucc n)) = .error f := by
  have hs : (Value.int (.negSucc n)).shown.toList = '-' :: (Nat.repr (n + 1)).toList := by
    change (Int.repr (.negSucc n)).toList = _
    simp [Int.repr]
  refine field_error (filling?_of_head (c := '-') (by rw [hs]; rfl) rfl) ⟨'-', ?_, by decide +kernel⟩
  rw [hs]
  exact List.mem_cons_self

theorem field_bool (b : Bool) : ∃ f, field (.bool b) = .error f := by
  cases b
  case false => exact field_error (filling?_of_head rfl rfl) ⟨'F', by decide, by decide +kernel⟩
  case true  => exact field_error (filling?_of_head rfl rfl) ⟨'T', by decide, by decide +kernel⟩

section Reals

theorem head_signed {negative : Bool} (h : ∀ c ∈ cs.head?, filling? c = none) :
    ∀ c ∈ (signed negative cs).toList.head?, filling? c = none := by
  rw [signed, String.toList_ofList]
  cases negative
  case false => exact h
  case true  => simp [filling?]

theorem mem_signed {negative : Bool} {c : Char} (h : c ∈ cs) : c ∈ (signed negative cs).toList := by
  rw [signed, String.toList_ofList]
  cases negative
  case false => exact h
  case true  => exact .tail _ h

theorem head_withPoint {whole fraction rest : List Char} (hw : whole ≠ []) (h : ∀ c ∈ whole, c.isDigit) :
    ∀ c ∈ (Layout.withPoint whole fraction ++ rest).head?, filling? c = none := by
  obtain ⟨c, whole, rfl⟩ := List.exists_cons_of_ne_nil hw
  have hp : (Layout.withPoint (c :: whole) fraction ++ rest).head? = some c := by
    unfold Layout.withPoint
    split <;> rfl
  simpa [hp] using filling?_of_isDigit (h c List.mem_cons_self)

theorem head_layout (l : Layout) (d : Decimal) : ∀ c ∈ (l.text d).head?, filling? c = none := by
  have hd : ∀ c ∈ digitsOf d.digits, c.isDigit := fun _ => isDigit_of_mem_digitsOf
  have ht (k : Nat) : (digitsOf d.digits).take (k + 1) ≠ [] := by
    rw [Ne, List.take_eq_nil_iff, not_or]
    exact ⟨k.succ_ne_zero, Nat.toDigits_ne_nil⟩
  simp only [Layout.text]
  split
  case isTrue =>
    exact head_withPoint (ht 0) fun c hc => hd c (List.mem_of_mem_take hc)
  case isFalse =>
    split
    case isTrue => simp [filling?]
    case isFalse =>
      rw [← List.append_nil (Layout.withPoint _ _)]
      refine head_withPoint (List.append_ne_nil_of_left_ne_nil (ht _) _) fun c hc => ?_
      cases List.mem_append.mp hc
      case inl hc => exact hd c (List.mem_of_mem_take hc)
      case inr hc => exact (List.mem_replicate.mp hc).2 ▸ rfl

theorem mem_withPoint {whole fraction : List Char} (h : fraction ≠ []) :
    '.' ∈ Layout.withPoint whole fraction := by
  simp [Layout.withPoint, h]

-- A text that reads back as a double has an exponent or a point.
theorem mem_layout {l : Layout} (hl : l.pointed) (d : Decimal) : 'e' ∈ l.text d ∨ '.' ∈ l.text d := by
  simp only [Layout.text, hl, Bool.and_true]
  split
  case isTrue => exact .inl (List.mem_append_right _ (by simp [Layout.exponentText]))
  case isFalse =>
    split
    case isTrue  => exact .inr (by simp)
    case isFalse => exact .inr (mem_withPoint (by split <;> simp_all))

theorem head_naturalText (x : Float) : ∀ c ∈ (naturalText x).toList.head?, filling? c = none := by
  unfold naturalText render
  split
  case h_1 => exact filling?_of_head rfl rfl
  case h_2 => exact head_signed (filling?_of_head rfl rfl)
  case h_3 => exact head_signed (filling?_of_head rfl rfl)
  case h_4 => exact head_signed (head_layout _ _)

theorem mem_naturalText (x : Float) : ∃ c ∈ (naturalText x).toList, digitValue? c = none := by
  have he : digitValue? 'e' = none := by decide +kernel
  have hp : digitValue? '.' = none := by decide +kernel
  have hn : digitValue? 'n' = none := by decide +kernel
  unfold naturalText render
  split
  case h_1 => exact ⟨'n', by decide, hn⟩
  case h_2 => exact ⟨'n', mem_signed (by decide), hn⟩
  case h_3 => exact ⟨'.', mem_signed (by decide), hp⟩
  case h_4 m q _ _ =>
    cases mem_layout (l := .natural) rfl (shortest m q)
    case inl h => exact ⟨'e', mem_signed h, he⟩
    case inr h => exact ⟨'.', mem_signed h, hp⟩

theorem field_real (x : Float) : ∃ f, field (.real x) = .error f :=
  field_error (head_naturalText x) (mem_naturalText x)

end Reals

end Fields

theorem text_plainField (n : Nat) (x : Float) : (plainField n).text x = fixedText n x := by
  have hd (cs : List Char) : (plainField n).body cs = cs := by
    have hp := List.prefix_iff_eq_append.mp (List.takeWhile_prefix (l := cs) Char.isDigit)
    simpa [Field.body, plainField] using hp
  have hs (negative : Bool) (cs : List Char) :
      (plainField n).signText negative cs = if negative then ['-'] else [] := by
    simp [Field.signText, plainField]
  have hc (k : Nat) : (plainField n).columns - k = 0 := Nat.zero_sub k
  have hp : (plainField n).places = n := rfl
  have hf : (plainField n).filling = .inFront := rfl
  rw [Field.text]
  simp only [hd, hs, hc, hp, hf, List.replicate_zero, List.nil_append]
  rw [← String.toList_inj, String.toList_ofList]
  cases (fixedText n x).toList
  case nil => rfl
  case cons c cs => by_cases h : c = '-' <;> simp [h]

-- Integers that are numbers of places write numbers with so many of them.
theorem text_int {k : Int} {x : Float} {t : String} :
    text (.int k) x = .ok t ↔ 0 ≤ k ∧ k ≤ maxPlaces ∧ t = fixedText k.toNat x := by
  cases k
  case ofNat n =>
    by_cases hn : n ≤ maxPlaces
    case pos => simp [text, field_of_le hn, Except.map, text_plainField, hn, eq_comm]
    case neg =>
      have ⟨e, he⟩ := not_isOk_iff.mp (mt (field_int.mp ∘ isOk_iff.mp) hn)
      simp [text, he, Except.map, hn]
  case negSucc n =>
    have ⟨e, he⟩ := field_negative n
    simp [text, he, Except.map]

end Places
end ModuleDiscovery
