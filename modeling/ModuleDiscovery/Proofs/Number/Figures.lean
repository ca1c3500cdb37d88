import ModuleDiscovery.Proofs.Report.Places

namespace ModuleDiscovery.Number

-- Characters of numbers without a sign and without groups, and of the names of what is no number.
def isUnsignedFigure (c : Char) : Bool :=
  c.isAlphanum || c = '.'

-- No way of writing a number needs other characters than these, so that nothing in it is taken for a quote, a line
-- end or markup.
def isFigure (c : Char) : Bool :=
  isUnsignedFigure c || c ∈ ['-', '+', ' ', ',', '_']

section Unsigned

variable {places n : Nat} {c : Char}

theorem isUnsignedFigure_of_isDigit (h : c.isDigit) : isUnsignedFigure c := by
  simp [isUnsignedFigure, Char.isAlphanum, h]

theorem isFigure_of_isUnsignedFigure (h : isUnsignedFigure c) : isFigure c := by
  rw [isFigure, h, Bool.true_or]

theorem fixedDigits_ne_nil (places n : Nat) : fixedDigits places n ≠ [] := by
  unfold fixedDigits
  dsimp only
  split
  case isTrue h =>
    rw [h, Nat.sub_zero, List.take_length]
    exact List.append_ne_nil_of_right_ne_nil _ Nat.toDigits_ne_nil
  case isFalse => exact List.append_ne_nil_of_right_ne_nil _ (List.cons_ne_nil _ _)

theorem isUnsignedFigure_of_mem_fixedDigits (h : c ∈ fixedDigits places n) : isUnsignedFigure c := by
  have hd : ∀ c ∈ List.replicate (places + 1 - (digitsOf n).length) '0' ++ digitsOf n, isUnsignedFigure c := by
    intro c hc
    cases List.mem_append.mp hc
    case inl hc => exact (List.mem_replicate.mp hc).2 ▸ rfl
    case inr hc => exact isUnsignedFigure_of_isDigit (isDigit_of_mem_digitsOf hc)
  unfold fixedDigits at h
  dsimp only at h
  split at h
  case isTrue => exact hd c (List.mem_of_mem_take h)
  case isFalse =>
    rcases List.mem_append.mp h with h | h
    case inl => exact hd c (List.mem_of_mem_take h)
    case inr =>
      rcases List.mem_cons.mp h with rfl | h
      case inl => rfl
      case inr => exact hd c (List.mem_of_mem_drop h)

-- A number with places is a sign, if it has one, and figures without a sign.
theorem exists_fixedText (places : Nat) (x : Float) :
    ∃ negative cs, cs ≠ [] ∧ (∀ c ∈ cs, isUnsignedFigure c) ∧ fixedText places x = signed negative cs := by
  have ht (near far m : Nat) (q : Int) : fixedDigits near (multiplesOf (-near) m q) ++ List.replicate far '0' ≠ [] ∧
      ∀ c ∈ fixedDigits near (multiplesOf (-near) m q) ++ List.replicate far '0', isUnsignedFigure c := by
    refine ⟨List.append_ne_nil_of_left_ne_nil (fixedDigits_ne_nil _ _) _, fun c hc => ?_⟩
    cases List.mem_append.mp hc
    case inl hc => exact isUnsignedFigure_of_mem_fixedDigits hc
    case inr hc => exact (List.mem_replicate.mp hc).2 ▸ rfl
  unfold fixedText render
  split
  case h_1 => exact ⟨false, ['n', 'a', 'n'], by simp, List.all_eq_true.mp rfl, rfl⟩
  case h_2 negative _ => exact ⟨negative, ['i', 'n', 'f'], by simp, List.all_eq_true.mp rfl, rfl⟩
  case h_3 negative _ _ => exact ⟨negative, _, (ht ..).1, (ht ..).2, rfl⟩
  case h_4 negative m q _ _ => exact ⟨negative, _, (ht ..).1, (ht ..).2, rfl⟩

theorem isFigure_of_mem_signed {negative : Bool} {cs : List Char} (hc : ∀ c ∈ cs, isFigure c)
    (h : c ∈ (signed negative cs).toList) : isFigure c := by
  rw [signed, String.toList_ofList] at h
  cases negative
  case false => exact hc c h
  case true =>
    rcases List.mem_cons.mp h with rfl | h
    case inl => rfl
    case inr => exact hc c h

theorem isFigure_of_mem_fixedText {x : Float} (h : c ∈ (fixedText places x).toList) : isFigure c := by
  obtain ⟨negative, cs, -, hc, he⟩ := exists_fixedText places x
  exact isFigure_of_mem_signed (fun c h => isFigure_of_isUnsignedFigure (hc c h)) (he ▸ h)

theorem isFigure_of_mem_digitsOf (h : c ∈ digitsOf n) : isFigure c :=
  isFigure_of_isUnsignedFigure (isUnsignedFigure_of_isDigit (isDigit_of_mem_digitsOf h))

theorem isFigure_of_mem_toString (h : c ∈ (toString n).toList) : isFigure c :=
  isFigure_of_mem_digitsOf (n := n) (by simpa [digitsOf, Nat.toString_eq_repr, Nat.repr] using h)

theorem isFigure_of_mem_toString_int {i : Int} (h : c ∈ (toString i).toList) : isFigure c := by
  cases i
  case ofNat n => exact isFigure_of_mem_toString (n := n) h
  case negSucc n =>
    have h : c ∈ ("-" ++ toString (n + 1)).toList := h
    rw [String.toList_append] at h
    rcases List.mem_append.mp h with h | h
    case inl => exact List.mem_singleton.mp h ▸ rfl
    case inr => exact isFigure_of_mem_toString h

end Unsigned

namespace Layout

variable {l : Layout} {d : Decimal} {e : Int} {c : Char} {cs ds : List Char}

theorem isFigure_of_mem_withPoint (hc : ∀ c ∈ cs, isFigure c) (hd : ∀ c ∈ ds, isFigure c)
    (h : c ∈ withPoint cs ds) : isFigure c := by
  unfold withPoint at h
  split at h
  case isTrue => exact hc c h
  case isFalse =>
    rcases List.mem_append.mp h with h | h
    case inl => exact hc c h
    case inr =>
      rcases List.mem_cons.mp h with rfl | h
      case inl => rfl
      case inr => exact hd c h

theorem isFigure_of_mem_exponentText (h : c ∈ exponentText e) : isFigure c := by
  have hd : ∀ c ∈ digitsOf e.natAbs, isFigure c := fun c => isFigure_of_mem_digitsOf
  have hs : ∀ c ∈ ['e', '-', '+', '0'], isFigure c := List.all_eq_true.mp rfl
  unfold exponentText at h
  dsimp only at h
  grind

theorem isFigure_of_mem_text (h : c ∈ l.text d) : isFigure c := by
  have hd : ∀ c ∈ digitsOf d.digits, isFigure c := fun c => isFigure_of_mem_digitsOf
  have hz {n : Nat} : ∀ c ∈ List.replicate n '0', isFigure c := fun c hc => (List.mem_replicate.mp hc).2 ▸ rfl
  unfold text at h
  dsimp only at h
  split at h
  case isTrue =>
    rcases List.mem_append.mp h with h | h
    case inl =>
      exact isFigure_of_mem_withPoint (fun c hc => hd c (List.mem_of_mem_take hc))
        (fun c hc => hd c (List.mem_of_mem_drop hc)) h
    case inr => exact isFigure_of_mem_exponentText h
  case isFalse =>
    split at h
    case isTrue =>
      rcases List.mem_append.mp h with h | h
      case inl =>
        rcases List.mem_cons.mp h with rfl | h
        case inl => rfl
        case inr =>
          rcases List.mem_cons.mp h with rfl | h
          case inl => rfl
          case inr => exact hz c h
      case inr => exact hd c h
    case isFalse =>
      refine isFigure_of_mem_withPoint (fun c hc => ?whole) (fun c hc => ?fraction) h
      case whole    => exact (List.mem_append.mp hc).elim (fun hc => hd c (List.mem_of_mem_take hc)) (hz c)
      case fraction =>
        split at hc
        case isTrue  => exact List.mem_singleton.mp hc ▸ rfl
        case isFalse => exact hd c (List.mem_of_mem_drop hc)

end Layout

theorem isFigure_of_mem_generalText {x : Float} {c : Char} (h : c ∈ (generalText x).toList) : isFigure c := by
  unfold generalText render at h
  split at h
  case h_1 => exact List.all_eq_true.mp (by rfl : "nan".toList.all isFigure) c h
  case h_2 => exact isFigure_of_mem_signed (List.all_eq_true.mp rfl) h
  case h_3 => exact isFigure_of_mem_signed (List.all_eq_true.mp rfl) h
  case h_4 => exact isFigure_of_mem_signed (fun _ => Layout.isFigure_of_mem_text) h

namespace Field

variable {f : Field} {x : Float} {c sep : Char} {ds cs : List Char}

theorem mem_grouped (h : c ∈ grouped sep ds) : c = sep ∨ c ∈ ds := by
  obtain ⟨p, hp, hc⟩ := List.mem_flatten.mp h
  obtain ⟨⟨d, i⟩, hd, rfl⟩ := List.mem_map.mp hp
  have hd : d ∈ ds := List.fst_mem_of_mem_zipIdx hd
  dsimp only at hc
  split at hc
  case isTrue  =>
    rcases List.mem_cons.mp hc with rfl | hc
    case inl => exact .inl rfl
    case inr => exact .inr (List.mem_singleton.mp hc ▸ hd)
  case isFalse => exact .inr (List.mem_singleton.mp hc ▸ hd)

theorem isFigure_of_mem_body (hs : ∀ s ∈ f.separator, isFigure s) (hc : ∀ c ∈ cs, isFigure c) (h : c ∈ f.body cs) :
    isFigure c := by
  have hw : ∀ c ∈ (f.separator.map (grouped · (cs.takeWhile Char.isDigit))).getD (cs.takeWhile Char.isDigit),
      isFigure c := by
    intro c h
    have ht (h : c ∈ cs.takeWhile Char.isDigit) : isFigure c := hc c (List.takeWhile_subset _ h)
    cases hf : f.separator
    case none   => rw [hf] at h; exact ht h
    case some s =>
      rw [hf] at h
      rcases mem_grouped h with rfl | h
      case inl => exact hs _ hf
      case inr => exact ht h
  simp only [body, List.mem_append] at h
  rcases h with (h | h) | h
  case inl.inl => exact hw c h
  case inl.inr => exact hc c (List.mem_of_mem_drop h)
  case inr =>
    split at h
    case isTrue  => exact List.mem_singleton.mp h ▸ rfl
    case isFalse => cases h

theorem isFigure_of_mem_signText {negative : Bool} (h : c ∈ f.signText negative ds) : isFigure c := by
  unfold signText at h
  dsimp only at h
  split at h
  case isTrue => exact List.mem_singleton.mp h ▸ rfl
  case isFalse =>
    split at h
    case h_1 => cases h
    case h_2 => exact List.mem_singleton.mp h ▸ rfl
    case h_3 => exact List.mem_singleton.mp h ▸ rfl

-- Neither filling nor signs nor separators need an escape.
theorem isFigure_of_mem_text (hs : ∀ s ∈ f.separator, isFigure s) (h : c ∈ (f.text x).toList) : isFigure c := by
  have hf {n : Nat} (h : c ∈ List.replicate n fill) : isFigure c := (List.mem_replicate.mp h).2 ▸ rfl
  have hb {ds : List Char} (hd : ∀ d ∈ ds, d ∈ (fixedText f.places x).toList) (h : c ∈ f.body ds) : isFigure c :=
    isFigure_of_mem_body hs (fun d hm => isFigure_of_mem_fixedText (hd d hm)) h
  have hb (h : c ∈ f.body (if (fixedText f.places x).toList.head? = some '-' then (fixedText f.places x).toList.drop 1
      else (fixedText f.places x).toList)) : isFigure c := by
    refine hb (fun d hd => ?_) h
    split at hd
    case isTrue  => exact List.mem_of_mem_drop hd
    case isFalse => exact hd
  simp only [text, String.toList_ofList] at h
  split at h
  all_goals
    simp only [List.mem_append] at h
    grind [isFigure_of_mem_signText]

end Field
end ModuleDiscovery.Number

namespace ModuleDiscovery.Places

open Number

theorem isFigure_of_separator {cs rest : List Char} {s? : Option Char} (h : separator cs = .ok (s?, rest)) :
    ∀ s ∈ s?, isFigure s := by
  unfold separator at h
  dsimp only at h
  split at h
  all_goals cases h
  case h_3 => simp [isFigure]
  case h_4 => simp [isFigure]
  case h_5 => simp

theorem isFigure_of_described {filling : Field.Filling} {cs rest : List Char} {f : Field}
    (h : described filling cs = .ok (f, rest)) : ∀ s ∈ f.separator, isFigure s := by
  unfold described at h
  dsimp only at h
  have ⟨⟨columns, _⟩, _, h⟩ := bind_eq_ok.mp h
  have ⟨⟨separator, _⟩, hs, h⟩ := bind_eq_ok.mp h
  dsimp only at h
  split at h
  all_goals
    have ⟨_, _, h⟩ := bind_eq_ok.mp h
    cases h
    exact isFigure_of_separator hs

-- A field has no other separators than a comma and an underscore.
theorem isFigure_of_field {v : Value} {f : Field} (h : field v = .ok f) : ∀ s ∈ f.separator, isFigure s := by
  unfold field at h
  have ⟨_, _, h⟩ := bind_eq_ok.mp h
  have ⟨⟨f', rest⟩, hf, h⟩ := bind_eq_ok.mp h
  have ⟨_, h⟩ := of_check (fun _ ht => by cases ht) h
  have ⟨_, h⟩ := of_check (fun _ ht => by cases ht) h
  cases h
  unfold leadingField at hf
  split at hf
  case h_1 => exact isFigure_of_described hf
  case h_2 =>
    have ⟨_, _, he⟩ := map_eq_ok.mp hf
    cases he
    exact nofun

-- A written number needs no escapes, however it is asked for.
theorem isFigure_of_text {v : Value} {x : Float} {label : String} (h : text v x = .ok label) :
    ∀ c ∈ label.toList, isFigure c := by
  have ⟨_, hf, he⟩ := map_eq_ok.mp h
  exact fun _ hc => Field.isFigure_of_mem_text (isFigure_of_field hf) (he ▸ hc)

end ModuleDiscovery.Places

