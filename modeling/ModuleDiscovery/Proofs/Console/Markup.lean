import Mathlib.Data.List.Basic
import Mathlib.Data.List.Infix
import Mathlib.Data.List.TakeWhile
import ModuleDiscovery.Proofs.Console.Picture
import ModuleDiscovery.Proofs.Results

namespace ModuleDiscovery.Console.Markup

open Text

variable {cs ds v body rest : List Char} {c : Char} {k n : Nat}

section Tags

-- What may stand between the brackets of a tag.
def IsTagBody (body : List Char) : Prop :=
  ∃ c cs, body = c :: cs ∧ startsTag c ∧ '[' ∉ cs ∧ ']' ∉ cs

instance : DecidablePred IsTagBody
  | []      => .isFalse fun ⟨_, _, h, _⟩ => absurd h (List.cons_ne_nil _ _).symm
  | c :: cs => decidable_of_iff (startsTag c ∧ '[' ∉ cs ∧ ']' ∉ cs) (by simp [IsTagBody])

theorem tag?_eq_some_iff : tag? cs = some (body, rest) ↔ IsTagBody body ∧ cs = '[' :: (body ++ ']' :: rest) := by
  constructor
  case mp =>
    intro h
    unfold tag? at h
    split at h
    case h_2 => cases h
    case h_1 c cs =>
      dsimp only at h
      split at h
      case h_2 => cases h
      case h_1 hd =>
        split at h
        case isFalse => cases h
        case isTrue hc =>
          cases h
          obtain ⟨ds, he⟩ := List.takeWhile_prefix (fun c => c ≠ '[' ∧ c ≠ ']') (l := cs)
          have hn : ∀ d ∈ cs.takeWhile fun c => c ≠ '[' ∧ c ≠ ']', d ≠ '[' ∧ d ≠ ']' := fun d hd =>
            by simpa using List.mem_takeWhile_imp hd
          refine ⟨⟨c, _, rfl, hc, fun h => (hn _ h).1 rfl, fun h => (hn _ h).2 rfl⟩, ?_⟩
          generalize cs.takeWhile _ = ts at *
          subst he
          rw [List.drop_left] at hd
          rw [hd, List.cons_append]
  case mpr =>
    rintro ⟨⟨c, cs, rfl, hc, ho, he⟩, rfl⟩
    have hp : ∀ d ∈ cs, decide (d ≠ '[' ∧ d ≠ ']') = true := by
      intro d hd
      simp only [decide_eq_true_iff]
      exact ⟨fun h => ho (h ▸ hd), fun h => he (h ▸ hd)⟩
    have ht : (cs ++ ']' :: rest).takeWhile (fun c => c ≠ '[' ∧ c ≠ ']') = cs := by
      rw [List.takeWhile_append_of_pos hp]
      simp
    simp only [List.cons_append, tag?, ht, List.drop_left, hc, if_true]

-- There are no tags, and no backslashes that escape a bracket.
structure IsBare (cs : List Char) : Prop where
  noTag    : ∀ body, IsTagBody body → ¬ '[' :: (body ++ [']']) <:+: cs
  noEscape : ¬['\\', '['] <:+: cs

theorem tag?_ne_none_iff : tag? cs ≠ none ↔ ∃ body, IsTagBody body ∧ '[' :: (body ++ [']']) <+: cs := by
  rw [Option.ne_none_iff_exists']
  constructor
  case mp =>
    rintro ⟨⟨body, rest⟩, h⟩
    obtain ⟨hb, rfl⟩ := tag?_eq_some_iff.mp h
    exact ⟨body, hb, rest, by simp⟩
  case mpr =>
    rintro ⟨body, hb, rest, rfl⟩
    exact ⟨(body, rest), tag?_eq_some_iff.mpr ⟨hb, by simp⟩⟩

theorem isBare_nil : IsBare [] where
  noTag _ _ := by simp
  noEscape  := by simp

-- Nothing starts at the front.
theorem isBare_cons_iff : IsBare (c :: cs) ↔ tag? (c :: cs) = none ∧ ¬(c = '\\' ∧ cs.head? = some '[') ∧ IsBare cs := by
  have ht : tag? (c :: cs) = none ↔ ∀ body, IsTagBody body → ¬ '[' :: (body ++ [']']) <+: c :: cs := by
    rw [← not_iff_not, ← ne_eq, tag?_ne_none_iff]
    push Not
    rfl
  have he : ['\\', '['] <+: c :: cs ↔ c = '\\' ∧ cs.head? = some '[' := by
    cases cs <;> simp [eq_comm]
  rw [ht, ← he]
  constructor
  case mp =>
    exact fun ⟨hn, he⟩ => ⟨fun b hb hp => hn b hb hp.isInfix, fun hp => he hp.isInfix,
      fun b hb hi => hn b hb (List.infix_cons hi), fun hi => he (List.infix_cons hi)⟩
  case mpr =>
    rintro ⟨ht, he, hn, hi⟩
    exact ⟨fun b hb h => (List.infix_cons_iff.mp h).elim (ht b hb) (hn b hb),
      fun h => (List.infix_cons_iff.mp h).elim he hi⟩

end Tags

section Marks

-- Whatever is read out of a text as markup takes some of these away, and nothing brings any back.
def marks (cs : List Char) : Nat :=
  cs.countP isMark

@[simp]
theorem isMark_bracket : isMark '[' = true :=
  rfl

@[simp]
theorem isMark_backslash : isMark '\\' = true :=
  rfl

@[simp]
theorem isMark_colon : isMark ':' = true :=
  rfl

@[simp]
theorem isMark_closing : isMark ']' = false :=
  rfl

@[simp]
theorem marks_nil : marks [] = 0 :=
  rfl

@[simp]
theorem marks_cons : marks (c :: cs) = marks cs + if isMark c then 1 else 0 :=
  List.countP_cons

@[simp]
theorem marks_append : marks (cs ++ ds) = marks cs + marks ds :=
  List.countP_append

theorem marks_eq_zero_iff : marks cs = 0 ↔ ∀ c ∈ cs, isMark c = false := by
  simp [marks, List.countP_eq_zero]

theorem marks_drop_le : marks (cs.drop n) ≤ marks cs :=
  (List.drop_sublist n cs).countP_le

@[simp]
theorem marks_replicate_backslash : marks (List.replicate n '\\') = n := by
  simp [marks, List.countP_replicate]

end Marks

section Pieces

namespace Piece

-- What a piece holds of the text that it was read from.
def chars : Piece → List Char
  | text cs    => cs
  | literal cs => cs
  | tag _ _    => []

def shown : Piece → List Char
  | text cs    => shownText cs
  | literal cs => shownText cs
  | tag _ _    => []

end Piece

theorem backslashes_append (cs : List Char) : List.replicate (cs.takeWhile (· = '\\')).length '\\' ++
    cs.drop (cs.takeWhile (· = '\\')).length = cs := by
  obtain ⟨ds, he⟩ := List.takeWhile_prefix (· = '\\') (l := cs)
  have hr : cs.takeWhile (· = '\\') = List.replicate (cs.takeWhile (· = '\\')).length '\\' :=
    List.eq_replicate_iff.mpr ⟨rfl, fun b hb => by simpa using List.mem_takeWhile_imp hb⟩
  generalize cs.takeWhile (· = '\\') = ts at *
  subst he
  rw [List.drop_left, ← hr]

theorem flatMap_chars_addText (ps : List Piece) : (addText c ps).flatMap Piece.chars = c :: ps.flatMap Piece.chars := by
  unfold addText
  split <;> rfl

-- At least one of the marks of a tag and of the backslashes in front of it is not kept.
theorem marks_tagPieces_lt : marks ((tagPieces n k body).flatMap Piece.chars) < n + 1 + marks body := by
  unfold tagPieces
  dsimp only
  split <;> split <;> simp [Piece.chars] <;> omega

theorem tag?_eq_none_of_drop (h : tag? ((c :: cs).drop ((c :: cs).takeWhile (· = '\\')).length) = none) :
    tag? (c :: cs) = none := by
  by_cases hc : c = '\\'
  case pos => rw [hc]; rfl
  case neg => rwa [List.takeWhile_cons_of_neg (by simpa using hc)] at h

theorem eq_append_tag {p : List Char × List Char} (h : tag? (cs.drop (cs.takeWhile (· = '\\')).length) = some p) :
    IsTagBody p.1 ∧
      cs = List.replicate (cs.takeWhile (· = '\\')).length '\\' ++ '[' :: (p.1 ++ ']' :: p.2) := by
  have ⟨hb, he⟩ := tag?_eq_some_iff.mp h
  exact ⟨hb, by rw [← he, backslashes_append]⟩

-- Either there is no markup, and the text is the only piece of itself, or marks are lost.
theorem pieces_cases (k : Nat) (cs : List Char) :
    IsBare cs ∧ pieces k cs = (if cs = [] then [] else [.text cs]) ∨
      ¬IsBare cs ∧ marks ((pieces k cs).flatMap Piece.chars) < marks cs := by
  fun_induction pieces k cs
  case case1 => exact .inl ⟨isBare_nil, rfl⟩
  case case2 k c cs n p h ih =>
    have ⟨hb, he⟩ := eq_append_tag h
    refine .inr ⟨fun hn => hn.noTag p.1 hb ⟨_, p.2, by simpa using he.symm⟩, ?_⟩
    have ht : marks ((tagPieces n k p.1).flatMap Piece.chars) < n + 1 + marks p.1 := marks_tagPieces_lt
    have hr : marks ((pieces (k + n + p.1.length + 2) p.2).flatMap Piece.chars) ≤ marks p.2 := by
      rcases ih with ⟨_, ih⟩ | ⟨_, ih⟩
      case inl => rw [ih]; split <;> simp [Piece.chars]
      case inr => exact ih.le
    have hs : marks (c :: cs) = n + (marks p.1 + marks p.2 + 1) := by
      rw [he, marks_append, marks_replicate_backslash, marks_cons, marks_append, marks_cons]
      rfl
    rw [List.flatMap_append, marks_append, hs]
    omega
  case case3 k c cs n h he ih =>
    refine .inr ⟨fun hb => (isBare_cons_iff.mp hb).2.1 he, ?_⟩
    rw [he.1, marks_cons, isMark_backslash, if_pos rfl]
    rcases ih with ⟨_, ih⟩ | ⟨_, ih⟩
    case inl => rw [ih]; split <;> simp [Piece.chars]
    case inr => exact ih.trans (Nat.lt_succ_self _)
  case case4 k c cs n h he ih =>
    rcases ih with ⟨hb, ih⟩ | ⟨hb, ih⟩
    case inl =>
      refine .inl ⟨isBare_cons_iff.mpr ⟨tag?_eq_none_of_drop h, he, hb⟩, ?_⟩
      rw [ih, if_neg (List.cons_ne_nil _ _)]
      split
      case isTrue hc => rw [hc]; rfl
      case isFalse   => rfl
    case inr =>
      refine .inr ⟨fun hn => hb (isBare_cons_iff.mp hn).2.2, ?_⟩
      rw [flatMap_chars_addText, marks_cons, marks_cons]
      exact Nat.add_lt_add_right ih _

theorem marks_chars_pieces_le : marks ((pieces k cs).flatMap Piece.chars) ≤ marks cs := by
  rcases pieces_cases k cs with ⟨_, h⟩ | ⟨_, h⟩
  case inl => rw [h]; split <;> simp [Piece.chars]
  case inr => exact h.le

end Pieces

section Codes

-- What stands between two colons without white space, from left to right, where a colon belongs to one code only. The
-- first `skip` characters are left out.
def codes (skip : Nat) : List Char → List (List Char)
  | []      => []
  | c :: cs =>
    if skip > 0 then codes (skip - 1) cs
    else
      match code? (c :: cs) with
      | none      => codes 0 cs
      | some code => code :: codes (code.length + 1) cs

variable {skip : Nat}

theorem replacePictures_eq_self (h : ∀ code ∈ codes skip cs, picture? code = none) : replacePictures skip cs = cs := by
  fun_induction replacePictures skip cs
  case case1 => rfl
  case case2 skip c cs hs ih =>
    rw [codes, if_pos hs] at h
    rw [ih h]
  case case3 skip c cs hs hc ih =>
    rw [codes, if_neg hs, hc] at h
    rw [ih h]
  case case4 skip c cs hs code hc p hp ih =>
    rw [codes, if_neg hs, hc] at h
    exact absurd (h code List.mem_cons_self) (by simp [hp])
  case case5 skip c cs hs code hc hp ih =>
    rw [codes, if_neg hs, hc] at h
    rw [ih (List.forall_mem_cons.mp h).2]

theorem eq_colon_of_code? {code : List Char} (h : code? (c :: cs) = some code) : c = ':' := by
  unfold code? at h
  split at h
  case h_1 he => exact (List.cons.inj he).1
  case h_2    => cases h

-- A picture takes the place of the two colons around its name.
theorem replacePictures_cases (skip : Nat) (cs : List Char) :
    (∀ code ∈ codes skip cs, picture? code = none) ∨ marks (replacePictures skip cs) < marks cs := by
  fun_induction replacePictures skip cs
  case case1 => exact .inl nofun
  case case2 skip c cs hs ih =>
    rw [codes, if_pos hs, marks_cons, marks_cons]
    exact ih.imp_right (Nat.add_lt_add_right · _)
  case case3 skip c cs hs hc ih =>
    rw [codes, if_neg hs, hc, marks_cons, marks_cons]
    exact ih.imp_right (Nat.add_lt_add_right · _)
  case case4 skip c cs hs code hc p hp ih =>
    have hz : marks p = 0 := marks_eq_zero_iff.mpr (isMark_of_picture? hp)
    have hd : marks (cs.drop (code.length + 1)) ≤ marks cs := marks_drop_le
    rw [eq_colon_of_code? hc, marks_append, marks_cons, isMark_colon, if_pos rfl, hz]
    rcases ih with ih | ih
    case inl => rw [replacePictures_eq_self ih]; omega
    case inr => omega
  case case5 skip c cs hs code hc hp ih =>
    rw [codes, if_neg hs, hc, marks_cons, marks_cons]
    exact ih.imp (fun h => List.forall_mem_cons.mpr ⟨hp, h⟩) (Nat.add_lt_add_right · _)

theorem shownText_nil : shownText [] = [] := by
  simp [shownText, replacePictures]

theorem marks_shownText_eq (h : ∀ code ∈ codes 0 cs, picture? code = none) :
    marks cs = marks (shownText cs) + marks (cs.filter isStripped) := by
  rw [shownText, replacePictures_eq_self h, marks, marks, marks, Nat.add_comm]
  exact List.countP_eq_countP_filter_add cs isMark isStripped

theorem marks_shownText_le : marks (shownText cs) ≤ marks cs := by
  rcases replacePictures_cases 0 cs with h | h
  case inl => exact (marks_shownText_eq h).symm ▸ Nat.le_add_right _ _
  case inr => exact List.filter_sublist.countP_le.trans h.le

-- The marks that are kept and left out are the same only if none is left out.
theorem marks_shownText_eq_iff : marks (shownText cs) = marks cs ↔
    (∀ code ∈ codes 0 cs, picture? code = none) ∧ '\x07' ∉ cs ∧ '\x08' ∉ cs := by
  have hs : (∀ c ∈ cs, isStripped c → isMark c = false) ↔ '\x07' ∉ cs ∧ '\x08' ∉ cs := by
    constructor
    case mp => exact fun h => ⟨fun hc => absurd (h _ hc rfl) (by decide), fun hc => absurd (h _ hc rfl) (by decide)⟩
    case mpr =>
      rintro ⟨h₇, h₈⟩ c hc hs
      have he : ∀ c ∈ ['\x07', '\x08', '\x0b', '\x0c', '\x0d'], c = '\x07' ∨ c = '\x08' ∨ isMark c = false :=
        List.all_iff_forall_prop.mp (by decide)
      rcases he c (of_decide_eq_true hs) with rfl | rfl | he
      case inl     => exact absurd hc h₇
      case inr.inl => exact absurd hc h₈
      case inr.inr => exact he
  rcases replacePictures_cases 0 cs with h | h
  case inl =>
    rw [and_iff_right h, ← hs, marks_shownText_eq h, eq_comm, Nat.add_eq_left, marks_eq_zero_iff]
    simp only [List.mem_filter, and_imp]
  case inr =>
    have hl : marks (shownText cs) < marks cs := List.filter_sublist.countP_le.trans_lt h
    exact iff_of_false hl.ne fun hn => h.ne (by rw [replacePictures_eq_self hn.1])

end Codes

section Unmarked

-- There is nothing in a text that is taken as markup, and none of the controls that are left out and are no white
-- space.
structure IsUnmarked (cs : List Char) : Prop extends IsBare cs where
  noPicture : ∀ code ∈ codes 0 cs, picture? code = none
  noControl : '\x07' ∉ cs ∧ '\x08' ∉ cs

theorem isUnmarked_nil : IsUnmarked [] where
  toIsBare  := isBare_nil
  noPicture := nofun
  noControl := ⟨nofun, nofun⟩

variable {o : List OpenTag} {ps : List Piece}

theorem textOfPieces_eq_ok (h : textOfPieces o ps = .ok ds) : ds = ps.flatMap Piece.shown := by
  induction ps generalizing o ds
  case nil => exact (Except.ok.inj h).symm
  case cons p ps ih =>
    cases p
    case text cs =>
      have ⟨es, he, h⟩ := map_eq_ok.mp h
      rw [← h, ih he]
      rfl
    case literal cs =>
      have ⟨es, he, h⟩ := map_eq_ok.mp h
      rw [← h, ih he]
      rfl
    case tag body k =>
      have ⟨o', _, h⟩ := bind_eq_ok.mp h
      exact ih h

theorem marks_shown_le (ps : List Piece) : marks (ps.flatMap Piece.shown) ≤ marks (ps.flatMap Piece.chars) := by
  have hp (p : Piece) : marks p.shown ≤ marks p.chars := by
    cases p
    case tag => exact Nat.le_refl _
    all_goals exact marks_shownText_le
  induction ps
  case nil          => exact Nat.le_refl _
  case cons p ps ih =>
    rw [List.flatMap_cons, List.flatMap_cons, marks_append, marks_append]
    exact Nat.add_le_add (hp p) ih

theorem pieces_of_isBare (h : IsBare cs) : pieces k cs = if cs = [] then [] else [.text cs] :=
  ((pieces_cases k cs).resolve_right fun ⟨hn, _⟩ => hn h).2

theorem textOfPieces_of_isBare (h : IsBare cs) : textOfPieces o (pieces k cs) = .ok (shownText cs) := by
  rw [pieces_of_isBare h]
  split
  case isTrue hc => rw [hc, shownText_nil]; rfl
  case isFalse   => simp [textOfPieces, Except.map]

theorem textOfPieces_of_isUnmarked (h : IsUnmarked cs) :
    textOfPieces o (pieces k cs) = .ok (cs.filter (!isStripped ·)) := by
  rw [textOfPieces_of_isBare h.toIsBare, shownText, replacePictures_eq_self h.noPicture]

theorem marks_flatMap_shown_le : marks ((pieces k cs).flatMap Piece.shown) ≤ marks cs :=
  (marks_shown_le _).trans marks_chars_pieces_le

-- What is shown of a text has all of its marks if and only if there is no markup in it.
theorem marks_flatMap_shown_eq_iff : marks ((pieces k cs).flatMap Piece.shown) = marks cs ↔ IsUnmarked cs := by
  rcases pieces_cases k cs with ⟨hb, _⟩ | ⟨hb, hp⟩
  case inl =>
    rw [← textOfPieces_eq_ok (textOfPieces_of_isBare (o := []) hb), marks_shownText_eq_iff]
    exact ⟨fun ⟨hn, hc⟩ => ⟨hb, hn, hc⟩, fun h => ⟨h.noPicture, h.noControl⟩⟩
  case inr => exact iff_of_false ((marks_shown_le _).trans_lt hp).ne fun hu => hb hu.toIsBare

theorem flatMap_shown_eq_self_iff :
    (pieces k cs).flatMap Piece.shown = cs ↔ IsUnmarked cs ∧ ∀ c ∈ cs, isStripped c = false := by
  have hf (hu : IsUnmarked cs) := textOfPieces_eq_ok (textOfPieces_of_isUnmarked (o := []) (k := k) hu)
  constructor
  case mp =>
    intro h
    have hu : IsUnmarked cs := marks_flatMap_shown_eq_iff.mp (congrArg marks h)
    rw [← hf hu, List.filter_eq_self] at h
    exact ⟨hu, fun c hc => by simpa using h c hc⟩
  case mpr =>
    rintro ⟨hu, hs⟩
    rw [← hf hu, List.filter_eq_self]
    exact fun c hc => by simp [hs c hc]

theorem textOfPieces_eq_self_iff :
    textOfPieces o (pieces k cs) = .ok cs ↔ IsUnmarked cs ∧ ∀ c ∈ cs, isStripped c = false := by
  rw [← flatMap_shown_eq_self_iff (k := k)]
  constructor
  case mp => exact fun h => (textOfPieces_eq_ok h).symm
  case mpr =>
    intro h
    have hu := (flatMap_shown_eq_self_iff.mp h).1
    have ht := textOfPieces_of_isBare (o := o) (k := k) hu.toIsBare
    rw [ht, textOfPieces_eq_ok ht, h]

theorem shownText_eq_self (h : IsUnmarked cs) (hs : ∀ c ∈ cs, isStripped c = false) : shownText cs = cs :=
  Except.ok.inj <| (textOfPieces_of_isBare (o := []) (k := 0) h.toIsBare).symm.trans <|
    textOfPieces_eq_self_iff.mpr ⟨h, hs⟩

theorem plain_eq_self_iff : plain cs = .ok cs ↔ IsUnmarked cs ∧ ∀ c ∈ cs, isStripped c = false := by
  rw [plain, mapError_eq_ok, textOfPieces_eq_self_iff]

theorem checkStyles_of_isBare (h : IsBare cs) : checkStyles cs = .ok () := by
  rw [checkStyles, pieces_of_isBare h]
  split <;> rfl

theorem shown_of_isBare (h : IsBare cs) : shown cs = .ok (shownText cs) := by
  rw [shown, plain, textOfPieces_of_isBare h, checkStyles_of_isBare h]
  rfl

theorem shown_eq_ok_iff : shown cs = .ok ds ↔ plain cs = .ok ds ∧ checkStyles cs = .ok () := by
  rw [shown]
  cases plain cs <;> cases checkStyles cs <;> simp [bind, Except.bind, pure, Except.pure]

theorem isOk_shown_iff : (shown cs).isOk ↔ (plain cs).isOk ∧ checkStyles cs = .ok () := by
  simp only [isOk_iff, shown_eq_ok_iff, exists_and_right]

theorem shown_eq_self_iff : shown cs = .ok cs ↔ IsUnmarked cs ∧ ∀ c ∈ cs, isStripped c = false := by
  constructor
  case mp  => exact fun h => plain_eq_self_iff.mp (shown_eq_ok_iff.mp h).1
  case mpr => exact fun h => shown_eq_ok_iff.mpr ⟨plain_eq_self_iff.mpr h, checkStyles_of_isBare h.1.toIsBare⟩

end Unmarked

section Sufficient

theorem isBare_of_not_mem (h : '[' ∉ cs) : IsBare cs where
  noTag _ _ hi := h (hi.subset List.mem_cons_self)
  noEscape hi  := h (hi.subset (.tail _ List.mem_cons_self))

theorem codes_of_not_mem {skip : Nat} (h : ':' ∉ cs) : codes skip cs = [] := by
  induction cs generalizing skip
  case nil => rfl
  case cons c cs ih =>
    have ⟨hc, hcs⟩ := not_or.mp (mt List.mem_cons.mpr h)
    have hn : code? (c :: cs) = none := Option.eq_none_iff_forall_ne_some.mpr fun _ he => hc (eq_colon_of_code? he).symm
    rw [codes, hn]
    split <;> exact ih hcs

theorem isUnmarked_of_not_mem (h : '[' ∉ cs) (hc : ':' ∉ cs) (hs : ∀ c ∈ cs, isStripped c = false) : IsUnmarked cs where
  toIsBare      := isBare_of_not_mem h
  noPicture _ h := by simp [codes_of_not_mem hc] at h
  noControl     := ⟨fun h => absurd (hs _ h) (by decide), fun h => absurd (hs _ h) (by decide)⟩

end Sufficient
end ModuleDiscovery.Console.Markup
