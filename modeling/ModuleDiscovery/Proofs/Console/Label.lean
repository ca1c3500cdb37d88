import ModuleDiscovery.Proofs.Console.Markup

namespace ModuleDiscovery.Console.Markup

open Text

variable {cs ds u v w body rest style : List Char} {c : Char} {k n : Nat}

section Append

theorem IsTagBody.not_mem (h : IsTagBody body) : '[' ∉ body ∧ ']' ∉ body := by
  obtain ⟨c, cs, rfl, hc, ho, he⟩ := h
  simp only [List.mem_cons, not_or]
  exact ⟨⟨fun h => absurd (h ▸ hc) (by decide), ho⟩, fun h => absurd (h ▸ hc) (by decide), he⟩

theorem concat_prefix_append (cs : List Char) (h : cs ++ [c] <+: v ++ w) :
    cs ++ [c] <+: v ∨ ∃ s, cs = v ++ s ∧ s ++ [c] <+: w := by
  obtain ⟨r, h⟩ := h
  rcases List.append_eq_append_iff.mp h with ⟨a, hv, _⟩ | ⟨a, hc, hw⟩
  case inl => exact .inl ⟨a, hv.symm⟩
  case inr =>
    rcases List.eq_nil_or_concat a with rfl | ⟨s, d, rfl⟩
    case inl => exact .inl (by simp [hc])
    case inr =>
      rw [List.concat_eq_append, ← List.append_assoc] at hc
      obtain ⟨hs, hd⟩ := List.append_inj' hc rfl
      exact .inr ⟨s, hs, r, by rw [hw, hd, List.concat_eq_append]⟩

-- A tag that starts in the front part ends there, unless it could end in the other part.
theorem tag?_append_eq_none (hv : v ≠ []) (hn : tag? v = none) (hw : ∀ s, s ++ [']'] <+: w → '[' ∈ s) :
    tag? (v ++ w) = none := by
  by_contra ht
  have ⟨body, hb, hp⟩ := tag?_ne_none_iff.mp ht
  rcases concat_prefix_append ('[' :: body) hp with hq | ⟨s, hs, hq⟩
  case inl => exact tag?_ne_none_iff.mpr ⟨body, hb, hq⟩ hn
  case inr =>
    obtain ⟨d, v, rfl⟩ := List.exists_cons_of_ne_nil hv
    rw [(List.cons.inj hs).2] at hb
    exact hb.not_mem.1 (List.mem_append_right _ (hw s hq))

theorem tag?_append_eq_some {p : List Char × List Char} (h : tag? v = some p) :
    tag? (v ++ w) = some (p.1, p.2 ++ w) := by
  obtain ⟨hb, rfl⟩ := tag?_eq_some_iff.mp h
  exact tag?_eq_some_iff.mpr ⟨hb, by simp⟩

theorem code?_eq_some_iff {code : List Char} : code? cs = some code ↔
    (∀ c ∈ code, c ≠ ':' ∧ ¬isBlank c) ∧ ':' :: (code ++ [':']) <+: cs := by
  constructor
  case mp =>
    intro h
    unfold code? at h
    split at h
    case h_2 => cases h
    case h_1 cs =>
      obtain ⟨ds, he⟩ := List.takeWhile_prefix (fun c => c ≠ ':' ∧ !isBlank c) (l := cs)
      have hn : ∀ c ∈ cs.takeWhile fun c => c ≠ ':' ∧ !isBlank c, c ≠ ':' ∧ ¬isBlank c := fun c hc => by
        simpa using List.mem_takeWhile_imp hc
      dsimp only at h
      split at h
      case isFalse => cases h
      case isTrue hc =>
        cases h
        refine ⟨hn, ?_⟩
        generalize cs.takeWhile _ = ts at *
        subst he
        rw [List.getElem?_append_right (Nat.le_refl _), Nat.sub_self] at hc
        cases ds
        case nil       => cases hc
        case cons d ds => exact ⟨ds, by simp [Option.some.inj hc]⟩
  case mpr =>
    rintro ⟨hn, r, rfl⟩
    have ht : (code ++ ':' :: r).takeWhile (fun c => c ≠ ':' ∧ !isBlank c) = code := by
      rw [List.takeWhile_append_of_pos fun c hc => by simpa using hn c hc]
      simp
    have he : ':' :: (code ++ [':']) ++ r = ':' :: (code ++ ':' :: r) := by simp
    rw [he, code?, ht, if_pos]
    simp

theorem code?_append (h : ':' ∉ w) : code? (c :: (v ++ w)) = code? (c :: v) := by
  ext code
  rw [code?_eq_some_iff, code?_eq_some_iff]
  refine and_congr_right fun _ => ⟨fun hp => ?_, fun hp => hp.trans (List.prefix_append (c :: v) w)⟩
  rcases concat_prefix_append (v := c :: v) (':' :: code) hp with hp | ⟨s, _, hp⟩
  case inl => exact hp
  case inr => exact absurd (hp.subset (List.mem_append_right s List.mem_cons_self)) h

theorem codes_append {skip : Nat} (h : ':' ∉ w) : codes skip (v ++ w) = codes skip v := by
  induction v generalizing skip
  case nil          => exact codes_of_not_mem h
  case cons c v ih => simp only [List.cons_append, codes, code?_append h, ih]

theorem codes_append_right (h : ':' ∉ w) : codes 0 (w ++ v) = codes 0 v := by
  induction w
  case nil         => rfl
  case cons c w ih =>
    have ⟨hc, hw⟩ := not_or.mp (mt List.mem_cons.mpr h)
    have hn : code? (c :: (w ++ v)) = none :=
      Option.eq_none_iff_forall_ne_some.mpr fun _ he => hc (eq_colon_of_code? he).symm
    rw [List.cons_append, codes, hn]
    exact ih hw

theorem isBare_append_iff (h : ∀ c ∈ w, c ≠ '[' ∧ c ≠ ']') : IsBare (v ++ w) ↔ IsBare v := by
  induction v
  case nil         => exact iff_of_true (isBare_of_not_mem fun hc => (h _ hc).1 rfl) isBare_nil
  case cons c v ih =>
    have ht : tag? (c :: v ++ w) = none ↔ tag? (c :: v) = none := by
      refine ⟨fun hn => ?_, fun hn => tag?_append_eq_none (List.cons_ne_nil c v) hn fun s hs => ?_⟩
      case refine_1 =>
        refine Option.eq_none_iff_forall_ne_some.mpr fun p hp => ?_
        rw [tag?_append_eq_some hp] at hn
        cases hn
      case refine_2 => exact absurd rfl (h _ (hs.subset (List.mem_append_right s List.mem_cons_self))).2
    have hh : (v ++ w).head? = some '[' ↔ v.head? = some '[' := by
      cases v
      case nil  => exact iff_of_false (fun hw => (h _ (List.mem_of_mem_head? hw)).1 rfl) nofun
      case cons => rfl
    rw [List.cons_append, isBare_cons_iff, isBare_cons_iff, ih, hh, ← List.cons_append, ht]

theorem isBare_append_right_iff (h : ∀ c ∈ w, c ≠ '[' ∧ c ≠ '\\') : IsBare (w ++ v) ↔ IsBare v := by
  induction w
  case nil         => rfl
  case cons c w ih =>
    have ⟨⟨ho, hb⟩, hw⟩ := List.forall_mem_cons.mp h
    have ht : tag? (c :: (w ++ v)) = none := by
      refine Option.eq_none_iff_forall_ne_some.mpr fun p hp => ho ?_
      exact (List.cons.inj (tag?_eq_some_iff.mp hp).2).1
    rw [List.cons_append, isBare_cons_iff, ih hw, and_iff_right ht, and_iff_right fun h => hb h.1]

-- Characters that are no part of any markup.
def IsInert (c : Char) : Prop :=
  isMark c = false ∧ c ≠ ']'

instance : DecidablePred IsInert :=
  fun c => inferInstanceAs (Decidable (isMark c = false ∧ c ≠ ']'))

theorem isUnmarked_enclosed_iff (hv : ∀ c ∈ v, IsInert c) (hw : ∀ c ∈ w, IsInert c) :
    IsUnmarked (v ++ (cs ++ w)) ↔ IsUnmarked cs := by
  have hn {c : Char} {ds : List Char} (hc : isMark c) (hd : ∀ d ∈ ds, IsInert d) : c ∉ ds := fun h =>
    absurd hc (by simp [(hd c h).1])
  have hvb : ∀ c ∈ v, c ≠ '[' ∧ c ≠ '\\' := fun c hc =>
    ⟨fun h => hn (c := '[') rfl hv (h ▸ hc), fun h => hn (c := '\\') rfl hv (h ▸ hc)⟩
  have hwb : ∀ c ∈ w, c ≠ '[' ∧ c ≠ ']' := fun c hc => ⟨fun h => hn (c := '[') rfl hw (h ▸ hc), (hw c hc).2⟩
  have hb : IsBare (v ++ (cs ++ w)) ↔ IsBare cs := by
    rw [isBare_append_right_iff hvb, isBare_append_iff hwb]
  have hp : codes 0 (v ++ (cs ++ w)) = codes 0 cs := by
    rw [codes_append_right (hn rfl hv), codes_append (hn rfl hw)]
  have hc {c : Char} (hc : isMark c) : c ∉ v ++ (cs ++ w) ↔ c ∉ cs := by
    simp [hn hc hv, hn hc hw]
  constructor
  case mp => exact fun h => ⟨hb.mp h.toIsBare, hp ▸ h.noPicture, h.noControl.imp (hc rfl).mp (hc rfl).mp⟩
  case mpr => exact fun h => ⟨hb.mpr h.toIsBare, hp ▸ h.noPicture, h.noControl.imp (hc rfl).mpr (hc rfl).mpr⟩

-- Backslashes and a tag.
def escaped (n : Nat) (body : List Char) : List Char :=
  List.replicate n '\\' ++ '[' :: (body ++ [']'])

theorem mem_of_concat_prefix_escaped {s : List Char} (h : s ++ [']'] <+: escaped n body ++ rest) : '[' ∈ s := by
  rw [escaped, List.append_assoc] at h
  rcases concat_prefix_append s h with h | ⟨s, rfl, h⟩
  case inl =>
    have hm := (List.mem_replicate.mp (h.subset (List.mem_append_right s List.mem_cons_self))).2
    exact absurd hm (by decide)
  case inr =>
    cases s
    case nil         => simp at h
    case cons d s    => simp_all

theorem takeWhile_escaped : (escaped n body ++ rest).takeWhile (· = '\\') = List.replicate n '\\' := by
  rw [escaped, List.append_assoc, List.takeWhile_append_of_pos (by simp)]
  simp

theorem length_takeWhile_lt (hv : v ≠ []) (hl : v.getLast? ≠ some '\\') :
    (v.takeWhile (· = '\\')).length < v.length := by
  refine (List.takeWhile_prefix _).length_le.lt_of_ne fun h => hl ?_
  have hm : v.getLast hv ∈ v.takeWhile (· = '\\') := by
    rw [(List.takeWhile_prefix _).eq_of_length h]
    exact List.getLast_mem hv
  have hb := List.mem_takeWhile_imp hm
  rw [List.getLast?_eq_some_getLast hv, of_decide_eq_true hb]

theorem takeWhile_append (hv : v ≠ []) (hl : v.getLast? ≠ some '\\') :
    (v ++ w).takeWhile (· = '\\') = v.takeWhile (· = '\\') := by
  rw [List.takeWhile_append, if_neg (length_takeWhile_lt hv hl).ne]

theorem drop_takeWhile_append (hv : v ≠ []) (hl : v.getLast? ≠ some '\\') :
    (v ++ w).drop ((v ++ w).takeWhile (· = '\\')).length = v.drop (v.takeWhile (· = '\\')).length ++ w := by
  rw [takeWhile_append hv hl, List.drop_append_of_le_length (List.takeWhile_prefix _).length_le]

theorem tag?_drop_append_eq_none (hl : (c :: cs).getLast? ≠ some '\\')
    (hn : tag? ((c :: cs).drop ((c :: cs).takeWhile (· = '\\')).length) = none)
    (hw : ∀ s, s ++ [']'] <+: w → '[' ∈ s) :
    tag? ((c :: (cs ++ w)).drop ((c :: (cs ++ w)).takeWhile (· = '\\')).length) = none := by
  have hc : c :: cs ≠ [] := List.cons_ne_nil c cs
  rw [← List.cons_append, drop_takeWhile_append hc hl]
  exact tag?_append_eq_none (mt List.drop_eq_nil_iff.mp (length_takeWhile_lt hc hl).not_ge) hn hw

theorem addText_append {ps qs : List Piece} (h : ∀ cs, qs.head? ≠ some (.text cs)) :
    addText c (ps ++ qs) = addText c ps ++ qs := by
  rcases ps with _ | ⟨_ | _ | _, ps⟩
  case nil =>
    rcases qs with _ | ⟨_ | _ | _, qs⟩
    case cons.text cs => exact absurd rfl (h cs)
    all_goals rfl
  all_goals rfl

theorem head?_tagPieces_append (ps : List Piece) (cs : List Char) :
    (tagPieces n k body ++ ps).head? ≠ some (.text cs) := by
  unfold tagPieces
  dsimp only
  split <;> split <;> simp

theorem pieces_of_tag {p : List Char × List Char} (hn : (cs.takeWhile (· = '\\')).length = n)
    (h : tag? (cs.drop n) = some p) : pieces k cs = tagPieces n k p.1 ++ pieces (k + n + p.1.length + 2) p.2 := by
  subst hn
  cases cs
  case nil => cases h
  case cons c cs =>
    rw [pieces]
    split
    case h_1 q hq =>
      obtain rfl := Option.some.inj (h.symm.trans hq)
      rfl
    case h_2 hn => exact absurd (h.symm.trans hn) (Option.some_ne_none p)

theorem pieces_of_no_tag (h : tag? ((c :: cs).drop ((c :: cs).takeWhile (· = '\\')).length) = none) :
    pieces k (c :: cs) =
      if c = '\\' ∧ cs.head? = some '[' then pieces (k + 1) cs else addText c (pieces (k + 1) cs) := by
  rw [pieces]
  split
  case h_1 q hq => exact absurd (hq.symm.trans h) (Option.some_ne_none q)
  case h_2      => rfl

theorem pieces_escaped (k n : Nat) (rest : List Char) (hb : IsTagBody body) :
    ∃ i, pieces k (escaped n body ++ rest) = tagPieces n k body ++ pieces i rest := by
  have hl : ((escaped n body ++ rest).takeWhile (· = '\\')).length = n := by
    rw [takeWhile_escaped, List.length_replicate]
  have hd : (escaped n body ++ rest).drop n = '[' :: (body ++ ']' :: rest) := by
    rw [escaped, List.append_assoc, List.drop_left' List.length_replicate]
    simp
  exact ⟨_, pieces_of_tag hl (hd ▸ tag?_eq_some_iff.mpr ⟨hb, rfl⟩)⟩

-- The pieces in front of a tag and of its backslashes are those of the text there.
theorem pieces_append_escaped (k n : Nat) (rest : List Char) (hv : v.getLast? ≠ some '\\') (hb : IsTagBody body) :
    ∃ i j, pieces k (v ++ (escaped n body ++ rest)) = pieces k v ++ (tagPieces n i body ++ pieces j rest) := by
  have hw : ∀ s, s ++ [']'] <+: escaped n body ++ rest → '[' ∈ s := fun _ => mem_of_concat_prefix_escaped
  generalize hr : escaped n body ++ rest = w at hw
  fun_induction pieces k v
  case case1 k =>
    obtain ⟨j, h⟩ := pieces_escaped k n rest hb
    exact ⟨k, j, hr ▸ h⟩
  case case2 k c cs m p h ih =>
    have hl : p.2.getLast? ≠ some '\\' := by
      intro hp
      rw [(eq_append_tag h).2] at hv
      exact hv (List.mem_getLast?_append_of_mem_getLast?
        (List.mem_getLast?_cons (List.mem_getLast?_append_of_mem_getLast? (List.mem_getLast?_cons hp))))
    obtain ⟨i, j, ih⟩ := ih hl
    have hd := drop_takeWhile_append (w := w) (List.cons_ne_nil c cs) hv
    have hp := pieces_of_tag (k := k) rfl (hd.symm ▸ tag?_append_eq_some (w := w) h)
    have hm : ((c :: cs ++ w).takeWhile (· = '\\')).length = m := by
      rw [takeWhile_append (List.cons_ne_nil c cs) hv]
    exact ⟨i, j, by rw [hp, hm, ih, List.append_assoc]⟩
  case case3 k c cs m h he ih =>
    obtain ⟨i, j, ih⟩ := ih (mt List.mem_getLast?_cons hv)
    have hp := pieces_of_no_tag (k := k) (tag?_drop_append_eq_none hv h hw)
    refine ⟨i, j, ?_⟩
    rw [List.cons_append, hp, if_pos ⟨he.1, by simp [he.2]⟩, ih]
  case case4 k c cs m h he ih =>
    obtain ⟨i, j, ih⟩ := ih (mt List.mem_getLast?_cons hv)
    have hp := pieces_of_no_tag (k := k) (tag?_drop_append_eq_none hv h hw)
    refine ⟨i, j, ?_⟩
    have he' : ¬(c = '\\' ∧ (cs ++ w).head? = some '[') := by
      rintro ⟨hb, hh⟩
      cases cs
      case nil  => exact hv (by rw [hb]; rfl)
      case cons => exact he ⟨hb, hh⟩
    rw [List.cons_append, hp, if_neg he', ih, addText_append (head?_tagPieces_append _)]

end Append

section Styled

-- A style around a text.
def styled (style cs : List Char) : List Char :=
  '[' :: (style ++ ']' :: (cs ++ '[' :: '/' :: (style ++ [']'])))

-- A style that can be opened, closed and read.
structure IsStyle (style : List Char) : Prop where
  isTagBody : IsTagBody style
  opens     : ∃ t, ∀ k o, applyTag style k o = .ok (t :: o) ∧ applyTag ('/' :: style) k (t :: o) = .ok o
  reads     : ∀ k, checkStyle (.tag style k) = .ok ()

variable {o : List OpenTag} {qs : List Piece}

theorem nameAndStated_of_not_mem (h : '=' ∉ body) : nameAndStated body = (body, none) := by
  have ht : body.takeWhile (· ≠ '=') = body := List.takeWhile_eq_self_iff.mpr fun c hc => by
    simpa using ne_of_mem_of_not_mem hc h
  rw [nameAndStated, ht, if_neg (Nat.lt_irrefl _)]

-- A style by its name in normal form.
theorem IsStyle.of_normal (ht : IsTagBody style) (hs : style.head? ≠ some '/') (he : '=' ∉ style)
    (hb : stripEnds isBlank style ≠ []) (hn : normalName style = .ok (String.ofList style)) : IsStyle style := by
  have ho : openTag style = .ok ⟨String.ofList style, none⟩ := by
    unfold openTag
    rw [nameAndStated_of_not_mem he]
    dsimp only
    rw [hn]
    rfl
  refine ⟨ht, ⟨⟨String.ofList style, none⟩, fun k o => ⟨?opened, ?closed⟩⟩, fun k => ?read⟩
  case opened =>
    unfold applyTag
    rw [nameAndStated_of_not_mem he]
    split
    case h_1 h =>
      dsimp only at h
      exact absurd (by rw [h]; rfl) hs
    case h_2   => rw [ho]; rfl
  case closed =>
    have he' : '=' ∉ '/' :: style := by simpa using he
    unfold applyTag
    rw [nameAndStated_of_not_mem he']
    simp [hb, hn, OpenTag.check, Except.map]
  case read =>
    simp [checkStyle, hs, ho, OpenTag.style, hn]

-- The styles of reports and messages.
theorem isStyle_of_mem : ∀ s ∈ ["bold", "bold cyan", "cyan", "green", "yellow", "dim", "red"], IsStyle s.toList := by
  have hn : ∀ s ∈ ["bold", "bold cyan", "cyan", "green", "yellow", "dim", "red"], IsTagBody s.toList ∧
      s.toList.head? ≠ some '/' ∧ '=' ∉ s.toList ∧ stripEnds isBlank s.toList ≠ [] ∧
      (normalName s.toList).toOption = some (String.ofList s.toList) := by decide +kernel
  intro s hs
  have ⟨ht, hh, he, hb, hn⟩ := hn s hs
  exact .of_normal ht hh he hb (toOption_eq_some.mp hn)

theorem IsTagBody.closing (h : IsTagBody body) : IsTagBody ('/' :: body) :=
  ⟨'/', body, rfl, rfl, h.not_mem⟩

theorem pieces_styled_escaped (k n : Nat) (rest : List Char) (hs : IsTagBody style) (hv : v.getLast? ≠ some '\\') :
    ∃ i j l,
    pieces k (styled style (v ++ List.replicate n '\\') ++ rest) =
      .tag style k :: (pieces i v ++ (tagPieces n j ('/' :: style) ++ pieces l rest)) := by
  have he : styled style (v ++ List.replicate n '\\') ++ rest =
      escaped 0 style ++ (v ++ (escaped n ('/' :: style) ++ rest)) := by
    simp [styled, escaped]
  have ⟨i, hi⟩ := pieces_escaped k 0 (v ++ (escaped n ('/' :: style) ++ rest)) hs
  have ⟨j, l, hj⟩ := pieces_append_escaped i n rest hv hs.closing
  exact ⟨i, j, l, by rw [he, hi, hj]; rfl⟩

theorem pieces_styled (k : Nat) (rest : List Char) (hs : IsTagBody style) (hv : v.getLast? ≠ some '\\') : ∃ i j l,
    pieces k (styled style v ++ rest) = .tag style k :: (pieces i v ++ .tag ('/' :: style) j :: pieces l rest) := by
  have ⟨i, j, l, h⟩ := pieces_styled_escaped k 0 rest hs hv
  rw [List.replicate_zero, List.append_nil] at h
  exact ⟨i, j, l, h⟩

theorem textOfPieces_append (h : IsBare v) :
    textOfPieces o (pieces k v ++ qs) = (textOfPieces o qs).map (shownText v ++ ·) := by
  rw [pieces_of_isBare h]
  split
  case isTrue hv =>
    rw [hv, shownText_nil, List.nil_append]
    cases textOfPieces o qs <;> rfl
  case isFalse => rfl

theorem textOfPieces_styled (k : Nat) (o : List OpenTag) (rest : List Char) (hs : IsStyle style) (hb : IsBare v)
    (hv : v.getLast? ≠ some '\\') : ∃ l,
    textOfPieces o (pieces k (styled style v ++ rest)) = (textOfPieces o (pieces l rest)).map (shownText v ++ ·) := by
  have ⟨i, j, l, h⟩ := pieces_styled k rest hs.isTagBody hv
  have ⟨t, ht⟩ := hs.opens
  refine ⟨l, ?_⟩
  rw [h, textOfPieces, (ht k o).1, ok_bind, textOfPieces_append hb, textOfPieces, (ht j o).2, ok_bind]

theorem forM_checkStyle (h : IsBare v) : forM (pieces k v) checkStyle = .ok () := by
  rw [pieces_of_isBare h]
  split <;> rfl

theorem checkStyles_styled (hs : IsStyle style) (hb : IsBare v) (hv : v.getLast? ≠ some '\\') (hr : IsBare rest) :
    checkStyles (styled style v ++ rest) = .ok () := by
  have ⟨i, j, l, h⟩ := pieces_styled 0 rest hs.isTagBody hv
  have hc : checkStyle (.tag ('/' :: style) j) = .ok () := rfl
  rw [checkStyles, h, List.forM_eq_forM, List.forM_cons, List.forM_append, List.forM_cons, hs.reads, hc,
    forM_checkStyle hb, forM_checkStyle hr]
  rfl

theorem shown_styled (hs : IsStyle style) (hb : IsBare v) (hv : v.getLast? ≠ some '\\') (hr : IsBare rest) :
    shown (styled style v ++ rest) = .ok (shownText v ++ shownText rest) := by
  have ⟨l, h⟩ := textOfPieces_styled 0 [] rest hs hb hv
  rw [shown, plain, h, textOfPieces_of_isBare hr, checkStyles_styled hs hb hv hr]
  rfl

-- What is behind the style is shown as it is under the same condition as alone.
theorem shown_styled_eq_iff (rest : List Char) (hs : IsStyle style) (hu : IsUnmarked v)
    (hp : ∀ c ∈ v, isStripped c = false) (hv : v.getLast? ≠ some '\\') :
    shown (styled style v ++ rest) = .ok (v ++ rest) ↔ IsUnmarked rest ∧ ∀ c ∈ rest, isStripped c = false := by
  have hvs : shownText v = v := shownText_eq_self hu hp
  constructor
  case mp =>
    intro h
    have ⟨l, ht⟩ := textOfPieces_styled 0 [] rest hs hu.toIsBare hv
    have hp := mapError_eq_ok.mp (shown_eq_ok_iff.mp h).1
    rw [ht, hvs] at hp
    have ⟨ds, hd, he⟩ := map_eq_ok.mp hp
    rw [List.append_cancel_left he] at hd
    exact textOfPieces_eq_self_iff.mp hd
  case mpr =>
    intro h
    rw [shown_styled hs hu.toIsBare hv h.1.toIsBare, hvs, shownText_eq_self h.1 h.2]

theorem exists_backslashes (u : List Char) : ∃ v n, u = v ++ List.replicate n '\\' ∧ v.getLast? ≠ some '\\' := by
  induction u using List.reverseRecOn
  case nil => exact ⟨[], 0, rfl, nofun⟩
  case append_singleton u c ih =>
    by_cases hc : c = '\\'
    case pos =>
      obtain ⟨v, n, rfl, hv⟩ := ih
      exact ⟨v, n + 1, by rw [hc, List.append_assoc, ← List.replicate_succ'], hv⟩
    case neg => exact ⟨u ++ [c], 0, by simp, by simpa using hc⟩

theorem shownText_of_not_mem (h : ':' ∉ v) : shownText v = v.filter (!isStripped ·) := by
  rw [shownText, replacePictures_eq_self]
  simp [codes_of_not_mem h]

-- An odd number of backslashes turns the tag into text, and of an even number half are shown.
theorem flatMap_shown_tagPieces_ne (hc : ':' ∉ body) (hn : n ≠ 0) (hs : marks cs ≤ marks v) :
    cs ++ (tagPieces n k body).flatMap Piece.shown ≠ v ++ List.replicate n '\\' := by
  intro h
  by_cases ho : n % 2 = 1
  case pos =>
    have ht : ∃ ds, (tagPieces n k body).flatMap Piece.shown = ds ++ [']'] := by
      have hb : ':' ∉ '[' :: body ++ [']'] := by simpa using hc
      rw [tagPieces, if_pos ho, List.flatMap_append, List.flatMap_singleton, Piece.shown, shownText_of_not_mem hb,
        List.filter_append, ← List.append_assoc]
      exact ⟨_, rfl⟩
    obtain ⟨ds, ht⟩ := ht
    rw [ht, ← Nat.succ_pred_eq_of_ne_zero hn, List.replicate_succ', ← List.append_assoc, ← List.append_assoc] at h
    exact absurd (List.append_inj' h rfl).2 (by decide)
  case neg =>
    have ht : marks ((tagPieces n k body).flatMap Piece.shown) ≤ n / 2 := by
      rw [tagPieces, if_neg ho]
      refine (marks_shown_le _).trans ?_
      split <;> simp [Piece.chars]
    have hm := congrArg marks h
    rw [marks_append, marks_append, marks_replicate_backslash] at hm
    omega

-- A text alone within a style has no backslash at its end either, as that would escape the closing tag.
theorem shown_styled_eq_self_iff (hs : IsStyle style) (hc : ':' ∉ style) : shown (styled style u) = .ok u ↔
    (IsUnmarked u ∧ ∀ c ∈ u, isStripped c = false) ∧ u.getLast? ≠ some '\\' := by
  constructor
  case mp =>
    intro h
    obtain ⟨v, n, rfl, hv⟩ := exists_backslashes u
    obtain ⟨i, j, l, hp⟩ := pieces_styled_escaped 0 n [] hs.isTagBody hv
    have ht := textOfPieces_eq_ok (mapError_eq_ok.mp (shown_eq_ok_iff.mp h).1)
    rw [List.append_nil] at hp
    simp only [hp, List.flatMap_cons, List.flatMap_append, pieces, List.append_nil] at ht
    by_cases hn : n = 0
    case pos =>
      subst hn
      rw [List.replicate_zero, List.append_nil] at ht ⊢
      exact ⟨flatMap_shown_eq_self_iff.mp (by simpa [tagPieces, Piece.shown] using ht.symm), hv⟩
    case neg =>
      have hb : ':' ∉ '/' :: style := by simpa using hc
      exact absurd ht.symm (flatMap_shown_tagPieces_ne hb hn marks_flatMap_shown_le)
  case mpr =>
    rintro ⟨⟨hu, hp⟩, hl⟩
    have h := (shown_styled_eq_iff [] hs hu hp hl).mpr ⟨isUnmarked_nil, List.forall_mem_nil _⟩
    rwa [List.append_nil, List.append_nil] at h

end Styled
end ModuleDiscovery.Console.Markup
