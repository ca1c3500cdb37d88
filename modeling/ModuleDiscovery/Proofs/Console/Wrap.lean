import Mathlib.Data.List.DropRight
import ModuleDiscovery.Console.Wrap
import ModuleDiscovery.Proofs.Console.Markup

namespace ModuleDiscovery.Console

open Markup
open Text hiding marks

variable {cs ds bs : List Char} {c : Char} {N n : Nat} {ls : List (List Char)}

section Squeezed

-- A text without its white space.
def squeeze (cs : List Char) : List Char :=
  cs.filter (!isBlank ·)

@[simp]
theorem squeeze_append : squeeze (cs ++ ds) = squeeze cs ++ squeeze ds :=
  List.filter_append ..

theorem squeeze_eq_nil_iff : squeeze cs = [] ↔ ∀ c ∈ cs, isBlank c := by
  simp [squeeze, List.filter_eq_nil_iff]

theorem isBlank_of_mem : ∀ c ∈ [' ', '\n', '\t', '\x0b', '\x0c', '\x0d'], isBlank c :=
  List.all_iff_forall_prop.mp (by cbv)

theorem squeeze_of_mem : ∀ c ∈ [' ', '\n', '\t', '\x0b', '\x0c', '\x0d'], squeeze [c] = [] :=
  fun c hc => squeeze_eq_nil_iff.mpr (List.forall_mem_singleton.mpr (isBlank_of_mem c hc))

theorem squeeze_space : squeeze [' '] = [] :=
  squeeze_of_mem ' ' (by decide)

theorem squeeze_newline : squeeze ['\n'] = [] :=
  squeeze_of_mem '\n' (by decide)

theorem squeeze_flatten : squeeze ls.flatten = ls.flatMap squeeze := by
  rw [squeeze, List.filter_flatten, List.flatMap_def]
  rfl

theorem isBlank_of_isMark (h : isMark c) : isBlank c = false := by
  have hm : ∀ c ∈ ['[', ':', '\\', '\x07', '\x08'], isBlank c = false :=
    List.all_iff_forall_prop.mp (by cbv)
  exact hm c (by simpa [isMark] using h)

-- White space is not read as markup.
theorem marks_squeeze (cs : List Char) : marks (squeeze cs) = marks cs := by
  rw [marks, squeeze, List.countP_filter]
  refine List.countP_congr fun c _ => ?_
  simpa using isBlank_of_isMark

end Squeezed

namespace Wrap

section Words

theorem flatten_pieces (cs : List Char) : (pieces cs).flatten = cs := by
  fun_induction pieces cs
  case case1 => rfl
  case case2 c d cs p ps hb hp ih =>
    rw [hp] at ih
    simp only [hp, hb, if_true]
    exact congrArg (c :: ·) ih
  case case3 c d cs p ps hb hp ih =>
    rw [hp] at ih
    simp only [hp, hb]
    exact congrArg (c :: ·) ih
  case case4 c cs hn ih =>
    cases cs
    case nil => rfl
    case cons d cs =>
      cases hp : pieces (d :: cs)
      case nil       => rw [hp] at ih; cases ih
      case cons p ps => exact absurd hp (hn d cs p ps rfl)

theorem flatten_words (h : words cs ≠ []) : (words cs).flatten = cs := by
  unfold words at h ⊢
  split
  case h_1 hp => simp [hp] at h
  case h_2 w ws hp =>
    have hf : (w :: ws).flatten = cs.dropWhile isBlank := hp ▸ flatten_pieces _
    rw [List.flatten_cons, List.append_assoc, ← List.flatten_cons, hf, List.takeWhile_append_dropWhile]

theorem flatten_chop {used : Nat} : (chop N used cs).flatten = cs := by
  fun_induction chop N used cs <;> simp_all

end Words

section Filling

namespace Filling

-- All that has been placed.
def placed (f : Filling) : List Char :=
  f.done.flatten ++ f.current

theorem placed_endLine (f : Filling) : f.endLine.placed = f.placed ∧ f.endLine.current = [] := by
  unfold endLine
  split
  case isTrue h  => exact ⟨rfl, by simp_all⟩
  case isFalse h => simp [placed]

theorem placed_placePieces {f : Filling} {ps : List (List Char)} :
    (f.placePieces ps).placed = f.placed ++ ps.flatten := by
  induction ps generalizing f
  case nil => simp [placePieces]
  case cons p ps ih =>
    rw [placePieces, ih, List.flatten_cons, ← List.append_assoc, ← (placed_endLine f).1]
    simp [placed]

theorem placed_place {o : Overflow} {f : Filling} {word : List Char} :
    (f.place o N word).placed = f.placed ++ word := by
  unfold place
  dsimp only
  split
  case isTrue  => simp [placed]
  case isFalse =>
    split
    case isTrue  => rw [placed_placePieces, flatten_chop]
    case isFalse => rw [placed_placePieces, List.flatten_singleton]

theorem placed_foldl (o : Overflow) (N : Nat) (f : Filling) (ws : List (List Char)) :
    (ws.foldl (place o N) f).placed = f.placed ++ ws.flatten := by
  induction ws generalizing f
  case nil => simp
  case cons w ws ih => rw [List.foldl_cons, ih, placed_place, List.append_assoc, List.flatten_cons]

end Filling

-- Nothing is lost where a line is filled.
theorem flatten_fill (o : Overflow) (N : Nat) (cs : List Char) : (fill o N cs).flatten = cs := by
  unfold fill
  split
  case h_1 => exact List.flatten_singleton
  case h_2 ws hw =>
    have hp := Filling.placed_foldl o N .start (words cs)
    rw [flatten_words hw] at hp
    simpa [Filling.placed, Filling.start] using hp

end Filling

section Widths

theorem columns_le : columns c ≤ 2 := by
  unfold columns
  split
  case isTrue  => decide
  case isFalse => split <;> [decide; (split <;> decide)]

theorem append_blanks (cs : List Char) : ∃ bs, cs = stripEnd isBlank cs ++ bs ∧ ∀ b ∈ bs, isBlank b :=
  ⟨cs.rtakeWhile isBlank, (List.rdropWhile_append_rtakeWhile ..).symm, fun _ => List.mem_rtakeWhile_imp⟩

theorem stripEnd_append_blanks (cs : List Char) (h : ∀ b ∈ bs, isBlank b) :
    stripEnd isBlank (cs ++ bs) = stripEnd isBlank cs := by
  rw [stripEnd, List.reverse_append, List.dropWhile_append_of_pos fun b hb => h b (List.mem_reverse.mp hb)]
  rfl

theorem width_le_of_prefix (h : cs <+: ds) : width cs ≤ width ds := by
  obtain ⟨bs, rfl⟩ := h
  rw [width_append]
  exact Nat.le_add_right _ _

theorem width_stripEnd_le : width (stripEnd isBlank cs) ≤ width cs :=
  width_le_of_prefix (List.rdropWhile_prefix _ cs)

theorem width_stripEnd_append_le :
    width (stripEnd isBlank (cs ++ ds)) ≤ width cs + width (stripEnd isBlank ds) := by
  have ⟨bs, he, hb⟩ := append_blanks ds
  generalize stripEnd isBlank ds = body at he
  rw [he, ← List.append_assoc, stripEnd_append_blanks _ hb, ← width_append]
  exact width_stripEnd_le

theorem width_chop_le (cs : List Char) (hn : 2 ≤ N) {used : Nat} (hu : used ≤ N) :
    ∃ p ps, chop N used cs = p :: ps ∧ used + width p ≤ N ∧ ∀ q ∈ ps, width q ≤ N := by
  induction cs generalizing used
  case nil => exact ⟨[], [], rfl, hu, nofun⟩
  case cons c cs ih =>
    rw [chop]
    split
    case isTrue =>
      have ⟨p, ps, he, hp, hps⟩ := ih ((columns_le (c := c)).trans hn)
      exact ⟨[], (c :: p) :: ps, by rw [he], hu, List.forall_mem_cons.mpr ⟨hp, hps⟩⟩
    case isFalse hc =>
      have ⟨p, ps, he, hp, hps⟩ := ih (Nat.not_lt.mp hc)
      exact ⟨c :: p, ps, by rw [he], by rw [width_cons, ← Nat.add_assoc]; exact hp, hps⟩

-- All lines fit but for white space at their ends, and the columns of the current one are known.
structure Filling.Fits (N : Nat) (f : Filling) : Prop where
  done    : ∀ l ∈ f.done, width (stripEnd isBlank l) ≤ N
  current : width (stripEnd isBlank f.current) ≤ N
  used    : width f.current ≤ f.used

namespace Filling.Fits

variable {f : Filling}

theorem endLine (h : f.Fits N) : f.endLine.Fits N := by
  unfold Filling.endLine
  split
  case isTrue  => exact h
  case isFalse =>
    refine ⟨List.forall_mem_append.mpr ⟨h.done, by simpa using h.current⟩, ?_, ?_⟩ <;> simp

theorem placePieces {ps : List (List Char)} (h : f.Fits N) (hp : ∀ p ∈ ps, width (stripEnd isBlank p) ≤ N) :
    (f.placePieces ps).Fits N := by
  induction ps generalizing f
  case nil => exact h
  case cons p ps ih =>
    have ⟨hp, hps⟩ := List.forall_mem_cons.mp hp
    have hc := (placed_endLine f).2
    exact ih ⟨h.endLine.done, by simpa [hc] using hp, by simp [hc]⟩ hps

theorem place {word : List Char} (h : f.Fits N) (hn : 2 ≤ N) : (f.place .fold N word).Fits N := by
  unfold Filling.place
  dsimp only
  split
  case isTrue hw =>
    refine ⟨h.done, ?_, ?_⟩
    · exact width_stripEnd_append_le.trans ((Nat.add_le_add_right h.used _).trans hw)
    · rw [width_append]
      exact Nat.add_le_add_right h.used _
  case isFalse =>
    split
    case isTrue =>
      have ⟨p, ps, he, hp, hps⟩ := width_chop_le word hn (Nat.zero_le N)
      rw [Nat.zero_add] at hp
      rw [he]
      exact h.placePieces <| List.forall_mem_cons.mpr
        ⟨width_stripEnd_le.trans hp, fun q hq => width_stripEnd_le.trans (hps q hq)⟩
    case isFalse hw =>
      exact h.placePieces <| List.forall_mem_singleton.mpr <| Nat.not_lt.mp fun hl => hw ⟨hl, rfl⟩

theorem foldl (ws : List (List Char)) (h : f.Fits N) (hn : 2 ≤ N) : (ws.foldl (Filling.place .fold N) f).Fits N := by
  induction ws generalizing f
  case nil          => exact h
  case cons w ws ih => exact ih (h.place hn)

end Filling.Fits

theorem isBlank_of_words_eq_nil (h : words cs = []) : ∀ c ∈ cs, isBlank c := by
  unfold words at h
  split at h
  case h_2 => cases h
  case h_1 hp =>
    have hd : cs.dropWhile isBlank = [] := by rw [← flatten_pieces (cs.dropWhile isBlank), hp]; rfl
    exact List.dropWhile_eq_nil_iff.mp hd

theorem fits_fill (hn : 2 ≤ N) : ∀ l ∈ fill .fold N cs, width (stripEnd isBlank l) ≤ N := by
  unfold fill
  split
  case h_1 hw =>
    have he := stripEnd_append_blanks [] (isBlank_of_words_eq_nil hw)
    rw [List.nil_append] at he
    rw [List.forall_mem_singleton, he]
    exact Nat.zero_le N
  case h_2 =>
    have h := Filling.Fits.foldl (f := .start) (words cs) ⟨nofun, Nat.zero_le N, Nat.le_refl 0⟩ hn
    exact List.forall_mem_append.mpr ⟨h.done, List.forall_mem_singleton.mpr h.current⟩

end Widths

section Excess

-- What is dropped at the end of a line is white space. Either all of it is dropped, or all that is too much.
theorem exists_dropExcess (N : Nat) (cs : List Char) : ∃ ws bs, dropExcess N cs = stripEnd isBlank cs ++ ws ∧
    cs = dropExcess N cs ++ bs ∧ (∀ c ∈ ws ++ bs, isBlank c) ∧ (ws = [] ∨ bs.length = (units cs).length - N) := by
  have hb : (cs.reverse.takeWhile isBlank).length = (cs.rtakeWhile isBlank).length := List.length_reverse.symm
  have he : cs = stripEnd isBlank cs ++ cs.rtakeWhile isBlank := (List.rdropWhile_append_rtakeWhile ..).symm
  have hm : ∀ c ∈ cs.rtakeWhile isBlank, isBlank c := fun _ => List.mem_rtakeWhile_imp
  unfold dropExcess
  dsimp only
  rw [hb]
  generalize cs.rtakeWhile isBlank = ws, stripEnd isBlank cs = body, (units cs).length - N = excess at *
  subst he
  have ht : (body ++ ws).take ((body ++ ws).length - min ws.length excess) =
      body ++ ws.take (ws.length - min ws.length excess) := by
    rw [List.length_append, Nat.add_sub_assoc (Nat.min_le_left ..), List.take_length_add_append]
  refine ⟨_, ws.drop (ws.length - min ws.length excess), ht, ?_, ?_, ?_⟩
  · rw [ht, List.append_assoc, List.take_append_drop]
  · rwa [List.take_append_drop]
  · rw [List.length_drop]
    rcases Nat.le_total ws.length excess with h | h
    · exact .inl (by simp [Nat.min_eq_left h])
    · exact .inr (by rw [Nat.min_eq_right h]; omega)

theorem squeeze_dropExcess (N : Nat) (cs : List Char) : squeeze (dropExcess N cs) = squeeze cs := by
  have ⟨ws, bs, _, he, hb, _⟩ := exists_dropExcess N cs
  have hs : squeeze bs = [] := squeeze_eq_nil_iff.mpr (List.forall_mem_append.mp hb).2
  conv_rhs => rw [he, squeeze_append, hs, List.append_nil]

theorem stripEnd_dropExcess : stripEnd isBlank (dropExcess N cs) = stripEnd isBlank cs := by
  have ⟨ws, bs, _, he, hb, _⟩ := exists_dropExcess N cs
  conv_rhs => rw [he, stripEnd_append_blanks _ (List.forall_mem_append.mp hb).2]

end Excess

section Cuts

-- The part of a line that is kept takes the given columns, or one too many, for which a space is put.
theorem cut_cases (N : Nat) (us : List Nat) (n low high : Nat) : cut N us n low high = ofUnits us ∨
    ∃ k, width (ofUnits (us.take k)) = N ∧ cut N us n low high = ofUnits (us.take k) ∨
      width (ofUnits (us.take k)) = N + 1 ∧ cut N us n low high = (ofUnits (us.take k)).dropLast ++ [' '] := by
  induction n generalizing low high
  case zero => exact .inl rfl
  case succ n ih =>
    rw [cut]
    split
    case isTrue h => exact .inr ⟨_, .inr ⟨h.1, rfl⟩⟩
    case isFalse =>
      split
      case isTrue h => exact .inr ⟨_, .inl ⟨h, rfl⟩⟩
      case isFalse => split <;> exact ih ..

theorem ofUnits_take (h : IsUnspelled cs) (k : Nat) : ofUnits ((units cs).take k) = cs.take k := by
  rw [units_of_unspelled h, ← List.map_take, ofUnits_of_unspelled (h.of_subset (List.take_subset k cs))]

theorem forall_columns_eq_zero (h : width cs = 0) : ∀ c ∈ cs, columns c = 0 := by
  induction cs
  case nil => nofun
  case cons c cs ih =>
    have ⟨hc, hcs⟩ := Nat.add_eq_zero_iff.mp h
    exact List.forall_mem_cons.mpr ⟨hc, ih hcs⟩

end Cuts

section Truncated

variable {k : Nat}

theorem width_take_le_of_le (hk : k ≤ (stripEnd isBlank cs).length) :
    cs.take k = (stripEnd isBlank cs).take k ∧
      width (cs.take k) + width ((stripEnd isBlank cs).drop k) = width (stripEnd isBlank cs) := by
  have ⟨ws, he, _⟩ := append_blanks cs
  generalize stripEnd isBlank cs = body at he hk
  subst he
  have ht : (body ++ ws).take k = body.take k := List.take_append_of_le_length hk
  exact ⟨ht, by rw [ht, ← width_append, List.take_append_drop]⟩

-- Behind what fills the columns of a line that fits but for its end there is only white space.
theorem squeeze_take (hc : ∀ c ∈ cs, isBlank c ∨ columns c ≠ 0) (hw : width (stripEnd isBlank cs) ≤ N)
    (hk : N ≤ width (cs.take k)) : squeeze (cs.take k) = squeeze cs := by
  have ⟨ws, he, hb⟩ := append_blanks cs
  have hd : ∀ c ∈ (stripEnd isBlank cs).drop k, isBlank c := by
    rcases Nat.le_total (stripEnd isBlank cs).length k with hl | hl
    case inl =>
      rw [List.drop_eq_nil_of_le hl]
      exact nofun
    case inr =>
      have h := (width_take_le_of_le hl).2
      have hz : width ((stripEnd isBlank cs).drop k) = 0 := by omega
      exact fun c hm => (hc c ((List.rdropWhile_prefix _ cs).subset (List.mem_of_mem_drop hm))).resolve_right
        (absurd (forall_columns_eq_zero hz c hm))
  have hs : squeeze (cs.drop k) = [] := by
    rw [squeeze_eq_nil_iff]
    generalize stripEnd isBlank cs = body at he hd
    rw [he, List.drop_append]
    exact List.forall_mem_append.mpr ⟨hd, fun c hm => hb c (List.mem_of_mem_drop hm)⟩
  conv_rhs => rw [← List.take_append_drop k cs, squeeze_append, hs, List.append_nil]

-- What reaches beyond the columns ends in white space.
theorem squeeze_dropLast_take (hw : width (stripEnd isBlank cs) ≤ N) (hk : N < width (cs.take k)) :
    squeeze (cs.take k).dropLast = squeeze cs := by
  have ⟨ws, he, hb⟩ := append_blanks cs
  have hl : (stripEnd isBlank cs).length < k := by
    refine Nat.lt_of_not_le fun hl => ?_
    have h := (width_take_le_of_le hl).2
    omega
  generalize stripEnd isBlank cs = body at he hw hl
  have hs {bs : List Char} (h : bs ⊆ ws) : squeeze (body ++ bs) = squeeze body := by
    rw [squeeze_append, squeeze_eq_nil_iff.mpr fun b hm => hb b (h hm), List.append_nil]
  have ht : cs.take k = body ++ ws.take (k - body.length) := by
    rw [he, List.take_append, List.take_of_length_le hl.le]
  have hn : ws.take (k - body.length) ≠ [] := by
    intro hn
    rw [ht, hn, List.append_nil] at hk
    omega
  rw [ht, List.dropLast_append_of_ne_nil hn, he, hs fun c hm => List.mem_of_mem_take (List.mem_of_mem_dropLast hm),
    hs fun c hm => hm]

-- A line that fits but for its end is cut off within the white space there.
theorem squeeze_cut (hu : IsUnspelled cs) (hc : ∀ c ∈ cs, isBlank c ∨ columns c ≠ 0)
    (hw : width (stripEnd isBlank cs) ≤ N) (n low high : Nat) :
    squeeze (cut N (units cs) n low high) = squeeze cs := by
  rcases cut_cases N (units cs) n low high with h | ⟨k, h⟩
  case inl => rw [h, units_of_unspelled hu, ofUnits_of_unspelled hu]
  case inr =>
    rw [ofUnits_take hu] at h
    rcases h with ⟨hk, h⟩ | ⟨hk, h⟩
    case inl => rw [h, squeeze_take hc hw hk.ge]
    case inr =>
      rw [h, squeeze_append, squeeze_dropLast_take hw (by omega), squeeze_space, List.append_nil]

theorem width_le_length (h : ∀ c ∈ cs, columns c ≤ 1) : width cs ≤ cs.length := by
  induction cs
  case nil => exact Nat.le_refl 0
  case cons c cs ih =>
    have ⟨hc, hcs⟩ := List.forall_mem_cons.mp h
    rw [width_cons, List.length_cons, Nat.add_comm]
    exact Nat.add_le_add (ih hcs) hc

-- Without wide characters, enough of the white space is dropped.
theorem width_dropExcess_le (hu : IsUnspelled cs) (hc : ∀ c ∈ cs, columns c ≤ 1)
    (hw : width (stripEnd isBlank cs) ≤ N) : width (dropExcess N cs) ≤ N := by
  have ⟨ws, bs, hd, he, _, hl⟩ := exists_dropExcess N cs
  rcases hl with rfl | hl
  case inl => rwa [hd, List.append_nil]
  case inr =>
    have hle := width_le_length fun c hm => hc c (he ▸ List.mem_append_left bs hm : c ∈ cs)
    rw [units_of_unspelled hu, List.length_map] at hl
    have hs := congrArg List.length he
    rw [List.length_append] at hs
    omega

-- Texts that are cut off in white space only. As long as each character takes a column of its own, a line is wider
-- than it may be only where white space stands at its end.
structure IsCuttable (cs : List Char) : Prop where
  unspelled : IsUnspelled cs
  columns   : (∀ c ∈ cs, columns c ≤ 1) ∨ ∀ c ∈ cs, isBlank c ∨ Text.columns c ≠ 0

theorem IsCuttable.of_subset (h : IsCuttable cs) (hs : ds ⊆ cs) : IsCuttable ds :=
  ⟨h.unspelled.of_subset hs, h.columns.imp (fun h c hc => h c (hs hc)) fun h c hc => h c (hs hc)⟩

theorem dropExcess_subset : dropExcess N cs ⊆ cs :=
  List.take_subset _ _

theorem squeeze_truncate (h : IsCuttable cs) (hn : N ≠ 0) (hw : width (stripEnd isBlank cs) ≤ N) :
    squeeze (truncate .fold N (dropExcess N cs)) = squeeze cs := by
  rw [truncate]
  split
  case isTrue     => exact squeeze_dropExcess N cs
  case isFalse hl =>
    have hc := h.columns.resolve_left fun hc => hl (width_dropExcess_le h.unspelled hc hw)
    have hu := h.unspelled.of_subset (dropExcess_subset (N := N))
    rw [fit]
    dsimp only
    rw [if_neg hn, if_neg hl, squeeze_cut hu (fun c hm => hc c (dropExcess_subset hm)) (by rwa [stripEnd_dropExcess]),
      squeeze_dropExcess]

end Truncated

section Tabs

variable {pos : Nat}

theorem squeeze_spaces : squeeze (spaces n) = [] := by
  rw [squeeze_eq_nil_iff]
  intro c hc
  rw [(List.mem_replicate.mp hc).2]
  exact isBlank_of_mem ' ' (by decide)

theorem squeeze_expandTabs (pos : Nat) (cs : List Char) : squeeze (expandTabs pos cs) = squeeze cs := by
  have ht : squeeze ['\t'] = [] := squeeze_of_mem '\t' (by decide)
  induction cs generalizing pos
  case nil => rfl
  case cons c cs ih =>
    rw [expandTabs]
    split
    case isTrue h =>
      subst h
      rw [squeeze_append, squeeze_spaces, ih, List.nil_append, ← List.singleton_append, squeeze_append, ht,
        List.nil_append]
    case isFalse => rw [← List.singleton_append, squeeze_append, ih, ← squeeze_append, List.singleton_append]

theorem expandTabs_subset : expandTabs pos cs ⊆ ' ' :: cs := by
  induction cs generalizing pos
  case nil => exact List.nil_subset _
  case cons c cs ih =>
    have ih (pos : Nat) : expandTabs pos cs ⊆ ' ' :: c :: cs := fun d hd =>
      (List.mem_cons.mp (ih hd)).elim (· ▸ List.mem_cons_self) fun h => .tail _ (.tail _ h)
    rw [expandTabs]
    split
    case isTrue =>
      refine List.append_subset.mpr ⟨fun d hd => ?_, ih _⟩
      rw [(List.mem_replicate.mp hd).2]
      exact List.mem_cons_self
    case isFalse => exact List.cons_subset.mpr ⟨.tail _ List.mem_cons_self, ih _⟩

theorem columns_of_mem : ∀ c ∈ "Error: ".toList, isSpelled c.toNat = false ∧ columns c = 1 :=
  List.all_iff_forall_prop.mp (by decide +kernel)

theorem IsCuttable.expandTabs (h : IsCuttable cs) : IsCuttable (expandTabs pos cs) := by
  have hs := columns_of_mem ' ' (by decide)
  refine IsCuttable.of_subset ⟨List.forall_mem_cons.mpr ⟨hs.1, h.unspelled⟩, h.columns.imp ?_ ?_⟩ expandTabs_subset
  · exact fun h => List.forall_mem_cons.mpr ⟨hs.2.le, h⟩
  · exact fun h => List.forall_mem_cons.mpr ⟨.inr (by simp [hs.2]), h⟩

end Tabs

end Wrap

section Lines

open Wrap

variable {sep : Char}

theorem subset_joinWith (sep : Char) (h : cs ∈ ls) : cs ⊆ joinWith sep ls := by
  fun_induction joinWith sep ls
  case case1 => cases h
  case case2 => rw [List.mem_singleton.mp h]; exact List.Subset.refl _
  case case3 p q ps ih =>
    rcases List.mem_cons.mp h with rfl | h
    case inl => exact List.subset_append_left _ _
    case inr => exact fun c hc => List.mem_append_right _ (.tail _ (ih h hc))

theorem subset_of_mem_splitAtChar (h : ds ∈ splitAtChar sep cs) : ds ⊆ cs := by
  have hs := subset_joinWith sep h
  rwa [joinWith_splitAtChar] at hs

theorem subset_of_mem_fill {o : Overflow} (h : ds ∈ fill o N cs) : ds ⊆ cs := by
  rw [← flatten_fill o N cs]
  exact fun c hc => List.mem_flatten_of_mem h hc

theorem squeeze_joinWith : squeeze (joinWith '\n' ls) = ls.flatMap squeeze := by
  fun_induction joinWith '\n' ls
  case case1 => rfl
  case case2 => simp
  case case3 p q ps ih =>
    rw [List.flatMap_cons, ← ih, squeeze_append, ← List.singleton_append, squeeze_append, squeeze_newline,
      List.nil_append]

theorem flatMap_squeeze_splitAtChar : (splitAtChar '\n' cs).flatMap squeeze = squeeze cs := by
  rw [← squeeze_joinWith, joinWith_splitAtChar]

theorem flatMap_squeeze_fill (h : IsCuttable cs) (hn : 2 ≤ N) :
    (fill .fold N cs).flatMap (fun l => squeeze (truncate .fold N (dropExcess N l))) = squeeze cs := by
  have hf := congrArg squeeze (flatten_fill .fold N cs)
  have hn' : N ≠ 0 := by omega
  rw [← hf, squeeze_flatten]
  exact List.flatMap_congr fun l hl => squeeze_truncate (h.of_subset (subset_of_mem_fill hl)) hn' (fits_fill hn l hl)

-- Nothing but white space is lost of a text that is cut off in white space only.
theorem flatMap_squeeze_layOut (h : IsCuttable cs) (hn : 2 ≤ N) :
    (layOut .floating .fold N cs).flatMap squeeze = squeeze cs := by
  rw [layOut, if_neg (by omega), List.flatMap_assoc, ← flatMap_squeeze_splitAtChar]
  refine List.flatMap_congr fun l hl => ?_
  have hc : IsCuttable l := h.of_subset (subset_of_mem_splitAtChar hl)
  rw [List.flatMap_map, ← squeeze_expandTabs 0 l]
  exact flatMap_squeeze_fill hc.expandTabs hn

end Lines

section Marks

open Wrap

variable {α : Type} {as : List α} {f g : α → List Char}

theorem marks_flatMap_le (h : ∀ a ∈ as, marks (f a) ≤ marks (g a)) : marks (as.flatMap f) ≤ marks (as.flatMap g) := by
  induction as
  case nil => exact Nat.le_refl 0
  case cons a as ih =>
    have ⟨ha, has⟩ := List.forall_mem_cons.mp h
    rw [List.flatMap_cons, List.flatMap_cons, marks_append, marks_append]
    exact Nat.add_le_add ha (ih has)

theorem toNat_of_isMark (h : isMark c) : c.toNat < Surrogate.firstSpelled := by
  have hm : ∀ c ∈ ['[', ':', '\\', '\x07', '\x08'], c.toNat < Surrogate.firstSpelled :=
    List.all_iff_forall_prop.mp (by decide)
  exact hm c (by simpa [isMark] using h)

theorem isMark_ofNat (h : Surrogate.firstSpelled ≤ n) : isMark (Char.ofNat n) = false := by
  by_cases hn : n.isValidChar
  case pos => exact Bool.eq_false_iff.mpr fun hm => Nat.not_lt.mpr h (toNat_ofNat hn ▸ toNat_of_isMark hm)
  case neg =>
    rw [Char.ofNat, dif_neg hn]
    rfl

theorem mem_digits {len : Nat} (h : c ∈ Surrogate.digits len n) : c = Surrogate.one ∨ c = Surrogate.zero := by
  induction len generalizing n
  case zero => cases h
  case succ len ih =>
    rcases List.mem_append.mp h with h | h
    case inl => exact ih h
    case inr =>
      rw [List.mem_singleton.mp h]
      split
      case isTrue  => exact .inl rfl
      case isFalse => exact .inr rfl

theorem marks_ofUnit (h : Surrogate.firstSpelled ≤ n) : marks (ofUnit n) = 0 := by
  rw [marks_eq_zero_iff]
  unfold ofUnit
  split
  case isTrue =>
    refine List.forall_mem_cons.mpr ⟨by split <;> rfl, fun c hc => ?_⟩
    rcases mem_digits hc with rfl | rfl <;> rfl
  case isFalse => exact List.forall_mem_singleton.mpr (isMark_ofNat h)

theorem marks_ofUnits_unitsFrom_le (skip : Nat) (cs : List Char) : marks (ofUnits (unitsFrom skip cs)) ≤ marks cs := by
  have hu (n : Nat) (us : List Nat) : marks (ofUnits (n :: us)) = marks (ofUnit n) + marks (ofUnits us) := by
    rw [ofUnits, List.flatMap_cons, marks_append, ← ofUnits]
  fun_induction unitsFrom skip cs
  case case1 => exact Nat.le_refl 0
  case case2 ih =>
    rw [marks_cons]
    exact ih.trans (Nat.le_add_right _ _)
  case case3 ih =>
    rw [hu, marks_ofUnit (Nat.le_add_right _ _), Nat.zero_add, marks_cons]
    exact ih.trans (Nat.le_add_right _ _)
  case case4 c cs _ _ ih =>
    rw [hu, ← List.singleton_append, marks_append]
    refine Nat.add_le_add ?_ ih
    by_cases hs : isSpelled c.toNat
    case pos =>
      rw [marks_ofUnit (isSpelled_iff.mp hs).1]
      exact Nat.zero_le _
    case neg => rw [ofUnit, if_neg hs, Char.ofNat_toNat]

theorem marks_ofUnits_take_le {k : Nat} : marks (ofUnits ((units cs).take k)) ≤ marks cs := by
  refine Nat.le_trans ?_ (marks_ofUnits_unitsFrom_le 0 cs)
  conv_rhs => rw [← units, ← List.take_append_drop k (units cs), ofUnits, List.flatMap_append, marks_append]
  exact Nat.le_add_right _ _

theorem marks_truncate_le : marks (truncate .fold N cs) ≤ marks cs := by
  rw [truncate]
  split
  case isTrue => exact Nat.le_refl _
  case isFalse hl =>
    rw [fit]
    dsimp only
    rw [if_neg hl]
    split
    case isTrue  => exact Nat.zero_le _
    case isFalse =>
      rcases cut_cases N (units cs) ((units cs).length + 1) 0 (units cs).length with h | ⟨k, ⟨_, h⟩ | ⟨_, h⟩⟩
      case inl     => rw [h]; exact marks_ofUnits_unitsFrom_le 0 cs
      case inr.inl => rw [h]; exact marks_ofUnits_take_le
      case inr.inr =>
        rw [h, marks_append]
        exact (List.dropLast_sublist _).countP_le.trans marks_ofUnits_take_le

-- No marks come into a text where it is broken into lines.
theorem marks_layOut_le : marks ((layOut .floating .fold N cs).flatMap squeeze) ≤ marks cs := by
  rw [layOut]
  split
  case isTrue  => exact Nat.zero_le _
  case isFalse =>
    rw [List.flatMap_assoc, ← marks_squeeze cs, ← flatMap_squeeze_splitAtChar]
    refine marks_flatMap_le fun l _ => ?_
    have hf := congrArg squeeze (flatten_fill .fold N (expandTabs 0 l))
    rw [squeeze_flatten, squeeze_expandTabs] at hf
    rw [List.flatMap_map, ← hf]
    refine marks_flatMap_le fun x _ => ?_
    rw [marks_squeeze, ← squeeze_dropExcess N x, marks_squeeze]
    exact marks_truncate_le

end Marks
end ModuleDiscovery.Console
