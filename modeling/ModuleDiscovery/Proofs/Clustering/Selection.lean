import Mathlib.Data.List.Forall2
import Mathlib.Data.List.Pairwise
import Mathlib.Data.Sym.Sym2
import ModuleDiscovery.Clustering.Choice

namespace ModuleDiscovery.Choice

-- A scan keeps some choice `p b` with its running state `b`. As long as every step keeps that choice or
-- takes the next one, the scan ends with one of those it has seen.
theorem foldl_mem {α β : Type} {f : β → α → β} {p : β → α} {cs : List α} {b : β}
    (hf : ∀ b c, p (f b c) = p b ∨ p (f b c) = c) : p (cs.foldl f b) ∈ p b :: cs := by
  induction cs generalizing b
  case nil => simp
  case cons c cs ih =>
    have h := ih (b := f b c)
    simp only [List.foldl_cons, List.mem_cons] at h ⊢
    cases hf b c
    case inl hb => exact h.imp (·.trans hb) .inr
    case inr hb => exact .inr <| h.imp_left (·.trans hb)

section FirstMax

variable {α β : Type} [LinearOrder β] {f : α → β} {xs : List α} {x y b : α}

-- The first one of the elements with the highest value.
def FirstMax (f : α → β) (xs : List α) (x : α) : Prop :=
  ∃ before after, xs = before ++ x :: after ∧ (∀ y ∈ before, f y < f x) ∧ ∀ y ∈ after, f y ≤ f x

namespace FirstMax

theorem le (h : FirstMax f xs x) (hy : y ∈ xs) : f y ≤ f x := by
  obtain ⟨before, after, rfl, hb, ha⟩ := h
  simp only [List.mem_append, List.mem_cons] at hy
  obtain hy | rfl | hy := hy
  case inl     => exact (hb y hy).le
  case inr.inl => exact le_rfl
  case inr.inr => exact ha y hy

theorem cons (h : FirstMax f xs x) (hb : f b < f x) : FirstMax f (b :: xs) x := by
  obtain ⟨before, after, rfl, hbefore, ha⟩ := h
  exact ⟨b :: before, after, rfl, List.forall_mem_cons.mpr ⟨hb, hbefore⟩, ha⟩

-- An element that is no higher than the one before it makes no difference.
theorem insert (h : FirstMax f (b :: xs) x) (hy : f y ≤ f b) : FirstMax f (b :: y :: xs) x := by
  obtain ⟨_ | ⟨b', before⟩, after, he, hb, ha⟩ := h
  case nil =>
    cases he
    exact ⟨[], y :: xs, rfl, by simp, List.forall_mem_cons.mpr ⟨hy, ha⟩⟩
  case cons =>
    cases he
    have ⟨hbx, hbefore⟩ := List.forall_mem_cons.mp hb
    have hyx := hy.trans_lt hbx
    exact ⟨b :: y :: before, after, rfl, by simpa only [List.forall_mem_cons] using ⟨hbx, hyx, hbefore⟩, ha⟩

theorem of_cons (h : FirstMax f (b :: xs) x) (hy : y ∈ xs) (hb : f b < f y) : FirstMax f xs x := by
  obtain ⟨_ | ⟨b', before⟩, after, he, hbefore, ha⟩ := h
  case nil =>
    cases he
    exact absurd (ha y hy) hb.not_ge
  case cons =>
    cases he
    exact ⟨before, after, rfl, (List.forall_mem_cons.mp hbefore).2, ha⟩

theorem of_map {γ : Type} {g : γ → α} {zs : List γ} (h : FirstMax f (zs.map g) x) :
    ∃ z, g z = x ∧ FirstMax (fun z => f (g z)) zs z := by
  obtain ⟨before, after, he, hb, ha⟩ := h
  obtain ⟨before, rest, rfl, rfl, hr⟩ := List.map_eq_append_iff.mp he
  obtain ⟨z, after, rfl, rfl, rfl⟩ := List.map_eq_cons_iff.mp hr
  simp only [List.forall_mem_map] at hb ha
  exact ⟨z, rfl, before, after, rfl, hb, ha⟩

end FirstMax

-- A scan that goes over to an element only if it is higher. It need not be able to tell what is higher than
-- elements below the one that it starts with.
theorem foldl_firstMax {f : α → β} {pick : α → α → α}
    (hp : ∀ x y, f b ≤ f x → pick x y = if f x < f y then y else x) :
    FirstMax f (b :: xs) (xs.foldl pick b) := by
  induction xs generalizing b
  case nil => exact ⟨[], [], rfl, by simp, by simp⟩
  case cons y ys ih =>
    rw [List.foldl_cons, hp b y le_rfl]
    split
    case isTrue hlt =>
      have hm := ih fun x z hx => hp x z (hlt.le.trans hx)
      exact hm.cons (hlt.trans_le (hm.le List.mem_cons_self))
    case isFalse hle => exact (ih hp).insert (not_lt.mp hle)

end FirstMax

variable {α : Type} {R : α → α → Prop} {xs : List α}

theorem map_fst_single : (single xs).map Prod.fst = xs := by
  induction xs
  case nil => rfl
  case cons x xs ih => simpa [single, Function.comp_def] using ih

theorem length_single : (single xs).length = xs.length := by
  rw [← List.length_map, map_fst_single]

theorem pairwise_iff_forall_all : xs.Pairwise R ↔ ∀ c ∈ all xs, R c.first c.second := by
  induction xs
  case nil => simp [all]
  case cons x xs ih =>
    have hx : (∀ y ∈ xs, R x y) ↔ ∀ p ∈ single xs, R x p.1 := by
      have := List.forall_mem_map (f := Prod.fst) (l := single xs) (P := R x)
      rwa [map_fst_single] at this
    simp only [List.pairwise_cons, all, List.mem_append, List.mem_map, or_imp, forall_and,
      forall_exists_index, and_imp, forall_apply_eq_imp_iff₂, hx, ih]

section Order

variable {c : Choice α}

theorem sublist_of_mem_single {p : α × List α} (h : p ∈ single xs) : p.2.Sublist xs := by
  induction xs generalizing p
  case nil => simp [single] at h
  case cons x xs ih =>
    obtain rfl | ⟨q, hq, rfl⟩ := mem_single_cons.mp h
    case inl => exact List.sublist_cons_self ..
    case inr => exact (ih hq).cons_cons x

-- A choice takes one element out of a list, and then another one out of what is left.
theorem exists_single_of_mem_all (h : c ∈ all xs) :
    ∃ ys, (c.first, ys) ∈ single xs ∧ (c.second, c.rest) ∈ single ys := by
  induction xs generalizing c
  case nil => simp [all] at h
  case cons x xs ih =>
    obtain ⟨p, hp, rfl⟩ | ⟨d, hd, rfl⟩ := mem_all_cons.mp h
    case inl => exact ⟨xs, mem_single_cons.mpr (.inl rfl), hp⟩
    case inr =>
      obtain ⟨ys, hf, hs⟩ := ih hd
      exact ⟨x :: ys, mem_single_cons.mpr (.inr ⟨_, hf, rfl⟩), mem_single_cons.mpr (.inr ⟨_, hs, rfl⟩)⟩

theorem rest_sublist_of_mem_all (h : c ∈ all xs) : c.rest.Sublist xs := by
  have ⟨ys, hf, hs⟩ := exists_single_of_mem_all h
  exact (sublist_of_mem_single hs).trans (sublist_of_mem_single hf)

theorem pair_sublist_of_mem_all (h : c ∈ all xs) : [c.first, c.second].Sublist xs := by
  induction xs generalizing c
  case nil => simp [all] at h
  case cons x xs ih =>
    obtain ⟨p, hp, rfl⟩ | ⟨d, hd, rfl⟩ := mem_all_cons.mp h
    case inl =>
      have hm : p.1 ∈ xs := (perm_of_mem_single hp).mem_iff.mp (by simp)
      exact (List.singleton_sublist.mpr hm).cons_cons x
    case inr => exact (ih hd).cons x

-- A key that no two elements share finds the element that was taken out, and where it was.
theorem find?_of_mem_single {κ : Type} [DecidableEq κ] {f : α → κ} {p : α × List α}
    (hn : (xs.map f).Nodup) (h : p ∈ single xs) :
    xs.find? (f · = f p.1) = some p.1 ∧ xs.eraseP (f · = f p.1) = p.2 := by
  induction xs generalizing p
  case nil => simp [single] at h
  case cons x xs ih =>
    obtain ⟨hx, hxs⟩ := List.nodup_cons.mp hn
    obtain rfl | ⟨q, hq, rfl⟩ := mem_single_cons.mp h
    case inl => simp
    case inr =>
      have hm : f q.1 ∈ xs.map f := List.mem_map_of_mem ((perm_of_mem_single hq).mem_iff.mp (by simp))
      have hne : f x ≠ f q.1 := fun he => hx (he ▸ hm)
      obtain ⟨hfind, herase⟩ := ih hxs hq
      simp [hne, hfind, herase]

end Order

section Split

variable {c : Choice α}

-- What is taken out before an element comes before it in the list.
theorem single_split (ys : List α) (n : α) (zs : List α) :
    ∃ ps qs, single (ys ++ n :: zs) = ps ++ (n, ys ++ zs) :: qs ∧ ∀ p ∈ ps, p.1 ∈ ys := by
  induction ys
  case nil => exact ⟨[], _, rfl, by simp⟩
  case cons y ys ih =>
    obtain ⟨ps, qs, he, hp⟩ := ih
    refine ⟨(y, ys ++ n :: zs) :: ps.map fun p => (p.1, y :: p.2), qs.map fun p => (p.1, y :: p.2),
      ?split, ?before⟩
    case split =>
      rw [List.cons_append, single, he, List.map_append]
      rfl
    case before =>
      simp only [List.mem_cons, List.mem_map]
      rintro _ (rfl | ⟨p, hm, rfl⟩)
      case inl => exact .inl rfl
      case inr => exact .inr (hp p hm)

-- A choice of two elements comes behind those whose first element is before the first one of these, and
-- those that have the first one with an element before the second one.
theorem all_split (xs : List α) (m : α) (ys : List α) (n : α) (zs : List α) :
    ∃ cs ds, all (xs ++ m :: (ys ++ n :: zs)) = cs ++ ⟨m, n, xs ++ (ys ++ zs)⟩ :: ds ∧
      ∀ d ∈ cs, d.first ∈ xs ∨ d.second ∈ ys := by
  induction xs
  case nil =>
    obtain ⟨ps, qs, he, hp⟩ := single_split ys n zs
    refine ⟨ps.map fun p => ⟨m, p.1, p.2⟩, (qs.map fun p => ⟨m, p.1, p.2⟩) ++
      (all (ys ++ n :: zs)).map fun c => { c with rest := m :: c.rest }, ?split, ?before⟩
    case split =>
      rw [List.nil_append, all, he, List.map_append, List.append_assoc]
      rfl
    case before =>
      simp only [List.mem_map]
      rintro _ ⟨p, hm, rfl⟩
      exact .inr (hp p hm)
  case cons x xs ih =>
    obtain ⟨cs, ds, he, hc⟩ := ih
    refine ⟨((single (xs ++ m :: (ys ++ n :: zs))).map fun p => ⟨x, p.1, p.2⟩) ++
      cs.map fun c => { c with rest := x :: c.rest },
      ds.map fun c => { c with rest := x :: c.rest }, ?split, ?before⟩
    case split =>
      rw [List.cons_append, all, he, List.map_append, ← List.append_assoc]
      rfl
    case before =>
      simp only [List.mem_append, List.mem_map, List.mem_cons]
      rintro _ (⟨p, hm, rfl⟩ | ⟨c, hm, rfl⟩)
      case inl => exact .inl (.inl rfl)
      case inr => exact (hc c hm).imp_left .inr

theorem filter_of_mem_single {q : α → Bool} {p : α × List α} (h : p ∈ single xs) (hp : ¬q p.1) :
    p.2.filter q = xs.filter q := by
  induction xs generalizing p
  case nil => simp [single] at h
  case cons x xs ih =>
    obtain rfl | ⟨p, hm, rfl⟩ := mem_single_cons.mp h
    case inl => rw [List.filter_cons_of_neg hp]
    case inr => simp only [List.filter_cons, ih hm hp]

-- A choice of two elements without a property leaves all elements that have it.
theorem filter_rest_of_mem_all {q : α → Bool} (h : c ∈ all xs) (hf : ¬q c.first)
    (hs : ¬q c.second) : c.rest.filter q = xs.filter q := by
  have ⟨ys, hfirst, hsecond⟩ := exists_single_of_mem_all h
  exact (filter_of_mem_single hsecond hs).trans (filter_of_mem_single hfirst hf)

end Split

section Places

variable {c : Choice α} {i j : Nat}

-- What a choice takes out of a list, by its two places.
structure At (xs : List α) (i j : Nat) (c : Choice α) : Prop where
  lt     : i < j
  first  : xs[i]? = some c.first
  second : xs[j]? = some c.second
  rest   : c.rest = (xs.eraseIdx j).eraseIdx i

theorem getElem?_single : (single xs)[i]? = xs[i]?.map (·, xs.eraseIdx i) := by
  induction xs generalizing i
  case nil => rfl
  case cons x xs ih =>
    cases i
    case zero   => rfl
    case succ i => simp [single, ih, Function.comp_def]

-- A choice at the first place takes what comes behind it, one after the other.
theorem At.of_single {x : α} {p : α × List α} (h : (single xs)[j]? = some p) :
    At (x :: xs) 0 (j + 1) ⟨x, p.1, p.2⟩ := by
  rw [getElem?_single, Option.map_eq_some_iff] at h
  obtain ⟨y, hy, rfl⟩ := h
  exact ⟨Nat.succ_pos j, rfl, hy, rfl⟩

theorem At.mem_take_single {x : α} {n : Nat} (h : At (x :: xs) 0 j c) (hj : j ≤ n) :
    c ∈ ((single xs).take n).map fun p => ⟨x, p.1, p.2⟩ := by
  obtain ⟨first, second, rest⟩ := c
  obtain ⟨hlt, hfirst, hsecond, hrest⟩ := h
  obtain ⟨j, rfl⟩ := Nat.exists_eq_add_one_of_ne_zero hlt.ne'
  obtain rfl : x = first := Option.some.inj hfirst
  cases hrest
  have hs : (single xs)[j]? = some (second, xs.eraseIdx j) := by
    have hsecond : xs[j]? = some second := hsecond
    rw [getElem?_single, hsecond]
    rfl
  have hm : (second, xs.eraseIdx j) ∈ (single xs).take n := by
    refine List.mem_of_getElem? (i := j) ?_
    rwa [List.getElem?_take_of_lt (Nat.lt_of_succ_le hj)]
  exact List.mem_map_of_mem (f := fun p => Choice.mk x p.1 p.2) hm

theorem At.cons (x : α) (h : At xs i j c) : At (x :: xs) (i + 1) (j + 1) { c with rest := x :: c.rest } where
  lt     := Nat.succ_lt_succ h.lt
  first  := h.first
  second := h.second
  rest   := congrArg (x :: ·) h.rest

theorem At.of_cons {x : α} (h : At (x :: xs) (i + 1) (j + 1) c) :
    ∃ d, At xs i j d ∧ { d with rest := x :: d.rest } = c := by
  obtain ⟨first, second, rest⟩ := c
  obtain ⟨hlt, hfirst, hsecond, hrest⟩ := h
  cases hrest
  exact ⟨⟨first, second, (xs.eraseIdx j).eraseIdx i⟩, ⟨Nat.succ_lt_succ_iff.mp hlt, hfirst, hsecond, rfl⟩, rfl⟩

-- Choices are listed by their first places, and those with the same first place by their second ones.
theorem exists_at_of_getElem? {n : Nat} (h : (all xs)[n]? = some c) :
    ∃ i j, At xs i j c ∧ ∀ k l d, At xs k l d → k < i ∨ k = i ∧ l < j → d ∈ (all xs).take n := by
  induction xs generalizing c n
  case nil => simp [all] at h
  case cons x xs ih =>
    rw [all, List.getElem?_append] at h
    rw [all, List.take_append]
    split at h
    case isTrue hn =>
      rw [List.getElem?_map, Option.map_eq_some_iff] at h
      obtain ⟨p, hp, rfl⟩ := h
      refine ⟨0, n + 1, .of_single hp, ?_⟩
      rintro k l d hd (hk | ⟨rfl, hl⟩)
      case inl => exact absurd hk k.not_lt_zero
      case inr =>
        rw [← List.map_take]
        exact List.mem_append_left _ (hd.mem_take_single (Nat.le_of_lt_succ hl))
    case isFalse hn =>
      rw [List.getElem?_map, Option.map_eq_some_iff] at h
      obtain ⟨c, hc, rfl⟩ := h
      obtain ⟨i, j, hat, hbefore⟩ := ih hc
      refine ⟨i + 1, j + 1, hat.cons x, fun k l d hd hkl => ?_⟩
      rw [← List.map_take, ← List.map_take]
      cases k
      case zero =>
        obtain ⟨hl, -⟩ := List.getElem?_eq_some_iff.mp hd.second
        rw [List.length_cons] at hl
        rw [List.length_map, length_single] at hn
        have hl : l ≤ n := by omega
        exact List.mem_append_left _ (hd.mem_take_single hl)
      case succ k =>
        obtain ⟨l, rfl⟩ := Nat.exists_eq_add_one_of_ne_zero (Nat.ne_zero_of_lt hd.lt)
        obtain ⟨e, he, rfl⟩ := hd.of_cons
        exact List.mem_append_right _ (List.mem_map_of_mem (hbefore k l e he (by omega)))

end Places

section Related

-- Choices that take related elements and leave related ones.
structure Related {α β : Type} (R : α → β → Prop) (c : Choice α) (d : Choice β) : Prop where
  first  : R c.first d.first
  second : R c.second d.second
  rest   : List.Forall₂ R c.rest d.rest

variable {α β : Type} {R : α → β → Prop} {xs : List α} {ys : List β}

theorem forall₂_single (h : List.Forall₂ R xs ys) :
    List.Forall₂ (fun p q => R p.1 q.1 ∧ List.Forall₂ R p.2 q.2) (single xs) (single ys) := by
  induction h
  case nil => exact .nil
  case cons hxy h ih =>
    refine .cons ⟨hxy, h⟩ ?_
    simp only [List.forall₂_map_left_iff, List.forall₂_map_right_iff]
    exact ih.imp fun _ _ hp => ⟨hp.1, .cons hxy hp.2⟩

-- Lists whose elements are related one by one have related choices, one by one.
theorem forall₂_all (h : List.Forall₂ R xs ys) : List.Forall₂ (Related R) (all xs) (all ys) := by
  induction h
  case nil => exact .nil
  case cons hxy h ih =>
    refine List.rel_append ?first ?later
    case first =>
      simp only [List.forall₂_map_left_iff, List.forall₂_map_right_iff]
      exact (forall₂_single h).imp fun _ _ hp => ⟨hxy, hp.1, hp.2⟩
    case later =>
      simp only [List.forall₂_map_left_iff, List.forall₂_map_right_iff]
      exact ih.imp fun _ _ hc => ⟨hc.first, hc.second, .cons hxy hc.rest⟩

end Related

section Permuted

variable {α β : Type} {f : α → β} {xs : List α} {rs : List β} {a b : β}

theorem exists_mem_single_of_perm (h : (a :: rs).Perm (xs.map f)) :
    ∃ p ∈ single xs, f p.1 = a ∧ (p.2.map f).Perm rs := by
  obtain ⟨x, hx, rfl⟩ := List.mem_map.mp (h.mem_iff.mp List.mem_cons_self)
  obtain ⟨ys, zs, rfl⟩ := List.append_of_mem hx
  obtain ⟨ps, qs, he, -⟩ := single_split ys x zs
  refine ⟨(x, ys ++ zs), by simp [he], rfl, (List.perm_cons (f x)).mp ?_⟩
  exact (List.perm_middle.symm.map f).trans h.symm

-- Two elements that are taken out one after the other are a choice, in one order or the other.
theorem exists_mem_all_of_mem_single {p q : α × List α} (hp : p ∈ single xs) (hq : q ∈ single p.2) :
    ∃ c ∈ all xs, s(c.first, c.second) = s(p.1, q.1) ∧ c.rest = q.2 := by
  induction xs generalizing p q
  case nil => simp [single] at hp
  case cons x xs ih =>
    cases mem_single_cons.mp hp
    case inl he =>
      subst he
      exact ⟨⟨x, q.1, q.2⟩, mem_all_cons.mpr (.inl ⟨q, hq, rfl⟩), rfl, rfl⟩
    case inr he =>
      obtain ⟨p', hp', rfl⟩ := he
      cases mem_single_cons.mp hq
      case inl he =>
        subst he
        exact ⟨⟨x, p'.1, p'.2⟩, mem_all_cons.mpr (.inl ⟨p', hp', rfl⟩), Sym2.eq_swap, rfl⟩
      case inr he =>
        obtain ⟨q', hq', rfl⟩ := he
        obtain ⟨c, hc, hs, hr⟩ := ih hp' hq'
        exact ⟨{ c with rest := x :: c.rest }, mem_all_cons.mpr (.inr ⟨c, hc, rfl⟩), hs, by rw [hr]⟩

-- Whatever order a list has, each two of its elements are a choice.
theorem exists_mem_all_of_perm (h : (a :: b :: rs).Perm (xs.map f)) :
    ∃ c ∈ all xs, s(f c.first, f c.second) = s(a, b) ∧ (c.rest.map f).Perm rs := by
  obtain ⟨p, hp, rfl, hbrs⟩ := exists_mem_single_of_perm h
  obtain ⟨q, hq, rfl, hrs⟩  := exists_mem_single_of_perm hbrs.symm
  have ⟨c, hc, hs, hr⟩ := exists_mem_all_of_mem_single hp hq
  exact ⟨c, hc, congrArg (Sym2.map f) hs, hr ▸ hrs⟩

end Permuted

end ModuleDiscovery.Choice
