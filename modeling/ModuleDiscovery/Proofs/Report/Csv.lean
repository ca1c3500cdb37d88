import ModuleDiscovery.Proofs.Analysis.Reportable

namespace ModuleDiscovery.Csv

-- Where a reader is in a table.
inductive Place
  -- In front of a row. Behind a carriage return a line feed belongs to the end of the row before it.
  | line (returned : Bool)
  -- In front of a field that is not the first one of its row.
  | item
  -- Within a field without quotes.
  | bare
  -- Within quotes.
  | quoted
  -- Behind a quote within quotes, which ends them unless another one follows.
  | closed
deriving DecidableEq

-- What a character does to the field that is being read.
inductive Step
  -- It is no part of any field.
  | skip (p : Place)
  -- It is a part of the field.
  | keep (p : Place)
  | endField
  | endRow (p : Place)

namespace Place

def quote : Place → Step
  | quoted => .skip closed
  | closed => .keep quoted
  | bare   => .keep bare
  | _      => .skip quoted

def step (p : Place) (c : Char) : Step :=
  if c = '"' then p.quote
  else if p = quoted then .keep quoted
  else if c = ',' then .endField
  else if c = '\n' then
    if p = line true then .skip (line false) else .endRow (line false)
  else if c = '\r' then .endRow (line true)
  else .keep bare

-- The row that ends at a place, given its last field and the fields before that. An empty line has no fields.
def row (cs : List Char) (fs : List String) : Place → List String
  | line _ => []
  | _      => fs ++ [String.ofList cs]

end Place

-- The rows from a place on, given what was read of the field and the row that it is in.
def rowsFrom (p : Place) (cs : List Char) (fs : List String) : List Char → List (List String)
  | [] =>
    match p with
    | .line _ => []
    | p       => [p.row cs fs]
  | c :: rest =>
    match p.step c with
    | .skip q   => rowsFrom q cs fs rest
    | .keep q   => rowsFrom q (cs ++ [c]) fs rest
    | .endField => rowsFrom .item [] (fs ++ [String.ofList cs]) rest
    | .endRow q => p.row cs fs :: rowsFrom q [] [] rest

-- The rows of a text.
def read (text : String) : List (List String) :=
  rowsFrom (.line false) [] [] text.toList

-- Whether a field is quoted if a carriage return in it demands that.
def IsSafe (cs : List Char) : Prop :=
  '\r' ∈ cs → needsQuotes cs

def IsPlain (c : Char) : Prop :=
  c ≠ ',' ∧ c ≠ '"' ∧ c ≠ '\n' ∧ c ≠ '\r'

-- Where a field of a written table starts.
def Place.IsFresh (p : Place) : Prop :=
  p = .line false ∨ p = .item

section Fields

variable {p : Place} {cs ds rest : List Char} {f : String} {r fs : List String} {rows : List (List String)}

theorem Place.IsFresh.ne_quoted (h : p.IsFresh) : p ≠ .quoted := by
  rcases h with rfl | rfl <;> decide

theorem rowsFrom_plain (cs : List Char) (fs : List String) (hp : p ≠ .quoted) (hd : ∀ d ∈ ds, IsPlain d) :
    ∃ q, (q = p ∨ q = .bare) ∧ ∀ rest, rowsFrom p cs fs (ds ++ rest) = rowsFrom q (cs ++ ds) fs rest := by
  induction ds generalizing p cs
  case nil => exact ⟨p, .inl rfl, fun rest => by rw [List.append_nil, List.nil_append]⟩
  case cons d ds ih =>
    have ⟨⟨hc, hq, hn, hr⟩, hds⟩ := List.forall_mem_cons.mp hd
    have ⟨q, hq', h⟩ := ih (cs ++ [d]) (p := .bare) (by decide) hds
    refine ⟨q, .inr (hq'.elim id id), fun rest => ?_⟩
    rw [List.append_cons cs, ← h, List.cons_append, rowsFrom, Place.step, if_neg hq, if_neg hp, if_neg hc, if_neg hn,
      if_neg hr]

-- Within quotes each quote is written twice and read once.
theorem rowsFrom_quoted : rowsFrom .quoted cs fs (ds.flatMap (fun c => if c = '"' then ['"', '"'] else [c]) ++ rest) =
    rowsFrom .quoted (cs ++ ds) fs rest := by
  induction ds generalizing cs
  case nil => rw [List.append_nil]; rfl
  case cons d ds ih =>
    rw [List.append_cons cs, ← ih, List.flatMap_cons, List.append_assoc]
    by_cases hd : d = '"'
    case pos => subst hd; rfl
    case neg => simp [hd, rowsFrom, Place.step]

theorem isPlain_of_not_needsQuotes (hq : ¬needsQuotes cs) (hr : '\r' ∉ cs) : ∀ c ∈ cs, IsPlain c := by
  intro c hc
  simp only [needsQuotes, List.any_eq_true, Bool.or_eq_true, decide_eq_true_eq, not_exists, not_and, not_or] at hq
  exact ⟨(hq c hc).1.1, (hq c hc).1.2, (hq c hc).2, ne_of_mem_of_not_mem hc hr⟩

theorem rowsFrom_field (fs : List String) (hp : p.IsFresh) (hd : IsSafe ds) : ∃ q, (q = p ∨ q = .bare ∨ q = .closed) ∧
    ∀ rest, rowsFrom p [] fs (field ds ++ rest) = rowsFrom q ds fs rest := by
  by_cases hq : needsQuotes ds
  case pos =>
    refine ⟨.closed, .inr (.inr rfl), fun rest => ?_⟩
    have hs : p.step '"' = .skip .quoted := by rcases hp with rfl | rfl <;> rfl
    rw [field, if_pos hq, List.append_assoc, List.cons_append, rowsFrom, hs]
    exact rowsFrom_quoted
  case neg =>
    have ⟨q, hq', h⟩ := rowsFrom_plain [] fs hp.ne_quoted (isPlain_of_not_needsQuotes hq (mt hd hq))
    refine ⟨q, hq'.imp_right .inl, fun rest => ?_⟩
    rw [field, if_neg hq, h, List.nil_append]

theorem row_ne (h : String.ofList cs ≠ f) : p.row cs fs ≠ fs ++ f :: r := by
  unfold Place.row
  split
  case h_1 => exact (List.append_ne_nil_of_right_ne_nil _ (List.cons_ne_nil _ _)).symm
  case h_2 => exact fun he => h (List.cons.inj (List.append_cancel_left he)).1

-- A carriage return that is not within quotes ends the row in the middle of the field.
theorem rowsFrom_field_ne (hp : p.IsFresh) (hf : ¬IsSafe f.toList) :
    rowsFrom p [] fs (field f.toList ++ rest) ≠ (fs ++ f :: r) :: rows := by
  have ⟨hr, hq⟩ : '\r' ∈ f.toList ∧ ¬needsQuotes f.toList := Classical.not_imp.mp hf
  have ⟨before, after, he, hb⟩ := List.eq_append_cons_of_mem hr
  have hq' : ¬needsQuotes before := by simp_all [needsQuotes]
  have ⟨q, hqp, h⟩ := rowsFrom_plain [] fs hp.ne_quoted (isPlain_of_not_needsQuotes hq' hb)
  have hs : q.step '\r' = .endRow (.line true) := by rcases hqp with rfl | rfl <;> simp [Place.step, hp.ne_quoted]
  have hne : String.ofList before ≠ f := by
    rintro rfl
    simpa using congrArg List.length he
  rw [field, if_neg hq, he, List.append_assoc, h, List.cons_append, rowsFrom, hs, List.nil_append]
  exact fun h => row_ne hne (List.cons.inj h).1

theorem rowsFrom_comma (hp : p ≠ .quoted) :
    rowsFrom p cs fs (',' :: rest) = rowsFrom .item [] (fs ++ [String.ofList cs]) rest := by
  simp [rowsFrom, Place.step, hp]

theorem rowsFrom_newline (hp : p = .item ∨ p = .bare ∨ p = .closed) :
    rowsFrom p cs fs ('\n' :: rest) = (fs ++ [String.ofList cs]) :: rowsFrom (.line false) [] [] rest := by
  rcases hp with rfl | rfl | rfl <;> rfl

end Fields

section Rows

variable {p : Place} {f g : String} {r : List String} {rows : List (List String)} {rest : List Char}

-- The characters of the fields of a row, with commas between them.
def joined (r : List String) : List Char :=
  [','].intercalate (r.map fun f => field f.toList)

theorem joined_singleton : joined [f] = field f.toList := by
  simp [joined]

theorem joined_cons_cons : joined (f :: g :: r) = field f.toList ++ ',' :: joined (g :: r) := by
  simp [joined, List.intercalate_cons_cons]

-- A row is read back if and only if each of its fields is.
theorem rowsFrom_joined_eq_cons_iff (fs : List String) (hp : p.IsFresh) (hr : p = .item ∨ r ≠ []) :
    rowsFrom p [] fs (joined (f :: r) ++ '\n' :: rest) = (fs ++ f :: r) :: rows ↔
      (∀ g ∈ f :: r, IsSafe g.toList) ∧ rowsFrom (.line false) [] [] rest = rows := by
  induction r generalizing p f fs
  case nil =>
    obtain rfl := hr.resolve_right (absurd rfl)
    rw [joined_singleton]
    by_cases hf : IsSafe f.toList
    case pos =>
      have ⟨q, hq, h⟩ := rowsFrom_field fs hp hf
      rw [h, rowsFrom_newline hq, String.ofList_toList]
      simp [hf]
    case neg => exact iff_of_false (rowsFrom_field_ne hp hf) fun h => hf (h.1 f List.mem_cons_self)
  case cons g r ih =>
    rw [joined_cons_cons, List.append_assoc]
    by_cases hf : IsSafe f.toList
    case pos =>
      have ⟨q, hq, h⟩ := rowsFrom_field fs hp hf
      have hn : q ≠ .quoted := by rcases hq with rfl | rfl | rfl <;> simp [hp.ne_quoted]
      rw [h, List.cons_append, rowsFrom_comma hn, String.ofList_toList, List.append_cons fs f (g :: r),
        ih (fs ++ [f]) (.inr rfl) (.inl rfl), List.forall_mem_cons (a := f), and_iff_right hf]
    case neg => exact iff_of_false (rowsFrom_field_ne hp hf) fun h => hf (h.1 f List.mem_cons_self)

theorem toList_row (r : List String) : (row r).toList = joined r ++ ['\n'] := by
  simp [row, joined, Function.comp_def]

-- A table is read back if and only if each field of its rows is.
theorem read_join_eq_iff {rs : List (List String)} (h : ∀ r ∈ rs, 2 ≤ r.length) :
    read (String.join (rs.map row)) = rs ↔ ∀ r ∈ rs, ∀ f ∈ r, IsSafe f.toList := by
  induction rs
  case nil => simp [read, rowsFrom]
  case cons r rs ih =>
    have ⟨hr, hrs⟩ := List.forall_mem_cons.mp h
    match r, hr with
    | f :: g :: r, _ =>
      rw [List.map_cons, String.join_cons, read, String.toList_append, toList_row, List.append_assoc,
        List.forall_mem_cons, ← ih hrs]
      exact rowsFrom_joined_eq_cons_iff [] (.inl rfl) (.inr (List.cons_ne_nil _ _))

end Rows

end ModuleDiscovery.Csv

namespace ModuleDiscovery

open Csv Number

section Coupling

variable {g : Coupling} {n : Int} {ws : List (Pair × Float)} {rows : List (List String)}

-- The fields of the row of a pair.
def Coupling.csvRow (n : Int) (p : Pair × Float) : List String :=
  [p.1.a, p.1.b, fixedText n.toNat p.2]

theorem csvRows_eq (hw : g.rankedWeights = .ok ws) (h : g.csvRows (.int n) = .ok rows) :
    rows = ws.map (Coupling.csvRow n) := by
  rw [Coupling.csvRows, hw, ok_bind] at h
  replace h := mapM_eq_ok.mp h
  clear hw
  induction h
  case nil => rfl
  case cons p row ws rows hp _ ih =>
    obtain ⟨t, ht, he⟩ := map_eq_ok.mp (mapError_eq_ok.mp hp)
    rw [List.map_cons, ← ih, ← he, (Places.text_int.mp ht).2.2]
    rfl

theorem isSafe_fixedText (k : Nat) (x : Float) : IsSafe (fixedText k x).toList :=
  fun h => absurd (isFigure_of_mem_fixedText h) (by decide)

-- A table is there for all numbers of places that numbers are written with.
theorem exists_csv_iff : (∃ t, g.csv (.int n) = .ok t) ↔
    (∃ ws, g.rankedWeights = .ok ws) ∧ (g.counts = [] ∨ 0 ≤ n ∧ n ≤ Places.maxPlaces) := by
  have hf : (Places.field (.int n)).isOk ↔ 0 ≤ n ∧ n ≤ Places.maxPlaces := by
    rw [← isOk_map (f := fun f => f.text 0.0), isOk_iff]
    exact ⟨fun ⟨_, ht⟩ => (Places.text_int.mp ht).imp_right And.left, fun h => ⟨_, Places.text_int.mpr ⟨h.1, h.2, rfl⟩⟩⟩
  rw [← isOk_iff, ← isOk_iff]
  cases hw : g.rankedWeights
  case error e => simp [Coupling.csv, Coupling.csvRows, hw, bind, Except.bind]
  case ok ws   => rw [isOk_csv hw, hf, eq_nil_iff_of_rankedWeights hw, isOk_ok, eq_self, true_and]

-- The rows are read back if and only if the names of all pairs are.
theorem isSafe_rows_iff (h : g.rankedWeights = .ok ws) :
    (∀ r ∈ heading :: ws.map (Coupling.csvRow n), ∀ f ∈ r, IsSafe f.toList) ↔
      ∀ c ∈ g.counts, ∀ u ∈ [c.1.a, c.1.b], IsSafe u.toList := by
  have hl : ∀ f ∈ heading, IsSafe f.toList := by simp [heading, IsSafe]
  have hr (p : Pair × Float) :
      (∀ f ∈ Coupling.csvRow n p, IsSafe f.toList) ↔ ∀ u ∈ [p.1.a, p.1.b], IsSafe u.toList := by
    simp [Coupling.csvRow, isSafe_fixedText]
  have hw : (∀ p ∈ ws.map (·.1), ∀ u ∈ [p.a, p.b], IsSafe u.toList) ↔
      ∀ p ∈ g.ranked.map (·.1), ∀ u ∈ [p.a, p.b], IsSafe u.toList := by
    rw [rankedWeights_pairs h]
  rw [List.forall_mem_map, List.forall_mem_map] at hw
  rw [List.forall_mem_cons, and_iff_right hl, List.forall_mem_map]
  simp only [hr, hw, Coupling.ranked, List.mem_mergeSort]

theorem isSafe_iff {cs : List Char} : IsSafe cs ↔ ('\r' ∈ cs → ',' ∈ cs ∨ '"' ∈ cs ∨ '\n' ∈ cs) := by
  refine imp_congr_right fun _ => ?_
  simp only [needsQuotes, List.any_eq_true, Bool.or_eq_true, decide_eq_true_eq]
  grind

-- A reader ends a row at a carriage return, but no field is quoted because it holds one. A table gives back the names
-- and weights of all counted pairs, the heaviest first, unless there is a name with a carriage return and nothing
-- that is quoted.
theorem csv_read_back_iff (g : Coupling) (n : Int) :
    ((∃ t, g.csv (.int n) = .ok t) ↔
      (∃ ws, g.rankedWeights = .ok ws) ∧ (g.counts = [] ∨ 0 ≤ n ∧ n ≤ 2147483647)) ∧
    ∀ t, g.csv (.int n) = .ok t → ∃ ws, g.rankedWeights = .ok ws ∧
      ws.map (·.1) = g.ranked.map (·.1) ∧ g.ranked.Perm g.counts ∧
      (read t = ["unit_a", "unit_b", "weight"] :: ws.map (fun p => [p.1.a, p.1.b, fixedText n.toNat p.2]) ↔
        ∀ c ∈ g.counts, ∀ u ∈ [c.1.a, c.1.b],
          '\r' ∈ u.toList → ',' ∈ u.toList ∨ '"' ∈ u.toList ∨ '\n' ∈ u.toList) := by
  refine ⟨exists_csv_iff, fun t ht => ?_⟩
  have ⟨rows, hr, he⟩ := map_eq_ok.mp ht
  have ⟨ws, hw, _⟩    := bind_eq_ok.mp hr
  refine ⟨ws, hw, rankedWeights_pairs hw, List.mergeSort_perm .., ?_⟩
  have hl : ∀ r ∈ heading :: ws.map (Coupling.csvRow n), 2 ≤ r.length := by
    rw [List.forall_mem_cons, List.forall_mem_map]
    exact ⟨by decide, fun _ _ => (by decide : 2 ≤ 3)⟩
  subst he
  rw [csvRows_eq hw hr]
  simp only [← isSafe_iff]
  exact (read_join_eq_iff hl).trans (isSafe_rows_iff hw)

-- A name with nothing but a carriage return in it is not quoted: there is a row more than there are pairs.
theorem csv_loses_return :
    let g := Coupling.ofCalls (CallGraph.empty.insert ⟨"A\rB.f", "C.g"⟩) ["A\rB", "C"] .dot
    g.counts.map (·.1) = [⟨"A\rB", "C", by decide⟩] ∧ ∃ t, g.csv (.int 4) = .ok t ∧
      read t = [["unit_a", "unit_b", "weight"], ["A"], ["B", "C", "1.0000"]] := by
  intro g
  have hc : (g.csv (.int 4)).toOption = some "unit_a,unit_b,weight\nA\rB,C,1.0000\n" := by decide +kernel
  exact ⟨by decide +kernel, _, toOption_eq_some.mp hc, by decide +kernel⟩

-- A comma, quotes and a line end of two characters in the names.
theorem csv_read_back_iff_marks_in_names :
    let g := Coupling.ofCalls (CallGraph.empty.insert ⟨"a,\"b.f", "c\r\n.g"⟩) ["a,\"b", "c\r\n"] .dot
    ∃ t, g.csv (.int 4) = .ok t ∧
      read t = [["unit_a", "unit_b", "weight"], ["a,\"b", "c\r\n", "1.0000"]] := by
  intro g
  have ⟨hc, hr⟩ := csv_read_back_iff g 4
  have ⟨t, ht⟩  := hc.mpr ⟨isOk_iff.mp isOk_rankedWeights, .inr (by decide)⟩
  have ⟨ws, hw, _, _, hr⟩ := hr t ht
  have he : (g.rankedWeights.toOption.map fun ws => ws.map fun p => [p.1.a, p.1.b, fixedText 4 p.2]) =
      some [["a,\"b", "c\r\n", "1.0000"]] := by decide +kernel
  rw [hw] at he
  exact ⟨t, ht, (hr.mpr (by decide +kernel)).trans (congrArg (List.cons _) (Option.some.inj he))⟩

end Coupling
end ModuleDiscovery
