import ModuleDiscovery.Proofs.Results
import ModuleDiscovery.Proofs.Text.Utf8
import ModuleDiscovery.Settings.Sources

namespace ModuleDiscovery

theorem Files.Tree.look_of_locate {t : Files.Tree} {start l : Files.Location} {path : String}
    (h : (t.locate start path).toOption = some l) :
    t.look start path = (t.node? l).elim (.error ⟨.notFound, path⟩) .ok := by
  rw [look, toOption_eq_some.mp h]
  dsimp only
  cases t.node? l <;> rfl

namespace Settings

section Tables

variable {j k : String} {v : Value} {es : List (String × Value)}

@[simp]
theorem entry?_nil : Value.entry? k [] = none :=
  rfl

theorem entry?_cons : Value.entry? k ((j, v) :: es) = if j = k then some v else Value.entry? k es := by
  simp only [Value.entry?, List.find?_cons]
  split <;> simp_all

theorem entry?_append {fs : List (String × Value)} :
    Value.entry? k (es ++ fs) = (Value.entry? k es).or (Value.entry? k fs) := by
  rw [Value.entry?, List.find?_append, Option.map_or]
  rfl

theorem isSome_entry_iff : (Value.entry? k es).isSome ↔ k ∈ es.map (·.1) := by
  simp [Value.entry?]

theorem entry?_setEntry : Value.entry? k (Value.setEntry j v es) = if j = k then some v else Value.entry? k es := by
  induction es
  case nil => rw [Value.setEntry, entry?_cons]
  case cons e es ih =>
    rw [Value.setEntry]
    split
    case isTrue h  => rw [entry?_cons, entry?_cons, h]; split <;> rfl
    case isFalse h =>
      rw [entry?_cons, entry?_cons, ih]
      split
      case isTrue hk => rw [if_neg fun he => h (hk.trans he.symm)]
      case isFalse   => rfl

theorem mem_keys_setEntry : k ∈ (Value.setEntry j v es).map (·.1) ↔ k = j ∨ k ∈ es.map (·.1) := by
  rw [← isSome_entry_iff, ← isSome_entry_iff, entry?_setEntry]
  split
  case isTrue h  => simp [h]
  case isFalse h => simp [Ne.symm h]

theorem nodup_setEntry (h : (es.map (·.1)).Nodup) : ((Value.setEntry j v es).map (·.1)).Nodup := by
  induction es
  case nil => simp [Value.setEntry]
  case cons e es ih =>
    have ⟨he, hes⟩ := List.nodup_cons.mp h
    rw [Value.setEntry]
    split
    case isTrue hk => exact List.nodup_cons.mpr ⟨hk ▸ he, hes⟩
    case isFalse hk =>
      refine List.nodup_cons.mpr ⟨fun hm => ?_, ih hes⟩
      exact (mem_keys_setEntry.mp hm).elim hk he

-- In a table that states no key twice it does not matter from which end it is read.
theorem entry?_reverse (h : (es.map (·.1)).Nodup) : Value.entry? k es.reverse = Value.entry? k es := by
  induction es
  case nil => rfl
  case cons e es ih =>
    have ⟨he, hes⟩ := List.nodup_cons.mp h
    rw [List.reverse_cons, entry?_append, ih hes, entry?_cons, entry?_cons, entry?_nil]
    split
    case isTrue hk =>
      have hn : Value.entry? k es = none := by
        rw [← Option.not_isSome_iff_eq_none, isSome_entry_iff, ← hk]
        exact he
      rw [hn, Option.none_or]
    case isFalse => rw [Option.or_none]

theorem entry?_filter {p : String × Value → Bool} (h : (es.map (·.1)).Nodup) :
    Value.entry? k (es.filter p) = (Value.entry? k es).filter fun v => p (k, v) := by
  induction es
  case nil => rfl
  case cons e es ih =>
    have ⟨he, hes⟩ := List.nodup_cons.mp h
    rw [List.filter_cons, entry?_cons]
    by_cases hk : e.1 = k
    case neg =>
      rw [if_neg hk]
      split
      case isTrue  => rw [entry?_cons, if_neg hk, ih hes]
      case isFalse => exact ih hes
    case pos =>
      rw [if_pos hk, Option.filter_some]
      subst hk
      split
      case isTrue  => rw [entry?_cons, if_pos rfl]
      case isFalse =>
        rw [← Option.not_isSome_iff_eq_none, isSome_entry_iff]
        exact fun hm => he (List.map_subset _ (List.filter_subset_self _) hm)

end Tables

section Merging

variable {k : String} {t u : List (String × Value)} {ts : List (List (String × Value))}

-- What a table states for a key. Of two entries for one key the last one counts.
def stated? (t : List (String × Value)) (k : String) : Option Value :=
  Value.entry? k t.reverse

theorem isSome_stated? : (stated? t k).isSome ↔ k ∈ t.map (·.1) := by
  rw [stated?, isSome_entry_iff, List.map_reverse, List.mem_reverse]

theorem entry?_override : Value.entry? k (override t u) = (stated? u k).or (Value.entry? k t) := by
  induction u generalizing t
  case nil => rfl
  case cons e u ih =>
    rw [override, List.foldl_cons, ← override, ih, entry?_setEntry, stated?, stated?, List.reverse_cons, entry?_append,
      entry?_cons, entry?_nil, Option.or_assoc]
    split <;> rfl

theorem entry?_foldl_override :
    Value.entry? k (ts.foldl override t) = (ts.reverse.findSome? (stated? · k)).or (Value.entry? k t) := by
  induction ts generalizing t
  case nil => rfl
  case cons u ts ih =>
    rw [List.foldl_cons, ih, entry?_override, List.reverse_cons, List.findSome?_append, Option.or_assoc]
    simp

end Merging

section Checks

variable {k : String} {es fs : List (String × Value)}

theorem checkNames_eq_ok (h : ∀ k, (Value.entry? k es).isSome → (Value.entry? k defaults).isSome) :
    checkNames es = .ok () := by
  have hn : (es.map (·.1)).find? (fun k => (Value.entry? k defaults).isNone) = none := by
    refine List.find?_eq_none.mpr fun k hk => ?_
    simpa [Option.isNone_iff_eq_none, ← Option.isSome_iff_ne_none] using h k (isSome_entry_iff.mpr hk)
  rw [checkNames, hn]

-- Of tables that name settings only, nothing counts but what is found for each setting.
theorem ofFields_congr (he : checkNames es = .ok ()) (hf : checkNames fs = .ok ())
    (h : ∀ k ∈ defaults.map (·.1), field es k = field fs k) : ofFields es = ofFields fs := by
  have hd : ∀ k ∈ ["allowed_units", Refusal.thresholdKey, "unresolved_unit", "key_separator", "weight_precision",
      "verbosity"], field es k = field fs k := h
  simp only [List.forall_mem_cons] at hd
  have ⟨hu, ht, hr, hs, hp, hv, _⟩ := hd
  simp only [ofFields, he, hf, hu, ht, hr, hs, hp, hv]

end Checks

section Sources

variable {k : String} {es : List (String × Value)}

-- Whether a value is given that counts as set.
def isOn (k : String) (es : List (String × Value)) : Bool :=
  (Value.entry? k es).any Value.isSet

def notNull : Value → Bool
  | .null => false
  | _     => true

-- What is given directly for a setting. To be quiet goes before being verbose, and both before a verbosity.
def given? (es : List (String × Value)) (k : String) : Option Value :=
  if k = "verbosity" ∧ isOn "quiet" es then some (.text "quiet")
  else if k = "verbosity" ∧ isOn "verbose" es then some (.text "verbose")
  else (Value.entry? k es).filter notNull

-- What the variable of a setting gives. If it is set several times its last text counts.
def ofVariable? (environment : List (String × String)) (k : String) : Option Value :=
  (environment.reverse.lookup (Environment.variableOf k)).bind fun s => (Environment.value k s).toOption

theorem entry?_filterMap {f : String → Option Value} {ks : List String} :
    Value.entry? k (ks.filterMap fun j => (f j).map (j, ·)) = if k ∈ ks then f k else none := by
  induction ks
  case nil => rfl
  case cons j ks ih =>
    cases hf : f j
    case none =>
      rw [List.filterMap_cons_none (by rw [hf, Option.map_none]), ih]
      by_cases hj : k = j
      case pos => simp [hj, hf]
      case neg => simp [hj]
    case some v =>
      rw [List.filterMap_cons_some (by rw [hf, Option.map_some]), entry?_cons, ih]
      by_cases hj : k = j
      case pos => simp [hj, hf]
      case neg => simp [hj, Ne.symm hj]

theorem fields_eq_ok {environment : List (String × String)} {stated : List (String × Value)}
    (h : Environment.fields environment = .ok stated) :
    stated = (defaults.map (·.1)).filterMap fun k => (ofVariable? environment k).map (k, ·) := by
  have ⟨fs, hfs, h⟩ := bind_eq_ok.mp h
  cases h
  have hf : List.Forall₂ (fun d e => (ofVariable? environment d.1).map (d.1, ·) = e) defaults fs := by
    refine (mapM_eq_ok.mp hfs).imp fun d e he => ?_
    unfold ofVariable?
    dsimp only at he
    split at he
    case h_1 hs =>
      cases he
      rw [hs]
      rfl
    case h_2 s hs =>
      have ⟨v, hv, he⟩ := map_eq_ok.mp he
      rw [hs, Option.bind_some, hv, ← he]
      rfl
  have hfs : defaults.map (fun d => (ofVariable? environment d.1).map (d.1, ·)) = fs := by
    rw [← List.forall₂_eq_eq_eq, List.forall₂_map_left_iff]
    exact hf
  rw [← hfs, List.filterMap_map, List.filterMap_map]
  rfl

theorem stated?_fields {environment : List (String × String)} {stated : List (String × Value)}
    (h : Environment.fields environment = .ok stated) (hk : k ∈ defaults.map (·.1)) :
    stated? stated k = ofVariable? environment k := by
  rw [stated?, fields_eq_ok h, ← List.filterMap_reverse, entry?_filterMap, if_pos (List.mem_reverse.mpr hk)]

section Flag

variable {isSet : Bool} {j : String} {v : Value}

def setIf (isSet : Bool) (k : String) (v : Value) (es : List (String × Value)) : List (String × Value) :=
  if isSet then Value.setEntry k v es else es

theorem nodup_setIf (h : (es.map (·.1)).Nodup) : ((setIf isSet j v es).map (·.1)).Nodup := by
  unfold setIf
  split
  case isTrue  => exact nodup_setEntry h
  case isFalse => exact h

theorem entry?_setIf : Value.entry? k (setIf isSet j v es) = if k = j ∧ isSet then some v else Value.entry? k es := by
  cases isSet
  case false => simp [setIf]
  case true  => simp [setIf, entry?_setEntry, eq_comm]

theorem mem_keys_setIf (h : k ∈ (setIf isSet j v es).map (·.1)) : k = j ∨ k ∈ es.map (·.1) := by
  unfold setIf at h
  split at h
  case isTrue  => exact mem_keys_setEntry.mp h
  case isFalse => exact .inr h

end Flag

-- What is given directly, with the flags as a verbosity.
def flagged (es : List (String × Value)) : List (String × Value) :=
  setIf (isOn "quiet" es) "verbosity" (.text "quiet") <|
    setIf (isOn "verbose" es) "verbosity" (.text "verbose") <|
      es.filter fun e => e.1 ≠ "verbose" ∧ e.1 ≠ "quiet"

theorem ofOverrides_eq (es : List (String × Value)) : ofOverrides es = (flagged es).filter fun e => notNull e.2 :=
  rfl

theorem mem_keys_ofOverrides (h : k ∈ (ofOverrides es).map (·.1)) :
    k = "verbosity" ∨ k ∈ es.map (·.1) ∧ k ≠ "verbose" ∧ k ≠ "quiet" := by
  rw [ofOverrides_eq] at h
  have h : k ∈ (flagged es).map (·.1) := List.map_subset _ (List.filter_subset_self _) h
  rcases mem_keys_setIf h with h | h
  case inl => exact .inl h
  case inr =>
    refine (mem_keys_setIf h).imp_right fun h => ?_
    obtain ⟨e, he, rfl⟩ := List.mem_map.mp h
    have ⟨hm, hf⟩ := List.mem_filter.mp he
    exact ⟨List.mem_map_of_mem hm, by simpa using hf⟩

theorem stated?_ofOverrides (h : (es.map (·.1)).Nodup) (hv : k ≠ "verbose") (hq : k ≠ "quiet") :
    stated? (ofOverrides es) k = given? es k := by
  have hn : (((es.filter fun e => e.1 ≠ "verbose" ∧ e.1 ≠ "quiet")).map (·.1)).Nodup :=
    (List.filter_sublist.map _).nodup h
  have hf : ((flagged es).map (·.1)).Nodup := nodup_setIf (nodup_setIf hn)
  have he : Value.entry? k (es.filter fun e => e.1 ≠ "verbose" ∧ e.1 ≠ "quiet") = Value.entry? k es := by
    rw [entry?_filter h]
    cases Value.entry? k es <;> simp [hv, hq]
  rw [stated?, ofOverrides_eq, entry?_reverse ((List.filter_sublist.map _).nodup hf), entry?_filter hf, flagged,
    entry?_setIf, entry?_setIf, he, given?]
  split
  case isTrue => rfl
  case isFalse =>
    split
    case isTrue  => rfl
    case isFalse => rfl

-- Settings of which each has the value of the first source that states it, or else its default.
def chosen (sources : List (String → Option Value)) : List (String × Value) :=
  defaults.map fun d => (d.1, (sources.findSome? (· d.1)).getD d.2)

theorem checkNames_chosen (sources : List (String → Option Value)) : checkNames (chosen sources) = .ok () := by
  refine checkNames_eq_ok fun k hk => ?_
  rw [isSome_entry_iff] at hk ⊢
  exact hk

theorem field_chosen {sources : List (String → Option Value)} (hk : k ∈ defaults.map (·.1)) :
    field (chosen sources) k = ((sources.findSome? (· k)).or (Value.entry? k defaults)).getD .null := by
  have hc (ds : List (String × Value)) :
      Value.entry? k (ds.map fun d => (d.1, (sources.findSome? (· d.1)).getD d.2)) =
        (Value.entry? k ds).map ((sources.findSome? (· k)).getD ·) := by
    induction ds
    case nil => rfl
    case cons d ds ih =>
      rw [List.map_cons, entry?_cons, entry?_cons, ih]
      split
      case isTrue h => rw [h, Option.map_some]
      case isFalse  => rfl
  obtain ⟨v, hv⟩ := Option.isSome_iff_exists.mp (isSome_entry_iff.mpr hk)
  rw [field, chosen, hc, hv, Option.map_some, Option.some_or, Option.getD_some]
  cases sources.findSome? (· k) <;> rfl

end Sources

section Load

-- What the files of settings state.
structure Tables where
  home    : List (String × Value)
  working : List (String × Value)
  asked   : List (String × Value)

variable {around : Surroundings} {file : Option String} {overrides stated : List (String × Value)} {t : Tables}
  {k : String}

-- Sources that can be read: tables from files, texts of variables, and names of settings only.
structure Reads (around : Surroundings) (file : Option String) (overrides : List (String × Value)) (t : Tables) :
    Prop where
  home     : ofDirectory around.files around.home ("." ++ fileName) = .ok t.home
  working  : ofDirectory around.files around.working fileName = .ok t.working
  asked    : file.elim (.ok []) (ofFile around) = .ok t.asked
  parses   : ∀ k ∈ defaults.map (·.1), ∀ s, around.environment.reverse.lookup (Environment.variableOf k) = some s →
    (Environment.value k s).isOk
  known    : ∀ k ∈ (t.home ++ t.working ++ t.asked).map (·.1), k ∈ defaults.map (·.1)
  keywords : ∀ k ∈ overrides.map (·.1), k = "verbose" ∨ k = "quiet" ∨ k ∈ defaults.map (·.1)
  distinct : (overrides.map (·.1)).Nodup

-- What can be given for a setting, from the source on that goes before all others.
def sources (around : Surroundings) (overrides : List (String × Value)) (t : Tables) :
    List (String → Option Value) :=
  [given? overrides, ofVariable? around.environment, stated? t.asked, stated? t.working, stated? t.home]

-- A fault that is no refusal is told as one of the configuration.
def reported : Except Failure Settings → Except Failure Settings
  | .error (.settings f) => .error (.refused (.configuration ("Invalid configuration: " ++ f.message) []))
  | r                    => r

-- The tables of all sources put into one.
def merged (overrides stated : List (String × Value)) (t : Tables) : List (String × Value) :=
  [t.home, t.working, t.asked, stated, ofOverrides overrides].foldl override []

namespace Reads

theorem isOk_fields (h : Reads around file overrides t) : (Environment.fields around.environment).isOk := by
  unfold Environment.fields
  simp only [bind_pure_comp, isOk_functor_map, isOk_mapM, List.all_eq_true]
  intro d hd
  split
  case h_1 => rfl
  case h_2 s hs => simpa using h.parses d.1 (List.mem_map_of_mem hd) s hs

theorem checkNames_merged (h : Reads around file overrides t)
    (hs : Environment.fields around.environment = .ok stated) : checkNames (merged overrides stated t) = .ok () := by
  refine checkNames_eq_ok fun k hk => isSome_entry_iff.mpr ?_
  have hm : ∃ u ∈ [t.home, t.working, t.asked, stated, ofOverrides overrides], k ∈ u.map (·.1) := by
    rw [merged, entry?_foldl_override, entry?_nil, Option.or_none, List.findSome?_isSome_iff] at hk
    obtain ⟨u, hu, hk⟩ := hk
    exact ⟨u, List.mem_reverse.mp hu, isSome_stated?.mp hk⟩
  simp only [List.exists_mem_cons_iff] at hm
  rcases hm with hm | hm | hm | hm | hm | ⟨_, hm, _⟩
  case inl => exact h.known k (by simp_all)
  case inr.inl => exact h.known k (by simp_all)
  case inr.inr.inl => exact h.known k (by simp_all)
  case inr.inr.inr.inl =>
    rw [fields_eq_ok hs] at hm
    have ⟨e, he, hk⟩    := List.mem_map.mp hm
    have ⟨j, hj, he⟩    := List.mem_filterMap.mp he
    have ⟨_, _, he⟩     := Option.map_eq_some_iff.mp he
    rwa [← hk, ← he]
  case inr.inr.inr.inr.inl =>
    rcases mem_keys_ofOverrides hm with rfl | ⟨hm, hv, hq⟩
    case inl => decide
    case inr => exact ((h.keywords k hm).resolve_left hv).resolve_left hq
  case inr.inr.inr.inr.inr => cases hm

theorem field_merged (h : Reads around file overrides t) (hs : Environment.fields around.environment = .ok stated)
    (hk : k ∈ defaults.map (·.1)) : field (merged overrides stated t) k =
      (((sources around overrides t).findSome? (· k)).or (Value.entry? k defaults)).getD .null := by
  have hv : k ≠ "verbose" := fun he => absurd (he ▸ hk) (by decide)
  have hq : k ≠ "quiet" := fun he => absurd (he ▸ hk) (by decide)
  rw [field, merged, entry?_foldl_override, entry?_nil, Option.or_none]
  simp [sources, stated?_ofOverrides h.distinct hv hq, stated?_fields hs hk, List.findSome?_cons]

theorem load_eq (h : Reads around file overrides t) :
    load around file overrides = reported (ofFields (chosen (sources around overrides t))) := by
  obtain ⟨stated, hs⟩ := isOk_iff.mp h.isOk_fields
  have hm : ofFields (merged overrides stated t) = ofFields (chosen (sources around overrides t)) :=
    ofFields_congr (h.checkNames_merged hs) (checkNames_chosen _) fun k hk => by
      rw [h.field_merged hs hk, field_chosen hk]
  have hn : ¬(Value.entry? "config_file" overrides).isSome := by
    rw [isSome_entry_iff]
    exact fun hk => absurd (h.keywords _ hk) (by decide)
  unfold load
  rw [if_neg hn, ← hm]
  cases file
  case none =>
    have ha : t.asked = [] := (Except.ok.inj h.asked).symm
    simp only [h.home, h.working, hs, merged, ha, ok_bind]
    rfl
  case some path =>
    have ha : ofFile around path = .ok t.asked := h.asked
    simp only [h.home, h.working, hs, ha, ok_bind]
    rfl

end Reads

section Overriding

variable {before : List (String → Option Value)} {t' : Tables}

-- For a setting that one of these sources states no later source counts.
def IsStated (before : List (String → Option Value)) (k : String) : Prop :=
  ∃ s ∈ before, (s k).isSome

-- Files that differ in nothing but what is overridden, by the sources before all files or by a file before them.
structure Tables.SameUnlessOverridden (before : List (String → Option Value)) (t t' : Tables) : Prop where
  asked   : ∀ k, IsStated before k ∨ stated? t.asked k = stated? t'.asked k
  working : ∀ k, IsStated (before ++ [stated? t.asked]) k ∨ stated? t.working k = stated? t'.working k
  home    : ∀ k, IsStated (before ++ [stated? t.asked, stated? t.working]) k ∨ stated? t.home k = stated? t'.home k

theorem not_isStated_iff : ¬IsStated before k ↔ before.findSome? (· k) = none := by
  simp [IsStated, List.findSome?_eq_none_iff]

theorem Tables.SameUnlessOverridden.findSome?_eq (h : t.SameUnlessOverridden before t') (k : String) :
    (before ++ [stated? t.asked, stated? t.working, stated? t.home]).findSome? (· k) =
      (before ++ [stated? t'.asked, stated? t'.working, stated? t'.home]).findSome? (· k) := by
  have ha := h.asked k
  have hw := h.working k
  have hh := h.home k
  simp only [or_iff_not_imp_left, not_isStated_iff, List.findSome?_append, List.findSome?_cons, List.findSome?_nil]
    at ha hw hh ⊢
  generalize before.findSome? (· k) = b, stated? t.asked k = a, stated? t.working k = w, stated? t.home k = v,
    stated? t'.asked k = a', stated? t'.working k = w', stated? t'.home k = v' at *
  cases b
  case some => rfl
  case none =>
    obtain rfl := ha rfl
    cases a
    case some => rfl
    case none =>
      obtain rfl := hw rfl
      cases w
      case some => rfl
      case none => rw [hh rfl]

end Overriding

-- Sources are merged table by table, but all that is made of the result is a look-up of each setting. Settings are
-- made as if each had been given the value of the first source that states it. What a file states for a setting that
-- an earlier source states may be anything, or be missing.
theorem settings_from_first_source (h : Reads around file overrides t) :
    load around file overrides = reported (ofFields (chosen (sources around overrides t))) ∧
    ∀ around' file' t', Reads around' file' overrides t' → around'.environment = around.environment →
      t.SameUnlessOverridden [given? overrides, ofVariable? around.environment] t' →
      load around' file' overrides = load around file overrides := by
  refine ⟨h.load_eq, fun around' file' t' h' he hs => ?_⟩
  have hc : chosen (sources around' overrides t') = chosen (sources around overrides t) := by
    refine List.map_congr_left fun d _ => ?_
    have hd := hs.findSome?_eq d.1
    simp only [List.cons_append, List.nil_append] at hd
    rw [sources, sources, he, hd]
  rw [h.load_eq, h'.load_eq, hc]

theorem tableOf_of_read {path content : String} {es : List (String × Value)} (hr : Toml.read content = .ok es)
    (hp : Text.ofPlain content.toList = content) (hn : Value.entry? "coupling_insight" es = none) :
    tableOf path (content.toList.flatMap String.utf8EncodeChar) = .ok es := by
  rw [tableOf, Text.decodeUtf8_of_plain hp]
  dsimp only
  rw [hr]
  dsimp only
  rw [hn]

-- Surroundings in which nothing but a file in the home directory states settings.
def onlyHome (content : String) : Surroundings where
  files       := (Files.Tree.empty.put ["work"] .directory).put ["home", "." ++ fileName]
    (.file (content.toList.flatMap String.utf8EncodeChar))
  working     := ⟨["work"], "/work"⟩
  home        := ⟨["home"], "/home"⟩
  environment := []

-- Two files of which either would be refused, but for the verbosity that is given directly.
theorem settings_from_first_source_two_faulty_files :
    let overrides := [("quiet", .bool true), ("verbosity", .null)]
    let number := onlyHome "verbosity = 3\n"
    let noVerbosity := onlyHome "verbosity = 'loud'\n"
    Reads number none overrides ⟨[("verbosity", .int 3)], [], []⟩ ∧
      Reads noVerbosity none overrides ⟨[("verbosity", .text "loud")], [], []⟩ ∧
      load number none overrides = .ok { standard with verbosity := .quiet } ∧
      load noVerbosity none overrides = load number none overrides := by
  intro overrides number noVerbosity
  have hl : ∀ c ∈ ["verbosity = 3\n", "verbosity = 'loud'\n"],
      ((onlyHome c).files.locate (onlyHome c).home.location ("." ++ fileName)).toOption =
          some ["home", "." ++ fileName] ∧
        ((onlyHome c).files.locate (onlyHome c).working.location fileName).toOption = some ["work", fileName] ∧
        Text.ofPlain c.toList = c := by
    decide +kernel
  have hr : ∀ c ∈ ["verbosity = 3\n", "verbosity = 'loud'\n"], ∀ v, Toml.read c = .ok [("verbosity", v)] →
      Reads (onlyHome c) none overrides ⟨[("verbosity", v)], [], []⟩ := by
    intro c hc v hv
    obtain ⟨hh, hw, hp⟩ := hl c hc
    exact {
      home     := by
        rw [ofDirectory, Files.Tree.look_of_locate hh]
        exact tableOf_of_read hv hp rfl
      working  := by
        rw [ofDirectory, Files.Tree.look_of_locate hw]
        rfl
      asked    := rfl
      parses   := by simp [onlyHome]
      known    := by simp [defaults]
      keywords := by simp [overrides, defaults]
      distinct := by decide }
  have hn := hr "verbosity = 3\n" (by decide) (.int 3) rfl
  have hv := hr "verbosity = 'loud'\n" (by decide) (.text "loud") rfl
  obtain ⟨hload, hsame⟩ := settings_from_first_source hn
  refine ⟨hn, hv, hload.trans rfl, hsame _ _ _ hv rfl {
    asked   := fun _ => .inr rfl
    working := fun _ => .inr rfl
    home    := fun k => ?_ }⟩
  by_cases hk : k = "verbosity"
  case pos => exact .inl ⟨given? overrides, by simp, hk ▸ rfl⟩
  case neg => exact .inr (by simp [stated?, entry?_cons, Ne.symm hk])

end Load

end Settings
end ModuleDiscovery
