import ModuleDiscovery.Proofs.Analysis.Reportable
import ModuleDiscovery.Proofs.Report.Listing
import ModuleDiscovery.Report.Text

namespace ModuleDiscovery

namespace Text

variable {cs : List Char}

-- Turns every line boundary into a line feed, a carriage return with a line feed into one.
def withLineFeeds : List Char → List Char
  | []                 => []
  | '\r' :: '\n' :: cs => '\n' :: withLineFeeds cs
  | c :: cs            => (if isLineEnd c then '\n' else c) :: withLineFeeds cs

-- A text that ends with a line boundary, by its lines.
theorem flatMap_splitLines (h : ∀ c ∈ cs.getLast?, isLineEnd c) :
    (splitLines cs).flatMap (· ++ ['\n']) = withLineFeeds cs := by
  fun_induction splitLines cs
  case case1 => rfl
  case case2 cs ih =>
    rw [withLineFeeds, List.flatMap_cons, ih fun c hc => h c (List.mem_getLast?_cons (List.mem_getLast?_cons hc))]
    rfl
  case case3 c cs hn hc ih =>
    rw [withLineFeeds.eq_3 _ _ hn, if_pos hc, List.flatMap_cons, ih fun d hd => h d (List.mem_getLast?_cons hd)]
    rfl
  case case4 c cs hn hc hs ih =>
    -- The last character would be no line boundary.
    rw [splitLines_eq_nil.mp hs] at h
    exact absurd (h c rfl) hc
  case case5 c cs hn hc l ls hs ih =>
    have ih := ih fun d hd => h d (List.mem_getLast?_cons hd)
    rw [hs, List.flatMap_cons] at ih
    rw [withLineFeeds.eq_3 _ _ hn, if_neg hc, List.flatMap_cons, List.cons_append, List.cons_append, ih]

theorem eq_newline_of_mem_withLineFeeds {c : Char} (h : c ∈ withLineFeeds cs) (hc : isLineEnd c) : c = '\n' := by
  fun_induction withLineFeeds cs
  case case1 => cases h
  case case2 ih => exact (List.mem_cons.mp h).elim id ih
  case case3 d cs hn ih =>
    rcases List.mem_cons.mp h with rfl | h
    case inl =>
      split at hc
      case isTrue hd => rw [if_pos hd]
      case isFalse hd => exact absurd hc hd
    case inr => exact ih h

theorem withLineFeeds_eq_self_iff : withLineFeeds cs = cs ↔ ∀ c ∈ cs, isLineEnd c → c = '\n' := by
  constructor
  case mp => exact fun h c hc => eq_newline_of_mem_withLineFeeds (h.symm ▸ hc)
  case mpr =>
    intro h
    fun_induction withLineFeeds cs
    case case1 => rfl
    case case2 => exact absurd (h '\r' List.mem_cons_self rfl) (by decide)
    case case3 c cs hn ih =>
      have ⟨hc, hcs⟩ := List.forall_mem_cons.mp h
      rw [ih hcs, ite_eq_right_iff.mpr fun he => (hc he).symm]

end Text

open Text

theorem Dendrogram.forall_mem_listing_iff {t : Dendrogram Float} :
    (∀ c ∈ (listing "  " (some t)).toList, isLineEnd c → c = '\n') ↔
      ∀ u ∈ t.units, ∀ c ∈ u.toList, isLineEnd c → c = '\n' := by
  rw [toList_listing]
  constructor
  case mp =>
    intro h u hu c hc he
    have ⟨l, hl, hc⟩ := (mem_listingLines_iff 0 he).mpr ⟨u, hu, hc⟩
    exact h c (List.mem_flatMap.mpr ⟨_, List.mem_map_of_mem hl, List.mem_append_left _ hc⟩) he
  case mpr =>
    intro h c hc he
    obtain ⟨_, hk, hc⟩ := List.mem_flatMap.mp hc
    obtain ⟨l, hl, rfl⟩ := List.mem_map.mp hk
    rcases List.mem_append.mp hc with hc | hc
    case inl =>
      have ⟨u, hu, hc⟩ := (mem_listingLines_iff 0 he).mp ⟨l, hl, hc⟩
      exact h u hu c hc he
    case inr => exact List.mem_singleton.mp hc

namespace Analysis

open Number

variable {g : CallGraph} {s : Settings} {a : Analysis}

-- The part of the report that is behind the listing.
def moduleSection (a : Analysis) : Except PlacesFault String := do
  let modules ← a.moduleLines
  let e := a.extraction
  return String.join ((s!"Modules (CP={generalText e.threshold}, max={e.budget})" :: modules ++ a.repairLines).map
    (· ++ "\n"))

theorem lines_ended (l : String) (ls : List String) :
    "\n".intercalate (l :: ls) ++ "\n" = String.join ((l :: ls).map (· ++ "\n")) := by
  rw [← String.toList_inj, String.toList_append, String.toList_intercalate]
  simpa [List.flatMap_map] using Dot.intercalate_append ['\n'] l.toList (ls.map String.toList)

theorem join_listingLines {t : Dendrogram Float} (ht : a.clustering.root = some t) :
    String.join (a.listingLines.map (· ++ "\n")) =
      String.ofList (withLineFeeds (Dendrogram.listing "  " (some t)).toList) := by
  have he : ∀ c ∈ (Dendrogram.listing "  " (some t)).toList.getLast?, isLineEnd c := by
    simp [Dendrogram.listing]; rfl
  have hn : splitLines (Dendrogram.listing "  " (some t)).toList ≠ [] := by
    simp [splitLines_eq_nil, Dendrogram.listing]
  rw [listingLines, ht, if_neg (by simpa using hn), ← flatMap_splitLines he, ← String.toList_inj]
  simp [List.flatMap_map]

theorem textReport_eq {t : Dendrogram Float} (ht : a.clustering.root = some t) :
    a.textReport = (a.moduleSection.mapError .places).map fun modules => "Dendrogram (average linkage)\n" ++
      String.ofList (withLineFeeds (Dendrogram.listing "  " (some t)).toList) ++ "\n" ++ modules := by
  rw [textReport, moduleSection, ← join_listingLines ht]
  cases a.moduleLines
  case error => rfl
  case ok ms =>
    refine congrArg Except.ok ((lines_ended ..).trans ?_)
    simp [String.append_assoc]

theorem modules_ne_nil_of_run (h : run g s = .ok a) (hn : a.units ≠ []) : a.extraction.modules ≠ [] := by
  have ⟨us, _, hu, _, _, _, hc⟩ := run_eq_ok h
  have ⟨_, _, hu', _⟩ := stages_of_run h
  cases hu.symm.trans hu'
  have ⟨v, hv⟩ := List.exists_mem_of_ne_nil _ hn
  exact mt hc.eq_nil_iff.mp (List.ne_nil_of_mem (List.mem_eraseDups.mpr hv))

-- A line of the listing ends at every line boundary, but in the report only a line feed ends one. The listing is in
-- the report as it is if no name holds a line boundary other than a line feed, and else it is not.
theorem textReport_keeps_listing_iff (h : run g s = .ok a) (hn : a.units ≠ []) :
    ∃ t, a.clustering.root = some t ∧ ((∃ report, a.textReport = .ok report) ↔ ∃ f, Places.field s.precision = .ok f) ∧
      ∀ report, a.textReport = .ok report → ∃ modules, a.moduleSection = .ok modules ∧
        report = "Dendrogram (average linkage)\n" ++
          String.ofList (withLineFeeds (Dendrogram.listing "  " (some t)).toList) ++ "\n" ++ modules ∧
        (report = "Dendrogram (average linkage)\n" ++ Dendrogram.listing "  " (some t) ++ "\n" ++ modules ↔
          ∀ u ∈ a.units, ∀ c ∈ u.toList, isLineEnd c → c = '\n') := by
  have ⟨t, ht, hu⟩ := exists_root_of_run h hn
  refine ⟨t, ht, ?reported, fun report hr => ?kept⟩
  case reported =>
    have ⟨_, _, _, _, hs, _⟩ := run_eq_ok h
    rw [← isOk_iff, isOk_textReport, or_iff_right (modules_ne_nil_of_run h hn), hs, isOk_iff]
  case kept =>
    rw [textReport_eq ht] at hr
    have ⟨modules, hm, hr⟩ := map_eq_ok.mp hr
    refine ⟨modules, mapError_eq_ok.mp hm, hr.symm, ?_⟩
    rw [← hr, String.append_left_inj, String.append_left_inj, String.append_right_inj, ← String.toList_inj,
      String.toList_ofList, withLineFeeds_eq_self_iff, Dendrogram.forall_mem_listing_iff]
    exact forall_congr' fun u => imp_congr_left (hu u)

-- A name of two lines is kept, as it holds nothing but a line feed between them.
theorem textReport_keeps_listing_iff_two_lines :
    ∃ a t report modules, run (CallGraph.empty.insert ⟨"A\nB.f", "C.g"⟩) .standard = .ok a ∧ a.units = ["A\nB"] ∧
      a.clustering.root = some t ∧ a.textReport = .ok report ∧
      report = "Dendrogram (average linkage)\n" ++ Dendrogram.listing "  " (some t) ++ "\n" ++ modules := by
  have hs : Separator.ofValue Settings.standard.separator = .ok .dot := rfl
  have ⟨a, ha⟩ := isOk_iff.mp (isOk_run hs (CallGraph.empty.insert ⟨"A\nB.f", "C.g"⟩))
  have ⟨_, _, hu, _⟩ := stages_of_run ha
  have hu' : Settings.standard.unitsFor (CallGraph.empty.insert ⟨"A\nB.f", "C.g"⟩) = .ok ["A\nB"] := by rfl
  have he := Except.ok.inj (hu.symm.trans hu')
  have ⟨t, ht, hr, hk⟩ := textReport_keeps_listing_iff ha (by simp [he])
  have ⟨report, hr⟩ := hr.mpr (Places.field_int.mpr (by decide))
  have ⟨modules, _, _, hk⟩ := hk report hr
  refine ⟨a, t, report, modules, ha, he, ht, hr, hk.mpr ?_⟩
  rw [he, List.forall_mem_singleton]
  exact List.all_iff_forall_prop.mp (by decide)

-- A line separator within a name is lost.
theorem textReport_loses_line_separator :
    ∃ a t report, run (CallGraph.empty.insert ⟨"A\u2028B.f", "C.g"⟩) .standard = .ok a ∧
      a.clustering.root = some t ∧ Dendrogram.listing "  " (some t) = "- A\u2028B\n" ∧
      a.textReport = .ok report ∧ ¬(Dendrogram.listing "  " (some t)).toList <:+: report.toList := by
  have hs : Separator.ofValue Settings.standard.separator = .ok .dot := rfl
  have ⟨a, ha⟩ := isOk_iff.mp (isOk_run hs (CallGraph.empty.insert ⟨"A\u2028B.f", "C.g"⟩))
  have hp : ((run (CallGraph.empty.insert ⟨"A\u2028B.f", "C.g"⟩) .standard).toOption.bind fun a =>
      a.textReport.toOption.map fun r => (Dendrogram.listing "  " a.clustering.root, r)) =
      some ("- A\u2028B\n", "Dendrogram (average linkage)\n- A\nB\n\nModules (CP=0.3, max=1)\n" ++
        "  Module 1: \x7bA\u2028B\x7d  avg=0.0000  (pairs=0)\n") := by decide +kernel
  rw [ha, Except.toOption, Option.bind_some, Option.map_eq_some_iff] at hp
  obtain ⟨report, hr, hp⟩ := hp
  obtain ⟨hl, rfl⟩ := Prod.mk.inj hp
  cases ht : a.clustering.root
  case none => exact absurd (ht ▸ hl) (by decide)
  case some t =>
    rw [ht] at hl
    refine ⟨a, t, _, ha, ht, hl, toOption_eq_some.mp hr, ?_⟩
    rw [hl]
    decide +kernel

end Analysis
end ModuleDiscovery
