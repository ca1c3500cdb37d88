import ModuleDiscovery.Proofs.CommandLine.Output
import ModuleDiscovery.Proofs.Console.Label
import ModuleDiscovery.Proofs.Console.Wrap

namespace ModuleDiscovery

namespace CommandLine

open Console Markup
open Text hiding marks

-- A command that fails with a refusal.
inductive Refuses (s : Surroundings) (args : List String) (e : Refusal) : Prop
  | analyze {r format threshold quiet} {f : Format} :
    Command.ofArguments args = .ok (.analyze r format threshold quiet) → r.check s = .ok () → f.name = format →
    (analyzeProgress s r f threshold quiet).failure = some (.refused e) → Refuses s args e
  | callGraph {r includeExternal} :
    Command.ofArguments args = .ok (.callGraph r includeExternal) → r.check s = .ok () →
    (callGraphProgress s r includeExternal).failure = some (.refused e) → Refuses s args e

-- A run ends with the code of a failure, and the text is on the error output, broken into lines and with other white
-- space.
def TellsInFull (o : Outcome) (text : String) : Prop :=
  o.ending = .exit 1 ∧ squeeze o.stderr.toList = squeeze text.toList

section Outcomes

variable {s : Surroundings} {args : List String} {r : Request} {threshold : Option String} {quiet : Bool}
  {includeExternal : Bool} {f : Format} {e : Refusal} {p : Progress}

theorem analyzeProgress_stderr (h : (analyzeProgress s r f threshold quiet).failure = some (.refused e)) :
    (analyzeProgress s r f threshold quiet).stderr = "" := by
  unfold analyzeProgress at h ⊢
  dsimp only at h ⊢
  split at h
  case h_1 => rfl
  case h_2 =>
    split at h
    case h_1 => rfl
    case h_2 => exact absurd h reportAnalysis_unrefused

theorem callGraphProgress_stderr (h : (callGraphProgress s r includeExternal).failure = some (.refused e)) :
    (callGraphProgress s r includeExternal).stderr = "" := by
  unfold callGraphProgress at h ⊢
  dsimp only at h ⊢
  split at h
  case h_1 => rfl
  case h_2 g _ _ => exact absurd h (ofReport_unrefused (.ok (g.dot "CallGraph")))

theorem outcome_of_refused (hf : p.failure = some (.refused e)) (all : Bool) :
    p.outcome all = p.tell "Error" (.refused e) := by
  rw [Progress.outcome, hf]

-- Nothing is on the error output before the refusal.
theorem run_of_refuses (h : Refuses s args e) : ∃ p : Progress, p.stderr = "" ∧
    (run s args).ending = (p.tell "Error" (.refused e)).ending ∧
    (run s args).stderr = (p.tell "Error" (.refused e)).stderr := by
  cases h
  case analyze hc hu hf he =>
    refine ⟨_, analyzeProgress_stderr he, ?_⟩
    simp only [run, hc, checked, hu, analyze, Format.ofName?_eq_some_iff.mpr hf, outcome_of_refused he, and_self]
  case callGraph hc hu he =>
    refine ⟨_, callGraphProgress_stderr he, ?_⟩
    simp only [run, hc, checked, hu, callGraph, outcome_of_refused he, and_self]

end Outcomes

section Texts

variable {cs ds : List Char} {text : String}

theorem endLines_squeeze {ls : List (List Char)} : squeeze (endLines ls).toList = ls.flatMap squeeze := by
  rw [endLines, String.toList_ofList]
  induction ls
  case nil => rfl
  case cons l ls ih => rw [List.flatMap_cons, squeeze_append, squeeze_append, squeeze_newline, List.append_nil, ih,
    List.flatMap_cons]

-- What is told of a failure, as markup.
def told (text : String) : List Char :=
  styled "red".toList "Error:".toList ++ ' ' :: text.toList

theorem toList_markup (text : String) : ("[red]" ++ "Error" ++ ":[/red] " ++ text).toList = told text := by
  simp [told, styled]

theorem told_ofList : told (String.ofList cs) = styled "red".toList "Error:".toList ++ ' ' :: cs := by
  have ht : (String.ofList cs).toList = cs := String.toList_ofList
  rw [told, ht]

theorem tell_cases (p : Progress) (e : Refusal) :
    (∃ ds, shown (told e.text) = .ok ds ∧ (p.tell "Error" (.refused e)).ending = .exit 1 ∧
      (p.tell "Error" (.refused e)).stderr = p.stderr ++ endLines (layOut .floating .fold columnCount ds)) ∨
    ∃ f, shown (told e.text) = .error f ∧ (p.tell "Error" (.refused e)).ending = .failed (.markup f) := by
  have hm : (Failure.refused e).message = e.text := rfl
  unfold Progress.tell print
  rw [toList_markup, hm]
  cases hs : shown (told e.text)
  case error f => exact .inr ⟨f, rfl, rfl⟩
  case ok ds   => exact .inl ⟨ds, rfl, rfl, rfl⟩

theorem isUnmarked_space_iff : IsUnmarked (' ' :: cs) ↔ IsUnmarked cs := by
  have h : IsUnmarked ([' '] ++ (cs ++ [])) ↔ IsUnmarked cs :=
    isUnmarked_enclosed_iff (List.all_iff_forall_prop.mp (by decide)) nofun
  rwa [List.append_nil] at h

theorem isUnmarked_word : IsUnmarked "Error:".toList where
  toIsBare  := isBare_of_not_mem (by decide)
  noPicture := by
    have hn : codes 0 "Error:".toList = [] := by cbv
    rw [hn]
    exact List.forall_mem_nil _
  noControl := by decide

theorem shownText_word : shownText "Error:".toList = "Error:".toList :=
  shownText_eq_self isUnmarked_word (List.all_iff_forall_prop.mp (by decide))

theorem toList_text (text : String) : ("Error: " ++ text).toList = "Error:".toList ++ ' ' :: text.toList := by
  have hw : "Error: ".toList = "Error:".toList ++ [' '] := by decide
  rw [String.toList_append, hw, List.append_assoc, List.singleton_append]

-- The word in front is shown, and of the marks of the text some are lost unless there is no markup in it.
theorem marks_of_shown_told (h : shown (told text) = .ok ds) : marks ds ≤ marks ("Error: " ++ text).toList ∧
    (marks ds = marks ("Error: " ++ text).toList → IsUnmarked text.toList) := by
  have ⟨l, ht⟩ := textOfPieces_styled 0 [] (' ' :: text.toList)
    (isStyle_of_mem "red" (by decide)) isUnmarked_word.toIsBare (by decide)
  have hp := mapError_eq_ok.mp (shown_eq_ok_iff.mp h).1
  rw [told, ht] at hp
  obtain ⟨es, he, rfl⟩ := map_eq_ok.mp hp
  rw [textOfPieces_eq_ok he, shownText_word, toList_text, marks_append, marks_append]
  refine ⟨Nat.add_le_add_left marks_flatMap_shown_le _, fun hm => ?_⟩
  exact isUnmarked_space_iff.mp (marks_flatMap_shown_eq_iff.mp (Nat.add_left_cancel hm))

theorem shown_told (h : IsUnmarked text.toList) :
    shown (told text) = .ok (("Error: " ++ text).toList.filter (!isStripped ·)) := by
  have hu := isUnmarked_space_iff.mpr h
  have hw : "Error:".toList.filter (!isStripped ·) = "Error:".toList := by decide
  have hr : shownText (' ' :: text.toList) = (' ' :: text.toList).filter (!isStripped ·) := by
    rw [shownText, replacePictures_eq_self hu.noPicture]
  rw [told, shown_styled (isStyle_of_mem "red" (by decide)) isUnmarked_word.toIsBare (by decide) hu.toIsBare,
    shownText_word, hr, toList_text, List.filter_append, hw]

end Texts

section Refusals

variable {e : Refusal}

theorem infix_intercalate {cs sep : List Char} {ls : List (List Char)} (h : cs ∈ ls) : cs <:+: sep.intercalate ls := by
  induction ls
  case nil => cases h
  case cons l ls ih =>
    cases ls
    case nil =>
      rw [List.mem_singleton.mp h, List.intercalate_singleton]
    case cons m ls =>
      rw [List.intercalate_cons_cons]
      rcases List.mem_cons.mp h with rfl | h
      case inl => rw [List.append_assoc]; exact (List.prefix_append ..).isInfix
      case inr => exact (ih h).trans (List.suffix_append _ _).isInfix

-- What a refusal quotes is in its text as it is.
theorem infix_text {t : String} (h : t ∈ e.message :: e.details.map (·.2)) : t.toList <:+: e.text.toList := by
  rw [Refusal.text]
  split
  case isTrue hn =>
    rw [List.isEmpty_iff.mp hn, List.map_nil, List.mem_singleton] at h
    rw [h]
  case isFalse =>
    simp only [String.toList_append]
    rcases List.mem_cons.mp h with rfl | h
    case inl =>
      simp only [List.append_assoc]
      exact (List.prefix_append ..).isInfix
    case inr =>
      obtain ⟨⟨k, v⟩, hd, rfl⟩ := List.mem_map.mp h
      have hv : v.toList <:+: (k ++ "=" ++ v).toList := by
        rw [String.toList_append]
        exact (List.suffix_append ..).isInfix
      refine List.IsInfix.trans ?_ (List.infix_append ..)
      rw [String.toList_intercalate]
      exact hv.trans (infix_intercalate (List.mem_map_of_mem (List.mem_map_of_mem hd)))

theorem squeeze_filter {cs : List Char} (h : '\x07' ∉ cs ∧ '\x08' ∉ cs) :
    squeeze (cs.filter (!isStripped ·)) = squeeze cs := by
  rw [squeeze, squeeze, List.filter_filter]
  refine List.filter_congr fun c hc => ?_
  cases hs : isStripped c
  case false => simp
  case true =>
    have hm : c ∈ [' ', '\n', '\t', '\x0b', '\x0c', '\x0d'] := by
      have hn := And.intro (ne_of_mem_of_not_mem hc h.1) (ne_of_mem_of_not_mem hc h.2)
      have ho : c = '\x0b' ∨ c = '\x0c' ∨ c = '\x0d' := by simpa [isStripped, hn] using hs
      simp [ho]
    simp [isBlank_of_mem c hm]

theorem isCuttable_text {text : String} (h : Wrap.IsCuttable text.toList) :
    Wrap.IsCuttable ("Error: " ++ text).toList := by
  have hw := Wrap.columns_of_mem
  rw [String.toList_append]
  refine ⟨List.forall_mem_append.mpr ⟨fun c hc => (hw c hc).1, h.unspelled⟩, h.columns.imp (fun h => ?_) fun h => ?_⟩
  · exact List.forall_mem_append.mpr ⟨fun c hc => (hw c hc).2.le, h⟩
  · exact List.forall_mem_append.mpr ⟨fun c hc => .inr (by simp [(hw c hc).2]), h⟩

end Refusals

section Runs

variable {s : Surroundings} {args : List String} {e : Refusal} {ds : List Char}

theorem isUnmarked_of_tellsInFull (h : Refuses s args e) (ht : TellsInFull (run s args) ("Error: " ++ e.text)) :
    IsUnmarked e.text.toList := by
  have ⟨p, hp, he, ho⟩ := run_of_refuses h
  rw [TellsInFull, he, ho] at ht
  rcases tell_cases p e with ⟨ds, hs, _, hd⟩ | ⟨f, _, hf⟩
  case inr => exact absurd (hf.symm.trans ht.1) nofun
  case inl =>
    rw [hd, hp, String.empty_append, endLines_squeeze] at ht
    have ⟨hle, hu⟩ := marks_of_shown_told hs
    refine hu (Nat.le_antisymm hle ?_)
    rw [← marks_squeeze ("Error: " ++ e.text).toList, ← ht.2]
    exact marks_layOut_le

theorem run_of_shown (h : Refuses s args e) (hs : shown (told e.text) = .ok ds) : (run s args).ending = .exit 1 ∧
    (run s args).stderr = endLines (layOut .floating .fold columnCount ds) := by
  have ⟨p, hp, he, ho⟩ := run_of_refuses h
  rcases tell_cases p e with ⟨ds', hd, hn, ht⟩ | ⟨f, hf, _⟩
  case inr => exact absurd (hf.symm.trans hs) nofun
  case inl =>
    cases hd.symm.trans hs
    exact ⟨he.trans hn, by rw [ho, ht, hp, String.empty_append]⟩

-- What cannot be shown breaks the run off.
theorem code_of_not_shown (h : Refuses s args e) (hs : (shown (told e.text)).toOption = none) :
    (run s args).ending.code? = none := by
  have ⟨p, _, he, _⟩ := run_of_refuses h
  rcases tell_cases p e with ⟨ds, hd, _⟩ | ⟨f, _, hf⟩
  case inl =>
    rw [hd] at hs
    cases hs
  case inr =>
    rw [he, hf]
    rfl

theorem run_of_isUnmarked (h : Refuses s args e) (hu : IsUnmarked e.text.toList) : (run s args).ending = .exit 1 ∧
    (run s args).stderr =
      endLines (layOut .floating .fold columnCount (("Error: " ++ e.text).toList.filter (!isStripped ·))) :=
  run_of_shown h (shown_told hu)

theorem tellsInFull (h : Refuses s args e) (hu : IsUnmarked e.text.toList) (hc : Wrap.IsCuttable e.text.toList) :
    TellsInFull (run s args) ("Error: " ++ e.text) := by
  have ⟨he, ho⟩ := run_of_isUnmarked h hu
  have hn : '\x07' ∉ ("Error: " ++ e.text).toList ∧ '\x08' ∉ ("Error: " ++ e.text).toList := by
    have hw : '\x07' ∉ "Error: ".toList ∧ '\x08' ∉ "Error: ".toList := by decide
    simp only [String.toList_append, List.mem_append, not_or]
    exact ⟨⟨hw.1, hu.noControl.1⟩, hw.2, hu.noControl.2⟩
  refine ⟨he, ?_⟩
  have hf := (isCuttable_text hc).of_subset (List.filter_sublist (p := (!isStripped ·))).subset
  rw [ho, endLines_squeeze, flatMap_squeeze_layOut hf (by decide), squeeze_filter hn]

theorem not_tellsInFull {t : String} (body : List Char) (h : Refuses s args e)
    (ht : t ∈ e.message :: e.details.map (·.2)) (hb : IsTagBody body) (hi : '[' :: (body ++ [']']) <:+: t.toList) :
    ¬TellsInFull (run s args) ("Error: " ++ e.text) :=
  fun hf => (isUnmarked_of_tellsInFull h hf).noTag body hb (hi.trans (infix_text ht))

-- What is told of an item that is no pair.
theorem infix_pair (item : String) :
    "[caller, callee]".toList <:+: ("expected [caller, callee] pair, got " ++ item).toList := by
  have hp : "expected [caller, callee] pair, got " = "expected " ++ "[caller, callee]" ++ " pair, got " := by simp
  rw [hp]
  simp only [String.toList_append]
  exact (List.infix_append ..).trans (List.prefix_append ..).isInfix

-- A refusal is told in full if and only if there is no markup in it, and to break it into lines takes nothing but white
-- space. What quotes a tag is not told in full, and neither is any refusal of an item that is no pair.
theorem refusal_told_iff (h : Refuses s args e) :
    (TellsInFull (run s args) ("Error: " ++ e.text) → IsUnmarked e.text.toList) ∧
    (IsUnmarked e.text.toList → (run s args).ending = .exit 1 ∧ (run s args).stderr =
      endLines (layOut .floating .fold 1000 (("Error: " ++ e.text).toList.filter (!isStripped ·)))) ∧
    (Wrap.IsCuttable e.text.toList → (TellsInFull (run s args) ("Error: " ++ e.text) ↔ IsUnmarked e.text.toList)) ∧
    (∀ t ∈ e.message :: e.details.map (·.2), ∀ body, IsTagBody body → '[' :: (body ++ [']']) <:+: t.toList →
      ¬TellsInFull (run s args) ("Error: " ++ e.text)) ∧
    ∀ path item, e = .edgeFormat path ("expected [caller, callee] pair, got " ++ item) →
      ¬TellsInFull (run s args) ("Error: " ++ e.text) := by
  refine ⟨isUnmarked_of_tellsInFull h, run_of_isUnmarked h, fun hc => ⟨isUnmarked_of_tellsInFull h, fun hu =>
    tellsInFull h hu hc⟩, fun t ht body hb hi => not_tellsInFull body h ht hb hi, fun path item he => ?_⟩
  refine not_tellsInFull "caller, callee".toList h ?_ (by decide) (infix_pair item)
  rw [he]
  exact .tail _ (.tail _ List.mem_cons_self)

end Runs

section Examples

-- The path and the reason of what is told of a file that states no calls.
def edgeFormat? : Failure → Option (String × String)
  | .refused (.edgeFormat path reason) => some (path, reason)
  | _                                  => none

theorem eq_of_edgeFormat? {x : Option Failure} {path reason : String}
    (h : x.bind edgeFormat? = some (path, reason)) : x = some (.refused (.edgeFormat path reason)) := by
  obtain ⟨e, rfl, he⟩ := Option.bind_eq_some_iff.mp h
  clear h
  unfold edgeFormat? at he
  split at he
  case h_1 => cases he; rfl
  case h_2 => cases he

-- A directory with one file of calls in it.
def withEdgeFile (text : String) : Surroundings where
  files       := Files.Tree.empty.put ["e.json"] (.file (Text.encodeUtf8 text))
  working     := ⟨[], ""⟩
  home        := ⟨["home"], "home"⟩
  environment := []

-- A request for that file.
def edgeFileRequest : Request :=
  ⟨["e.json"], [], none, none, false, []⟩

-- Quotes and brackets that are no tag are told as they are.
theorem refusal_told_iff_callees :
    let s := withEdgeFile "\x7b\"A[0].f\": 1\x7d"
    let e : Refusal := .edgeFormat "e.json" "callees of 'A[0].f' must be a list of strings"
    Refuses s ["analyze", "e.json"] e ∧ Wrap.IsCuttable e.text.toList ∧
      TellsInFull (run s ["analyze", "e.json"]) ("Error: " ++ e.text) := by
  intro s e
  have hu : edgeFileRequest.check s = .ok () := toOption_eq_some.mp (by decide +kernel)
  have hf : (analyzeProgress s edgeFileRequest .display none false).failure = some (.refused e) :=
    eq_of_edgeFormat? (by decide +kernel)
  have hr : Refuses s ["analyze", "e.json"] e := .analyze rfl hu rfl hf
  have hc : Wrap.IsCuttable e.text.toList :=
    ⟨List.all_iff_forall_prop.mp (by decide +kernel), .inl <| List.all_iff_forall_prop.mp (by decide +kernel)⟩
  have hs : shown e.text.toList = .ok e.text.toList := toOption_eq_some.mp (by decide +kernel)
  have ⟨_, _, ht, _⟩ := refusal_told_iff hr
  exact ⟨hr, hc, (ht hc).mpr (shown_eq_self_iff.mp hs).1⟩

-- The names of what is expected are gone, and a closing tag in a key breaks the command off.
theorem refusal_taken_as_markup :
    (let s := withEdgeFile "[1]"
      let o := run s ["analyze", "e.json"]
      let e : Refusal := .edgeFormat "e.json" "expected [caller, callee] pair, got 1"
      Refuses s ["analyze", "e.json"] e ∧
        o.stderr = "Error: Malformed edge file: e.json (filepath=e.json, reason=expected  pair, got 1)\n" ∧
        ¬TellsInFull o ("Error: " ++ e.text)) ∧
    let s := withEdgeFile "\x7b\"[/x]\": 1\x7d"
    let e : Refusal := .edgeFormat "e.json" "callees of '[/x]' must be a list of strings"
    Refuses s ["callgraph", "e.json"] e ∧ (run s ["callgraph", "e.json"]).ending.code? = none := by
  constructor
  case left =>
    intro s o e
    have hu : edgeFileRequest.check s = .ok () := toOption_eq_some.mp (by decide +kernel)
    have hf : (analyzeProgress s edgeFileRequest .display none false).failure = some (.refused e) :=
      eq_of_edgeFormat? (by decide +kernel)
    have hr : Refuses s ["analyze", "e.json"] e := .analyze rfl hu rfl hf
    have ht : e.text =
        "Malformed edge file: e.json (filepath=e.json, reason=expected [caller, callee] pair, got 1)" := by
      decide +kernel
    have hs : (shown (told e.text)).toOption.map (fun ds => endLines (layOut .floating .fold columnCount ds)) =
        some "Error: Malformed edge file: e.json (filepath=e.json, reason=expected  pair, got 1)\n" := by
      rw [ht, told_ofList]
      decide +kernel
    have ⟨ds, hd, hl⟩ := Option.map_eq_some_iff.mp hs
    refine ⟨hr, (run_of_shown hr (toOption_eq_some.mp hd)).2.trans hl, ?_⟩
    have hm : "expected [caller, callee] pair, got 1" ∈ e.message :: e.details.map (·.2) :=
      .tail _ (.tail _ List.mem_cons_self)
    exact not_tellsInFull "caller, callee".toList hr hm (by decide) (infix_pair "1")
  case right =>
    intro s e
    have hu : edgeFileRequest.check s = .ok () := toOption_eq_some.mp (by decide +kernel)
    have hf : (callGraphProgress s edgeFileRequest false).failure = some (.refused e) :=
      eq_of_edgeFormat? (by decide +kernel)
    have hr : Refuses s ["callgraph", "e.json"] e := .callGraph rfl hu hf
    have ht : e.text =
        "Malformed edge file: e.json (filepath=e.json, reason=callees of '[/x]' must be a list of strings)" := by
      decide +kernel
    have hs : (shown (told e.text)).toOption = none := by
      rw [ht, told_ofList]
      decide +kernel
    exact ⟨hr, code_of_not_shown hr hs⟩

end Examples

end CommandLine
end ModuleDiscovery
