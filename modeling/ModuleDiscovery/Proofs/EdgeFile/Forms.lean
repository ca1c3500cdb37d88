import Mathlib.Data.Prod.Lex
import Mathlib.Data.Set.List
import ModuleDiscovery.Proofs.EdgeFile.Idle

namespace ModuleDiscovery

-- Calls in order of their callers and callees. As this leaves no choice, they depend only on which ones they are.
section Order

variable {c d : Call}

def Call.rank (c : Call) : MethodKey ×ₗ MethodKey :=
  toLex (c.caller, c.callee)

theorem Call.le_iff : c.le d ↔ c.rank ≤ d.rank := by
  simp [Call.le, Call.rank, Prod.Lex.toLex_le_toLex]

theorem Call.rank_injective : Function.Injective Call.rank := by
  rintro ⟨k, l⟩ ⟨k', l'⟩ h
  simpa [Call.rank] using h

end Order

namespace EdgeFile

open CallGraph (Source callsOfEntries mem_callsOfEntries calleesOf mem_calleesOf)

variable {v : Value} {c : Call} {cs ds : List Call} {path : String}

-- A list that holds nothing but texts.
def IsTexts (v : Value) : Prop :=
  ∃ ks : List String, v = .list (ks.map .text)

def IsPair (v : Value) : Prop :=
  ∃ caller callee : MethodKey, v = .list [.text caller, .text callee]

inductive IsDocument : Value → Prop
  | table {es} : (∀ e ∈ es, IsTexts e.2) → IsDocument (.table es)
  | pairs {vs} : (∀ v ∈ vs, IsPair v) → IsDocument (.list vs)

-- A part is what stands beside a caller in a table, or an item of a list. A document states a call in any of its
-- parts.
inductive States : Value → Call → Prop
  | entry {es vs caller callee} : (caller, .list vs) ∈ es → .text callee ∈ vs → States (.table es) ⟨caller, callee⟩
  | pair {vs caller callee}     : .list [.text caller, .text callee] ∈ vs → States (.list vs) ⟨caller, callee⟩

-- What is told of the first part that does not fit, or of a value that has no parts.
inductive Offends : Value → String → Prop
  | callees {before caller w after} : (∀ e ∈ before, IsTexts e.2) → ¬IsTexts w →
      Offends (.table (before ++ (caller, w) :: after))
        ("callees of " ++ Text.quoted caller ++ " must be a list of strings")
  | item {before w after} : (∀ v ∈ before, IsPair v) → ¬IsPair w →
      Offends (.list (before ++ w :: after)) ("expected [caller, callee] pair, got " ++ w.literal)
  | shape {w} : (∀ es, w ≠ .table es) → (∀ vs, w ≠ .list vs) →
      Offends w "expected an object or a list of pairs"

section Documents

theorem isTexts_iff : IsTexts v ↔ ∃ ks, v.texts? = some ks := by
  simp only [IsTexts, texts?_eq_some]

theorem isPair_iff : IsPair v ↔ ∃ caller callee, v.texts? = some [caller, callee] := by
  simp only [IsPair, texts?_eq_some, List.map_cons, List.map_nil]

-- The parts of a document, taken one by one, are those of a source of calls.
theorem isDocument_iff : IsDocument v ↔ ∃ s : Source, v = s.document := by
  constructor
  case mp =>
    rintro (@⟨es, h⟩ | @⟨vs, h⟩)
    case table =>
      have hr : es ∈ Set.range (List.map fun e : MethodKey × List MethodKey => (e.1, Value.list (e.2.map .text))) := by
        rw [Set.range_list_map]
        exact fun e he => (h e he).imp' (fun ks => (e.1, ks)) fun ks hk => Prod.ext rfl hk.symm
      exact hr.imp' Source.table fun t ht => congrArg Value.table ht.symm
    case pairs =>
      have hr : vs ∈ Set.range (List.map fun c : Call => Value.list [.text c.caller, .text c.callee]) := by
        rw [Set.range_list_map]
        rintro v hv
        obtain ⟨caller, callee, rfl⟩ := h v hv
        exact ⟨⟨caller, callee⟩, rfl⟩
      exact hr.imp' Source.calls fun cs hc => congrArg Value.list hc.symm
  case mpr =>
    rintro ⟨cs | t, rfl⟩
    case calls => exact .pairs <| List.forall_mem_map.mpr fun c _ => ⟨c.caller, c.callee, rfl⟩
    case table => exact .table <| List.forall_mem_map.mpr fun e _ => ⟨e.2, rfl⟩

theorem mem_callsOfEntries_iff {t : List (MethodKey × List MethodKey)} :
    c ∈ callsOfEntries t ↔ ∃ ks, (c.caller, ks) ∈ t ∧ c.callee ∈ ks := by
  rw [mem_callsOfEntries]
  constructor
  case mp  => rintro ⟨⟨k, ks⟩, he, rfl, hc⟩; exact ⟨ks, he, hc⟩
  case mpr => rintro ⟨ks, he, hc⟩; exact ⟨_, he, rfl, hc⟩

theorem states_document {s : Source} : States s.document c ↔ c ∈ s.fed := by
  cases s
  case calls cs =>
    rw [Source.document, Source.fed]
    constructor
    case mp =>
      rintro ⟨⟩
      case pair h =>
        obtain ⟨d, hd, he⟩ := List.mem_map.mp h
        cases d
        cases he
        exact hd
    case mpr => exact fun h => .pair (List.mem_map.mpr ⟨c, h, rfl⟩)
  case table t =>
    rw [Source.document, Source.fed, mem_callsOfEntries_iff]
    constructor
    case mp =>
      rintro ⟨⟩
      case entry vs hk he =>
        obtain ⟨⟨k, ks⟩, ht, he⟩ := List.mem_map.mp he
        cases he
        exact ⟨ks, ht, by simpa using hk⟩
    case mpr =>
      rintro ⟨ks, he, hc⟩
      exact .entry (List.mem_map.mpr ⟨_, he, rfl⟩) (List.mem_map_of_mem hc)

end Documents

section Faults

variable {es : List (String × Value)} {vs : List Value}

theorem texts?_eq_none (h : ¬IsTexts v) : v.texts? = none :=
  Option.eq_none_iff_forall_ne_some.mpr fun ks hk => h (isTexts_iff.mpr ⟨ks, hk⟩)

theorem callsOfTable_error {k : MethodKey} (hes : ∀ e ∈ es, IsTexts e.2) (hv : ¬IsTexts v) (after) :
    callsOfTable (es ++ (k, v) :: after) = .error (.calleesNotTexts k) := by
  induction es
  case nil => rw [List.nil_append, callsOfTable, texts?_eq_none hv]
  case cons e es ih =>
    obtain ⟨he, hes⟩ := List.forall_mem_cons.mp hes
    obtain ⟨ks, hk⟩ := isTexts_iff.mp he
    rw [List.cons_append, callsOfTable, hk, ih hes]
    rfl

theorem callsOfList_error (hvs : ∀ v ∈ vs, IsPair v) (hv : ¬IsPair v) (after) :
    callsOfList (vs ++ v :: after) = .error (.notAPair v) := by
  induction vs
  case nil =>
    rw [List.nil_append, callsOfList]
    split
    case h_1 caller callee h => exact absurd (isPair_iff.mpr ⟨caller, callee, h⟩) hv
    case h_2                 => rfl
  case cons w vs ih =>
    obtain ⟨hw, hvs⟩ := List.forall_mem_cons.mp hvs
    obtain ⟨caller, callee, hk⟩ := isPair_iff.mp hw
    rw [List.cons_append, callsOfList, hk, ih hvs]
    rfl

-- What does not hold of all parts fails at one of them first.
theorem exists_first {α : Type} {P : α → Prop} {as : List α} (h : ¬∀ a ∈ as, P a) :
    ∃ before a after, as = before ++ a :: after ∧ (∀ b ∈ before, P b) ∧ ¬P a := by
  classical
  have hs : (as.find? fun a => ¬P a).isSome := by simpa using h
  have ⟨a, ha⟩ := Option.isSome_iff_exists.mp hs
  obtain ⟨hp, before, after, rfl, hb⟩ := List.find?_eq_some_iff_append.mp ha
  exact ⟨before, a, after, rfl, by simpa using hb, by simpa using hp⟩

theorem callsOf_error (path : String) (h : ¬IsDocument v) :
    ∃ reason, Offends v reason ∧ callsOf path v = .error (.refused (.edgeFormat path reason)) := by
  suffices ∃ f, Offends v f.message ∧ calls v = .error f by
    obtain ⟨f, ho, hf⟩ := this
    exact ⟨f.message, ho, by rw [callsOf, hf]⟩
  fun_cases calls v
  case case1 es =>
    obtain ⟨before, ⟨k, w⟩, after, rfl, hb, hw⟩ := exists_first (mt IsDocument.table h)
    exact ⟨_, .callees hb hw, callsOfTable_error hb hw after⟩
  case case2 vs =>
    obtain ⟨before, w, after, rfl, hb, hw⟩ := exists_first (mt IsDocument.pairs h)
    exact ⟨_, .item hb hw, callsOfList_error hb hw after⟩
  case case3 ht hl => exact ⟨.notADocument, .shape ht hl, rfl⟩

end Faults

section Sorted

theorem nodup_sorted (cs : List Call) : (sorted cs).Nodup :=
  (List.mergeSort_perm ..).nodup_iff.mpr (nodup_eraseDups cs)

theorem sorted_congr (h : ∀ c, c ∈ ds ↔ c ∈ cs) : sorted ds = sorted cs := by
  refine mergeSort_of_perm Call.rank_injective (fun _ _ => Call.le_iff) ?_
  refine (List.perm_ext_iff_of_nodup (nodup_eraseDups ds) (nodup_eraseDups cs)).mpr fun c => ?_
  rw [List.mem_eraseDups, List.mem_eraseDups, h]

theorem callsOf_document (s : Source) : callsOf path s.document = .ok (sorted s.fed) := by
  rw [callsOf, Source.calls_document]

-- The table of the callers in a list of calls, each once and with its callees.
def grouped (cs : List Call) : List (MethodKey × List MethodKey) :=
  (cs.map (·.caller)).eraseDups.map fun k => (k, calleesOf k cs)

theorem nodup_grouped (cs : List Call) : ((grouped cs).map (·.1)).Nodup := by
  have hi : (Prod.fst ∘ fun k => (k, calleesOf k cs)) = id := rfl
  rw [grouped, List.map_map, hi, List.map_id]
  exact nodup_eraseDups _

theorem mem_grouped : c ∈ cs ↔ ∃ ks, (c.caller, ks) ∈ grouped cs ∧ c.callee ∈ ks := by
  simp only [grouped, List.mem_map, List.mem_eraseDups, Prod.mk.injEq]
  constructor
  case mp  => exact fun h => ⟨_, ⟨_, ⟨c, h, rfl⟩, rfl, rfl⟩, mem_calleesOf.mpr h⟩
  case mpr =>
    rintro ⟨_, ⟨_, -, rfl, rfl⟩, hc⟩
    exact mem_calleesOf.mp hc

end Sorted

-- Every document is accepted and nothing else is. As the calls of a document are a set, neither form can be told from
-- the other by what it states.
theorem documents_state_calls :
    (∀ path v, (∃ cs, callsOf path v = .ok cs) ↔ IsDocument v) ∧
    (∀ path v cs, callsOf path v = .ok cs → cs.Nodup ∧ ∀ c, c ∈ cs ↔ States v c) ∧
    (∀ path v, ¬IsDocument v →
      ∃ reason, Offends v reason ∧ callsOf path v = .error (.refused (.edgeFormat path reason))) ∧
    ∀ path (cs : List Call), ∃ s, s.Nodup ∧ (∀ c, c ∈ s ↔ c ∈ cs) ∧
      (∀ ds : List Call, (∀ c, c ∈ ds ↔ c ∈ cs) →
        callsOf path (.list (ds.map fun c => .list [.text c.caller, .text c.callee])) = .ok s) ∧
      (∀ t : List (MethodKey × List MethodKey), (∀ c, c ∈ cs ↔ ∃ ks, (c.caller, ks) ∈ t ∧ c.callee ∈ ks) →
        callsOf path (.table (t.map fun e => (e.1, .list (e.2.map .text)))) = .ok s) ∧
      ∃ t : List (MethodKey × List MethodKey),
        (t.map (·.1)).Nodup ∧ ∀ c, c ∈ cs ↔ ∃ ks, (c.caller, ks) ∈ t ∧ c.callee ∈ ks := by
  have hd (path v) (h : IsDocument v) : ∃ s : Source, v = s.document ∧ callsOf path v = .ok (sorted s.fed) := by
    obtain ⟨s, rfl⟩ := isDocument_iff.mp h
    exact ⟨s, rfl, callsOf_document s⟩
  have ha (path v) : (∃ cs, callsOf path v = .ok cs) ↔ IsDocument v := by
    constructor
    case mp =>
      rintro ⟨cs, hc⟩
      by_contra hn
      have ⟨_, _, he⟩ := callsOf_error path hn
      exact nomatch hc.symm.trans he
    case mpr => exact fun h => (hd path v h).elim fun s hs => ⟨_, hs.2⟩
  refine ⟨ha, fun path v cs hc => ?states, fun path v h => callsOf_error path h, fun path cs => ?forms⟩
  case states =>
    obtain ⟨s, rfl, hs⟩ := hd path v ((ha path v).mp ⟨cs, hc⟩)
    obtain rfl := Except.ok.inj (hc.symm.trans hs)
    exact ⟨nodup_sorted _, fun c => mem_sorted.trans states_document.symm⟩
  case forms =>
    refine ⟨sorted cs, nodup_sorted cs, fun c => mem_sorted, fun ds h => ?pairs, fun t h => ?table, grouped cs, ?nodup,
      fun c => mem_grouped⟩
    case pairs => rw [← sorted_congr h]; exact callsOf_document (.calls ds)
    case table =>
      rw [← sorted_congr fun c => mem_callsOfEntries_iff.trans (h c).symm]
      exact callsOf_document (.table t)
    case nodup => exact nodup_grouped cs

-- An item that is no pair stands between two pairs. Without it, the pairs and a table state the same two calls.
theorem documents_state_calls_two_forms :
    let pair (k l : MethodKey) : Value := .list [.text k, .text l]
    let faulty : Value := .list [pair "A.f" "B.g", .int 7, pair "A.f" "C.h"]
    let table : Value := .table [("A.f", .list [.text "B.g", .text "C.h", .text "B.g"])]
    ¬IsDocument faulty ∧
    (∃ reason, Offends faulty reason ∧
      callsOf "e.json" faulty = .error (.refused (.edgeFormat "e.json" reason))) ∧
    ∃ s, s.Nodup ∧ ⟨"A.f", "C.h"⟩ ∈ s ∧ callsOf "e.json" table = .ok s ∧
      callsOf "e.json" (.list [pair "A.f" "C.h", pair "A.f" "B.g"]) = .ok s := by
  intro pair faulty table
  have ⟨_, _, hn, hf⟩ := documents_state_calls
  have hd : ¬IsDocument faulty := by
    intro (h : IsDocument (.list _))
    cases h
    case pairs h =>
      have ⟨_, _, h⟩ := h (.int 7) (by simp)
      contradiction
  have ⟨s, hs, hm, hp, ht, _⟩ := hf "e.json" [⟨"A.f", "B.g"⟩, ⟨"A.f", "C.h"⟩]
  have hp := hp [⟨"A.f", "C.h"⟩, ⟨"A.f", "B.g"⟩] fun c => by simp [or_comm]
  have ht := ht [("A.f", ["B.g", "C.h", "B.g"])] fun ⟨k, l⟩ => by simp; grind
  exact ⟨hd, hn "e.json" faulty hd, s, hs, (hm _).mpr (by decide), ht, hp⟩

end EdgeFile
end ModuleDiscovery
