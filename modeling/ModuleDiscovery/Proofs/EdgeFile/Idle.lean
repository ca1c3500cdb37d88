import ModuleDiscovery.Proofs.EdgeFile.Outcome
import ModuleDiscovery.Proofs.Graph.Merging

namespace ModuleDiscovery

namespace EdgeFile

variable {v : Value} {c : Call} {cs : List Call}

theorem mem_sorted : c ∈ sorted cs ↔ c ∈ cs := by
  simp [sorted]

-- What is read part by part is read as a whole.
theorem mapM_eq_some_iff {α β : Type} {f : α → Option β} {w : β → α} (h : ∀ a b, f a = some b ↔ a = w b)
    {as : List α} {bs : List β} : as.mapM f = some bs ↔ as = bs.map w := by
  induction as generalizing bs
  case nil          => cases bs <;> simp
  case cons a as ih => cases bs <;> simp [List.mapM_cons, Option.bind_eq_some_iff, h, ih, and_comm]

theorem texts?_eq_some {ks : List String} : v.texts? = some ks ↔ v = .list (ks.map .text) := by
  fun_cases Value.texts?
  case case1 vs =>
    rw [Value.list.injEq]
    refine mapM_eq_some_iff fun v k => ?_
    cases v <;> simp
  case case2 hv =>
    refine iff_of_false nofun ?_
    rintro rfl
    exact hv _ rfl

-- The table that a document states.
def tableOf? : Value → Option (List (MethodKey × List MethodKey))
  | .table es => es.mapM fun e => e.2.texts?.map (e.1, ·)
  | _         => none

end EdgeFile

namespace CallGraph

variable {g : CallGraph} {c : Call} {k : MethodKey} {s : Source} {ss : List Source}

namespace Source

-- The document that states a source.
def document : Source → Value
  | calls cs => .list (cs.map fun c => .list [.text c.caller, .text c.callee])
  | table t  => .table (t.map fun e => (e.1, .list (e.2.map .text)))

theorem tableOf?_eq_some {v : Value} {t : List (MethodKey × List MethodKey)} :
    EdgeFile.tableOf? v = some t ↔ v = (table t).document := by
  fun_cases EdgeFile.tableOf?
  case case1 es =>
    rw [document, Value.table.injEq]
    refine EdgeFile.mapM_eq_some_iff fun e d => ?_
    rw [Option.map_eq_some_iff, Prod.ext_iff]
    simp [EdgeFile.texts?_eq_some, Prod.ext_iff, and_comm]
  case case2 hv =>
    refine iff_of_false nofun ?_
    rintro rfl
    exact hv _ rfl

-- The callers of a source that have a list without callees.
def idle : Source → List MethodKey
  | calls _ => []
  | table t => (t.filter (·.2 = [])).map (·.1)

theorem calls_document (s : Source) : EdgeFile.calls s.document = .ok s.fed := by
  cases s
  case calls cs =>
    change EdgeFile.callsOfList _ = .ok cs
    induction cs
    case nil => rfl
    case cons c cs ih =>
      rw [List.map_cons, EdgeFile.callsOfList, ih]
      rfl
  case table t =>
    change EdgeFile.callsOfTable _ = .ok (callsOfEntries t)
    induction t
    case nil => rfl
    case cons e t ih =>
      rw [List.map_cons, EdgeFile.callsOfTable, EdgeFile.texts?_eq_some.mpr rfl, ih]
      rfl

-- A caller arrives with one of its calls or with an empty list.
theorem mem_arriving : k ∈ s.arriving ↔ (∃ c ∈ s.fed, c.caller = k) ∨ k ∈ s.idle := by
  cases s
  case calls cs => simp [arriving, fed, idle]
  case table t =>
    simp only [arriving, fed, idle, List.mem_append, List.mem_map, List.mem_filter, decide_eq_true_eq]
    constructor
    case mp =>
      rintro (⟨e, he, rfl⟩ | hc)
      case inr => exact .inl hc
      case inl =>
        by_cases hn : e.2 = []
        case pos => exact .inr ⟨e, ⟨he, hn⟩, rfl⟩
        case neg =>
          obtain ⟨j, hj⟩ := List.exists_mem_of_ne_nil _ hn
          exact .inl ⟨⟨e.1, j⟩, mem_callsOfEntries.mpr ⟨e, he, rfl, hj⟩, rfl⟩
    case mpr =>
      rintro (hc | ⟨e, ⟨he, -⟩, rfl⟩)
      case inl => exact .inr hc
      case inr => exact .inl ⟨e, he, rfl⟩

end Source

-- The graph that files leave which state sources: the calls of each, by caller and callee.
def ofFiles (ss : List Source) : CallGraph :=
  mergeAll empty (ss.map fun s => .calls (EdgeFile.sorted s.fed))

section Loading

variable {files : Files.Tree} {start : Files.Location} {path : String} {paths : List String}

theorem load_of_document (h : EdgeFile.documentAt files start path = some s.document) :
    EdgeFile.load files start path = .ok (EdgeFile.sorted s.fed) := by
  rw [EdgeFile.load_of_documentAt h, EdgeFile.callsOf, Source.calls_document]

theorem foldlM_loadStep_of_documents
    (h : List.Forall₂ (fun p s => EdgeFile.documentAt files start p = some s.document) paths ss) (rs : List Record) :
    ∃ rs', paths.foldlM (loadStep files start) (g, rs) =
      .ok (mergeAll g (ss.map fun s => .calls (EdgeFile.sorted s.fed)), rs') := by
  induction h generalizing g rs
  case nil => exact ⟨rs, rfl⟩
  case cons hp _ ih =>
    rw [List.foldlM_cons, loadStep, load_of_document hp]
    exact ih _

theorem load_of_documents
    (h : List.Forall₂ (fun p s => EdgeFile.documentAt files start p = some s.document) paths ss) :
    ∃ rs, load files start paths = .ok (ofFiles ss, rs) := by
  rw [load_eq_foldlM]
  exact foldlM_loadStep_of_documents h []

end Loading

section OfFiles

variable {sep : Separator} {u : UnitName}

theorem mem_calls_ofFiles : c ∈ (ofFiles ss).calls ↔ c ∈ (mergeAll empty ss).calls := by
  simp only [ofFiles, mem_calls_mergeAll_empty, List.flatMap_map, List.mem_flatMap, Source.fed, EdgeFile.mem_sorted]

theorem mem_callers_ofFiles : k ∈ (ofFiles ss).callers ↔ ∃ c ∈ (mergeAll empty ss).calls, c.caller = k := by
  simp only [ofFiles, mem_callers_mergeAll_empty, mem_calls_mergeAll_empty, List.flatMap_map, List.mem_flatMap,
    Source.arriving, List.mem_map, EdgeFile.mem_sorted]
  constructor
  case mp  => rintro ⟨s, hs, c, hc, hk⟩; exact ⟨c, ⟨s, hs, hc⟩, hk⟩
  case mpr => rintro ⟨c, ⟨s, hs, hc⟩, hk⟩; exact ⟨s, hs, c, hc, hk⟩

theorem mem_callers_iff_ofFiles :
    k ∈ (mergeAll empty ss).callers ↔ k ∈ (ofFiles ss).callers ∨ k ∈ ss.flatMap Source.idle := by
  simp only [mem_callers_ofFiles, mem_callers_mergeAll_empty, mem_calls_mergeAll_empty, List.mem_flatMap,
    Source.mem_arriving]
  constructor
  case mp =>
    rintro ⟨s, hs, ⟨c, hc, hk⟩ | hk⟩
    case inl => exact .inl ⟨c, ⟨s, hs, hc⟩, hk⟩
    case inr => exact .inr ⟨s, hs, hk⟩
  case mpr =>
    rintro (⟨c, ⟨s, hs, hc⟩, hk⟩ | ⟨s, hs, hk⟩)
    case inl => exact ⟨s, hs, .inl ⟨c, hc, hk⟩⟩
    case inr => exact ⟨s, hs, .inr hk⟩

theorem mem_nodes_iff_ofFiles :
    k ∈ (mergeAll empty ss).nodes ↔ k ∈ (ofFiles ss).nodes ∨ k ∈ ss.flatMap Source.idle := by
  simp only [mem_nodes, mem_callers_iff_ofFiles, mem_calls_ofFiles]
  exact or_right_comm

theorem mem_callerUnits : u ∈ g.callerUnits sep ↔ ∃ k ∈ g.callers, owningUnit sep k = some u := by
  simp [callerUnits]

theorem mem_callerUnits_iff_ofFiles : u ∈ (mergeAll empty ss).callerUnits sep ↔
    u ∈ (ofFiles ss).callerUnits sep ∨ ∃ k ∈ ss.flatMap Source.idle, owningUnit sep k = some u := by
  simp only [mem_callerUnits, mem_callers_iff_ofFiles, or_and_right, exists_or]

end OfFiles

-- What a file states arrives as a set of calls, so that a caller whose list of callees is empty is lost on the way.
-- The two ways agree just if every idle caller is in a call, and its unit owns a caller with calls.
theorem files_lose_idle_callers (files : Files.Tree) (start : Files.Location) (paths : List String) (ss : List Source)
    (h : List.Forall₂ (fun p s => EdgeFile.documentAt files start p = some s.document) paths ss) :
    ∃ g rs, load files start paths = .ok (g, rs) ∧
      let m := mergeAll empty ss
      let idle := ss.flatMap Source.idle
      (∀ c, c ∈ g.calls ↔ c ∈ m.calls) ∧ g.callCount = m.callCount ∧
      (∀ k, k ∈ m.nodes ↔ k ∈ g.nodes ∨ k ∈ idle) ∧
      ((∀ k, k ∈ g.nodes ↔ k ∈ m.nodes) ↔ ∀ k ∈ idle, ∃ c ∈ m.calls, c.caller = k ∨ c.callee = k) ∧
      ∀ sep, (∀ u, u ∈ m.callerUnits sep ↔ u ∈ g.callerUnits sep ∨ ∃ k ∈ idle, owningUnit sep k = some u) ∧
        ((∀ u, u ∈ g.callerUnits sep ↔ u ∈ m.callerUnits sep) ↔
          ∀ k ∈ idle, ∀ u, owningUnit sep k = some u → ∃ c ∈ m.calls, owningUnit sep c.caller = some u) := by
  have ⟨rs, hl⟩ := load_of_documents h
  refine ⟨ofFiles ss, rs, hl, fun c => mem_calls_ofFiles, callCount_congr fun c => mem_calls_ofFiles,
    fun k => mem_nodes_iff_ofFiles, ?nodes, fun sep => ⟨fun u => mem_callerUnits_iff_ofFiles, ?units⟩⟩
  case nodes =>
    simp only [mem_nodes_iff_ofFiles, iff_self_or]
    refine forall₂_congr fun k _ => ?_
    rw [mem_nodes, mem_callers_ofFiles]
    simp only [mem_calls_ofFiles, ← exists_or, ← and_or_left]
  case units =>
    simp only [mem_callerUnits_iff_ofFiles, iff_self_or]
    constructor
    case mp =>
      intro hu k hk u ho
      have ⟨j, hj, hjo⟩ := mem_callerUnits.mp (hu u ⟨k, hk, ho⟩)
      have ⟨c, hc, hcj⟩ := mem_callers_ofFiles.mp hj
      exact ⟨c, hc, hcj ▸ hjo⟩
    case mpr =>
      rintro hu u ⟨k, hk, ho⟩
      have ⟨c, hc, hco⟩ := hu k hk u ho
      exact mem_callerUnits.mpr ⟨c.caller, caller_mem_callers (mem_calls_ofFiles.mpr hc), hco⟩

-- One of two idle callers is called, and its unit owns a caller with calls.
theorem files_lose_idle_callers_two_idle :
    let t : List (MethodKey × List MethodKey) := [("A.f", []), ("B.g", ["B.h"]), ("B.h", [])]
    let files := Files.Tree.empty.put ["e.json"]
      (.file (Text.encodeUtf8 "\x7b\"A.f\": [], \"B.g\": [\"B.h\"], \"B.h\": []\x7d"))
    let m := (empty.mergeTable t).1
    EdgeFile.documentAt files [] "e.json" = some (Source.table t).document ∧
    ∃ g rs, load files [] ["e.json"] = .ok (g, rs) ∧ g.callCount = 1 ∧ ¬(∀ k, k ∈ g.nodes ↔ k ∈ m.nodes) ∧
      ¬(∀ u, u ∈ g.callerUnits .dot ↔ u ∈ m.callerUnits .dot) := by
  intro t files m
  have hd : EdgeFile.documentAt files [] "e.json" = some (Source.table t).document := by
    have h : (EdgeFile.documentAt files [] "e.json").bind EdgeFile.tableOf? = some t := by decide +kernel
    have ⟨v, hv, ht⟩ := Option.bind_eq_some_iff.mp h
    rw [hv, Source.tableOf?_eq_some.mp ht]
  have ⟨g, rs, hl, _, hc, _, hn, hu⟩ := files_lose_idle_callers files [] ["e.json"] [.table t] (.cons hd .nil)
  refine ⟨hd, g, rs, hl, hc.trans (by decide +kernel), mt hn.mp ?nodes, mt (hu .dot).2.mp ?units⟩
  case nodes => decide +kernel
  case units =>
    intro h
    exact absurd (h "A.f" (by decide) "A" (by decide)) (by decide +kernel)

-- A single caller that calls nothing: the file leaves nothing.
theorem files_lose_idle_callers_one_idle :
    let t : List (MethodKey × List MethodKey) := [("A.f", [])]
    let files := Files.Tree.empty.put ["e.json"] (.file (Text.encodeUtf8 "\x7b\"A.f\": []\x7d"))
    let m := (empty.mergeTable t).1
    (EdgeFile.documentAt files [] "e.json").bind EdgeFile.tableOf? = some t ∧
    (load files [] ["e.json"]).toOption.map (fun l => (l.1.nodes, l.1.callerUnits .dot)) = some ([], []) ∧
    (m.nodes, m.callerUnits .dot) = (["A.f"], ["A"]) := by
  decide +kernel

end CallGraph
end ModuleDiscovery
