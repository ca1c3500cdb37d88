import Mathlib.Data.List.Forall2
import Mathlib.Data.List.TakeWhile
import ModuleDiscovery.Report.Dot

namespace ModuleDiscovery.Dot

-- What follows the opening quote of a name, up to the first quote that no backslash stands in front of, and what is
-- behind that. A backslash stands for the character behind it.
def closeQuote? : List Char → Option (List Char × List Char)
  | []              => none
  | '"' :: cs       => some ([], cs)
  | '\\' :: c :: cs => (closeQuote? cs).map fun (s, rest) => (c :: s, rest)
  | c :: cs         => (closeQuote? cs).map fun (s, rest) => (c :: s, rest)

-- The quoted name that a text starts with, and what follows it.
def readQuoted? : List Char → Option (List Char × List Char)
  | '"' :: cs => closeQuote? cs
  | _         => none

theorem length_closeQuote? {cs s rest : List Char} (h : closeQuote? cs = some (s, rest)) :
    rest.length < cs.length := by
  fun_induction closeQuote? cs generalizing s
  case case1 => contradiction
  case case2 =>
    cases h
    exact Nat.lt_succ_self _
  case case3 ih =>
    obtain ⟨⟨s', rest'⟩, hs, ⟨⟩⟩ := Option.map_eq_some_iff.mp h
    exact (ih hs).trans (Nat.lt_add_of_pos_right Nat.two_pos)
  case case4 ih =>
    obtain ⟨⟨s', rest'⟩, hs, ⟨⟩⟩ := Option.map_eq_some_iff.mp h
    exact (ih hs).trans (Nat.lt_succ_self _)

inductive Token
  -- A name in quotes.
  | name (s : String)
  -- A keyword, the name of an attribute, or a number.
  | word (s : String)
  -- What joins the two ends of an edge.
  | line (isDirected : Bool)
  | mark (c : Char)
deriving DecidableEq, Repr

def spaces : List Char := [' ', '\t', '\n', '\r']

def marks : List Char := ['\x7b', '\x7d', '[', ']', '=', ',', ';']

def isWordPart (c : Char) : Bool := c.isAlphanum || c = '_' || c = '.'

-- Only at its start may a word have a minus sign.
def isWordStart (c : Char) : Bool := isWordPart c || c = '-'

def tokens? : List Char → Option (List Token)
  | []               => some []
  | '-' :: '-' :: cs => (tokens? cs).map (.line false :: ·)
  | '-' :: '>' :: cs => (tokens? cs).map (.line true :: ·)
  | '"' :: cs        =>
    match _h : closeQuote? cs with
    | none           => none
    | some (s, rest) => (tokens? rest).map (.name (String.ofList s) :: ·)
  | c :: cs =>
    if c ∈ spaces then tokens? cs
    else if c ∈ marks then (tokens? cs).map (.mark c :: ·)
    else if isWordStart c then
      (tokens? (cs.dropWhile isWordPart)).map (.word (String.ofList (c :: cs.takeWhile isWordPart)) :: ·)
    else none
termination_by cs => cs.length
decreasing_by
  all_goals simp only [List.length_cons]
  case _ => omega
  case _ => omega
  case _ => exact (length_closeQuote? _h).trans (Nat.lt_succ_self _)
  case _ => omega
  case _ => omega
  case _ => exact Nat.lt_succ_of_le (List.length_dropWhile_le ..)

abbrev Attributes := List (String × String)

structure Edge where
  source     : String
  target     : String
  attributes : Attributes
deriving DecidableEq, Repr

inductive Statement
  | node (name : String)
  | edge (e : Edge)
  -- Attributes of the graph, or of all nodes.
  | defaults (kind : String) (attributes : Attributes)
  | setting (key value : String)
deriving DecidableEq, Repr

structure Document where
  isDirected : Bool
  name       : String
  statements : List Statement
deriving DecidableEq, Repr

namespace Document

def nodes (d : Document) : List String :=
  d.statements.filterMap fun | .node s => some s | _ => none

def edges (d : Document) : List Edge :=
  d.statements.filterMap fun | .edge e => some e | _ => none

end Document

def Token.text? : Token → Option String
  | name s | word s  => some s
  | line _ | mark _  => none

-- Attributes up to the bracket that closes them.
def attributes? : List Token → Option Attributes
  | [.word k, .mark '=', v, .mark ']']           => v.text?.map fun s => [(k, s)]
  | .word k :: .mark '=' :: v :: .mark ',' :: ts => do return (k, ← v.text?) :: (← attributes? ts)
  | _                                            => none

-- What the tokens in front of a semicolon state in a graph whose edges are directed or not.
def statement? (isDirected : Bool) : List Token → Option Statement
  | [.name s] => some (.node s)
  | .name s :: .line d :: .name t :: ts =>
    if d ≠ isDirected then none
    else
      match ts with
      | []              => some (.edge ⟨s, t, []⟩)
      | .mark '[' :: ts => (attributes? ts).map fun as => .edge ⟨s, t, as⟩
      | _               => none
  | .word k :: .mark '[' :: ts       => (attributes? ts).map (.defaults k)
  | [.word k, .mark '=', .word v]    => some (.setting k v)
  | _                                => none

-- The statements up to the brace that ends the graph, where `front` is the front of the first one.
def statements? (isDirected : Bool) (front : List Token) : List Token → Option (List Statement)
  | []               => none
  | [.mark '\x7d']   => if front.isEmpty then some [] else none
  | .mark ';' :: ts  =>
    (statement? isDirected front).bind fun st => (statements? isDirected [] ts).map (st :: ·)
  | t :: ts          => statements? isDirected (front ++ [t]) ts

-- Reads graphs without subgraphs and ports whose nodes have quoted names.
def read? (text : String) : Option Document := do
  match ← tokens? text.toList with
  | .word kind :: .word name :: .mark '\x7b' :: ts =>
    let isDirected ← if kind = "digraph" then some true else if kind = "graph" then some false else none
    return { isDirected, name, statements := ← statements? isDirected [] ts }
  | _ => none

variable {cs ds w : List Char} {ts us : List Token} {c d : Char}

theorem closeQuote?_cons (hq : c ≠ '"') (hb : c ≠ '\\') :
    closeQuote? (c :: cs) = (closeQuote? cs).map fun (s, rest) => (c :: s, rest) := by
  rw [closeQuote?] <;> simp [hq, hb]

-- Two replacements one after the other are made at once: no quote is there that the first one puts.
theorem quoted_eq (cs : List Char) :
    quoted cs = '"' :: cs.flatMap (fun c => if c = '"' || c = '\\' then ['\\', c] else [c]) ++ ['"'] := by
  have hc (c : Char) : (if c = '"' || c = '\\' then ['\\', c] else [c]) =
      (if c = '\\' then ['\\', '\\'] else [c]).flatMap fun c => if c = '"' then ['\\', '"'] else [c] := by
    by_cases hq : c = '"'
    case pos => simp [hq]
    case neg => by_cases hb : c = '\\' <;> simp [hq, hb]
  simp only [quoted, escape, hc, List.flatMap_assoc]

-- Every escaped character is read back, and no other closing quote comes before the last one.
theorem readQuoted?_quoted (s rest : List Char) : readQuoted? (quoted s ++ rest) = some (s, rest) := by
  have h : closeQuote? (s.flatMap (fun c => if c = '"' || c = '\\' then ['\\', c] else [c]) ++ '"' :: rest) =
      some (s, rest) := by
    induction s
    case nil => rfl
    case cons c s ih =>
      rw [List.flatMap_cons, List.append_assoc]
      split
      case isTrue =>
        simp only [List.cons_append, List.nil_append, closeQuote?, ih, Option.map_some]
      case isFalse hc =>
        have ⟨hq, hb⟩ : c ≠ '"' ∧ c ≠ '\\' := by simpa using hc
        rw [List.cons_append, List.nil_append, closeQuote?_cons hq hb, ih, Option.map_some]
  rw [quoted_eq, List.append_assoc]
  exact h

theorem tokens?_quote {s rest : List Char} (h : closeQuote? cs = some (s, rest)) :
    tokens? ('"' :: cs) = (tokens? rest).map (.name (String.ofList s) :: ·) := by
  rw [tokens?]
  split <;> simp_all

-- Where no name and no line starts, the first character tells what does.
theorem tokens?_cons (hq : c ≠ '"') (hl : c = '-' → ∀ d ∈ cs.head?, d ≠ '-' ∧ d ≠ '>') : tokens? (c :: cs) =
    if c ∈ spaces then tokens? cs
    else if c ∈ marks then (tokens? cs).map (.mark c :: ·)
    else if isWordStart c then
      (tokens? (cs.dropWhile isWordPart)).map (.word (String.ofList (c :: cs.takeWhile isWordPart)) :: ·)
    else none := by
  rw [tokens?.eq_def]
  split <;> simp_all

def isWord (s : String) : Bool :=
  match s.toList with
  | []     => false
  | c :: w => isWordStart c && (c ≠ '-' || !w.isEmpty) && w.all isWordPart

-- Characters that are read as tokens, whatever follows them.
def Spells (cs : List Char) (ts : List Token) : Prop :=
  ∀ rest, tokens? (cs ++ rest) = (tokens? rest).map (ts ++ ·)

namespace Spells

theorem append (hc : Spells cs ts) (hd : Spells ds us) : Spells (cs ++ ds) (ts ++ us) := by
  intro rest
  rw [List.append_assoc, hc, hd, Option.map_map]
  simp [Function.comp_def]

theorem nil : Spells [] [] := by
  simp [Spells]

theorem space (c : Char) (hd : Spells ds us) (h : c ∈ spaces) : Spells (c :: ds) us := by
  intro rest
  have ⟨hq, hl⟩ := (by simp [spaces] : ∀ e ∈ spaces, e ≠ '"' ∧ e ≠ '-') c h
  rw [List.cons_append, tokens?_cons hq (absurd · hl), if_pos h, hd]

theorem blank (h : Spells ds us) : Spells (' ' :: ds) us :=
  h.space ' ' (by decide)

theorem mark (c : Char) (hd : Spells ds us) (h : c ∈ marks) : Spells (c :: ds) (.mark c :: us) := by
  intro rest
  have ⟨hq, hl, hs⟩ := (by simp [marks, spaces] : ∀ e ∈ marks, e ≠ '"' ∧ e ≠ '-' ∧ e ∉ spaces) c h
  rw [List.cons_append, tokens?_cons hq (absurd · hl), if_neg hs, if_pos h, hd, Option.map_map]
  rfl

theorem line (isDirected : Bool) : Spells ['-', if isDirected then '>' else '-'] [.line isDirected] := by
  intro rest
  cases isDirected <;> exact tokens?.eq_def _

theorem name (s : List Char) : Spells (quoted s) [.name (String.ofList s)] :=
  fun rest => tokens?_quote (readQuoted?_quoted s rest)

-- A word ends in front of anything that could not be a part of it.
theorem word (s : String) (h : Spells (d :: ds) us) (hs : isWord s) (hd : isWordPart d = false) :
    Spells (s.toList ++ d :: ds) (.word s :: us) := by
  obtain ⟨c, w, hs', hc, hl, hw⟩ : ∃ c w, s.toList = c :: w ∧ isWordStart c ∧ (c = '-' → w ≠ []) ∧
      ∀ d ∈ w, isWordPart d := by
    unfold isWord at hs
    split at hs
    case h_1 => contradiction
    case h_2 c w hw =>
      simp only [Bool.and_eq_true, Bool.or_eq_true, decide_eq_true_eq, List.all_eq_true] at hs
      exact ⟨c, w, hw, hs.1.1, by simpa [or_iff_not_imp_left] using hs.1.2, hs.2⟩
  rw [← String.ofList_toList (s := s), hs', String.toList_ofList]
  intro rest
  have hn {e : Char} (he : isWordStart e = false) : c ≠ e := by
    rintro rfl
    rw [he] at hc
    contradiction
  have hs : c ∉ spaces := fun h => by simpa [hc] using List.all_eq_true.mp (rfl : spaces.all (!isWordStart ·)) c h
  have hm : c ∉ marks := fun h => by simpa [hc] using List.all_eq_true.mp (rfl : marks.all (!isWordStart ·)) c h
  have hh : c = '-' → ∀ e ∈ (w ++ d :: (ds ++ rest)).head?, e ≠ '-' ∧ e ≠ '>' := by
    intro hc e he
    obtain ⟨f, w, rfl⟩ := List.exists_cons_of_ne_nil (hl hc)
    cases he
    have := hw _ List.mem_cons_self
    constructor <;> rintro rfl <;> contradiction
  have ht : (w ++ d :: (ds ++ rest)).takeWhile isWordPart = w := by
    rw [List.takeWhile_append_of_pos hw, List.takeWhile_cons_of_neg (by simp [hd]), List.append_nil]
  have hr : (w ++ d :: (ds ++ rest)).dropWhile isWordPart = d :: ds ++ rest := by
    rw [List.dropWhile_append_of_pos hw, List.dropWhile_cons_of_neg (by simp [hd])]
    rfl
  rw [List.append_assoc, List.cons_append, List.cons_append, tokens?_cons (hn rfl) hh, if_neg hs, if_neg hm, if_pos hc,
    ht, hr, h, Option.map_map]
  rfl

theorem assignment (k v : String) (h : Spells (d :: ds) us) (hv : isWord v) (hk : isWord k)
    (hd : isWordPart d = false) :
    Spells (k.toList ++ '=' :: (v.toList ++ d :: ds)) (.word k :: .mark '=' :: .word v :: us) :=
  ((h.word v hv hd).mark '=' (by decide)).word k hk rfl

theorem quotedName (s : String) (h : Spells ds us) : Spells ((quotedName s).toList ++ ds) (.name s :: us) := by
  simpa [Dot.quotedName] using (name s.toList).append h

theorem directedLine (h : Spells ds us) : Spells ("->".toList ++ ds) (.line true :: us) :=
  (line true).append h

theorem undirectedLine (h : Spells ds us) : Spells ("--".toList ++ ds) (.line false :: us) :=
  (line false).append h

theorem semicolon : Spells [';', '\n'] [.mark ';'] :=
  (nil.space '\n' (by decide)).mark ';' (by decide)

-- White space at the start of a line does not matter.
theorem indented (h : Spells ds us) : Spells (' ' :: ' ' :: ds) us :=
  h.blank.blank

end Spells

section Statements

variable {isDirected : Bool} {front : List Token} {ls : List String} {sts : List Statement} {st : Statement}

-- What a line states, of which the only semicolon is its last token.
def States (isDirected : Bool) (l : String) (st : Statement) : Prop :=
  ∃ ts, .mark ';' ∉ ts ∧ Spells (l.toList ++ ['\n']) (ts ++ [.mark ';']) ∧ statement? isDirected ts = some st

theorem statements?_append (h : .mark ';' ∉ ts) : statements? isDirected front (ts ++ .mark ';' :: us) =
    (statement? isDirected (front ++ ts)).bind fun st => (statements? isDirected [] us).map (st :: ·) := by
  induction ts generalizing front
  case nil =>
    rw [List.nil_append, List.append_nil, statements?]
  case cons t ts ih =>
    have ⟨ht, hts⟩ : .mark ';' ≠ t ∧ .mark ';' ∉ ts := by simpa using h
    rw [List.cons_append, statements?, ih hts, List.append_assoc, List.singleton_append]
    case x_1 => exact fun _ he => by simp at he
    case x_2 => exact fun h => ht h.symm

theorem exists_spells (h : List.Forall₂ (States isDirected) ls sts) :
    ∃ ts, Spells (ls.flatMap fun l => l.toList ++ ['\n']) ts ∧
      ∀ us, statements? isDirected [] (ts ++ us) = (statements? isDirected [] us).map (sts ++ ·) := by
  induction h
  case nil => exact ⟨[], .nil, by simp⟩
  case cons hl _ ih =>
    obtain ⟨ts, hn, hs, hst⟩ := hl
    obtain ⟨us, hus, hr⟩ := ih
    refine ⟨ts ++ [.mark ';'] ++ us, by rw [List.flatMap_cons]; exact hs.append hus, fun rest => ?_⟩
    rw [List.append_assoc, List.append_assoc, List.singleton_append, statements?_append hn, List.nil_append, hst, hr]
    simp [Function.comp_def]

def keyword (isDirected : Bool) : String := if isDirected then "digraph" else "graph"

theorem intercalate_append (sep l : List Char) (ls : List (List Char)) :
    sep.intercalate (l :: ls) ++ sep = (l :: ls).flatMap (· ++ sep) := by
  induction ls generalizing l
  case nil          => simp
  case cons k ks ih => simp only [List.intercalate_cons_cons, List.append_assoc, ih, List.flatMap_cons]

theorem toList_graph {kind name : String} : (graph kind name ls).toList = kind.toList ++ ' ' :: (name.toList ++
    ' ' :: '\x7b' :: '\n' :: ((ls.flatMap fun l => l.toList ++ ['\n']) ++ ['\x7d', '\n'])) := by
  have h := intercalate_append ['\n'] (kind ++ " " ++ name ++ " \x7b").toList ((ls ++ ["\x7d"]).map String.toList)
  simp only [graph, String.toList_append, String.toList_intercalate, List.cons_append, List.map_cons]
  simpa [List.flatMap_map] using h

theorem read?_graph (name : String) (h : List.Forall₂ (States isDirected) ls sts) (hn : isWord name) :
    read? (graph (keyword isDirected) name ls) = some ⟨isDirected, name, sts⟩ := by
  obtain ⟨ts, hs, hr⟩ := exists_spells h
  have he := hs.append ((Spells.nil.space '\n' (by decide)).mark '\x7d' (by decide))
  have he := (((he.space '\n' (by decide)).mark '\x7b' (by decide)).blank.word name hn rfl).blank
  have he := he.word (keyword isDirected) (by cases isDirected <;> decide) rfl
  have hend : statements? isDirected [] (ts ++ [.mark '\x7d']) = some sts := by simp [hr, statements?]
  rw [read?, toList_graph, ← List.append_nil (_ ++ _), he]
  cases isDirected <;> simp [tokens?, keyword, hend]

end Statements
end ModuleDiscovery.Dot
