import ModuleDiscovery.Graph.Key

namespace ModuleDiscovery

structure Call where
  caller : MethodKey
  callee : MethodKey
deriving DecidableEq, Repr

-- Callers and their callees, both in order of first arrival. A caller may be recorded without callees.
structure CallGraph where
  entries      : List (MethodKey × List MethodKey)
  callersNodup : (entries.map (·.1)).Nodup
  calleesNodup : ∀ e ∈ entries, e.2.Nodup

namespace Call

-- Order by caller, then by callee.
def le (c d : Call) : Bool :=
  c.caller < d.caller || c.caller = d.caller && c.callee ≤ d.callee

end Call

namespace CallGraph

-- Applies `f` to the callees of a caller, which is appended if it is new.
def updateEntry (k : MethodKey) (f : List MethodKey → List MethodKey) :
    List (MethodKey × List MethodKey) → List (MethodKey × List MethodKey)
  | [] => [(k, f [])]
  | e :: es => if e.1 = k then (k, f e.2) :: es else e :: updateEntry k f es

section UpdateEntry

variable {k : MethodKey} {f : List MethodKey → List MethodKey}
  {es : List (MethodKey × List MethodKey)}

theorem mem_keys_updateEntry {j : MethodKey} :
    j ∈ (updateEntry k f es).map (·.1) ↔ j = k ∨ j ∈ es.map (·.1) := by
  induction es with
  | nil => simp [updateEntry]
  | cons e es ih =>
    rw [updateEntry]
    split
    case isTrue h => simp [h]
    case isFalse h => rw [List.map_cons, List.mem_cons, ih]; simp; grind

theorem updateEntry_nodup (h : (es.map (·.1)).Nodup) :
    ((updateEntry k f es).map (·.1)).Nodup := by
  induction es with
  | nil => simp [updateEntry]
  | cons e es ih =>
    rw [List.map_cons, List.nodup_cons] at h
    rw [updateEntry]
    split
    case isTrue he => rw [List.map_cons, List.nodup_cons]; exact ⟨he ▸ h.1, h.2⟩
    case isFalse he =>
      rw [List.map_cons, List.nodup_cons, mem_keys_updateEntry]
      exact ⟨fun h' => h'.elim he h.1, ih h.2⟩

theorem updateEntry_forall {P : List MethodKey → Prop} (hf : ∀ l, P l → P (f l)) (h₀ : P (f []))
    (h : ∀ e ∈ es, P e.2) : ∀ e ∈ updateEntry k f es, P e.2 := by
  induction es with
  | nil => simpa [updateEntry] using h₀
  | cons e es ih =>
    have ⟨he, hes⟩ := List.forall_mem_cons.mp h
    rw [updateEntry]
    split
    case isTrue => exact List.forall_mem_cons.mpr ⟨hf _ he, hes⟩
    case isFalse => exact List.forall_mem_cons.mpr ⟨he, ih hes⟩

end UpdateEntry

def empty : CallGraph := ⟨[], by simp, by simp⟩

instance : EmptyCollection CallGraph := ⟨empty⟩

instance : Inhabited CallGraph := ⟨empty⟩

def callers (g : CallGraph) : List MethodKey :=
  g.entries.map (·.1)

-- The callees of a caller, none if it is unknown.
def callees (g : CallGraph) (k : MethodKey) : List MethodKey :=
  ((g.entries.find? (·.1 = k)).map (·.2)).getD []

-- The calls, caller by caller.
def calls (g : CallGraph) : List Call :=
  g.entries.flatMap fun e => e.2.map (Call.mk e.1)

def callCount (g : CallGraph) : Nat :=
  g.calls.length

-- Notes a caller, which may have no callees.
def record (g : CallGraph) (k : MethodKey) : CallGraph where
  entries := updateEntry k id g.entries
  callersNodup := updateEntry_nodup g.callersNodup
  calleesNodup := updateEntry_forall (P := List.Nodup) (fun _ => id) (by simp) g.calleesNodup

-- Adds a callee at the end unless it is there.
def addCallee (k : MethodKey) (ks : List MethodKey) : List MethodKey :=
  if k ∈ ks then ks else ks ++ [k]

theorem addCallee_nodup {k : MethodKey} {ks : List MethodKey} (h : ks.Nodup) :
    (addCallee k ks).Nodup := by
  unfold addCallee
  split
  case isTrue => exact h
  case isFalse hk =>
    simp only [List.nodup_append, h, List.mem_singleton, true_and]
    refine ⟨by simp, ?_⟩
    rintro a ha _ rfl rfl
    exact hk ha

def insert (g : CallGraph) (c : Call) : CallGraph where
  entries := updateEntry c.caller (addCallee c.callee) g.entries
  callersNodup := updateEntry_nodup g.callersNodup
  calleesNodup :=
    updateEntry_forall (P := List.Nodup) (fun _ => addCallee_nodup) (by simp [addCallee])
      g.calleesNodup

def contains (g : CallGraph) (c : Call) : Bool :=
  c.callee ∈ g.callees c.caller

-- Adds calls, and counts those that were not there.
def merge (g : CallGraph) : List Call → CallGraph × Nat
  | [] => (g, 0)
  | c :: cs =>
    let (g', n) := (g.insert c).merge cs
    (g', if g.contains c then n else n + 1)

-- Adds a table of callers with their callees. All callers are noted before the first call.
def mergeTable (g : CallGraph) (t : List (MethodKey × List MethodKey)) : CallGraph × Nat :=
  (t.foldl (fun g e => g.record e.1) g).merge (t.flatMap fun e => e.2.map (Call.mk e.1))

-- Why an item is no call.
inductive UnpackFault
  -- It has another number of parts than two.
  | length      (n : Nat)
  -- It has no parts at all.
  | notIterable (kind : String)
deriving DecidableEq, Repr

namespace UnpackFault

def message : UnpackFault → String
  | length n      =>
    if n < 2 then s!"not enough values to unpack (expected 2, got {n})"
    else "too many values to unpack (expected 2)"
  | notIterable k => s!"cannot unpack non-iterable {k} object"

end UnpackFault

-- Items that are merged as calls: each has keys, or is of a kind that has no parts.
class HasKeys (ι : Type) where
  keys? : ι → Except String (List MethodKey)

export HasKeys (keys?)

instance : HasKeys (List MethodKey) where
  keys? := .ok

-- An item of any kind.
inductive Item
  | keys  (ks : List MethodKey)
  | whole (kind : String)
deriving DecidableEq, Repr

instance : HasKeys Item where
  keys?
    | .keys ks => .ok ks
    | .whole k => .error k

section Items

variable {ι : Type} [HasKeys ι]

def unpack (i : ι) : Except UnpackFault Call :=
  match keys? i with
  | .error k             => .error (.notIterable k)
  | .ok [caller, callee] => .ok ⟨caller, callee⟩
  | .ok ks               => .error (.length ks.length)

-- The calls that items stand for, up to the first item that is no call.
def callsOf : List ι → List Call × Option UnpackFault
  | [] => ([], none)
  | i :: is =>
    match unpack i with
    | .error f => ([], some f)
    | .ok c    =>
      let (cs, fault) := callsOf is
      (c :: cs, fault)

-- Adds calls given as items. What comes before a faulty item is added.
def mergeItems (g : CallGraph) (is : List ι) : CallGraph × Except UnpackFault Nat :=
  let (cs, fault) := callsOf is
  let (g, n) := g.merge cs
  (g, match fault with | none => .ok n | some f => .error f)

end Items

-- All methods, as callers or callees, in order of first appearance.
def nodes (g : CallGraph) : List MethodKey :=
  (g.callers ++ g.calls.map (·.callee)).eraseDups

def size (g : CallGraph) : Nat :=
  g.nodes.length

-- Whether a value is one of the methods. No value is that is not a text, but it has to be a key.
def hasNode (g : CallGraph) (v : Value) : Except Value.KeyFault Bool :=
  v.checkKey.map fun _ =>
    match v with
    | .text k => g.nodes.contains k
    | _       => false

section Units

variable (g : CallGraph) (sep : Separator)

-- The units of all methods, in order of first appearance.
def units : List UnitName :=
  ((g.entries.flatMap fun e => e.1 :: e.2).filterMap (owningUnit sep)).eraseDups

-- The units that own a caller, in order of first appearance: those whose calls were merged, as opposed
-- to units that are only called.
def callerUnits : List UnitName :=
  (g.callers.filterMap (owningUnit sep)).eraseDups

-- Whether a method belongs to one of the units.
def isOwnedBy (us : List UnitName) (k : MethodKey) : Bool :=
  (owningUnit sep k).any (us.contains ·)

-- The calls between methods of the given units. A caller of theirs stays even if none of its calls
-- does.
def restrict (us : List UnitName) : CallGraph where
  entries := (g.entries.filter (isOwnedBy sep us ·.1)).map fun e => (e.1, e.2.filter (isOwnedBy sep us))
  callersNodup := by
    simpa [Function.comp_def] using (List.filter_sublist.map _).nodup g.callersNodup
  calleesNodup := by
    simp only [List.mem_map, List.mem_filter]
    rintro _ ⟨e, ⟨he, -⟩, rfl⟩
    exact (g.calleesNodup e he).filter _

-- The separator that a value stands for. Where there is no key to be split it is not looked at.
def separator (v : Value) : Except SeparatorFault Separator :=
  if g.entries.isEmpty then .ok .dot else Separator.ofValue v

end Units
end CallGraph
end ModuleDiscovery
