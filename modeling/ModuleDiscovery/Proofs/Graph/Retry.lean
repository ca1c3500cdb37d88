import ModuleDiscovery.Proofs.Graph.Arrival
import ModuleDiscovery.Proofs.Results

namespace ModuleDiscovery
namespace CallGraph

variable {ι : Type} [HasKeys ι] {g : CallGraph} {i : ι} {is js : List ι} {cs ds : List Call} {f : UnpackFault}

section Items

-- An item with the two keys of a call.
def StandsFor (i : ι) (c : Call) : Prop :=
  keys? i = .ok [c.caller, c.callee]

-- What is wrong with an item that stands for no call.
inductive Faulted (i : ι) : UnpackFault → Prop
  | length {ks}     : keys? i = .ok ks → ks.length ≠ 2 → Faulted i (.length ks.length)
  | notIterable {k} : keys? i = .error k → Faulted i (.notIterable k)

theorem unpack_of_standsFor {c : Call} (h : StandsFor i c) : unpack i = .ok c := by
  rw [unpack, h]

theorem unpack_cases (i : ι) : (∃ c, StandsFor i c) ∨ ∃ f, unpack i = .error f ∧ Faulted i f := by
  unfold unpack
  split
  case h_1 k hk    => exact .inr ⟨_, rfl, .notIterable hk⟩
  case h_2 k l hk  => exact .inl ⟨⟨k, l⟩, hk⟩
  case h_3 ks h hk =>
    refine .inr ⟨_, rfl, .length hk fun hl => ?_⟩
    obtain ⟨k, l, rfl⟩ := List.length_eq_two.mp hl
    exact h k l rfl

theorem Faulted.not_standsFor {c : Call} (h : Faulted i f) : ¬StandsFor i c := by
  intro hc
  cases h
  case length hk hl   => cases hk.symm.trans hc; exact hl rfl
  case notIterable hk => cases hk.symm.trans hc

-- Up to the first item that is no call, all items are.
theorem exists_first_fault (h : ∃ i ∈ is, ∀ c, ¬StandsFor i c) :
    ∃ (front : List ι) (cs : List Call) (i : ι) (rest : List ι) (f : UnpackFault),
      is = front ++ i :: rest ∧ List.Forall₂ StandsFor front cs ∧ unpack i = .error f ∧ Faulted i f := by
  induction is
  case nil => simp at h
  case cons i is ih =>
    rcases unpack_cases i with ⟨c, hc⟩ | ⟨f, hu, hf⟩
    case inr => exact ⟨[], [], i, is, f, rfl, .nil, hu, hf⟩
    case inl =>
      have his : ∃ i ∈ is, ∀ c, ¬StandsFor i c :=
        (List.or_exists_of_exists_mem_cons h).resolve_left fun hi => hi c hc
      obtain ⟨front, cs, j, rest, f, rfl, hfront, hj⟩ := ih his
      exact ⟨i :: front, c :: cs, j, rest, f, rfl, .cons hc hfront, hj⟩

theorem callsOf_append (h : List.Forall₂ StandsFor is cs) (js : List ι) :
    callsOf (is ++ js) = (cs ++ (callsOf js).1, (callsOf js).2) := by
  induction h
  case nil           => rfl
  case cons hc _ ih  => rw [List.cons_append, callsOf, unpack_of_standsFor hc, ih]; rfl

theorem callsOf_of_calls (h : List.Forall₂ StandsFor is cs) : callsOf is = (cs, none) := by
  simpa [callsOf] using callsOf_append h []

theorem callsOf_of_fault (h : unpack i = .error f) : callsOf (i :: js) = ([], some f) := by
  rw [callsOf, h]

end Items

section Merges

theorem mergeItems_fst : (g.mergeItems is).1 = (g.merge (callsOf is).1).1 := rfl

theorem mergeItems_of_calls (h : List.Forall₂ StandsFor is cs) :
    g.mergeItems is = ((g.merge cs).1, .ok (g.merge cs).2) := by
  rw [mergeItems, callsOf_of_calls h]

theorem mergeItems_of_fault (h : List.Forall₂ StandsFor is cs) (hi : unpack i = .error f) :
    g.mergeItems (is ++ i :: js) = ((g.merge cs).1, .error f) := by
  rw [mergeItems, callsOf_append h, callsOf_of_fault hi, List.append_nil]

-- Calls that are there already are neither moved nor counted.
theorem merge_again : (g.merge cs).1.merge (cs ++ ds) = (g.merge cs).1.merge ds := by
  have hs : (g.merge cs).1.merge cs = ((g.merge cs).1, 0) :=
    merge_of_subset fun _ hc => mem_calls_merge.mpr (.inl hc)
  rw [merge_append, hs, Nat.zero_add]

theorem mergeItems_again (h : List.Forall₂ StandsFor is cs) :
    ((g.merge cs).1.mergeItems (is ++ js)).1 = (g.mergeItems (is ++ js)).1 := by
  rw [mergeItems_fst, mergeItems_fst, callsOf_append h, merge_again, merge_append]

end Merges

-- The corrected items need not be the faulty ones with an item mended: after the items in front of it they may go on
-- in any way, also with another fault.
theorem failed_merge_resumes (g : CallGraph) (h : ∃ i ∈ is, ∀ c, ¬StandsFor i c) :
    ∃ (front : List ι) (cs : List Call) (i : ι) (rest : List ι) (f : UnpackFault),
      is = front ++ i :: rest ∧ List.Forall₂ StandsFor front cs ∧ Faulted i f ∧
      let failed := g.mergeItems is
      failed.2 = .error f ∧
      failed.1 = (g.mergeItems front).1 ∧
      failed.1.callers = (g.callers ++ cs.map (·.caller)).eraseDups ∧
      (∀ k, failed.1.callees k = (g.callees k ++ calleesOf k cs).eraseDups) ∧
      failed.1.callCount = (g.calls ++ cs).toFinset.card ∧
      (∀ more, (failed.1.mergeItems (front ++ more)).1 = (g.mergeItems (front ++ more)).1) ∧
      ∀ (more : List ι) (ds : List Call), List.Forall₂ StandsFor more ds → ∃ n,
        (failed.1.mergeItems (front ++ more)).2 = .ok n ∧
        (g.mergeItems (front ++ more)).2 = .ok ((g.merge cs).2 + n) := by
  obtain ⟨front, cs, i, rest, f, rfl, hfront, hi, hf⟩ := exists_first_fault h
  refine ⟨front, cs, i, rest, f, rfl, hfront, hf, ?_⟩
  rw [mergeItems_of_fault hfront hi, mergeItems_of_calls hfront]
  refine ⟨rfl, rfl, callers_merge, fun _ => callees_merge, ?count, fun _ => mergeItems_again hfront, ?corrected⟩
  case count =>
    rw [callCount, ← List.toFinset_card_of_nodup (calls_nodup _)]
    congr 1
    ext c
    simp [mem_calls_merge, or_comm]
  case corrected =>
    intro more ds hm
    have ha : List.Forall₂ StandsFor (front ++ more) (cs ++ ds) := List.rel_append hfront hm
    refine ⟨((g.merge cs).1.merge ds).2, ?again, ?once⟩
    case again => rw [mergeItems_of_calls ha, merge_again]
    case once  => rw [mergeItems_of_calls ha, merge_append]

-- Nothing at all behind a call of a new caller, which keeps its place when all is merged again.
theorem failed_merge_resumes_missing_item :
    let g := (empty.merge [⟨"b.g", "a.f"⟩]).1
    let is : List Item := [.keys ["a.f", "b.g"], .whole "NoneType", .keys ["b.g"]]
    let js : List Item := [.keys ["a.f", "b.g"], .keys ["c.h", "a.f"], .keys ["b.g", "c.h"]]
    (∃ i ∈ is, ∀ c, ¬StandsFor i c) ∧ (g.mergeItems is).2 = .error (.notIterable "NoneType") ∧
    (g.mergeItems is).1.entries = [("b.g", ["a.f"]), ("a.f", ["b.g"])] ∧
    ((g.mergeItems is).1.mergeItems js).1 = (g.mergeItems js).1 ∧
    (g.mergeItems js).1.entries = [("b.g", ["a.f", "c.h"]), ("a.f", ["b.g"]), ("c.h", ["a.f"])] := by
  intro g is js
  have hn (c : Call) : ¬StandsFor (Item.whole "NoneType") c := by simp [StandsFor, keys?]
  have hi : ∃ i ∈ is, ∀ c, ¬StandsFor i c := ⟨.whole "NoneType", by simp [is], hn⟩
  obtain ⟨front, cs, i, rest, f, he, hcs, hf, hr, -, -, -, -, hagain, -⟩ := failed_merge_resumes g hi
  obtain ⟨rfl, rfl⟩ : front = [.keys ["a.f", "b.g"]] ∧ i = .whole "NoneType" := by
    simp only [is] at he
    rcases hcs with _ | ⟨-, _ | ⟨hd, -⟩⟩
    case nil       =>
      cases he
      exact absurd rfl (hf.not_standsFor (c := ⟨"a.f", "b.g"⟩))
    case cons.nil  =>
      cases he
      exact ⟨rfl, rfl⟩
    case cons.cons =>
      obtain ⟨-, ht⟩  := List.cons.inj he
      obtain ⟨rfl, -⟩ := List.cons.inj ht
      exact absurd hd (hn _)
  obtain rfl : f = .notIterable "NoneType" := by
    cases hf
    case length hk _   => cases hk
    case notIterable hk => cases hk; rfl
  exact ⟨hi, hr, by decide +kernel, hagain [.keys ["c.h", "a.f"], .keys ["b.g", "c.h"]], by decide +kernel⟩

end CallGraph
end ModuleDiscovery
