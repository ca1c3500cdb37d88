import Mathlib.Data.Bool.AllAny
import ModuleDiscovery.Console.Markup

namespace ModuleDiscovery.Console

open Text

namespace Markup

-- The characters that start a tag, a code or an escape, and those that terminals act upon although they are no white
-- space.
def isMark (c : Char) : Bool :=
  c ∈ ['[', ':', '\\', '\x07', '\x08']

end Markup

namespace Picture

open Markup

variable {s : String} {name p : List Char} {table : List (String × String)}

-- Whether none of the bytes of a text is a mark. The kernel is much faster with bytes than with characters.
def isFree (s : String) : Bool :=
  s.toByteArray.data.toList.all fun b => !([91, 58, 92, 7, 8].contains b.toNat)

theorem isMark_of_isFree (h : isFree s) : ∀ c ∈ s.toList, isMark c = false := by
  intro c hc
  rw [Bool.eq_false_iff]
  intro hm
  have hb : ∀ c ∈ ['[', ':', '\\', '\x07', '\x08'], 
      ∃ b ∈ String.utf8EncodeChar c, [91, 58, 92, 7, 8].contains b.toNat := List.all_iff_forall_prop.mp (by decide)
  have ⟨b, he, hb⟩ := hb c (of_decide_eq_true hm)
  rw [isFree, List.all_eq_true, ← String.utf8Encode_toList, List.utf8Encode, List.toList_data_toByteArray] at h
  exact absurd hb (by simpa using h b (List.mem_flatMap.mpr ⟨c, hc, he⟩))

theorem isMark_of_lookup (ht : table.all fun e => isFree e.1) (h : (byName table).lookup name = some p) :
    ∀ c ∈ p, isMark c = false := by
  have ⟨_, _, he, _⟩ := List.lookup_eq_some_iff.mp h
  have hm : (name, p) ∈ byName table := he ▸ List.mem_append_right _ List.mem_cons_self
  have ⟨e, hte, hm⟩ := List.mem_flatMap.mp hm
  have ⟨_, _, he⟩ := List.mem_map.mp hm
  obtain ⟨-, rfl⟩ := Prod.mk.inj he
  exact isMark_of_isFree (List.all_eq_true.mp ht e hte)

theorem isFree_flagTable : flagTable.all fun e => isFree e.1 := by
  decide +kernel

theorem isFree_peopleTable : peopleTable.all fun e => isFree e.1 := by
  decide +kernel

-- The longest of the tables, in parts: the kernel forgets what it found out about one before the next one.
theorem isFree_signTable : signTable.all fun e => isFree e.1 := by
  have h₁ : (signTable.take 450).all fun e => isFree e.1 := by decide +kernel
  have h₂ : ((signTable.drop 450).take 450).all fun e => isFree e.1 := by decide +kernel
  have h₃ : ((signTable.drop 450).drop 450).all fun e => isFree e.1 := by decide +kernel
  rw [← List.take_append_drop 450 signTable, ← List.take_append_drop 450 (signTable.drop 450), List.all_append,
    List.all_append, h₁, h₂, h₃]
  rfl

theorem isMark_of_mem_inTone {tone : Char} (ht : isMark tone = false) (h : ∀ c ∈ p, isMark c = false) :
    ∀ c ∈ inTone tone p, isMark c = false := by
  unfold inTone
  split <;> simp_all

theorem isMark_of_toned? (h : toned? name = some p) : ∀ c ∈ p, isMark c = false := by
  have ⟨⟨ending, tone⟩, ht, h⟩ := List.exists_of_findSome?_eq_some h
  have ⟨_, _, h⟩ := Option.bind_eq_some_iff.mp h
  have ⟨q, hq, h⟩ := Option.bind_eq_some_iff.mp h
  obtain rfl := Option.some.inj h
  have ht : isMark tone = false := (by decide : ∀ t ∈ tones, isMark t.2 = false) _ ht
  exact isMark_of_mem_inTone ht (isMark_of_lookup isFree_peopleTable hq)

theorem isMark_of_ofName? (h : ofName? name = some p) : ∀ c ∈ p, isMark c = false := by
  simp only [ofName?, Option.or_eq_some_iff] at h
  rcases h with h | ⟨-, h | ⟨-, h | ⟨-, h⟩⟩⟩
  case inl             => exact isMark_of_lookup isFree_signTable h
  case inr.inl         => exact isMark_of_lookup isFree_peopleTable h
  case inr.inr.inl     => exact isMark_of_lookup isFree_flagTable h
  case inr.inr.inr     => exact isMark_of_toned? h

end Picture

theorem Markup.isMark_of_picture? {code p : List Char} (h : picture? code = some p) : ∀ c ∈ p, isMark c = false := by
  rw [picture?] at h
  generalize hv : variants.findSome? _ = v at h
  obtain ⟨q, hq, rfl⟩ := Option.map_eq_some_iff.mp h
  refine List.forall_mem_append.mpr ⟨Picture.isMark_of_ofName? hq, ?_⟩
  cases v
  case none => exact List.forall_mem_nil _
  case some v =>
    obtain ⟨e, he, hv⟩ := List.exists_of_findSome?_eq_some hv
    obtain ⟨_, -, rfl⟩ := Option.map_eq_some_iff.mp hv
    have hs : ∀ e ∈ variants, isMark e.2 = false := List.all_iff_forall_prop.mp (by decide)
    exact List.forall_mem_singleton.mpr (hs e he)

end ModuleDiscovery.Console
