import ModuleDiscovery.Proofs.Results
import ModuleDiscovery.Report.Format

namespace ModuleDiscovery

section Refusals

variable {α β ε : Type}

-- No refusal keeps a result from being there.
def Unrefused (x : Except Failure α) : Prop :=
  ∀ r, x ≠ .error (.refused r)

variable {x : Except Failure α}

theorem unrefused_iff : Unrefused x ↔ FailsOnly (fun f => ∀ r, f ≠ .refused r) x :=
  ⟨fun h _ hf r hr => h r (hr ▸ hf), fun h r hr => h _ hr r rfl⟩

namespace Unrefused

theorem ok (a : α) : Unrefused (.ok a) :=
  fun _ => nofun

theorem map {f : α → β} (h : Unrefused x) : Unrefused (x.map f) :=
  unrefused_iff.mpr (unrefused_iff.mp h).map

theorem bind {f : α → Except Failure β} (h : Unrefused x) (hf : ∀ a, Unrefused (f a)) : Unrefused (x >>= f) :=
  unrefused_iff.mpr <| (unrefused_iff.mp h).bind fun a _ => unrefused_iff.mp (hf a)

theorem mapError {k : ε → Failure} (hk : ∀ e r, k e ≠ .refused r) (x : Except ε α) :
    Unrefused (x.mapError k) := by
  cases x
  case ok a    => exact .ok _
  case error e => exact fun r hr => hk e r (Except.error.inj hr)

theorem places (x : Except PlacesFault α) : Unrefused (x.mapError .places) :=
  mapError (by simp) x

theorem markup (x : Except Console.MarkupFault α) : Unrefused (x.mapError .markup) :=
  mapError (by simp) x

theorem mapM {f : α → Except Failure β} (h : ∀ a, Unrefused (f a)) (as : List α) : Unrefused (as.mapM f) :=
  unrefused_iff.mpr <| .mapM fun a _ => unrefused_iff.mp (h a)

theorem foldlM {f : β → α → Except Failure β} {as : List α} (h : ∀ b, ∀ a ∈ as, Unrefused (f b a))
    (b : β) : Unrefused (as.foldlM f b) := by
  induction as generalizing b
  case nil          => exact .ok b
  case cons a as ih =>
    rw [List.foldlM_cons]
    exact (h b a List.mem_cons_self).bind fun c => ih (fun b a ha => h b a (.tail _ ha)) c

end Unrefused
end Refusals

section Reports

open Console

variable (a : Analysis) (c : Coupling) (v : Value) (n : Nat)

theorem unrefused_rankedWeights : Unrefused c.rankedWeights := by
  unfold Coupling.rankedWeights
  split
  case h_1 => exact .ok _
  case h_2 => exact fun _ => nofun

theorem unrefused_csv : Unrefused (c.csv v) :=
  .map <| (unrefused_rankedWeights c).bind fun _ => .mapM (fun _ => .places _) _

theorem unrefused_dot (name : String) : Unrefused (c.dot v name) :=
  (unrefused_rankedWeights c).bind fun _ => .bind (.mapM (fun _ => .places _) _) fun _ => .ok _

theorem unrefused_textReport : Unrefused a.textReport :=
  .bind (.places _) fun _ => .ok _

theorem unrefused_jsonReport : Unrefused a.jsonReport := by
  refine .map <| (unrefused_rankedWeights _).bind fun _ => (Unrefused.places _).bind fun _ => ?_
  cases a.clustering.root
  case none   => exact (Unrefused.ok _).bind fun _ => (Unrefused.places _).bind fun _ => .ok _
  case some t => exact (Unrefused.places _).bind fun _ => (Unrefused.places _).bind fun _ => .ok _

theorem unrefused_weightPart : Unrefused (a.weightPart n) := by
  have hw : Unrefused a.weightCells := (unrefused_rankedWeights _).bind fun _ => .mapM (fun _ => .places _) _
  refine hw.bind fun _ => ?_
  split
  case isTrue  => exact .markup _
  case isFalse => exact .markup _

theorem unrefused_displayParts : ∀ p ∈ a.displayParts n, Unrefused p := by
  have ht : ∀ p ∈ a.treeParts n, Unrefused p := by
    unfold Analysis.treeParts
    split
    case h_1 => simp
    case h_2 => simp [Unrefused.markup, Unrefused.ok]
  have hr : ∀ p ∈ a.repairPart n, Unrefused p := by
    unfold Analysis.repairPart
    split
    case isTrue  => simp [Unrefused.markup]
    case isFalse => simp
  simp only [Analysis.displayParts, List.forall_mem_append, List.forall_mem_cons, List.not_mem_nil, false_imp_iff,
    implies_true, and_true]
  exact ⟨⟨⟨⟨.ok _, .markup _, .markup _, .ok _, unrefused_weightPart a n, .ok _⟩, ht⟩, .markup _⟩, hr⟩

theorem unrefused_report (f : Format) : Unrefused (f.report a) := by
  cases f
  case display => exact .foldlM (fun _ p hp => .map (unrefused_displayParts a _ p hp)) _
  case json    => exact unrefused_jsonReport a
  case csv     => exact unrefused_csv _ _
  case dot     => exact unrefused_dot _ _ _
  case text    => exact unrefused_textReport a

end Reports

end ModuleDiscovery
