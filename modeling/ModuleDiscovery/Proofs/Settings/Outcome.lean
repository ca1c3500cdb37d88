import ModuleDiscovery.Proofs.Distinct
import ModuleDiscovery.Proofs.Settings.Accepted
import ModuleDiscovery.Proofs.Settings.Priority
import ModuleDiscovery.Proofs.Settings.Threshold
import ModuleDiscovery.Proofs.Text.Utf8
import ModuleDiscovery.Proofs.Toml.Limits

namespace ModuleDiscovery.Settings

open Number

variable {u v : Value} {vs : List Value} {es : List (String × Value)} {k : String}

-- Settings as all that is made of them relies on.
structure Valid (s : Settings) : Prop where
  finite        : s.threshold.isFinite
  notNegative   : 0.0 ≤ s.threshold
  distinct      : s.allowedUnits.Nodup
  named         : "" ∉ s.allowedUnits
  notUnresolved : namesOne s.allowedUnits s.unresolved = false
  separates     : s.separator.isSet
  notBelowZero  : isBelowZero s.precision = .ok false

def IsConfiguration (r : Refusal) : Prop :=
  .configuration ∈ r.kind.lineage

-- What loading is said to come to.
inductive Documented : Except Failure Settings → Prop
  | made {s}    : s.Valid → Documented (.ok s)
  | refused {r} : IsConfiguration r → Documented (.error (.refused r))

theorem Checked.valid {s : Settings} (h : Checked es s) : s.Valid := by
  obtain ⟨names, _, hn, hu⟩ := units_eq_ok h.units
  have ht : Threshold.Documented _ (.ok s.threshold) := h.threshold ▸ (Threshold.ofValue_cases _).elim And.left
    fun ⟨f, hf, _⟩ => absurd (hf.symm.trans h.threshold) nofun
  cases ht
  case accepted hf hz => exact {
    finite        := hf
    notNegative   := hz
    distinct      := hu ▸ nodup_eraseDups names
    named         := hu ▸ mt List.mem_eraseDups.mp hn
    notUnresolved := h.notUnresolved
    separates     := h.separates
    notBelowZero  := h.notBelowZero }

section Fields

-- Two keys in a list that cannot be told apart by their hashes, and are nested too deep to be compared.
def HasDeepTwins (vs : List Value) : Prop :=
  ∃ v w, [v, w].Sublist vs ∧ v.sameHash w ∧ maxCompareDepth < v.compareDepth w

section Keys

variable {P : Failure → Prop} {seen us : List Value}

end Keys

end Fields

section Sources

variable {around : Surroundings} {file : Option String} {overrides : List (String × Value)} {content : Text.Bytes}
  {path : String}

-- What all sources state, put into one table.
def collected (around : Surroundings) (file : Option String) (overrides : List (String × Value)) :
    Except Failure (List (String × Value)) := do
  let home ← ofDirectory around.files around.home ("." ++ fileName)
  let working ← ofDirectory around.files around.working fileName
  let asked ← file.elim (.ok []) (ofFile around)
  let stated ← Environment.fields around.environment
  return merged overrides stated ⟨home, working, asked⟩

section Escapes

variable (around : Surroundings) (file : Option String) (overrides : List (String × Value))

-- Contents of the files of settings.
inductive Holds (content : Text.Bytes) : Prop
  | home      : around.files.look around.home.location ("." ++ fileName) = .ok (.file content) → Holds content
  | working   : around.files.look around.working.location fileName = .ok (.file content) → Holds content
  | asked {p} : file = some p → around.files.look around.working.location (Files.pathText p) = .ok (.file content) →
    Holds content

-- What bytes are given up for. As many digits in a row, or as many brackets, are needed for that.
inductive Lost (content : Text.Bytes) : Failure → Prop
  | notUtf8 f            : ¬content.toByteArray.IsValidUTF8 → Lost content (.notUtf8 f)
  | longInteger {s ds}   : Text.decodeUtf8 content = .ok s → ds <:+: Toml.source s → Toml.IsRow ds →
    4300 < (Toml.Scalar.plain ds).length → Lost content (.numeral (.tooManyDigits (Toml.Scalar.plain ds).length))
  | tooDeep {s activity} : Text.decodeUtf8 content = .ok s → 980 < Toml.weight (Toml.source s) →
    Lost content (.tooDeep activity)

-- What else it comes to.
inductive Escapes : Failure → Prop
  | fileTwice         : "config_file" ∈ overrides.map (·.1) → Escapes (.settings .fileTwice)
  | nameTooLong {p f} : file = some p → around.files.look around.working.location (Files.pathText p) = .error f →
    f.kind = .nameTooLong → Escapes (.file f)
  | lost {bytes f}    : Holds around file bytes → Lost bytes f → Escapes f
  | threshold {es f}  : collected around file overrides = .ok es →
    Threshold.Escapes (field es Refusal.thresholdKey) f → Escapes f
  | tooLong {es key}  : collected around file overrides = .ok es → (field es key).hasLongInt →
    Escapes (.numeral .tooLong)
  | tooDeep {es key}  : collected around file overrides = .ok es → Value.maxDepth + 2 < (field es key).depth →
    Escapes (.tooDeep Failure.writing)
  | twins {es us}     : collected around file overrides = .ok es → elements (field es "allowed_units") = .ok us →
    HasDeepTwins us → Escapes (.tooDeep Failure.comparing)

end Escapes

end Sources

end ModuleDiscovery.Settings
