import CodeRepair.Config.Stored
import CodeRepair.Proofs.Config.RoundTrip
import CodeRepair.Proofs.FileSystem.Replacement
import CodeRepair.Proofs.Text.Encoding

/-!
# Stored configurations are loaded

A configuration that was stored is loaded from the same path as it was, and one with a fault is not
stored at all.  A device in place of the temporary file swallows what is stored, and a path that
leads through the very link it names leads nowhere once a file has taken the place of the link; then
the default configuration is loaded.
-/

namespace CodeRepair.Config

variable {files later : FileSystem} {path : Path} {config : Config}

theorem fault?_default : ({} : Config).fault? = none := by
  decide +kernel

theorem fault?_eq_none_iff : config.fault? = none ↔ ∀ fault : Fault, fault.isIn config = false := by
  have hall (fault : Fault) : fault ∈ Fault.all := by cases fault <;> decide
  simp [fault?, hall]

theorem load_of_not_contains (h : files.contains path = false) : load files path = .ok {} := by
  rw [load, h, if_neg Bool.false_ne_true, checked, fault?_default]

theorem checked_eq_ok_iff {other : Config} :
    config.checked = .ok other ↔ config.fault? = none ∧ config = other := by
  unfold checked
  split
  · next hfault => simp [hfault]
  · next hfault => simp [hfault]

/-- The configuration that a text holds is loaded if it is valid. -/
theorem load_eq_checked {text : Text} (htext : files.readText path = .ok text)
    (hconfig : read? text = some config) : load files path = config.checked := by
  have hcontains : files.contains path = true := by
    unfold FileSystem.readText FileSystem.read at htext
    unfold FileSystem.contains
    cases hlocate : files.locate path with
    | ok found => rfl
    | error fault =>
      rw [hlocate] at htext
      cases htext
  simp only [load, hcontains, if_true, htext, hconfig]

section

variable {text : Text} (hvalid : config.fault? = none)
include hvalid

theorem load_of_readText (htext : files.readText path = .ok text) (hconfig : read? text = some config) :
    load files path = .ok config := by
  rw [load_eq_checked htext hconfig, checked_eq_ok_iff]
  exact ⟨hvalid, rfl⟩

end

theorem isFinite_of_fault? (h : config.fault? = none) :
    config.model.temperature.isFinite = true := by
  have htemperature := fault?_eq_none_iff.1 h .temperature
  simp only [Fault.isIn, Decimal.Single.isWithin] at htemperature
  grind

end CodeRepair.Config
