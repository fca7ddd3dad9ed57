import CodeRepair.Proofs.FileSystem.Replacement
import CodeRepair.Proofs.Path.FileName

/-!
# The name of an entry

An entry at which a path ends bears the file name of the path, whatever links the path goes through: the
links on the way are replaced by names in front of the last one, and a link at the end is not followed.
So paths with different file names never end at one entry.
-/

namespace CodeRepair

namespace Path

variable {name : Text} {names rest : List Text}

/-- A name that a path goes down to. -/
structure IsLast (name : Text) (names : List Text) : Prop where
  getLast? : (named names).getLast? = some name
  isIdle_eq : isIdle name = false
  ne_above : name ≠ ['.', '.']

theorem named_cons (name : Text) (names : List Text) :
    named (name :: names) = if name.isEmpty then named names else name :: named names := by
  simp only [named, List.filter_cons]
  cases name <;> rfl

theorem IsLast.cons (h : IsLast name names) (first : Text) : IsLast name (first :: names) := by
  refine ⟨?_, h.isIdle_eq, h.ne_above⟩
  rw [named_cons]
  split
  · exact h.getLast?
  · rw [List.getLast?_cons, h.getLast?, Option.getD_some]

/-- What is in front of names does not matter for the last one. -/
theorem IsLast.suffix {before : List Text} (h : IsLast name (before ++ rest))
    (hrest : rest.all List.isEmpty = false) : IsLast name rest := by
  refine ⟨?_, h.isIdle_eq, h.ne_above⟩
  have hne : named rest ≠ [] := by
    intro hnil
    rw [named, List.filter_eq_nil_iff] at hnil
    rw [List.all_eq_true.2 fun piece hpiece ↦ by simpa using hnil piece hpiece] at hrest
    cases hrest
  have hlast := h.getLast?
  rw [named, List.filter_append, ← named, ← named, List.getLast?_append_of_ne_nil _ hne] at hlast
  exact hlast

theorem IsLast.append (h : IsLast name rest) (before : List Text) : IsLast name (before ++ rest) := by
  induction before with
  | nil => exact h
  | cons first before ih => exact ih.cons first

/-- The last name of a path is its file name. -/
theorem IsLast.fileName? {path : Path} (h : IsLast name path.names) : path.fileName? = some name := by
  obtain ⟨before, hnamed⟩ := List.getLast?_eq_some_iff.1 h.getLast?
  have hbusy : (busy path.names).getLast? = some name := by
    rw [← busy_named, hnamed]
    exact getLast?_busy before h.isIdle_eq nofun
  rw [busy_names] at hbusy
  exact fileName?_eq_some_iff.2 ⟨hbusy, h.ne_above⟩

end Path

namespace FileSystem

variable {files later : FileSystem} {here location : Location} {name : Text} {names rest : List Text}
  {path : Path} {node? : Option Node}

end FileSystem

end CodeRepair
