import CodeRepair.Journal

/-!
# Parts of journals

What a journal tells of one kind of action, it tells part by part.  A part in which the user is only
told something tells of no other action.
-/

namespace CodeRepair.Journal

@[simp]
theorem notices_append (first second : Journal) :
    notices (first ++ second) = first.notices ++ second.notices :=
  List.filterMap_append

@[simp]
theorem analyses_append (first second : Journal) :
    analyses (first ++ second) = first.analyses ++ second.analyses :=
  List.filterMap_append

@[simp]
theorem requests_append (first second : Journal) :
    requests (first ++ second) = first.requests ++ second.requests :=
  List.filterMap_append

@[simp]
theorem publications_append (first second : Journal) :
    publications (first ++ second) = first.publications ++ second.publications :=
  List.filterMap_append

/-! ## Notices in turn -/

section

variable {α : Type} (told : List α) (notice : α → Notice)

theorem notices_map_notice : notices (told.map fun a ↦ .notice (notice a)) = told.map notice := by
  induction told with
  | nil => rfl
  | cons a told ih => exact congrArg (notice a :: ·) ih

theorem analyses_map_notice : analyses (told.map fun a ↦ .notice (notice a)) = [] := by
  simp [analyses]

theorem requests_map_notice : requests (told.map fun a ↦ .notice (notice a)) = [] := by
  simp [requests]

theorem publications_map_notice : publications (told.map fun a ↦ .notice (notice a)) = [] := by
  simp [publications]

end

/-! ## An analysis and what it tells -/

section

variable (input : Text) (lines : List Text)

theorem analyses_analysis :
    analyses (.analysis input :: lines.map fun line ↦ .notice (.error line)) = [input] :=
  congrArg (input :: ·) (analyses_map_notice lines .error)

theorem notices_analysis :
    notices (.analysis input :: lines.map fun line ↦ .notice (.error line)) = lines.map .error :=
  notices_map_notice lines .error

/-- An analysis and what it tells publish nothing. -/
theorem publications_analysis :
    publications (.analysis input :: lines.map fun line ↦ .notice (.error line)) = [] :=
  publications_map_notice lines .error

end

end CodeRepair.Journal
