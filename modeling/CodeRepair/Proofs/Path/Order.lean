import CodeRepair.Path.Order
import Mathlib.Data.List.Induction
import Mathlib.Data.List.Sort
import Mathlib.Tactic.Common

/-!
# The order of paths is one

Comparing two paths comes down to comparing the lists of their components word by word.  Two paths are
on a level exactly when they are the same, and a sorted set holds of all paths that are the same the one
that came last.  So sorted sets of the same paths are equal but for the spellings, and the union of two
is the sorted set of all their paths.
-/

namespace CodeRepair

/-! ## Texts -/

theorem Text.compare_eq_compareLex (text other : Text) :
    Text.compare text other = List.compareLex (compareOn Char.toNat) text other := by
  induction text generalizing other with
  | nil => cases other <;> rfl
  | cons c text ih =>
    cases other with
    | nil => rfl
    | cons d other =>
      rw [Text.compare, ih, List.compareLex_cons_cons]
      rfl

instance : Std.TransCmp Text.compare := by
  have h : Text.compare = List.compareLex (compareOn Char.toNat) :=
    funext fun text ↦ funext (Text.compare_eq_compareLex text)
  rw [h]
  infer_instance

instance : Std.LawfulEqCmp Text.compare where
  compare_self := Std.ReflCmp.compare_self
  eq_of_compare {text other} h := by
    induction text generalizing other with
    | nil =>
      cases other with
      | nil => rfl
      | cons d other => cases h
    | cons c text ih =>
      cases other with
      | nil => cases h
      | cons d other =>
        rw [Text.compare, Ordering.then_eq_eq, Nat.compare_eq_eq] at h
        rw [Char.toNat_inj.1 h.1, ih h.2]

namespace Path

/-! ## Components -/

/-- The name of a component, empty where there is none. -/
def Component.name : Component → Text
  | .normal name => name
  | _ => []

/-- The order of components by their names alone. -/
def Component.compareNames (a b : Component) : Ordering :=
  Text.compare a.name b.name

instance : Std.TransCmp Component.compareNames where
  eq_swap {a b} := by
    unfold Component.compareNames
    exact Std.OrientedCmp.eq_swap
  isLE_trans {a b c} hab hbc := by
    unfold Component.compareNames at hab hbc ⊢
    exact Std.TransCmp.isLE_trans hab hbc

/-- Components are compared by their kinds and then by their names. -/
theorem Component.compare_eq_compareLex :
    Component.compare = compareLex (compareOn Component.rank) Component.compareNames := by
  funext a b
  cases a <;> cases b <;> rfl

instance : Std.TransCmp Component.compare := by
  rw [Component.compare_eq_compareLex]
  infer_instance

instance : Std.LawfulEqCmp Component.compare where
  compare_self := Std.ReflCmp.compare_self
  eq_of_compare {a b} h := by
    rw [Component.compare_eq_compareLex, compareLex, Ordering.then_eq_eq] at h
    have hrank : a.rank = b.rank := Nat.compare_eq_eq.1 h.1
    have hname : a.name = b.name := Std.LawfulEqCmp.eq_of_compare h.2
    cases a <;> cases b <;> first | rfl | exact congrArg _ hname | cases hrank

theorem compareComponents_eq_compareLex (components others : List Component) :
    compareComponents components others = List.compareLex Component.compare components others := by
  induction components generalizing others with
  | nil => cases others <;> rfl
  | cons a components ih =>
    cases others with
    | nil => rfl
    | cons b others => rw [compareComponents, ih, List.compareLex_cons_cons]

theorem compare_eq_compareLex (path other : Path) :
    path.compare other =
      List.compareLex Component.compare path.components other.components :=
  compareComponents_eq_compareLex path.components other.components

/-! ## Paths -/

instance : Std.TransCmp Path.compare where
  eq_swap {path other} := by
    rw [compare_eq_compareLex, compare_eq_compareLex]
    exact Std.OrientedCmp.eq_swap
  isLE_trans {path other third} h hnext := by
    rw [compare_eq_compareLex] at h hnext ⊢
    exact Std.TransCmp.isLE_trans h hnext

theorem same_iff {path other : Path} :
    path.same other = true ↔ path.components = other.components :=
  beq_iff_eq

/-- Paths are on a level exactly when they are the same. -/
theorem compare_eq_eq_iff {path other : Path} : path.compare other = .eq ↔ path.same other = true := by
  rw [compare_eq_compareLex, Std.LawfulEqCmp.compare_eq_iff_eq, same_iff]

theorem same_congr {path other : Path} (h : path.same other = true) (third : Path) :
    path.same third = other.same third := by
  rw [Bool.eq_iff_iff, same_iff, same_iff, same_iff.1 h]

theorem same_eq_false_of_lt {path other : Path} (h : path.compare other = .lt) :
    path.same other = false := by
  rw [Bool.eq_false_iff, Ne, ← compare_eq_eq_iff, h]
  exact nofun

/-! ## Sorted sets -/

/-- Whether each path comes before all that stand behind it. -/
def Ascending (paths : List Path) : Prop :=
  paths.Pairwise fun path other ↦ path.compare other = .lt

theorem mem_of_mem_insertSorted {path kept : Path} {paths : List Path}
    (h : kept ∈ insertSorted path paths) : kept = path ∨ kept ∈ paths := by
  induction paths with
  | nil => exact .inl (List.mem_singleton.1 h)
  | cons other rest ih =>
    rw [insertSorted] at h
    split at h
    · exact List.mem_cons.1 h
    · rcases List.mem_cons.1 h with rfl | h
      · exact .inl rfl
      · exact .inr (List.mem_cons_of_mem other h)
    · rcases List.mem_cons.1 h with rfl | h
      · exact .inr List.mem_cons_self
      · exact (ih h).imp_right (List.mem_cons_of_mem other)

theorem Ascending.insertSorted {paths : List Path} (h : Ascending paths) (path : Path) :
    Ascending (insertSorted path paths) := by
  induction paths with
  | nil => exact List.pairwise_singleton _ path
  | cons other rest ih =>
    obtain ⟨hother, hrest⟩ := List.pairwise_cons.1 h
    rw [Path.insertSorted]
    split
    · next hlt =>
      refine List.pairwise_cons.2 ⟨fun kept hkept ↦ ?_, h⟩
      rcases List.mem_cons.1 hkept with rfl | hkept
      · exact hlt
      · exact Std.TransCmp.lt_trans hlt (hother kept hkept)
    · next heq =>
      exact List.pairwise_cons.2
        ⟨fun kept hkept ↦ (Std.TransCmp.congr_left heq).trans (hother kept hkept), hrest⟩
    · next hgt =>
      refine List.pairwise_cons.2 ⟨fun kept hkept ↦ ?_, ih hrest⟩
      rcases mem_of_mem_insertSorted hkept with rfl | hkept
      · exact Std.OrientedCmp.lt_of_gt hgt
      · exact hother kept hkept

/-- No path behind one that is the same as a given path is. -/
theorem filter_same_eq_nil {first path : Path} {rest : List Path}
    (h : ∀ other ∈ rest, first.compare other = .lt) (hsame : first.same path = true) :
    rest.filter (·.same path) = [] := by
  rw [List.filter_eq_nil_iff]
  intro other hother heq
  have hfirst := same_eq_false_of_lt (h other hother)
  rw [same_congr hsame, same_iff.2 (same_iff.1 heq).symm] at hfirst
  cases hfirst

/-- What a new path changes about the paths that are the same as a given one. -/
theorem filter_same_insertSorted {paths : List Path} (h : Ascending paths) (new path : Path) :
    (insertSorted new paths).filter (·.same path) =
      if new.same path then [new] else paths.filter (·.same path) := by
  induction paths with
  | nil => rw [insertSorted, List.filter_cons, List.filter_nil]
  | cons other rest ih =>
    obtain ⟨hother, hrest⟩ := List.pairwise_cons.1 h
    rw [insertSorted]
    split
    · next hlt =>
      rw [List.filter_cons]
      split
      · next hsame =>
        refine congrArg (new :: ·) (filter_same_eq_nil (fun kept hkept ↦ ?_) hsame)
        rcases List.mem_cons.1 hkept with rfl | hkept
        · exact hlt
        · exact Std.TransCmp.lt_trans hlt (hother kept hkept)
      · rfl
    · next heq =>
      have hlevel := same_congr (compare_eq_eq_iff.1 heq) path
      rw [List.filter_cons]
      split
      · next hsame =>
        exact congrArg (new :: ·) (filter_same_eq_nil hother (hlevel.symm.trans hsame))
      · next hsame => rw [List.filter_cons, ← hlevel, if_neg hsame]
    · next hgt =>
      rw [List.filter_cons, ih hrest, List.filter_cons]
      split
      · next hsame =>
        have hnew : new.same path = false := by
          rw [← same_eq_false_of_lt (Std.OrientedCmp.lt_of_gt hgt), Bool.eq_iff_iff, same_iff,
            same_iff, same_iff.1 hsame, eq_comm]
        rw [hnew, if_neg Bool.false_ne_true, if_neg Bool.false_ne_true]
      · rfl

theorem sortedSet_concat (paths : List Path) (path : Path) :
    sortedSet (paths ++ [path]) = insertSorted path (sortedSet paths) := by
  rw [sortedSet, List.foldl_append]
  rfl

theorem ascending_sortedSet (paths : List Path) : Ascending (sortedSet paths) := by
  induction paths using List.reverseRecOn with
  | nil => exact List.Pairwise.nil
  | append_singleton paths path ih =>
    rw [sortedSet_concat]
    exact ih.insertSorted path

/-- Of the paths that are the same a sorted set holds one, in the spelling that came last. -/
theorem filter_same_sortedSet (paths : List Path) (path : Path) :
    (sortedSet paths).filter (·.same path) = (paths.filter (·.same path)).getLast?.toList := by
  induction paths using List.reverseRecOn with
  | nil => rfl
  | append_singleton paths last ih =>
    rw [sortedSet_concat, filter_same_insertSorted (ascending_sortedSet paths), List.filter_append,
      List.filter_cons, List.filter_nil]
    split
    · rw [List.getLast?_concat]
      rfl
    · rw [List.append_nil, ih]

theorem mem_of_mem_sortedSet {paths : List Path} {path : Path} (h : path ∈ sortedSet paths) :
    path ∈ paths := by
  have hfilter : path ∈ (sortedSet paths).filter (·.same path) :=
    List.mem_filter.2 ⟨h, same_iff.2 rfl⟩
  rw [filter_same_sortedSet, Option.mem_toList] at hfilter
  exact (List.mem_filter.1 (List.mem_of_getLast? hfilter)).1

/-- Each path is in the sorted set once, in one of its spellings. -/
theorem exists_filter_same_sortedSet {paths : List Path} {path : Path} (h : path ∈ paths) :
    ∃ kept, (sortedSet paths).filter (·.same path) = [kept] := by
  have hne : paths.filter (·.same path) ≠ [] :=
    List.ne_nil_of_mem (List.mem_filter.2 ⟨h, same_iff.2 rfl⟩)
  exact ⟨_, by rw [filter_same_sortedSet, List.getLast?_eq_some_getLast hne]; rfl⟩

/-- Whether a path stands in a list, in whatever spelling. -/
def IsAmong (path : Path) (paths : List Path) : Prop :=
  ∃ kept ∈ paths, kept.same path = true

theorem isAmong_iff_mem_map {path : Path} {paths : List Path} :
    IsAmong path paths ↔ path.components ∈ paths.map components := by
  simp only [IsAmong, same_iff, List.mem_map]

theorem isAmong_append_iff {path : Path} {paths others : List Path} :
    IsAmong path (paths ++ others) ↔ IsAmong path paths ∨ IsAmong path others := by
  simp only [isAmong_iff_mem_map, List.map_append, List.mem_append]

theorem isAmong_sortedSet_iff {path : Path} {paths : List Path} :
    IsAmong path (sortedSet paths) ↔ IsAmong path paths := by
  constructor
  · rintro ⟨kept, hkept, hsame⟩
    exact ⟨kept, mem_of_mem_sortedSet hkept, hsame⟩
  · rintro ⟨given, hgiven, hsame⟩
    obtain ⟨kept, hfilter⟩ := exists_filter_same_sortedSet hgiven
    have hkept := List.mem_filter.1 (hfilter ▸ List.mem_singleton_self kept)
    exact ⟨kept, hkept.1, same_iff.2 ((same_iff.1 hkept.2).trans (same_iff.1 hsame))⟩

theorem mem_sortedSet_iff {paths : List Path} {path : Path} :
    path ∈ sortedSet paths ↔ (paths.filter (·.same path)).getLast? = some path := by
  have hself : path ∈ sortedSet paths ↔ path ∈ (sortedSet paths).filter (·.same path) := by
    rw [List.mem_filter, and_iff_left (same_iff.2 rfl)]
  rw [hself, filter_same_sortedSet, Option.mem_toList]

/-- Lists that ascend are equal when they have the same members. -/
theorem eq_of_pairwise_lt {α : Type} {cmp : α → α → Ordering} [Std.OrientedCmp cmp]
    {items others : List α} (h : items.Pairwise fun a b ↦ cmp a b = .lt)
    (hothers : others.Pairwise fun a b ↦ cmp a b = .lt) (hmem : ∀ a, a ∈ items ↔ a ∈ others) :
    items = others := by
  have hasymm : Std.Asymm fun a b ↦ cmp a b = .lt :=
    ⟨fun a b hlt hback ↦ by rw [Std.OrientedCmp.gt_of_lt hback] at hlt; cases hlt⟩
  have hirrefl := Std.Asymm.irrefl (r := fun a b ↦ cmp a b = .lt)
  have hantisymm := Std.Asymm.antisymm fun a b ↦ cmp a b = .lt
  exact h.eq_of_mem_iff hothers hmem

/-- Sorted sets of the same paths have the same components, however the paths are spelled. -/
theorem Ascending.map_components_eq {paths others : List Path} (h : Ascending paths)
    (hothers : Ascending others) (hmem : ∀ path, IsAmong path paths ↔ IsAmong path others) :
    paths.map components = others.map components := by
  have hpairwise {paths : List Path} (h : Ascending paths) :
      (paths.map components).Pairwise fun a b ↦ List.compareLex Component.compare a b = .lt := by
    rw [List.pairwise_map]
    exact h.imp fun hlt ↦ by rwa [compare_eq_compareLex] at hlt
  have hsubset {paths others : List Path} (hmem : ∀ path, IsAmong path paths → IsAmong path others) :
      ∀ parts ∈ paths.map components, parts ∈ others.map components := by
    intro parts hparts
    obtain ⟨path, -, rfl⟩ := List.mem_map.1 hparts
    exact isAmong_iff_mem_map.1 (hmem path (isAmong_iff_mem_map.2 hparts))
  exact eq_of_pairwise_lt (hpairwise h) (hpairwise hothers) fun parts ↦
    ⟨hsubset (fun path ↦ (hmem path).1) parts, hsubset (fun path ↦ (hmem path).2) parts⟩

/-- The union of sorted sets is the sorted set of all. -/
theorem sortedSet_append (paths others : List Path) :
    sortedSet (paths ++ others) = sortedSet (sortedSet paths ++ sortedSet others) := by
  have hlast (last : Option Path) : last.toList.getLast? = last := by cases last <;> rfl
  refine eq_of_pairwise_lt (ascending_sortedSet _) (ascending_sortedSet _) fun path ↦ ?_
  simp only [mem_sortedSet_iff, List.filter_append, filter_same_sortedSet, List.getLast?_append, hlast]

end Path

end CodeRepair
