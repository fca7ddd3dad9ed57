import CodeRepair.FileSystem.Resolution
import Mathlib.Data.List.DropRight
import Mathlib.Tactic.Common

/-!
# Parents

The parent of a path is a beginning of its text that ends before a slash.  So the names of the
parent are the first names of the path, and both begin in the same place.
-/

namespace CodeRepair.Path

/-- A path goes through another one: it begins in the same place and its names come first. -/
structure Through (first path : Path) : Prop where
  beginsAtRoot : first.beginsAtRoot = path.beginsAtRoot
  names : first.names <+: path.names

theorem Through.refl (path : Path) : Through path path :=
  ⟨rfl, List.prefix_rfl⟩

theorem Through.trans {first second path : Path} (h : Through first second)
    (next : Through second path) : Through first path :=
  ⟨h.beginsAtRoot.trans next.beginsAtRoot, h.names.trans next.names⟩

theorem split_text (path : Path) : path.split.1.text ++ path.split.2 = path := by
  unfold split
  split <;> rfl

theorem eq_nil_or_of_split_eq_current {path text : Path} (h : path.split = (.current, text)) :
    text = [] ∨ ∃ rest, text = '/' :: rest := by
  unfold split at h
  split at h
  · cases h
  · cases h
    exact .inl rfl
  · cases h
    exact .inr ⟨_, rfl⟩
  · cases h

theorem names_of_getLast?_ne {path : Path} (h : path.getLast? ≠ some '/') :
    path.names = (Text.pieces '/' path).filter fun piece ↦ !piece.isEmpty := by
  simp [Path.names, h]

theorem through_append {path : Path} (hne : path ≠ []) (h : path.getLast? ≠ some '/')
    (rest : Text) : Through path (path ++ '/' :: rest) := by
  refine ⟨?_, ?_⟩
  · cases path with
    | nil => exact absurd rfl hne
    | cons c path => rfl
  · rw [names_of_getLast?_ne h, Path.names, Text.pieces_append_cons, List.filter_append]
    split
    · rw [List.append_assoc]
      exact List.prefix_append ..
    · exact List.prefix_append ..

/-- Texts that hold no slash and of which the last is not empty do not end in a slash. -/
theorem getLast?_join_ne {texts : List Text} (h : texts ≠ []) (hl : texts.getLast h ≠ [])
    (hs : ∀ text ∈ texts, '/' ∉ text) (start : Text) :
    (start ++ Text.join ['/'] texts).getLast? ≠ some '/' := by
  obtain ⟨front, last, rfl⟩ : ∃ front last, texts = front ++ [last] :=
    ⟨_, _, (List.dropLast_append_getLast h).symm⟩
  rw [List.getLast_append_singleton] at hl
  have hj : ∃ before, start ++ Text.join ['/'] (front ++ [last]) = before ++ last := by
    cases front with
    | nil => exact ⟨start, by simp⟩
    | cons first front =>
      rw [Text.join_append _ (List.cons_ne_nil first front) (List.cons_ne_nil last []),
        Text.join_singleton]
      exact ⟨start ++ (Text.join ['/'] (first :: front) ++ ['/']), by simp⟩
  obtain ⟨before, hb⟩ := hj
  rw [hb, List.getLast?_append]
  intro he
  obtain ⟨c, hc⟩ := Option.ne_none_iff_exists'.mp (mt List.getLast?_eq_none_iff.mp hl)
  rw [hc, Option.some_or, Option.some.injEq] at he
  subst he
  exact hs last (by simp) (List.mem_of_getLast? hc)

/-- The parent of a path that has pieces is put together from its first pieces, the last of which
is not idle. -/
theorem parent?_eq_some {path parent : Path} (hp : path.pieces ≠ [])
    (h : path.parent? = some parent) :
    ∃ front back, parent = path.split.1.text ++ Text.join ['/'] front ∧
      Text.pieces '/' path.split.2 = front ++ back ∧ back ≠ [] ∧
        ∀ hf : front ≠ [], front.getLast hf ≠ [] := by
  have hpre : path.pieces <+: Text.pieces '/' path.split.2 := List.rdropWhile_prefix isIdle _
  have hdrop : path.pieces.dropLast.rdropWhile isIdle <+: path.pieces.dropLast :=
    List.rdropWhile_prefix isIdle _
  have hall := (hdrop.trans (List.dropLast_prefix _)).trans hpre
  have hlt : (path.pieces.dropLast.rdropWhile isIdle).length <
      (Text.pieces '/' path.split.2).length := by
    have h₁ := hdrop.length_le
    have h₂ := hpre.length_le
    have h₃ := List.length_pos_of_ne_nil hp
    rw [List.length_dropLast] at h₁
    omega
  obtain ⟨back, hb⟩ := hall
  refine ⟨_, back, ?_, hb.symm, ?_, fun hf he ↦ ?_⟩
  · unfold parent? at h
    cases hc : path.pieces with
    | nil => exact absurd hc hp
    | cons piece others =>
      rw [hc] at h
      exact (Option.some.inj h).symm
  · rintro rfl
    rw [← hb, List.append_nil] at hlt
    exact Nat.lt_irrefl _ hlt
  · have hn := List.rdropWhile_last_not isIdle path.pieces.dropLast hf
    rw [he] at hn
    exact hn rfl

/-- A path goes through its parent. -/
theorem through_parent {path parent : Path} (h : path.parent? = some parent)
    (hne : parent ≠ []) : Through parent path := by
  by_cases hp : path.pieces = []
  · unfold parent? at h
    rw [hp] at h
    dsimp only at h
    split at h
    · cases h
      exact absurd rfl hne
    · cases h
  obtain ⟨front, back, rfl, hpieces, hback, hlast⟩ := parent?_eq_some hp h
  obtain ⟨anchor, text, hsplit⟩ : ∃ anchor text, path.split = (anchor, text) := ⟨_, _, rfl⟩
  have htext : path = anchor.text ++ text := by rw [← split_text path, hsplit]
  rw [hsplit] at hne hpieces ⊢
  by_cases hf : front = []
  · subst hf
    cases anchor with
    | none => exact absurd rfl hne
    | root =>
      rw [htext]
      exact ⟨rfl, List.nil_prefix⟩
    | current =>
      rcases eq_nil_or_of_split_eq_current hsplit with rfl | ⟨rest, rfl⟩
      · rw [pieces, hsplit] at hp
        exact absurd rfl hp
      · rw [htext]
        exact through_append (List.cons_ne_nil '.' []) (by decide) rest
  · have hjoin : path = anchor.text ++ Text.join ['/'] front ++ '/' :: Text.join ['/'] back := by
      rw [htext, ← Text.join_pieces '/' text, hpieces, Text.join_append _ hf hback]
      simp only [List.append_assoc, List.singleton_append]
    rw [hjoin]
    exact through_append hne (getLast?_join_ne hf (hlast hf)
      (fun piece hm ↦ Text.not_mem_of_mem_pieces (hpieces ▸ List.mem_append_left back hm)) _) _

end CodeRepair.Path
