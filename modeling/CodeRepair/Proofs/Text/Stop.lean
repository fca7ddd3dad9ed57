import CodeRepair.Text.Basic
import Mathlib.Data.List.TakeWhile
import Mathlib.Tactic.Common

/-!
# Texts up to a character

A part of a text that does not have a certain character ends where the character first comes, whatever
stands behind it.  So two ways to write one text agree up to that place, and words that begin with a
character which they do not have again never overlap.
-/

namespace CodeRepair.Text

/-! ## The part in front -/

section

variable {stop : Char} {text : Text}

/-- What stands behind the character does not count. -/
theorem takeWhile_append_cons (stop : Char) (text rest : Text) :
    (text ++ stop :: rest).takeWhile (· != stop) = text.takeWhile (· != stop) := by
  induction text with
  | nil => simp
  | cons c text ih =>
    rw [List.cons_append, List.takeWhile_cons, ih, List.takeWhile_cons]

theorem takeWhile_append_of_mem (h : stop ∈ text) (more : Text) :
    (text ++ more).takeWhile (· != stop) = text.takeWhile (· != stop) := by
  obtain ⟨front, back, rfl, -⟩ := List.eq_append_cons_of_mem h
  rw [List.append_assoc, List.cons_append, takeWhile_append_cons, takeWhile_append_cons]

theorem takeWhile_of_not_mem (h : stop ∉ text) : text.takeWhile (· != stop) = text := by
  rw [List.takeWhile_eq_self_iff]
  exact fun c hc ↦ bne_iff_ne.2 fun heq ↦ h (heq ▸ hc)

theorem length_takeWhile_lt (h : stop ∈ text) :
    (text.takeWhile (· != stop)).length < text.length := by
  refine Nat.lt_of_le_of_ne (List.takeWhile_prefix _).length_le fun hlength ↦ ?_
  have hself := (List.takeWhile_prefix _).eq_of_length hlength
  have hall := List.takeWhile_eq_self_iff.1 hself stop h
  simp at hall

end

/-! ## Two ways to write a text -/

section

variable {c : Char} {run before text rest more : Text}

/-- A part without a character ends before the next such character. -/
theorem append_eq_append_cons (hrun : c ∉ run) (h : run ++ text = before ++ c :: rest) :
    ∃ more, before = run ++ more ∧ text = more ++ c :: rest := by
  rcases List.append_eq_append_iff.1 h with ⟨more, hbefore, htext⟩ | ⟨more, hmore, hrest⟩
  · exact ⟨more, hbefore, htext⟩
  · cases more with
    | nil => exact ⟨[], by rw [hmore, List.append_nil, List.append_nil], by simpa using hrest.symm⟩
    | cons d more =>
      obtain rfl : c = d := (List.cons.inj hrest).1
      exact absurd (hmore ▸ List.mem_append_right before List.mem_cons_self) hrun

/-- Where texts end at the first occurrence of a character, they can be told from what follows. -/
theorem append_cons_inj (hrun : c ∉ run) (hbefore : c ∉ before)
    (h : run ++ c :: rest = before ++ c :: more) : run = before ∧ rest = more := by
  obtain ⟨middle, hmiddle, hrest⟩ := append_eq_append_cons hrun h
  cases middle with
  | nil => exact ⟨by rw [hmiddle, List.append_nil], (List.cons.inj hrest).2⟩
  | cons d middle =>
    obtain rfl : c = d := (List.cons.inj hrest).1
    exact absurd (hmiddle ▸ List.mem_append_right run List.mem_cons_self) hbefore

/-- Words that begin with a character which the first of them does not have again do not overlap. -/
theorem exists_between {word other before' : Text} (hword : c ∉ word)
    (h : before ++ (c :: word) ++ rest = before' ++ (c :: other) ++ more)
    (hlt : before.length < before'.length) :
    ∃ middle, before' = before ++ (c :: word) ++ middle ∧ rest = middle ++ (c :: other) ++ more := by
  rw [List.append_assoc, List.append_assoc] at h
  rcases List.append_eq_append_iff.1 h with ⟨later, hlater, hword'⟩ | ⟨later, hlater, -⟩
  · cases later with
    | nil =>
      rw [hlater, List.append_nil] at hlt
      exact absurd hlt (Nat.lt_irrefl _)
    | cons d later =>
      obtain ⟨rfl, hbehind⟩ := List.cons.inj hword'
      obtain ⟨middle, rfl, hrest⟩ := append_eq_append_cons hword hbehind
      refine ⟨middle, ?_, ?_⟩
      · rw [hlater, List.append_assoc, List.cons_append]
      · rw [hrest, List.append_assoc]
        rfl
  · rw [hlater, List.length_append] at hlt
    omega

end

end CodeRepair.Text
