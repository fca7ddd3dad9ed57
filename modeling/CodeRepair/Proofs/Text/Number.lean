import CodeRepair.Text.Digit
import Mathlib.Tactic.Common

/-!
# Numbers in decimal digits

A natural number is written in digits of ASCII only, at least one, and begins with a zero only if it
is zero.  So its digits end where a character comes that is none.
-/

namespace CodeRepair.Text

section

variable {isInside : Char → Bool} {run rest : Text} (hrun : ∀ c ∈ run, isInside c = true)
  (hrest : ∀ c ∈ rest.head?, isInside c = false)
include hrun hrest

/-- A run of characters ends where one comes that does not belong to it. -/
theorem takeWhile_run_append : (run ++ rest).takeWhile isInside = run := by
  rw [List.takeWhile_append_of_pos hrun]
  cases rest with
  | nil => simp
  | cons c rest => simp [hrest c rfl]

theorem dropWhile_run_append : (run ++ rest).dropWhile isInside = rest := by
  rw [List.dropWhile_append_of_pos hrun]
  cases rest with
  | nil => rfl
  | cons c rest => simp [hrest c rfl]

end

theorem isDigit_of_mem_digits {n : Nat} {c : Char} (h : c ∈ ofNat n) : c.isDigit = true :=
  Nat.isDigit_of_mem_toDigits (by decide) (by decide) h

theorem all_isDigit_ofNat (n : Nat) : (ofNat n).all Char.isDigit = true :=
  List.all_eq_true.2 fun _ ↦ isDigit_of_mem_digits

/-- The digit of a positive number below ten is not the zero. -/
theorem digitChar_ne_zero : ∀ n < 10, n ≠ 0 → Nat.digitChar n ≠ '0' := by
  decide

/-- A positive number does not begin with a zero. -/
theorem head?_ofNat_ne {n : Nat} (h : n ≠ 0) : (ofNat n).head? ≠ some '0' := by
  induction n using Nat.strongRecOn with
  | _ n ih =>
    unfold ofNat
    by_cases hsmall : n < 10
    · rw [Nat.toDigits_of_lt_base hsmall]
      simpa using digitChar_ne_zero n hsmall h
    · obtain ⟨c, text, hc⟩ := List.exists_cons_of_ne_nil (ofNat_ne_nil (n / 10))
      have hfirst : (ofNat (n / 10)).head? ≠ some '0' := ih (n / 10) (by omega) (by omega)
      rw [hc] at hfirst
      unfold ofNat at hc
      rw [Nat.toDigits_of_base_le (by decide) (Nat.le_of_not_lt hsmall), hc]
      exact hfirst

/-- A number begins with a digit, and with a zero only if nothing follows. -/
theorem exists_ofNat_eq_cons (n : Nat) :
    ∃ c text, ofNat n = c :: text ∧ c.isDigit = true ∧ (c = '0' → text = []) := by
  obtain ⟨c, text, h⟩ := List.exists_cons_of_ne_nil (ofNat_ne_nil n)
  refine ⟨c, text, h, isDigit_of_mem_digits (h ▸ List.mem_cons_self), ?_⟩
  rintro rfl
  by_cases hn : n = 0
  · subst hn
    exact ((List.cons.inj h).2).symm
  · exact absurd (by rw [h]; rfl) (head?_ofNat_ne hn)

section

variable (n : Nat) {rest : Text} (h : ∀ c ∈ rest.head?, c.isDigit = false)
include h

/-- Behind the digits of a number there is what follows them. -/
theorem dropWhile_ofNat_append : (ofNat n ++ rest).dropWhile Char.isDigit = rest :=
  dropWhile_run_append (fun _ ↦ isDigit_of_mem_digits) h

end

end CodeRepair.Text
