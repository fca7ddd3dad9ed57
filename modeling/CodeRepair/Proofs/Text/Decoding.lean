import CodeRepair.Text.Utf8
import Mathlib.Algebra.Group.Nat.Defs
import Mathlib.Data.List.Basic
import Mathlib.Tactic.Common

/-!
# Decoding in two parts

A decoder never takes a unit back, so bytes that are decoded in two parts give the units of the one
and then those of the other, unless the cut is inside a character.  Then the first part ends in an
ill-formed unit, and what stands there in the whole is ill-formed too or a character that takes more
than one byte.  The invariant behind this is that the numbers an unfinished character can still become
are scalar values beyond ASCII.
-/

namespace CodeRepair.Text

theorem toNat_ofNat_of_isValidChar {n : Nat} (h : n.isValidChar) : (Char.ofNat n).toNat = n := by
  rw [Char.ofNat, dif_pos h]
  rfl

namespace Unfinished

/-- The least number that the missing bytes can complete. -/
def least (unfinished : Unfinished) : Nat :=
  (64 * unfinished.bits + (unfinished.low - 0x80)) * 64 ^ (unfinished.missing - 1)

/-- A bound of the numbers that the missing bytes can complete. -/
def bound (unfinished : Unfinished) : Nat :=
  (64 * unfinished.bits + (unfinished.high - 0x7F)) * 64 ^ (unfinished.missing - 1)

/-- Whatever the missing bytes are, they complete a scalar value beyond ASCII. -/
structure Sound (unfinished : Unfinished) : Prop where
  low : 0x80 ≤ unfinished.low
  least : 0x80 ≤ unfinished.least
  scalar : unfinished.bound ≤ 0xD800 ∨ 0xE000 ≤ unfinished.least ∧ unfinished.bound ≤ 0x110000

/-- The bits after one more byte. -/
def bitsAfter (unfinished : Unfinished) (byte : Nat) : Nat :=
  64 * unfinished.bits + (byte - 0x80)

theorem least_le {unfinished : Unfinished} {byte : Nat} (hlow : unfinished.low ≤ byte) :
    unfinished.least ≤ unfinished.bitsAfter byte * 64 ^ (unfinished.missing - 1) := by
  unfold least bitsAfter
  refine Nat.mul_le_mul_right _ ?_
  omega

theorem le_bound {unfinished : Unfinished} {byte : Nat} (hbyte : 0x80 ≤ byte)
    (hhigh : byte ≤ unfinished.high) :
    (unfinished.bitsAfter byte + 1) * 64 ^ (unfinished.missing - 1) ≤ unfinished.bound := by
  unfold bound bitsAfter
  refine Nat.mul_le_mul_right _ ?_
  omega

/-- A byte that is not the last one leaves a sound character. -/
theorem Sound.next {unfinished : Unfinished} (h : unfinished.Sound) {byte : Nat}
    (hlow : unfinished.low ≤ byte) (hhigh : byte ≤ unfinished.high)
    (hmissing : 1 < unfinished.missing) :
    Sound ⟨unfinished.bitsAfter byte, unfinished.missing - 1, 0x80, 0xBF⟩ := by
  have hpower : 64 ^ (unfinished.missing - 1) = 64 * 64 ^ (unfinished.missing - 1 - 1) := by
    rw [← Nat.pow_succ', Nat.succ_eq_add_one, Nat.sub_add_cancel (by omega)]
  have hleast : unfinished.least ≤
      Unfinished.least ⟨unfinished.bitsAfter byte, unfinished.missing - 1, 0x80, 0xBF⟩ := by
    simp only [Unfinished.least, Nat.sub_self, Nat.add_zero]
    rw [Nat.mul_comm 64 (unfinished.bitsAfter byte), Nat.mul_assoc, ← hpower]
    exact least_le hlow
  have hbound : bound ⟨unfinished.bitsAfter byte, unfinished.missing - 1, 0x80, 0xBF⟩ ≤
      unfinished.bound := by
    simp only [bound, Nat.reduceSub]
    rw [← Nat.mul_add_one, Nat.mul_comm 64 (_ + 1), Nat.mul_assoc, ← hpower]
    exact le_bound (Nat.le_trans h.low hlow) hhigh
  have hscalar := h.scalar
  have hlong := h.least
  exact ⟨Nat.le_refl _, by omega, by omega⟩

/-- The last byte completes a character beyond ASCII. -/
theorem Sound.complete {unfinished : Unfinished} (h : unfinished.Sound) {byte : Nat}
    (hlow : unfinished.low ≤ byte) (hhigh : byte ≤ unfinished.high)
    (hmissing : unfinished.missing ≤ 1) :
    0x80 ≤ (Char.ofNat (unfinished.bitsAfter byte)).toNat := by
  have hpower : 64 ^ (unfinished.missing - 1) = 1 := by
    rw [Nat.sub_eq_zero_of_le hmissing, Nat.pow_zero]
  have hleast := least_le hlow
  have hbound := le_bound (Nat.le_trans h.low hlow) hhigh
  rw [hpower, Nat.mul_one] at hleast hbound
  have hvalid : (unfinished.bitsAfter byte).isValidChar := by
    rcases h.scalar with hscalar | ⟨hscalar, hgreatest⟩
    · exact .inl (by omega)
    · exact .inr ⟨by omega, by omega⟩
  rw [toNat_ofNat_of_isValidChar hvalid]
  exact Nat.le_trans h.least hleast

end Unfinished

namespace Decoding

/-- A byte completes an unfinished character, goes on with it, or does not belong to it. -/
theorem step_cases (units : List (Option Char)) (unfinished : Unfinished) (byte : UInt8) :
    (unfinished.low ≤ byte.toNat ∧ byte.toNat ≤ unfinished.high) ∧
        (unfinished.missing ≤ 1 ∧ step ⟨units, some unfinished⟩ byte =
            emit units (some (Char.ofNat (unfinished.bitsAfter byte.toNat))) ∨
          1 < unfinished.missing ∧ step ⟨units, some unfinished⟩ byte =
            ⟨units, some ⟨unfinished.bitsAfter byte.toNat, unfinished.missing - 1, 0x80, 0xBF⟩⟩) ∨
      ¬(unfinished.low ≤ byte.toNat ∧ byte.toNat ≤ unfinished.high) ∧
        step ⟨units, some unfinished⟩ byte = start (none :: units) byte.toNat := by
  simp only [step, Bool.and_eq_true, decide_eq_true_eq]
  split_ifs with hrange hmissing
  · exact .inl ⟨hrange, .inl ⟨hmissing, rfl⟩⟩
  · exact .inl ⟨hrange, .inr ⟨Nat.lt_of_not_le hmissing, rfl⟩⟩
  · exact .inr ⟨hrange, rfl⟩

/-! ## Units stay -/

/-- A decoder with units before those it has. -/
def behind (units : List (Option Char)) (state : Decoding) : Decoding :=
  ⟨state.units ++ units, state.unfinished⟩

theorem start_behind (units more : List (Option Char)) (byte : Nat) :
    start (more ++ units) byte = behind units (start more byte) := by
  unfold start emit behind
  split_ifs <;> rfl

theorem step_behind (units : List (Option Char)) (state : Decoding) (byte : UInt8) :
    step (behind units state) byte = behind units (step state byte) := by
  obtain ⟨more, _ | unfinished⟩ := state
  · exact start_behind units more _
  · simp only [step, behind]
    split_ifs
    · rfl
    · rfl
    · exact start_behind units (none :: more) _

theorem foldl_behind (units : List (Option Char)) (state : Decoding) (bytes : List UInt8) :
    bytes.foldl step (behind units state) = behind units (bytes.foldl step state) := by
  induction bytes generalizing state with
  | nil => rfl
  | cons byte bytes ih => rw [List.foldl_cons, List.foldl_cons, step_behind, ih]

theorem finish_behind (units : List (Option Char)) (state : Decoding) :
    (behind units state).finish = units.reverse ++ state.finish := by
  obtain ⟨more, _ | unfinished⟩ := state <;> simp [behind, finish]

/-- What is decoded on top of units comes behind them. -/
theorem finish_foldl (units : List (Option Char)) (unfinished : Option Unfinished)
    (bytes : List UInt8) :
    (bytes.foldl step ⟨units, unfinished⟩).finish =
      units.reverse ++ (bytes.foldl step ⟨[], unfinished⟩).finish := by
  rw [← finish_behind, ← foldl_behind]
  rfl

/-! ## Unfinished characters -/

/-- Whether the unfinished character of a decoder, if there is one, is sound. -/
def Sound (state : Decoding) : Prop :=
  ∀ unfinished ∈ state.unfinished, unfinished.Sound

theorem sound_emit (units : List (Option Char)) (unit : Option Char) : (emit units unit).Sound :=
  nofun

theorem sound_unfinished (units : List (Option Char)) {unfinished : Unfinished}
    (h : unfinished.Sound) : Sound ⟨units, some unfinished⟩ := by
  intro other hother
  rwa [← Option.some.inj hother]

theorem sound_start (units : List (Option Char)) (byte : Nat) : (start units byte).Sound := by
  unfold start
  split
  · exact sound_emit units _
  split
  · exact sound_emit units none
  split
  · refine sound_unfinished units ?_
    constructor <;> simp only [Unfinished.least, Unfinished.bound] <;> omega
  split
  · refine sound_unfinished units ?_
    constructor <;> simp only [Unfinished.least, Unfinished.bound] <;> split_ifs <;> omega
  split
  · refine sound_unfinished units ?_
    constructor <;> simp only [Unfinished.least, Unfinished.bound] <;> split_ifs <;> omega
  · exact sound_emit units none

theorem Sound.step {state : Decoding} (h : state.Sound) (byte : UInt8) :
    (state.step byte).Sound := by
  obtain ⟨units, _ | unfinished⟩ := state
  · exact sound_start units _
  · have hunfinished : unfinished.Sound := h unfinished rfl
    rcases step_cases units unfinished byte with
      ⟨hrange, ⟨-, hstep⟩ | ⟨hmissing, hstep⟩⟩ | ⟨-, hstep⟩
    · rw [hstep]
      exact sound_emit units _
    · rw [hstep]
      exact sound_unfinished units (hunfinished.next hrange.1 hrange.2 hmissing)
    · rw [hstep]
      exact sound_start _ _

theorem Sound.foldl {state : Decoding} (h : state.Sound) (bytes : List UInt8) :
    (bytes.foldl Decoding.step state).Sound := by
  induction bytes generalizing state with
  | nil => exact h
  | cons byte bytes ih => exact ih (h.step byte)

theorem sound_run (bytes : List UInt8) : (run bytes).Sound := by
  have hempty : Sound {} := nofun
  exact hempty.foldl bytes

/-- An unfinished character becomes a unit that is ill-formed or beyond ASCII. -/
theorem exists_finish_eq {unfinished : Unfinished} (h : unfinished.Sound) (bytes : List UInt8) :
    ∃ unit more, (bytes.foldl step ⟨[], some unfinished⟩).finish = unit :: more ∧
      ∀ c ∈ unit, 0x80 ≤ Char.toNat c := by
  induction bytes generalizing unfinished with
  | nil => exact ⟨none, [], rfl, nofun⟩
  | cons byte bytes ih =>
    rw [List.foldl_cons]
    rcases step_cases [] unfinished byte with
      ⟨hrange, ⟨hmissing, hstep⟩ | ⟨hmissing, hstep⟩⟩ | ⟨-, hstep⟩
    · rw [hstep]
      refine ⟨_, _, finish_foldl [some _] none bytes, fun c hc ↦ ?_⟩
      rw [← Option.some.inj hc]
      exact h.complete hrange.1 hrange.2 hmissing
    · rw [hstep]
      exact ih (h.next hrange.1 hrange.2 hmissing)
    · -- The byte does not belong to the character, which ends as ill-formed before it.
      have hstart : start [none] byte.toNat = behind [none] (start [] byte.toNat) :=
        start_behind [none] [] _
      rw [hstep, hstart, foldl_behind, finish_behind]
      exact ⟨none, _, rfl, nofun⟩

end Decoding

/-! ## Two parts -/

theorem decodeUnits_append (first second : List UInt8) :
    decodeUnits (first ++ second) = decodeUnits first ++ decodeUnits second ∨
      ∃ units unit more, decodeUnits first = units ++ [none] ∧
        decodeUnits (first ++ second) = units ++ unit :: more ∧ ∀ c ∈ unit, 0x80 ≤ Char.toNat c := by
  have hsound := Decoding.sound_run first
  simp only [decodeUnits]
  rw [Decoding.run, List.foldl_append, ← Decoding.run]
  generalize Decoding.run first = state at hsound ⊢
  obtain ⟨units, _ | unfinished⟩ := state
  · exact .inl (Decoding.finish_foldl units none second)
  · obtain ⟨unit, more, hfinish, hunit⟩ := Decoding.exists_finish_eq (hsound unfinished rfl) second
    refine .inr ⟨units.reverse, unit, more, List.reverse_cons, ?_, hunit⟩
    rw [Decoding.finish_foldl, hfinish]

/-- Bytes in two parts decode to the texts of the parts, unless the cut is inside a character: then a
replacement character ends the text of the first part where the whole has a character beyond ASCII. -/
theorem decodeLenient_append (first second : List UInt8) :
    decodeLenient (first ++ second) = decodeLenient first ++ decodeLenient second ∨
      ∃ text c more, decodeLenient first = text ++ [replacement] ∧
        decodeLenient (first ++ second) = text ++ c :: more ∧ 0x80 ≤ c.toNat := by
  rcases decodeUnits_append first second with hunits | ⟨units, unit, more, hfirst, hboth, hunit⟩
  · left
    rw [decodeLenient, hunits, List.map_append]
    rfl
  · right
    refine ⟨units.map (·.getD replacement), unit.getD replacement, more.map (·.getD replacement),
      ?_, ?_, ?_⟩
    · rw [decodeLenient, hfirst, List.map_append]
      rfl
    · rw [decodeLenient, hboth, List.map_append, List.map_cons]
    · cases unit with
      | none => decide
      | some c => exact hunit c rfl

end CodeRepair.Text
