import CodeRepair.Json.Reader
import CodeRepair.Proofs.Text.Number
import Mathlib.Tactic.Common

/-!
# Numerals of JSON

A numeral is a sign, a whole part, a fraction and a power of ten, each of its own form.  The reader takes a text
for a number if it has these parts, and only then, and reads them up to where a number ends.
-/

namespace CodeRepair.Json

/-! ## The parts of a numeral -/

/-- Digits of ASCII, at least one. -/
structure IsDigits (digits : Text) : Prop where
  ne_nil : digits ≠ []
  isDigit : ∀ c ∈ digits, c.isDigit = true

/-- Digits that begin with a zero only if that is all. -/
structure IsWhole (whole : Text) : Prop extends IsDigits whole where
  zero : whole.head? = some '0' → whole = ['0']

/-- Nothing, or a point with digits behind it. -/
def IsFraction (fraction : Text) : Prop :=
  fraction = [] ∨ ∃ digits, fraction = '.' :: digits ∧ IsDigits digits

/-- Nothing, or a power of ten behind a mark of either case, with or without a sign. -/
def IsPower (power : Text) : Prop :=
  power = [] ∨ ∃ mark sign digits, power = mark :: (sign ++ digits) ∧ (mark = 'e' ∨ mark = 'E') ∧
    (sign = [] ∨ sign = ['+'] ∨ sign = ['-']) ∧ IsDigits digits

/-- A numeral, put together from its parts. -/
def numeral (isNegative : Bool) (whole fraction power : Text) : Text :=
  (if isNegative then ['-'] else []) ++ (whole ++ fraction ++ power)

/-- Whether a text that follows a number leaves the number as it is. -/
def Ends (rest : Text) : Prop :=
  ∀ c ∈ rest.head?, c.isDigit = false ∧ c ≠ '.' ∧ c ≠ 'e' ∧ c ≠ 'E'

theorem ends_nil : Ends [] :=
  nofun

theorem ends_cons {c : Char} (h : c = ',' ∨ c = ']' ∨ c = '}') (rest : Text) : Ends (c :: rest) := by
  intro d hd
  obtain rfl : c = d := by simpa using hd
  rcases h with rfl | rfl | rfl <;> decide

variable {text part rest tail whole fraction power : Text}

/-! ## Reading the parts -/

theorem IsDigits.digits?_append {digits : Text} (h : IsDigits digits)
    (hrest : ∀ c ∈ rest.head?, c.isDigit = false) :
    digits? (digits ++ rest) = some (digits, rest) := by
  rw [digits?, Text.takeWhile_run_append h.isDigit hrest, Text.dropWhile_run_append h.isDigit hrest,
    if_neg]
  rw [List.isEmpty_iff]
  exact h.ne_nil

theorem IsWhole.whole?_append (h : IsWhole whole) (hrest : ∀ c ∈ rest.head?, c.isDigit = false) :
    whole? (whole ++ rest) = some (whole, rest) := by
  obtain ⟨c, digits, rfl⟩ := List.exists_cons_of_ne_nil h.ne_nil
  by_cases hc : c = '0'
  · subst hc
    obtain rfl : digits = [] := (List.cons.inj (h.zero rfl)).2
    have hnext : (rest.head?.map Char.isDigit).getD false = false := by
      cases rest with
      | nil => rfl
      | cons d rest => exact hrest d rfl
    simp [whole?, hnext]
  · have hread := h.toIsDigits.digits?_append hrest
    rw [List.cons_append] at hread ⊢
    rw [whole?.eq_def]
    split
    · next heq => exact absurd (List.cons.inj heq).1 hc
    · exact hread

theorem IsFraction.fraction?_append (h : IsFraction fraction)
    (hrest : ∀ c ∈ rest.head?, c.isDigit = false ∧ c ≠ '.') :
    fraction? (fraction ++ rest) = some (fraction, rest) := by
  rcases h with rfl | ⟨digits, rfl, hdigits⟩
  · rw [List.nil_append, fraction?.eq_def]
    split
    · exact absurd rfl (hrest '.' rfl).2
    · rfl
  · rw [List.cons_append, fraction?, hdigits.digits?_append fun c hc ↦ (hrest c hc).1]
    rfl

theorem IsPower.power?_append (h : IsPower power) (hrest : Ends rest) :
    power? (power ++ rest) = some (power, rest) := by
  rcases h with rfl | ⟨mark, sign, digits, rfl, hmark, hsign, hdigits⟩
  · cases rest with
    | nil => rfl
    | cons c rest =>
      obtain ⟨-, -, he, hE⟩ := hrest c rfl
      simp [power?, he, hE]
  have hread := hdigits.digits?_append fun c hc ↦ (hrest c hc).1
  have hbegins : (mark == 'e' || mark == 'E') = true := by simpa using hmark
  rcases hsign with rfl | rfl | rfl
  · obtain ⟨c, more, rfl⟩ := List.exists_cons_of_ne_nil hdigits.ne_nil
    have hdigit := hdigits.isDigit c List.mem_cons_self
    have hsigned (d : Char) (hd : d.isDigit = false) (after : Text) :
        c :: (more ++ rest) ≠ d :: after := by
      intro heq
      rw [(List.cons.inj heq).1, hd] at hdigit
      cases hdigit
    rw [List.cons_append] at hread
    rw [List.nil_append, List.cons_append, List.cons_append, power?, if_pos hbegins, hread]
    · rfl
    · exact hsigned '+' rfl
    · exact hsigned '-' rfl
  · simp [power?, hbegins, hread]
  · simp [power?, hbegins, hread]

/-- No part begins as the part before it might go on. -/
theorem IsPower.head?_append (h : IsPower power) (hrest : Ends rest) :
    ∀ c ∈ (power ++ rest).head?, c.isDigit = false ∧ c ≠ '.' := by
  intro c hc
  rcases h with rfl | ⟨mark, sign, digits, rfl, hmark, -, -⟩
  · exact ⟨(hrest c hc).1, (hrest c hc).2.1⟩
  · obtain rfl : mark = c := Option.some.inj hc
    rcases hmark with rfl | rfl <;> decide

theorem IsFraction.head?_append (h : IsFraction fraction)
    (hrest : ∀ c ∈ rest.head?, c.isDigit = false) :
    ∀ c ∈ (fraction ++ rest).head?, c.isDigit = false := by
  rcases h with rfl | ⟨digits, rfl, -⟩
  · exact hrest
  · intro c hc
    obtain rfl : '.' = c := Option.some.inj hc
    rfl

/-- The number at the beginning of a text, behind a sign that was read before. -/
def readUnsigned? (sign text : Text) : Option (Text × Text) := do
  let (whole, text) ← whole? text
  let (fraction, text) ← fraction? text
  let (power, text) ← power? text
  return (sign ++ whole ++ fraction ++ power, text)

theorem readNumber?_of_ne {c : Char} (h : c ≠ '-') (text : Text) :
    readNumber? (c :: text) = readUnsigned? [] (c :: text) := by
  unfold readNumber? readUnsigned?
  split
  next sign after heq =>
  split at heq
  · next hc => exact absurd (List.cons.inj hc).1 h
  · obtain ⟨rfl, rfl⟩ := Prod.mk.inj heq
    rfl

section

variable (isNegative : Bool) (hwhole : IsWhole whole) (hfraction : IsFraction fraction)
  (hpower : IsPower power)
include hwhole

/-- A numeral begins with a minus or a digit. -/
theorem exists_numeral_eq_cons (fraction power : Text) :
    ∃ c more, numeral isNegative whole fraction power = c :: more ∧ (c = '-' ∨ c.isDigit = true) := by
  cases isNegative with
  | true => exact ⟨'-', _, rfl, .inl rfl⟩
  | false =>
    obtain ⟨c, digits, rfl⟩ := List.exists_cons_of_ne_nil hwhole.ne_nil
    exact ⟨c, _, rfl, .inr (hwhole.isDigit c List.mem_cons_self)⟩

include hfraction hpower

/-- A numeral is read up to where a number ends. -/
theorem readNumber?_numeral (hrest : Ends rest) :
    readNumber? (numeral isNegative whole fraction power ++ rest) =
      some (numeral isNegative whole fraction power, rest) := by
  have hread (sign : Text) : readUnsigned? sign (whole ++ fraction ++ power ++ rest) =
      some (sign ++ (whole ++ fraction ++ power), rest) := by
    have hends := hpower.head?_append hrest
    have hbehind := hfraction.head?_append fun c hc ↦ (hends c hc).1
    rw [List.append_assoc, List.append_assoc]
    simp [readUnsigned?, hwhole.whole?_append hbehind, hfraction.fraction?_append hends,
      hpower.power?_append hrest]
  cases isNegative with
  | true => exact hread ['-']
  | false =>
    obtain ⟨c, digits, hc⟩ := List.exists_cons_of_ne_nil hwhole.ne_nil
    have hminus : c ≠ '-' := by
      rintro rfl
      have hdigit := hwhole.isDigit '-' (hc ▸ List.mem_cons_self)
      cases hdigit
    have hfirst := hread []
    rw [hc, List.nil_append, List.cons_append, List.cons_append, List.cons_append] at hfirst
    rw [numeral, if_neg Bool.false_ne_true, List.nil_append, hc, List.cons_append, List.cons_append,
      List.cons_append, readNumber?_of_ne hminus, hfirst]

end

/-! ## What is read has the parts -/

theorem isDigits_of_digits? (h : digits? text = some (part, tail)) :
    IsDigits part ∧ text = part ++ tail := by
  simp only [digits?] at h
  split at h
  · cases h
  next hne =>
  obtain ⟨rfl, rfl⟩ := Prod.mk.inj (Option.some.inj h)
  refine ⟨⟨by simpa using hne, fun c hc ↦ ?_⟩, List.takeWhile_append_dropWhile.symm⟩
  exact List.all_eq_true.1 List.all_takeWhile c hc

theorem isWhole_of_whole? (h : whole? text = some (part, tail)) :
    IsWhole part ∧ text = part ++ tail := by
  rw [whole?.eq_def] at h
  split at h
  · split at h
    · cases h
    obtain ⟨rfl, rfl⟩ := Prod.mk.inj (Option.some.inj h)
    exact ⟨⟨⟨by simp, by simp⟩, fun _ ↦ rfl⟩, rfl⟩
  · next hzero =>
    obtain ⟨hdigits, rfl⟩ := isDigits_of_digits? h
    refine ⟨⟨hdigits, fun hhead ↦ ?_⟩, rfl⟩
    obtain ⟨digits, rfl⟩ := List.head?_eq_some_iff.1 hhead
    exact absurd rfl (hzero (digits ++ tail))

theorem isFraction_of_fraction? (h : fraction? text = some (part, tail)) :
    IsFraction part ∧ text = part ++ tail := by
  rw [fraction?.eq_def] at h
  split at h
  · obtain ⟨⟨digits, after⟩, hdigits, heq⟩ := Option.map_eq_some_iff.1 h
    obtain ⟨rfl, rfl⟩ := Prod.mk.inj heq
    obtain ⟨hpart, rfl⟩ := isDigits_of_digits? hdigits
    exact ⟨.inr ⟨digits, rfl, hpart⟩, rfl⟩
  · obtain ⟨rfl, rfl⟩ := Prod.mk.inj (Option.some.inj h)
    exact ⟨.inl rfl, rfl⟩

theorem isPower_of_power? (h : power? text = some (part, tail)) :
    IsPower part ∧ text = part ++ tail := by
  rw [power?.eq_def] at h
  split at h
  · next mark text =>
    split at h
    · next hmark =>
      have hbegins : mark = 'e' ∨ mark = 'E' := by simpa using hmark
      have hpart (sign text : Text) (hsign : sign = [] ∨ sign = ['+'] ∨ sign = ['-'])
          (h : (digits? text).map (fun part ↦ (mark :: (sign ++ part.1), part.2)) =
            some (part, tail)) :
          IsPower part ∧ mark :: (sign ++ text) = part ++ tail := by
        obtain ⟨⟨digits, after⟩, hdigits, heq⟩ := Option.map_eq_some_iff.1 h
        obtain ⟨rfl, rfl⟩ := Prod.mk.inj heq
        obtain ⟨hpart, rfl⟩ := isDigits_of_digits? hdigits
        exact ⟨.inr ⟨mark, sign, digits, rfl, hbegins, hsign, hpart⟩, by simp⟩
      split at h
      · exact hpart ['+'] _ (.inr (.inl rfl)) h
      · exact hpart ['-'] _ (.inr (.inr rfl)) h
      · exact hpart [] _ (.inl rfl) h
    · obtain ⟨rfl, rfl⟩ := Prod.mk.inj (Option.some.inj h)
      exact ⟨.inl rfl, rfl⟩
  · obtain ⟨rfl, rfl⟩ := Prod.mk.inj (Option.some.inj h)
    exact ⟨.inl rfl, rfl⟩

/-- Whether a text is a number, and nothing else. -/
def IsNumeral (written : Text) : Prop :=
  readNumber? written = some (written, [])

theorem isNumeral_of_parts (isNegative : Bool) (hwhole : IsWhole whole)
    (hfraction : IsFraction fraction) (hpower : IsPower power) :
    IsNumeral (numeral isNegative whole fraction power) := by
  have hread := readNumber?_numeral isNegative hwhole hfraction hpower ends_nil
  rwa [List.append_nil] at hread

/-- A number has the parts of a numeral. -/
theorem IsNumeral.exists_parts {written : Text} (h : IsNumeral written) :
    ∃ isNegative whole fraction power, IsWhole whole ∧ IsFraction fraction ∧ IsPower power ∧
      written = numeral isNegative whole fraction power := by
  have hunsigned {sign text : Text} (h : readUnsigned? sign text = some (sign ++ text, [])) :
      ∃ whole fraction power, IsWhole whole ∧ IsFraction fraction ∧ IsPower power ∧
        text = whole ++ fraction ++ power := by
    obtain ⟨⟨whole, afterWhole⟩, hreadWhole, h⟩ := Option.bind_eq_some_iff.1 h
    obtain ⟨⟨fraction, afterFraction⟩, hreadFraction, h⟩ := Option.bind_eq_some_iff.1 h
    obtain ⟨⟨power, afterPower⟩, hreadPower, h⟩ := Option.bind_eq_some_iff.1 h
    obtain ⟨-, rfl⟩ := Prod.mk.inj (Option.some.inj h)
    obtain ⟨hwhole, rfl⟩ := isWhole_of_whole? hreadWhole
    obtain ⟨hfraction, rfl⟩ := isFraction_of_fraction? hreadFraction
    obtain ⟨hpower, rfl⟩ := isPower_of_power? hreadPower
    exact ⟨whole, fraction, power, hwhole, hfraction, hpower, by simp⟩
  cases written with
  | nil => cases h
  | cons c text =>
    by_cases hminus : c = '-'
    · subst hminus
      obtain ⟨whole, fraction, power, hwhole, hfraction, hpower, rfl⟩ := @hunsigned ['-'] text h
      exact ⟨true, whole, fraction, power, hwhole, hfraction, hpower, rfl⟩
    · rw [IsNumeral, readNumber?_of_ne hminus] at h
      obtain ⟨whole, fraction, power, hwhole, hfraction, hpower, htext⟩ := @hunsigned [] _ h
      exact ⟨false, whole, fraction, power, hwhole, hfraction, hpower, htext⟩

/-! ## Numbers in decimal digits -/

theorem isDigits_ofNat (n : Nat) : IsDigits (Text.ofNat n) :=
  ⟨Text.ofNat_ne_nil n, fun _ ↦ Text.isDigit_of_mem_digits⟩

theorem isNumeral_ofNat (n : Nat) : IsNumeral (Text.ofNat n) := by
  obtain ⟨c, text, hn, -, hzero⟩ := Text.exists_ofNat_eq_cons n
  have hwhole : IsWhole (Text.ofNat n) := by
    refine ⟨isDigits_ofNat n, fun hhead ↦ ?_⟩
    rw [hn] at hhead ⊢
    obtain rfl : c = '0' := Option.some.inj hhead
    rw [hzero rfl]
  have hparts := isNumeral_of_parts false hwhole (.inl rfl) (.inl rfl)
  simpa [numeral] using hparts

end CodeRepair.Json
