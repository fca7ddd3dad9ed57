import CodeRepair.Proofs.Toml.Quoted
import CodeRepair.Toml.Reader
import Mathlib.Data.List.Basic
import Mathlib.Data.List.TakeWhile

/-!
# Values at the end of a line

A string ends with its marks, and a word ends before the first character that no word holds.  So
either is read back when the line ends behind it, and a string also from an array.  The digits of a
natural number are no date and no time, and they denote that number.
-/

namespace CodeRepair.Toml

variable {text written rest : Text} {value : Toml}

/-! ## Strings -/

theorem exists_quote_eq_cons (text : Text) :
    ∃ mark rest, quote text = mark :: rest ∧ (mark = '"' ∨ mark = '\x27') := by
  unfold quote
  cases Form.ofText text with
  | basic | basicLines => exact ⟨_, _, rfl, .inl rfl⟩
  | literal | literalLines => exact ⟨_, _, rfl, .inr rfl⟩

theorem readValue?_quote (fuel depth : Nat) (text : Text) (hquote : rest.head? ≠ some '"')
    (hapostrophe : rest.head? ≠ some '\x27') :
    readValue? (fuel + 1) depth (quote text ++ rest) = some (.string text, rest) := by
  have hread := readText?_quote text hquote hapostrophe
  obtain ⟨mark, tail, hq, rfl | rfl⟩ := exists_quote_eq_cons text <;>
  · rw [hq, List.cons_append] at hread ⊢
    rw [readValue?, hread, Option.map_some]

/-! ## Words -/

/-- Whether a text is a word without marks of strings. -/
def IsWord (written : Text) : Prop :=
  ∀ c ∈ written, isWordCharacter c = true ∧ c ≠ '"' ∧ c ≠ '\x27'

theorem IsWord.splitWord (h : IsWord written) (rest : Text) :
    splitWord (written ++ '\n' :: rest) = (written, '\n' :: rest) := by
  have hword (c : Char) (hc : c ∈ written) : isWordCharacter c = true := (h c hc).1
  have htake : (written ++ '\n' :: rest).takeWhile isWordCharacter = written := by
    simp [List.takeWhile_append_of_pos hword, isWordCharacter]
  have hdrop : (written ++ '\n' :: rest).dropWhile isWordCharacter = '\n' :: rest := by
    simp [List.dropWhile_append_of_pos hword, isWordCharacter]
  simp [Toml.splitWord, htake, hdrop]

theorem IsWord.readValue? (h : IsWord written) (hvalue : word? written = some value)
    (fuel depth : Nat) (rest : Text) :
    readValue? (fuel + 1) depth (written ++ '\n' :: rest) = some (value, '\n' :: rest) := by
  have hread : readWord? (written ++ '\n' :: rest) = some (value, '\n' :: rest) := by
    rw [readWord?, h.splitWord, hvalue, Option.map_some]
  cases written with
  | nil => exact hread
  | cons c written =>
    obtain ⟨hword, hquote, hapostrophe⟩ := h c List.mem_cons_self
    have hne (mark : Char) (hmark : mark = '"' ∨ mark = '\x27' ∨ isWordCharacter mark = false)
        (more : Text) : c :: (written ++ '\n' :: rest) ≠ mark :: more := by
      intro heq
      obtain ⟨rfl, -⟩ := List.cons.inj heq
      rcases hmark with rfl | rfl | hmark
      · exact hquote rfl
      · exact hapostrophe rfl
      · rw [hword] at hmark
        cases hmark
    rw [List.cons_append] at hread ⊢
    rw [Toml.readValue?]
    · exact hread
    · exact hne _ (by decide)
    · exact hne _ (by decide)
    · exact hne _ (by decide)
    · exact hne _ (by decide)

/-! ## Natural numbers -/

/-- What is true of the ten digits is true of every digit. -/
theorem of_isDigit {p : Char → Bool} (hp : "0123456789".toList.all p = true) {c : Char}
    (h : c.isDigit = true) : p c = true := by
  have hrange : 48 ≤ c.toNat ∧ c.toNat < 58 := by
    simp only [Char.isDigit, Bool.and_eq_true, decide_eq_true_eq] at h
    exact ⟨h.1, Nat.lt_succ_of_le h.2⟩
  have hall : ∀ n < 58, 48 ≤ n → Char.ofNat n ∈ "0123456789".toList := by decide +kernel
  have hmem : c ∈ "0123456789".toList := by
    rw [← Char.ofNat_toNat c]
    exact hall _ hrange.2 hrange.1
  exact List.all_eq_true.mp hp c hmem

theorem isWord_of_isDigit (h : ∀ c ∈ written, c.isDigit = true) : IsWord written := by
  intro c hc
  have hword := of_isDigit (p := fun c ↦ isWordCharacter c && c != '"' && c != '\x27') (by decide)
    (h c hc)
  simpa [and_assoc] using hword

/-- The digits of a number denote it. -/
theorem ofDigits_ofNat (n : Nat) : ofDigits 10 (Text.ofNat n) = n := by
  have hvalue {c : Char} (hc : c.isDigit = true) : (Json.hexValue? c).getD 0 = c.toNat - 0x30 :=
    of_decide_eq_true (of_isDigit (p := fun c ↦ (Json.hexValue? c).getD 0 = c.toNat - 0x30)
      (by decide) hc)
  have hread := Text.asciiNumber?_ofNat n
  rw [Text.asciiNumber?, if_pos (Text.all_isDigit_ofNat n), Option.some_inj] at hread
  refine Eq.trans (List.foldl_ext _ _ _ fun m c hc ↦ ?_) hread
  rw [hvalue (Text.isDigit_of_mem_digits hc)]

/-- A field of a date or a time ends with its digits. -/
theorem field?_append (h : ∀ c ∈ text, c.isDigit = true) (hrest : ∀ c ∈ rest.head?, c.isDigit = false)
    (width : Nat) :
    field? width (text ++ rest) =
      if text.length = width then some (ofDigits 10 text, rest) else none := by
  simp only [field?, Text.takeWhile_run_append h hrest]
  split
  · next hlength => rw [← hlength, List.drop_left]
  · rfl

section

variable (h : ∀ c ∈ text, c.isDigit = true)
include h

theorem field?_of_isDigit (width : Nat) :
    field? width text = if text.length = width then some (ofDigits 10 text, []) else none := by
  have happend := @field?_append text [] h nofun width
  rwa [List.append_nil] at happend

theorem date?_of_isDigit : date? text = none := by
  simp only [date?, field?_of_isDigit h]
  split <;> rfl

theorem time?_of_isDigit : time? text = none := by
  simp only [time?, field?_of_isDigit h]
  split <;> rfl

theorem isMoment_of_isDigit : isMoment text = false := by
  simp [isMoment, date?_of_isDigit h, time?_of_isDigit h]

end

theorem sign_ofNat (n : Nat) : sign (Text.ofNat n) = ([], Text.ofNat n) := by
  obtain ⟨c, text, hn, hdigit, -⟩ := Text.exists_ofNat_eq_cons n
  rw [hn]
  unfold sign
  split
  · next heq =>
    obtain ⟨rfl, -⟩ := List.cons.inj heq
    cases hdigit
  · next heq =>
    obtain ⟨rfl, -⟩ := List.cons.inj heq
    cases hdigit
  · rfl

theorem integerOf_ofNat (n : Nat) : integerOf 10 (Text.ofNat n) = .integer n := by
  have hall : (Text.ofNat n).all (isDigitOf 10) = true :=
    List.all_eq_true.mpr fun c hc ↦ of_isDigit (by decide) (Text.isDigit_of_mem_digits hc)
  simp [integerOf, sign_ofNat, hall, Text.ofNat_ne_nil, ofDigits_ofNat]

theorem decimal?_ofNat (n : Nat) : decimal? (Text.ofNat n) = some (.integer n) := by
  obtain ⟨c, text, hn, hdigit, hzero⟩ := Text.exists_ofNat_eq_cons n
  have hrest : (Text.ofNat n).dropWhile Char.isDigit = [] := by
    rw [← List.append_nil (Text.ofNat n)]
    exact Text.dropWhile_ofNat_append n nofun
  have hlead : ¬ ((Text.ofNat n).head? = some '0' ∧ 1 < (Text.ofNat n).length) := by
    rintro ⟨hhead, hlength⟩
    rw [hn] at hhead hlength
    simp [hzero (Option.some.inj hhead)] at hlength
  have hplain : '_' ∉ Text.ofNat n := fun hmem ↦ by cases Text.isDigit_of_mem_digits hmem
  have hgroups : ungrouped? (isDigitOf 16) (Text.ofNat n) = some (Text.ofNat n) := by
    rw [ungrouped?, Text.pieces_of_not_mem hplain]
  simp [decimal?, sign_ofNat, hrest, hlead, hgroups, Text.ofNat_ne_nil, integerOf_ofNat]

theorem mem_of_mem_sign {c : Char} (h : c ∈ (sign text).2) : c ∈ text := by
  unfold sign at h
  split at h
  · exact List.mem_cons_of_mem _ h
  · exact List.mem_cons_of_mem _ h
  · exact h

theorem not_letter_of_isDigit {c : Char} (h : c.isDigit = true) : c ∉ "tfinxob".toList :=
  of_decide_eq_true (of_isDigit (p := fun c ↦ c ∉ "tfinxob".toList) (by decide) h)

/-- A word without letters of the names and the bases is a decimal number, unless it is a date or a time. -/
theorem word?_eq_decimal? (hletters : ∀ c ∈ text, c ∉ "tfinxob".toList) (hmoment : isMoment text = false) :
    word? text = decimal? text := by
  have hne {inside other : Text} (hinside : ∀ c ∈ inside, c ∈ text) {c : Char}
      (hc : c ∈ "tfinxob".toList) (hother : c ∈ other) : inside ≠ other := by
    rintro rfl
    exact hletters c (hinside c hother) hc
  have hself : ∀ c ∈ text, c ∈ text := fun _ ↦ id
  have hunsigned : ∀ c ∈ (sign text).2, c ∈ text := fun _ ↦ mem_of_mem_sign
  have htrue : text ≠ "true".toList := hne hself (by decide : 't' ∈ _) (by decide)
  have hfalse : text ≠ "false".toList := hne hself (by decide : 'f' ∈ _) (by decide)
  have hinf : (sign text).2 ≠ "inf".toList := hne hunsigned (by decide : 'i' ∈ _) (by decide)
  have hnan : (sign text).2 ≠ "nan".toList := hne hunsigned (by decide : 'n' ∈ _) (by decide)
  have hbase (letter : Char) (hletter : letter ∈ "tfinxob".toList) (digits : Text) :
      text ≠ '0' :: letter :: digits :=
    hne hself hletter (List.mem_cons_of_mem _ List.mem_cons_self)
  unfold word?
  rw [if_neg htrue, if_neg hfalse, if_neg hinf, if_neg hnan, hmoment, if_neg Bool.false_ne_true]
  split
  · exact absurd rfl (hbase 'x' (by decide) _)
  · exact absurd rfl (hbase 'o' (by decide) _)
  · exact absurd rfl (hbase 'b' (by decide) _)
  · rfl

/-- A natural number in decimal digits is read back. -/
theorem word?_ofNat (n : Nat) : word? (Text.ofNat n) = some (.integer n) := by
  have hletters : ∀ c ∈ Text.ofNat n, c ∉ "tfinxob".toList := fun c hc ↦
    not_letter_of_isDigit (Text.isDigit_of_mem_digits hc)
  rw [word?_eq_decimal? hletters (isMoment_of_isDigit fun _ ↦ Text.isDigit_of_mem_digits), decimal?_ofNat]

/-! ## Ends of lines -/

/-- The value is read back from the end of a line. -/
structure EndsLine (written : Text) (value : Toml) : Prop where
  spaceless : ∀ c ∈ written.head?, isSpace c = false
  read : ∀ fuel rest, written.length < fuel →
    readValue? fuel 0 (written ++ '\n' :: rest) = some (value, '\n' :: rest)

theorem IsWord.endsLine (h : IsWord written) (hvalue : word? written = some value) :
    EndsLine written value := by
  refine ⟨fun c hc ↦ ?_, fun fuel rest hfuel ↦ ?_⟩
  · have hword := (h c (List.mem_of_mem_head? hc)).1
    cases hspace : isSpace c with
    | false => rfl
    | true => simp [isWordCharacter, hspace] at hword
  · obtain ⟨fuel, rfl⟩ := Nat.exists_eq_add_one_of_ne_zero (Nat.ne_zero_of_lt hfuel)
    exact h.readValue? hvalue fuel 0 rest

theorem endsLine_ofNat (n : Nat) : EndsLine (Text.ofNat n) (.integer n) :=
  (isWord_of_isDigit fun _ ↦ Text.isDigit_of_mem_digits).endsLine (word?_ofNat n)

theorem endsLine_quote (text : Text) : EndsLine (quote text) (.string text) := by
  refine ⟨?_, fun fuel rest hfuel ↦ ?_⟩
  · obtain ⟨mark, tail, hquote, rfl | rfl⟩ := exists_quote_eq_cons text <;>
    · rw [hquote]
      rintro c hc
      cases hc
      rfl
  · obtain ⟨fuel, rfl⟩ := Nat.exists_eq_add_one_of_ne_zero (Nat.ne_zero_of_lt hfuel)
    exact readValue?_quote fuel 0 text (by simp) (by simp)

/-! ## Texts in an array -/

theorem skipLines?_quote (text rest : Text) :
    skipLines? false (quote text ++ rest) = some (quote text ++ rest) := by
  obtain ⟨mark, tail, hquote, rfl | rfl⟩ := exists_quote_eq_cons text <;>
  · rw [hquote]
    rfl

theorem quote_append_ne_bracket (text rest more : Text) : quote text ++ rest ≠ ']' :: more := by
  obtain ⟨mark, tail, hquote, rfl | rfl⟩ := exists_quote_eq_cons text <;>
  · rw [hquote]
    exact fun heq ↦ absurd (List.cons.inj heq).1 (by decide)

section

variable {fuel depth : Nat} {before : List Toml}

theorem readItems?_of_comma (h : skipLines? false written = some (quote text ++ ',' :: rest)) :
    readItems? (fuel + 2) depth before written =
      readItems? (fuel + 1) depth (.string text :: before) rest := by
  have hread : readValue? (fuel + 1) depth (quote text ++ ',' :: rest) =
      some (.string text, ',' :: rest) :=
    readValue?_quote fuel depth text (by simp) (by simp)
  rw [readItems?, h]
  split
  · next heq => cases heq
  · next heq => exact absurd (Option.some.inj heq) (quote_append_ne_bracket text _ _)
  · next heq =>
    rw [← Option.some.inj heq, hread]
    rfl

theorem readItems?_of_bracket (h : skipLines? false written = some (quote text ++ ']' :: rest)) :
    readItems? (fuel + 2) depth before written =
      some (.array (before.reverse ++ [.string text]), rest) := by
  have hread : readValue? (fuel + 1) depth (quote text ++ ']' :: rest) =
      some (.string text, ']' :: rest) :=
    readValue?_quote fuel depth text (by simp) (by simp)
  rw [readItems?, h, ← List.reverse_cons]
  split
  · next heq => cases heq
  · next heq => exact absurd (Option.some.inj heq) (quote_append_ne_bracket text _ _)
  · next heq =>
    rw [← Option.some.inj heq, hread]
    rfl

end

/-! ## Bounds -/

theorem areBounded_strings (texts : List Text) : areBounded (texts.map .string) = true := by
  induction texts with
  | nil => rfl
  | cons text texts ih => simp [areBounded, isBounded, ih]

theorem isBounded_toNat (n : UInt64) : (Toml.integer n.toNat).isBounded = true := by
  have := n.toNat_lt
  simp [isBounded]
  omega

end CodeRepair.Toml
