import CodeRepair.Proofs.Text.Number
import CodeRepair.Toml.Quoted
import CodeRepair.Toml.Unquoted

/-!
# Strings are read back

Whatever characters a text holds, it is written in one of the four forms of a string, and reading
gives the text back together with what follows.  What follows may be anything but another mark,
which the reader would count among the closing ones.
-/

namespace CodeRepair.Toml

/-! ## Characters -/

/-- A character that stands for itself between quotation marks. -/
structure IsOrdinary (lines : Bool) (c : Char) : Prop where
  ne_quote : c ≠ '"'
  ne_backslash : c ≠ '\\'
  ne_return : c ≠ '\r'
  control : isControl c = false ∨ lines = true ∧ c = '\n'

theorem scalar?_hexDigits : ∀ n < 0x80, scalar? (hexDigits n) = some (Char.ofNat n) := by
  decide +kernel

theorem lt_of_isControl {c : Char} (h : isControl c = true) : c.toNat < 0x80 := by
  simp only [isControl, Bool.or_eq_true, Bool.and_eq_true, decide_eq_true_eq, beq_iff_eq] at h
  omega

/-- A character but the quotation mark is written as a backslash and a letter, as a backslash and
its number, or as itself. -/
theorem escape_cases (lines : Bool) {c : Char} (hc : c ≠ '"') :
    (∃ letter, escape lines c = ['\\', letter] ∧ letter ∉ ['x', 'u', 'U'] ∧
      unescape? letter = some c) ∨
    (escape lines c = '\\' :: 'u' :: hexDigits c.toNat ∧ scalar? (hexDigits c.toNat) = some c) ∨
    (escape lines c = [c] ∧ IsOrdinary lines c) := by
  have hletter (d letter : Char) (he : escape lines d = ['\\', letter])
      (hletter : letter ∉ ['x', 'u', 'U']) (hd : unescape? letter = some d) :
      ∃ letter, escape lines d = ['\\', letter] ∧ letter ∉ ['x', 'u', 'U'] ∧
        unescape? letter = some d :=
    ⟨letter, he, hletter, hd⟩
  by_cases hnamed : c ∈ ['\\', '\t', '\r', '\x08', '\x0C']
  · left
    simp only [List.mem_cons, List.not_mem_nil, or_false] at hnamed
    rcases hnamed with rfl | rfl | rfl | rfl | rfl <;> exact hletter _ _ rfl (by decide) rfl
  by_cases hfeed : c = '\n'
  · subst hfeed
    cases lines with
    | false => exact .inl (hletter _ _ rfl (by decide) rfl)
    | true => exact .inr (.inr ⟨rfl, by decide, by decide, by decide, .inr ⟨rfl, rfl⟩⟩)
  right
  simp only [List.mem_cons, List.not_mem_nil, or_false, not_or] at hnamed
  obtain ⟨hback, htab, hreturn, hbell, hform⟩ := hnamed
  have hbell' : c.toNat ≠ 0x08 := fun h ↦ hbell (Char.toNat_inj.mp h)
  have hform' : c.toNat ≠ 0x0C := fun h ↦ hform (Char.toNat_inj.mp h)
  cases hcontrol : isControl c with
  | true =>
    left
    refine ⟨by simp [escape, hback, hfeed, htab, hreturn, hbell', hform', hcontrol], ?_⟩
    rw [scalar?_hexDigits _ (lt_of_isControl hcontrol), Char.ofNat_toNat]
  | false =>
    right
    exact ⟨by simp [escape, hback, hfeed, htab, hreturn, hbell', hform', hcontrol],
      hc, hback, hreturn, .inl hcontrol⟩

/-! ## Between quotation marks -/

/-- With fuel for every character, the string up to its end and the text after it are read. -/
def Unquotes (lines : Bool) (before text : Text) (read : Text × Text) : Prop :=
  ∀ fuel, text.length < fuel → unquote? lines fuel before text = some read

namespace Unquotes

-- the patterns of the reader are long: its equations are made here, before the proofs that unfold it
attribute [local simp] unquote?

variable {lines : Bool} {before text rest : Text} {read : Text × Text} {c : Char}

theorem close (before rest : Text) :
    Unquotes false before ('"' :: rest) (before.reverse, rest) := by
  intro fuel hfuel
  obtain ⟨fuel, rfl⟩ := Nat.exists_eq_add_one_of_ne_zero (Nat.ne_zero_of_lt hfuel)
  simp

theorem cons (hc : IsOrdinary lines c) (h : Unquotes lines (c :: before) text read) :
    Unquotes lines before (c :: text) read := by
  intro fuel hfuel
  obtain ⟨fuel, rfl⟩ := Nat.exists_eq_add_one_of_ne_zero (Nat.ne_zero_of_lt hfuel)
  have hread := h fuel (by simpa using hfuel)
  have hplain : (c == '\\' || (isControl c && !(lines && c == '\n'))) = false := by
    rcases hc.control with hcontrol | ⟨rfl, rfl⟩
    · simp [hc.ne_backslash, hcontrol]
    · decide
  have := hc.ne_quote
  have := hc.ne_backslash
  have := hc.ne_return
  rw [unquote?.eq_def]
  grind

theorem letter {letter : Char} (hletter : letter ∉ ['x', 'u', 'U']) (hc : unescape? letter = some c)
    (h : Unquotes lines (c :: before) text read) :
    Unquotes lines before ('\\' :: letter :: text) read := by
  intro fuel hfuel
  obtain ⟨fuel, rfl⟩ := Nat.exists_eq_add_one_of_ne_zero (Nat.ne_zero_of_lt hfuel)
  have hread := h fuel (by simp only [List.length_cons] at hfuel; omega)
  simp only [List.mem_cons, List.not_mem_nil, or_false, not_or] at hletter
  rw [unquote?.eq_def]
  grind

theorem number {n : Nat} (hc : scalar? (hexDigits n) = some c)
    (h : Unquotes lines (c :: before) text read) :
    Unquotes lines before ('\\' :: 'u' :: hexDigits n ++ text) read := by
  intro fuel hfuel
  obtain ⟨fuel, rfl⟩ := Nat.exists_eq_add_one_of_ne_zero (Nat.ne_zero_of_lt hfuel)
  have hread := h fuel (by
    simp only [List.cons_append, List.length_cons, List.length_append] at hfuel
    omega)
  simp only [hexDigits, Json.hexDigits, List.map_cons, List.map_nil, List.cons_append,
    List.nil_append] at hc ⊢
  rw [unquote?]
  simp only [hc, Option.bind_some, hread]

/-- What is written for a character is read back as that character. -/
theorem escape (hc : c ≠ '"') (h : Unquotes lines (c :: before) text read) :
    Unquotes lines before (Toml.escape lines c ++ text) read := by
  rcases escape_cases lines hc with ⟨letter, he, hletter, hread⟩ | ⟨he, hread⟩ | ⟨he, hplain⟩
  · rw [he]
    exact .letter hletter hread h
  · rw [he]
    exact .number hread h
  · rw [he]
    exact .cons hplain h

/-- Between single marks every quotation mark in the text has an escape. -/
theorem escapeAll (text : Text) (before rest : Text) (run : Nat) :
    Unquotes false before (Toml.escapeAll false 0 run text ++ '"' :: rest)
      (before.reverse ++ text, rest) := by
  induction text generalizing before run with
  | nil => simpa [Toml.escapeAll] using close before rest
  | cons c text ih =>
    have hnext := ih (c :: before) 0
    rw [List.reverse_cons, List.append_assoc, List.singleton_append] at hnext
    by_cases hc : c = '"'
    · subst hc
      exact .letter (by decide) rfl hnext
    · rw [Toml.escapeAll, if_neg hc, List.append_assoc]
      exact .escape hc hnext

/-! ### Runs of quotation marks -/

/-- A quotation mark that is not the first of three is part of the string. -/
theorem mark (hmarks : ∀ more, text ≠ '"' :: '"' :: more)
    (h : Unquotes true ('"' :: before) text read) : Unquotes true before ('"' :: text) read := by
  intro fuel hfuel
  obtain ⟨fuel, rfl⟩ := Nat.exists_eq_add_one_of_ne_zero (Nat.ne_zero_of_lt hfuel)
  have hread := h fuel (by simpa using hfuel)
  rw [unquote?, if_pos rfl]
  · exact hread
  · exact fun _ ↦ hmarks _
  · exact fun _ ↦ hmarks _
  · exact fun _ ↦ hmarks _

theorem run {n : Nat} (hn : n ≤ 2) (htext : text.head? ≠ some '"')
    (h : Unquotes true (List.replicate n '"' ++ before) text read) :
    Unquotes true before (List.replicate n '"' ++ text) read := by
  have hne (more : Text) : text ≠ '"' :: more := by
    rintro rfl
    exact htext rfl
  match n, hn with
  | 0, _ => exact h
  | 1, _ => exact mark (fun _ ↦ hne _) h
  | 2, _ =>
    refine mark (fun more heq ↦ hne more (List.cons.inj heq).2) ?_
    exact mark (fun _ ↦ hne _) h

/-- The last three of at most five quotation marks are the closing ones. -/
theorem closeLines {n : Nat} (hn : n ≤ 2) (hrest : rest.head? ≠ some '"') (before : Text) :
    Unquotes true before (List.replicate n '"' ++ '"' :: '"' :: '"' :: rest)
      (before.reverse ++ List.replicate n '"', rest) := by
  intro fuel hfuel
  obtain ⟨fuel, rfl⟩ := Nat.exists_eq_add_one_of_ne_zero (Nat.ne_zero_of_lt hfuel)
  have hne (more : Text) : rest ≠ '"' :: more := by
    rintro rfl
    exact hrest rfl
  match n, hn with
  | 0, _ | 1, _ | 2, _ => simp [List.replicate, hne]

theorem head?_escape (lines : Bool) (hc : c ≠ '"') (text : Text) :
    (Toml.escape lines c ++ text).head? ≠ some '"' := by
  rcases escape_cases lines hc with ⟨letter, he, -⟩ | ⟨he, -⟩ | ⟨he, -⟩ <;> simp [he, hc]

/-- Between three marks each the marks in the text are read back, of which at most two stand side by
side without an escape. -/
theorem escapeAllLines (hrest : rest.head? ≠ some '"') (text before : Text) {n : Nat} (hn : n ≤ 2) :
    Unquotes true before
      (List.replicate n '"' ++ (Toml.escapeAll true 2 n text ++ '"' :: '"' :: '"' :: rest))
      (before.reverse ++ (List.replicate n '"' ++ text), rest) := by
  -- the marks read so far wait in front of the text until their run ends
  induction text generalizing before n with
  | nil => simpa [Toml.escapeAll] using closeLines hn hrest before
  | cons c text ih =>
    by_cases hc : c = '"'
    · subst hc
      by_cases hmore : n < 2
      · have hnext := ih before hmore
        rw [List.replicate_succ', List.append_assoc, List.append_assoc] at hnext
        rw [Toml.escapeAll, if_pos rfl, if_pos hmore]
        exact hnext
      · have hnext := ih ('"' :: (List.replicate n '"' ++ before)) (Nat.zero_le 2)
        rw [Toml.escapeAll, if_pos rfl, if_neg hmore]
        refine run hn (by simp) (.letter (by decide) rfl ?_)
        simpa using hnext
    · have hnext := ih (c :: (List.replicate n '"' ++ before)) (Nat.zero_le 2)
      rw [Toml.escapeAll, if_neg hc, List.append_assoc]
      refine run hn (head?_escape true hc _) (.escape hc ?_)
      simpa using hnext

end Unquotes

/-! ## Between apostrophes -/

section

attribute [local simp] literal? literalLines?

theorem literal?_append {text : Text} (h : ∀ c ∈ text, c ≠ '\x27' ∧ isControl c = false)
    (before rest : Text) :
    literal? before (text ++ '\x27' :: rest) = some (before.reverse ++ text, rest) := by
  induction text generalizing before with
  | nil => simp
  | cons c text ih =>
    rw [List.forall_mem_cons] at h
    have hnext := ih h.2 (c :: before)
    rw [List.cons_append, literal?.eq_def]
    grind

/-! ### Runs of apostrophes -/

/-- The length of the longest run of a character behind a text in which the longest run and the last
one are known. -/
def runFrom (sought : Char) (longest current : Nat) (text : Text) : Nat :=
  (text.foldl (fun (longest, current) c ↦
    if c = sought then (max longest (current + 1), current + 1) else (longest, 0))
    ((longest, current) : Nat × Nat)).1

section

variable {sought c : Char} {longest current : Nat} {text : Text}

theorem runFrom_cons_self :
    runFrom sought longest current (sought :: text) =
      runFrom sought (max longest (current + 1)) (current + 1) text := by
  simp [runFrom]

theorem runFrom_cons_of_ne (hc : c ≠ sought) :
    runFrom sought longest current (c :: text) = runFrom sought longest 0 text := by
  simp [runFrom, hc]

theorem le_runFrom : longest ≤ runFrom sought longest current text := by
  induction text generalizing longest current with
  | nil => exact Nat.le_refl longest
  | cons c text ih =>
    by_cases hc : c = sought
    · rw [hc, runFrom_cons_self]
      exact Nat.le_trans (Nat.le_max_left ..) ih
    · rw [runFrom_cons_of_ne hc]
      exact ih

theorem lt_of_runFrom_cons_self {bound : Nat}
    (h : runFrom sought longest current (sought :: text) ≤ bound) : current < bound := by
  rw [runFrom_cons_self] at h
  exact Nat.le_trans (Nat.le_max_right ..) (Nat.le_trans le_runFrom h)

end

section

variable {before text rest : Text} {c : Char}

/-- An apostrophe that is not the first of three is part of the string, and so is every other
character that needs no escape. -/
theorem literalLines?_cons (hc : needsEscape c = false)
    (hmarks : c = '\x27' → ∀ more, text ≠ '\x27' :: '\x27' :: more) :
    literalLines? before (c :: text) = literalLines? (c :: before) text := by
  have hreturn : c ≠ '\r' := by
    rintro rfl
    cases hc
  rw [literalLines?.eq_def]
  grind [needsEscape]

theorem literalLines?_run {n : Nat} (hn : n ≤ 2) (htext : text.head? ≠ some '\x27') :
    literalLines? before (List.replicate n '\x27' ++ text) =
      literalLines? (List.replicate n '\x27' ++ before) text := by
  have hne (more : Text) : text ≠ '\x27' :: more := by
    rintro rfl
    exact htext rfl
  match n, hn with
  | 0, _ => rfl
  | 1, _ => exact literalLines?_cons (by decide) fun _ _ ↦ hne _
  | 2, _ =>
    refine (literalLines?_cons (by decide) fun _ more heq ↦ ?_).trans
      (literalLines?_cons (by decide) fun _ _ ↦ hne _)
    exact hne more (List.cons.inj heq).2

/-- The last three of at most five apostrophes are the closing ones. -/
theorem literalLines?_close {n : Nat} (hn : n ≤ 2) (hrest : rest.head? ≠ some '\x27') :
    literalLines? before (List.replicate n '\x27' ++ '\x27' :: '\x27' :: '\x27' :: rest) =
      some (before.reverse ++ List.replicate n '\x27', rest) := by
  have hne (more : Text) : rest ≠ '\x27' :: more := by
    rintro rfl
    exact hrest rfl
  match n, hn with
  | 0, _ | 1, _ | 2, _ => simp [List.replicate, hne]

theorem literalLines?_append (hrest : rest.head? ≠ some '\x27')
    (hplain : ∀ c ∈ text, needsEscape c = false) {n longest : Nat} (hn : n ≤ 2)
    (hrun : runFrom '\x27' longest n text ≤ 2) :
    literalLines? before
        (List.replicate n '\x27' ++ (text ++ '\x27' :: '\x27' :: '\x27' :: rest)) =
      some (before.reverse ++ (List.replicate n '\x27' ++ text), rest) := by
  induction text generalizing before n longest with
  | nil => simpa using literalLines?_close hn hrest
  | cons c text ih =>
    rw [List.forall_mem_cons] at hplain
    by_cases hc : c = '\x27'
    · subst hc
      have hnext := @ih before hplain.2 _ _ (lt_of_runFrom_cons_self hrun)
        (runFrom_cons_self ▸ hrun)
      rw [List.replicate_succ', List.append_assoc, List.append_assoc] at hnext
      exact hnext
    · have hnext := @ih (c :: (List.replicate n '\x27' ++ before)) hplain.2 0 _ (Nat.zero_le 2)
        (runFrom_cons_of_ne hc ▸ hrun)
      rw [List.cons_append, literalLines?_run hn (by simpa using hc),
        literalLines?_cons hplain.1 (absurd · hc)]
      simpa using hnext

end

end

/-! ## Strings in any form -/

theorem dropLineEnd_of_head? {text : Text} (hfeed : text.head? ≠ some '\n')
    (hreturn : text.head? ≠ some '\r') : dropLineEnd text = text := by
  unfold dropLineEnd
  split
  · exact absurd rfl hfeed
  · exact absurd rfl hreturn
  · rfl

theorem dropLineEnd_opening {text body : Text}
    (h : '\n' ∉ text → body.head? ≠ some '\n' ∧ body.head? ≠ some '\r') :
    dropLineEnd (opening text ++ body) = body := by
  unfold opening
  split
  · rfl
  · next hfeed =>
    have hbody := h (by simpa using hfeed)
    exact dropLineEnd_of_head? hbody.1 hbody.2

section

variable {text rest : Text}

theorem readText?_basic (hrest : rest.head? ≠ some '"') :
    readText? (Form.basic.write text ++ rest) = some (text, rest) := by
  have hread := Unquotes.escapeAll text [] rest 0 _ (Nat.lt_succ_self _)
  have hne (more : Text) : escapeAll false 0 0 text ++ '"' :: rest ≠ '"' :: '"' :: more := by
    cases text with
    | nil =>
      intro heq
      exact hrest (by rw [(List.cons.inj heq).2]; rfl)
    | cons c text =>
      by_cases hc : c = '"'
      · subst hc
        simp [escapeAll]
      · rw [escapeAll, if_neg hc, List.append_assoc]
        intro heq
        exact Unquotes.head?_escape false hc _ (by rw [heq]; rfl)
  have hform : Form.basic.write text ++ rest =
      '"' :: (escapeAll false 0 0 text ++ '"' :: rest) := by
    simp [Form.write]
  rw [hform, readText?]
  · exact hread
  · exact fun more heq ↦ hne more (List.cons.inj heq).2
  · exact fun more heq ↦ absurd (List.cons.inj heq).1 (by decide)

theorem readText?_literal (h : ∀ c ∈ text, c ≠ '\x27' ∧ isControl c = false)
    (hrest : rest.head? ≠ some '\x27') :
    readText? (Form.literal.write text ++ rest) = some (text, rest) := by
  have hne (more : Text) : text ++ '\x27' :: rest ≠ '\x27' :: '\x27' :: more := by
    cases text with
    | nil =>
      intro heq
      exact hrest (by rw [(List.cons.inj heq).2]; rfl)
    | cons c text => exact fun heq ↦ (h c List.mem_cons_self).1 (List.cons.inj heq).1
  have hform : Form.literal.write text ++ rest = '\x27' :: (text ++ '\x27' :: rest) := by
    simp [Form.write]
  rw [hform, readText?]
  · exact literal?_append h [] rest
  · exact fun more heq ↦ absurd (List.cons.inj heq).1 (by decide)
  · exact fun more heq ↦ hne more (List.cons.inj heq).2

theorem readText?_basicLines (hrest : rest.head? ≠ some '"') :
    readText? (Form.basicLines.write text ++ rest) = some (text, rest) := by
  have hbody :
      dropLineEnd (opening text ++ (escapeAll true 2 0 text ++ '"' :: '"' :: '"' :: rest)) =
        escapeAll true 2 0 text ++ '"' :: '"' :: '"' :: rest := by
    refine dropLineEnd_opening fun hfeed ↦ ?_
    cases text with
    | nil => simp [escapeAll]
    | cons c text =>
      rw [List.mem_cons, not_or] at hfeed
      by_cases hc : c = '"'
      · subst hc
        simp [escapeAll]
      · rw [escapeAll, if_neg hc, List.append_assoc]
        rcases escape_cases true hc with ⟨letter, he, -⟩ | ⟨he, -⟩ | ⟨he, hplain⟩
        · simp [he]
        · simp [he]
        · simp [he, Ne.symm hfeed.1, hplain.ne_return]
  have hform : Form.basicLines.write text ++ rest =
      '"' :: '"' :: '"' ::
        (opening text ++ (escapeAll true 2 0 text ++ '"' :: '"' :: '"' :: rest)) := by
    simp [Form.write]
  rw [hform, readText?, hbody]
  refine Unquotes.escapeAllLines hrest text [] (Nat.zero_le 2) _ ?_
  simp only [List.replicate_zero, List.nil_append, List.length_append]
  omega

theorem readText?_literalLines (h : ∀ c ∈ text, needsEscape c = false)
    (hrun : longestRun '\x27' text ≤ 2) (hrest : rest.head? ≠ some '\x27') :
    readText? (Form.literalLines.write text ++ rest) = some (text, rest) := by
  have hbody : dropLineEnd (opening text ++ (text ++ '\x27' :: '\x27' :: '\x27' :: rest)) =
      text ++ '\x27' :: '\x27' :: '\x27' :: rest := by
    refine dropLineEnd_opening fun hfeed ↦ ?_
    cases text with
    | nil => simp
    | cons c text =>
      rw [List.mem_cons, not_or] at hfeed
      have hreturn : c ≠ '\r' := by
        rintro rfl
        cases h _ List.mem_cons_self
      simp [Ne.symm hfeed.1, hreturn]
  have hform : Form.literalLines.write text ++ rest =
      '\x27' :: '\x27' :: '\x27' ::
        (opening text ++ (text ++ '\x27' :: '\x27' :: '\x27' :: rest)) := by
    simp [Form.write]
  rw [hform, readText?, hbody]
  exact literalLines?_append hrest h (Nat.zero_le 2) hrun

/-- Every text is read back from its string, with what follows. -/
theorem readText?_quote (text : Text) (hquote : rest.head? ≠ some '"')
    (hapostrophe : rest.head? ≠ some '\x27') :
    readText? (quote text ++ rest) = some (text, rest) := by
  have hplain (h : (!text.any needsEscape) = true) : ∀ c ∈ text, needsEscape c = false := by
    simpa using h
  unfold quote Form.ofText
  dsimp only
  split
  · exact readText?_basic hquote
  split
  · next h =>
    simp only [Bool.and_eq_true, Bool.not_eq_true', ← Bool.not_eq_true,
      List.contains_iff_mem] at h
    obtain ⟨⟨hall, hmark⟩, hfeed⟩ := h
    refine readText?_literal (fun c hc ↦ ⟨fun he ↦ hmark (he ▸ hc), ?_⟩) hapostrophe
    have hescape := hplain (by simpa using hall) c hc
    have hne : c ≠ '\n' := fun he ↦ hfeed (he ▸ hc)
    simpa [needsEscape, hne] using hescape
  split
  · exact readText?_basicLines hquote
  split
  · next h =>
    simp only [Bool.and_eq_true, decide_eq_true_eq] at h
    exact readText?_literalLines (hplain h.1) h.2 hapostrophe
  split
  · exact readText?_basicLines hquote
  · exact readText?_basic hquote

end

end CodeRepair.Toml
