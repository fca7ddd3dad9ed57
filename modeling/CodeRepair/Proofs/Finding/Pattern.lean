import CodeRepair.Finding.Record
import CodeRepair.Proofs.Text.Number
import CodeRepair.Proofs.Text.Stop

/-!
# The pattern of a finding

A text begins with a finding when it can be taken apart into the parts of one, and it can be taken
apart in one way only.  A finding in a text stays one when text is added behind it.
-/

namespace CodeRepair.Record

/-- A run of digits, at least one. -/
structure IsNumber (digits : Text) : Prop where
  ne_nil : digits ≠ []
  isDigit : ∀ c ∈ digits, Text.isDigit c = true

/-- A capital letter and four digits. -/
def IsCode (code : Text) : Prop :=
  ∃ letter digits, code = letter :: digits ∧ letter.isUpper = true ∧ digits.length = 4 ∧
    ∀ c ∈ digits, Text.isDigit c = true

/-- What a finding is made of, from its first colon on. -/
structure Parts where
  line : Text
  column : Text
  code : Text
  rest : Text

namespace Parts

/-- The parts put together. -/
def text (parts : Parts) : Text :=
  ':' :: (parts.line ++ ':' :: (parts.column ++ ':' :: ' ' ::
    (parts.code ++ ':' :: ' ' :: parts.rest)))

/-- All in front of the message. -/
def front (parts : Parts) : Text :=
  ':' :: (parts.line ++ ':' :: (parts.column ++ ':' :: ' ' :: (parts.code ++ [':', ' '])))

theorem text_eq (parts : Parts) : parts.text = parts.front ++ parts.rest := by
  simp [text, front]

theorem text_append (parts : Parts) (more : Text) :
    parts.text ++ more = { parts with rest := parts.rest ++ more : Parts }.text := by
  simp [text]

/-- Whether the parts are those of a finding. -/
structure Valid (parts : Parts) : Prop where
  line : IsNumber parts.line
  column : IsNumber parts.column
  code : IsCode parts.code

theorem Valid.withRest {parts : Parts} (h : parts.Valid) (rest : Text) :
    ({ parts with rest := rest } : Parts).Valid :=
  ⟨h.line, h.column, h.code⟩

/-- The finding of the parts. -/
def record (parts : Parts) : Record :=
  { line := position parts.line
    column := position parts.column
    code := parts.code
    message := Text.trim (parts.rest.takeWhile (· != '\n')) }

end Parts

/-! ## Taking a finding apart -/

theorem digits?_eq_some_iff {text digits rest : Text} :
    digits? text = some (digits, rest) ↔
      IsNumber digits ∧ text = digits ++ rest ∧ ∀ c ∈ rest.head?, Text.isDigit c = false := by
  constructor
  · intro h
    have hrest : ∀ c ∈ (text.dropWhile Text.isDigit).head?, Text.isDigit c = false := by
      intro c hc
      have hnot := List.head?_dropWhile_not Text.isDigit text
      rw [Option.mem_def.1 hc] at hnot
      simpa using hnot
    simp only [digits?] at h
    split at h
    · cases h
    · rename_i hne
      cases h
      refine ⟨⟨fun hnil ↦ hne (by rw [hnil]; rfl), ?_⟩, ?_, hrest⟩
      · exact List.all_eq_true.1 List.all_takeWhile
      · exact List.takeWhile_append_dropWhile.symm
  · rintro ⟨hdigits, rfl, hrest⟩
    rw [digits?, Text.takeWhile_run_append hdigits.isDigit hrest,
      Text.dropWhile_run_append hdigits.isDigit hrest, if_neg]
    rw [List.isEmpty_iff]
    exact hdigits.ne_nil

theorem code?_eq_some_iff {text code rest : Text} :
    code? text = some (code, rest) ↔ IsCode code ∧ text = code ++ rest := by
  constructor
  · intro h
    unfold code? at h
    split at h
    · rename_i letter a b c d rest
      split at h
      · rename_i hcode
        rw [Bool.and_eq_true, List.all_eq_true] at hcode
        cases h
        exact ⟨⟨letter, [a, b, c, d], rfl, hcode.1, rfl, hcode.2⟩, rfl⟩
      · cases h
    · cases h
  · rintro ⟨⟨letter, digits, rfl, hletter, hlength, hdigits⟩, rfl⟩
    match digits, hlength with
    | [a, b, c, d], _ =>
      have hall : [a, b, c, d].all Text.isDigit = true := List.all_eq_true.2 hdigits
      simp only [List.cons_append, List.nil_append, code?, hletter, hall, Bool.and_self, if_true]

/-- A text begins with a finding exactly when it is made of the parts of one. -/
theorem here?_eq_some_iff {text : Text} {record : Record} :
    here? text = some record ↔
      ∃ parts : Parts, parts.Valid ∧ text = parts.text ∧ record = parts.record := by
  simp only [here?, bind, Option.bind_eq_some_iff, Prod.exists, Text.dropHead?_eq_some_iff,
    digits?_eq_some_iff, code?_eq_some_iff, pure, Option.some.injEq]
  constructor
  · rintro ⟨_, rfl, line, _, ⟨hline, rfl, -⟩, _, rfl, column, _, ⟨hcolumn, rfl, -⟩, _, rfl, code, _,
      ⟨hcode, rfl⟩, rest, rfl, rfl⟩
    exact ⟨⟨line, column, code, rest⟩, ⟨hline, hcolumn, hcode⟩, by simp [Parts.text], rfl⟩
  · rintro ⟨⟨line, column, code, rest⟩, ⟨hline, hcolumn, hcode⟩, rfl, rfl⟩
    have hcolon (more : Text) : ∀ c ∈ (':' :: more).head?, Text.isDigit c = false := by
      intro c hc
      obtain rfl : ':' = c := by simpa using hc
      rfl
    exact ⟨_, rfl, line, _, ⟨hline, rfl, hcolon _⟩, _, rfl, column, _, ⟨hcolumn, rfl, hcolon _⟩, _,
      rfl, code, _, ⟨hcode, rfl⟩, rest, rfl, rfl⟩

theorem here?_text {parts : Parts} (h : parts.Valid) : here? parts.text = some parts.record :=
  here?_eq_some_iff.2 ⟨parts, h, rfl, rfl⟩

/-! ## Where two findings meet -/

theorem IsNumber.colon_not_mem {digits : Text} (h : IsNumber digits) : ':' ∉ digits := by
  intro hmem
  have hdigit := h.isDigit ':' hmem
  cases hdigit

theorem IsNumber.ne_space {digits rest text : Text} (h : IsNumber digits) :
    ' ' :: text ≠ digits ++ rest := by
  intro heq
  cases digits with
  | nil => exact h.ne_nil rfl
  | cons d digits =>
    obtain rfl : ' ' = d := (List.cons.inj heq).1
    have hdigit := h.isDigit ' ' List.mem_cons_self
    cases hdigit

theorem IsCode.colon_not_mem {code : Text} (h : IsCode code) : ':' ∉ code := by
  obtain ⟨letter, digits, rfl, hletter, -, hdigits⟩ := h
  intro hmem
  rcases List.mem_cons.1 hmem with rfl | hmem
  · cases hletter
  · have hdigit := hdigits ':' hmem
    cases hdigit

theorem IsCode.feed_not_mem {code : Text} (h : IsCode code) : '\n' ∉ code := by
  obtain ⟨letter, digits, rfl, hletter, -, hdigits⟩ := h
  intro hmem
  rcases List.mem_cons.1 hmem with rfl | hmem
  · cases hletter
  · have hdigit := hdigits '\n' hmem
    cases hdigit

/-- A colon with a space is not the colon before a number. -/
theorem colon_space_eq_append {before text rest : Text} (hrest : ∀ more, ' ' :: more ≠ rest)
    (h : ':' :: ' ' :: text = before ++ ':' :: rest) :
    ∃ more, before = ':' :: ' ' :: more ∧ text = more ++ ':' :: rest := by
  match before with
  | [] => exact absurd (List.cons.inj h).2 (hrest text)
  | [c] =>
    have hspace := (List.cons.inj (List.cons.inj h).2).1
    cases hspace
  | c :: d :: more =>
    simp only [List.cons_append, List.cons.injEq] at h
    obtain ⟨rfl, rfl, htext⟩ := h
    exact ⟨more, rfl, htext⟩

/-- Findings do not overlap: one that begins before another one and reaches it holds all of it in
its message. -/
theorem Parts.exists_rest {parts next : Parts} (hparts : parts.Valid) (hnext : next.Valid)
    {before : Text} (hbefore : before ≠ []) (h : parts.text = before ++ next.text) :
    ∃ rest, parts.rest = rest ++ next.text ∧ before = { parts with rest := rest }.text := by
  let behind := next.line ++ ':' :: (next.column ++ ':' :: ' ' ::
    (next.code ++ ':' :: ' ' :: next.rest))
  have hspace : ∀ more, ' ' :: more ≠ behind := fun more ↦ hnext.line.ne_space
  obtain ⟨c, before, rfl⟩ := List.exists_cons_of_ne_nil hbefore
  obtain ⟨rfl, hline⟩ := List.cons.inj h
  obtain ⟨before, rfl, hcolon⟩ := Text.append_eq_append_cons hparts.line.colon_not_mem hline
  cases before with
  | nil =>
    -- The numbers of the two would be the same, but behind the later one of them a space follows.
    obtain ⟨more, hmore, hbehind⟩ :=
      Text.append_eq_append_cons hparts.column.colon_not_mem (List.cons.inj hcolon).2
    cases more with
    | nil => exact absurd (List.cons.inj hbehind).2 hnext.column.ne_space
    | cons c more =>
      obtain ⟨rfl, -⟩ := List.cons.inj hbehind
      exact absurd (hmore ▸ List.mem_append_right _ List.mem_cons_self) hnext.line.colon_not_mem
  | cons c before =>
    obtain ⟨rfl, hcolumn⟩ := List.cons.inj hcolon
    obtain ⟨before, rfl, hgap⟩ := Text.append_eq_append_cons hparts.column.colon_not_mem hcolumn
    obtain ⟨before, rfl, hcode⟩ := colon_space_eq_append hspace hgap
    obtain ⟨before, rfl, hend⟩ := Text.append_eq_append_cons hparts.code.colon_not_mem hcode
    obtain ⟨rest, rfl, hrest⟩ := colon_space_eq_append hspace hend
    exact ⟨rest, hrest, by simp [Parts.text]⟩

/-! ## The leftmost finding -/

theorem here?_eq_none_of_append {text more : Text} (h : here? (text ++ more) = none) :
    here? text = none := by
  cases hhere : here? text with
  | none => rfl
  | some record =>
    obtain ⟨parts, hparts, rfl, -⟩ := here?_eq_some_iff.1 hhere
    have hmore : parts.text ++ more = { parts with rest := parts.rest ++ more : Parts }.text := by
      simp [Parts.text]
    rw [hmore, here?_text (hparts.withRest _)] at h
    cases h

/-- A finding that reaches another one behind it is one by itself. -/
theorem here?_append_text_eq_none {text : Text} {next : Parts} (hnext : next.Valid)
    (htext : text ≠ []) (h : here? text = none) : here? (text ++ next.text) = none := by
  cases hhere : here? (text ++ next.text) with
  | none => rfl
  | some record =>
    obtain ⟨parts, hparts, heq, -⟩ := here?_eq_some_iff.1 hhere
    obtain ⟨rest, -, hrest⟩ := parts.exists_rest hparts hnext htext heq.symm
    rw [hrest, here?_text (hparts.withRest rest)] at h
    cases h

theorem first?_cons_of_some {c : Char} {text : Text} {record : Record}
    (h : here? (c :: text) = some record) : first? (c :: text) = some record := by
  rw [first?, h]

theorem first?_cons_of_none {c : Char} {text : Text} (h : here? (c :: text) = none) :
    first? (c :: text) = first? text := by
  rw [first?, h]

theorem first?_eq_none_of_colon_not_mem {text : Text} (h : ':' ∉ text) : first? text = none := by
  induction text with
  | nil => rfl
  | cons c text ih =>
    rw [List.mem_cons, not_or] at h
    have hhere : here? (c :: text) = none := by
      cases hhere : here? (c :: text) with
      | none => rfl
      | some record =>
        obtain ⟨parts, -, heq, -⟩ := here?_eq_some_iff.1 hhere
        exact absurd (List.cons.inj heq).1.symm h.1
    rw [first?_cons_of_none hhere, ih h.2]

/-- Behind a text without a finding, a finding is found as it stands. -/
theorem first?_append_text {text : Text} {next : Parts} (hnext : next.Valid)
    (h : first? text = none) : first? (text ++ next.text) = some next.record := by
  induction text with
  | nil => exact first?_cons_of_some (here?_text hnext)
  | cons c text ih =>
    cases hhere : here? (c :: text) with
    | some record =>
      rw [first?_cons_of_some hhere] at h
      cases h
    | none =>
      rw [first?_cons_of_none hhere] at h
      have hmore := here?_append_text_eq_none hnext (List.cons_ne_nil c text) hhere
      rw [List.cons_append] at hmore ⊢
      rw [first?_cons_of_none hmore]
      exact ih h

/-- Behind a text with a finding, a finding is read as part of that one's message. -/
theorem first?_append_text_of_some {text : Text} {next : Parts} {record : Record}
    (hnext : next.Valid) (h : first? text = some record) :
    ∃ (parts : Parts) (rest : Text), first? (text ++ next.text) = some parts.record ∧
      parts.rest = rest ++ next.text ∧ ∀ c ∈ rest, c ∈ text := by
  induction text with
  | nil => cases h
  | cons c text ih =>
    cases hhere : here? (c :: text ++ next.text) with
    | some found =>
      obtain ⟨parts, hparts, heq, rfl⟩ := here?_eq_some_iff.1 hhere
      obtain ⟨rest, hrest, hbefore⟩ :=
        parts.exists_rest hparts hnext (List.cons_ne_nil c text) heq.symm
      refine ⟨parts, rest, first?_cons_of_some hhere, hrest, fun d hd ↦ ?_⟩
      rw [hbefore]
      simp [Parts.text, hd]
    | none =>
      rw [first?_cons_of_none (here?_eq_none_of_append hhere)] at h
      obtain ⟨parts, rest, hfirst, hrest, hmem⟩ := ih h
      rw [List.cons_append] at hhere ⊢
      exact ⟨parts, rest, by rw [first?_cons_of_none hhere, hfirst], hrest,
        fun d hd ↦ List.mem_cons_of_mem c (hmem d hd)⟩

/-- A line in which the leftmost finding stands behind a path. -/
structure Found (line path : Text) (parts : Parts) : Prop where
  valid : parts.Valid
  clear : first? path = none
  line_eq : line = path ++ parts.text

theorem first?_eq_some_iff {line : Text} {record : Record} :
    first? line = some record ↔ ∃ path parts, Found line path parts ∧ record = parts.record := by
  constructor
  · intro h
    induction line with
    | nil => cases h
    | cons c line ih =>
      cases hhere : here? (c :: line) with
      | some found =>
        obtain rfl : found = record := Option.some.inj ((first?_cons_of_some hhere).symm.trans h)
        obtain ⟨parts, hparts, hline, hrecord⟩ := here?_eq_some_iff.1 hhere
        exact ⟨[], parts, ⟨hparts, rfl, hline⟩, hrecord⟩
      | none =>
        rw [first?_cons_of_none hhere] at h
        obtain ⟨path, parts, ⟨hparts, hpath, rfl⟩, hrecord⟩ := ih h
        have hhead : here? (c :: path) = none := here?_eq_none_of_append hhere
        exact ⟨c :: path, parts, ⟨hparts, (first?_cons_of_none hhead).trans hpath, rfl⟩, hrecord⟩
  · rintro ⟨path, parts, ⟨hparts, hpath, rfl⟩, rfl⟩
    exact first?_append_text hparts hpath

end CodeRepair.Record
