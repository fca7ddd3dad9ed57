import CodeRepair.Proofs.Json.Numeral

/-!
# The grammar of JSON

A value can be written in many ways: with white space between any two tokens, with an escape for any
character of a string, with an exponent of either case.  The grammar of RFC 8259 says which texts are ways to
write a value, without a reader, and whichever way a value is written, the reader finds the value.
-/

namespace CodeRepair.Json

-- most proofs below unfold the reader: its equations are made here once, and not awaited by each of them
attribute [local simp] readString? readValue? readItems? readFields? pairStep

/-! ## White space -/

/-- White space between tokens. -/
def IsSpacing (text : Text) : Prop :=
  ∀ c ∈ text, c = ' ' ∨ c = '\t' ∨ c = '\n' ∨ c = '\r'

theorem skipSpace_cons {c : Char} (h : isSpace c = false) (text : Text) :
    skipSpace (c :: text) = c :: text := by
  simp [skipSpace, h]

theorem skipSpace_append {before : Text} (h : IsSpacing before) (text : Text) :
    skipSpace (before ++ text) = skipSpace text := by
  refine List.dropWhile_append_of_pos fun c hc ↦ ?_
  rcases h c hc with rfl | rfl | rfl | rfl <;> rfl

theorem skipSpace_append_cons {before : Text} (h : IsSpacing before) {c : Char}
    (hc : isSpace c = false) (text : Text) : skipSpace (before ++ c :: text) = c :: text := by
  rw [skipSpace_append h, skipSpace_cons hc]

theorem readValue?_append {before : Text} (h : IsSpacing before) (fuel : Nat) (text : Text) :
    readValue? fuel (before ++ text) = readValue? fuel text := by
  cases fuel with
  | zero => rfl
  | succ fuel => rw [readValue?, readValue?, skipSpace_append h]

/-- White space ends a number, and where there is none, what stands behind it does. -/
theorem ends_append {after rest : Text} (h : IsSpacing after) (hrest : Ends rest) :
    Ends (after ++ rest) := by
  cases after with
  | nil => exact hrest
  | cons c after =>
    intro d hd
    obtain rfl : c = d := by simpa using hd
    rcases h c List.mem_cons_self with rfl | rfl | rfl | rfl <;> decide

theorem isSpacing_nil : IsSpacing [] :=
  List.forall_mem_nil _

/-- A text with white space around it. -/
structure Padded where
  before : Text
  text : Text
  after : Text
  isSpacing_before : IsSpacing before
  isSpacing_after : IsSpacing after

/-- A text without white space around it. -/
def Padded.bare (text : Text) : Padded :=
  ⟨[], text, [], isSpacing_nil, isSpacing_nil⟩

/-- The text together with the white space. -/
def Padded.whole (padded : Padded) : Text :=
  padded.before ++ padded.text ++ padded.after

@[simp]
theorem Padded.whole_bare (text : Text) : (bare text).whole = text :=
  List.append_nil text

@[simp]
theorem Padded.text_bare (text : Text) : (bare text).text = text :=
  rfl

/-! ## Strings -/

/-- A hexadecimal digit of either case. -/
def IsHexDigit (c : Char) (value : Nat) : Prop :=
  "0123456789abcdef".toList[value]? = some c ∨ "0123456789ABCDEF".toList[value]? = some c

instance (c : Char) (value : Nat) : Decidable (IsHexDigit c value) :=
  inferInstanceAs (Decidable (_ ∨ _))

/-- The letters that stand for a code point behind a backslash. -/
def escapeLetters : List (Char × Nat) :=
  [('"', 0x22), ('\\', 0x5C), ('/', 0x2F), ('b', 0x08), ('f', 0x0C), ('n', 0x0A), ('r', 0x0D),
    ('t', 0x09)]

/-- The ways to write a code point in a string: as its character, by a letter behind a backslash, or by its
number in four hexadecimal digits.  By its number, half of a surrogate pair can be written. -/
inductive WritesPoint : Nat → Text → Prop
  | plain {c : Char} (hcontrol : 0x20 ≤ c.toNat) (hquote : c ≠ '"') (hback : c ≠ '\\') :
      WritesPoint c.toNat [c]
  | letter {c : Char} {point : Nat} (h : (c, point) ∈ escapeLetters) :
      WritesPoint point ['\\', c]
  | number {a b c d : Char} {i j k l : Nat} (ha : IsHexDigit a i) (hb : IsHexDigit b j)
      (hc : IsHexDigit c k) (hd : IsHexDigit d l) :
      WritesPoint (((i * 16 + j) * 16 + k) * 16 + l) ['\\', 'u', a, b, c, d]

/-- The ways to write code points one after the other. -/
inductive WritesPoints : List Nat → Text → Prop
  | nil : WritesPoints [] []
  | cons {point : Nat} {points : List Nat} {text body : Text} (hpoint : WritesPoint point text)
      (hpoints : WritesPoints points body) : WritesPoints (point :: points) (text ++ body)

/-- A string is what is written between quotation marks. -/
def WritesString (points : List Nat) (text : Text) : Prop :=
  ∃ body, WritesPoints points body ∧ text = '"' :: (body ++ ['"'])

/-- Where nothing has to be escaped, a text is written as it is. -/
theorem writesPoints_points {text : Text}
    (h : ∀ c ∈ text, 0x20 ≤ c.toNat ∧ c ≠ '"' ∧ c ≠ '\\') : WritesPoints (points text) text := by
  induction text with
  | nil => exact .nil
  | cons c text ih =>
    rw [List.forall_mem_cons] at h
    exact .cons (.plain h.1.1 h.1.2.1 h.1.2.2) (ih h.2)

theorem writesString_points {text : Text}
    (h : ∀ c ∈ text, 0x20 ≤ c.toNat ∧ c ≠ '"' ∧ c ≠ '\\') :
    WritesString (points text) ('"' :: (text ++ ['"'])) :=
  ⟨text, writesPoints_points h, rfl⟩

/-- A character that needs no escape stands for itself in a string. -/
theorem readString?_cons {c : Char} (hquote : c ≠ '"') (hback : c ≠ '\\') (hc : 0x20 ≤ c.toNat)
    (rest : Text) (before : List Nat) :
    readString? (c :: rest) before = readString? rest (c.toNat :: before) := by
  have hcontrol : (decide (c.toNat < 0x20) || c == '\\') = false := by
    simp [hback, Nat.not_lt.2 hc]
  rw [readString?.eq_def]
  split
  · next h => cases h
  · next h => exact absurd (List.cons.inj h).1 hquote
  · next h => exact absurd (List.cons.inj h).1 hback
  · next h => exact absurd (List.cons.inj h).1 hback
  · next h =>
    obtain ⟨rfl, rfl⟩ := List.cons.inj h
    simp [hcontrol]

theorem readString?_letter {letter : Char} {point : Nat} (hu : letter ≠ 'u')
    (h : unescape? letter = some point) (rest : Text) (before : List Nat) :
    readString? ('\\' :: letter :: rest) before = readString? rest (point :: before) := by
  rw [readString?.eq_def]
  split
  · next heq => cases heq
  · next heq => exact absurd (List.cons.inj heq).1 (by decide)
  · next heq => exact absurd (List.cons.inj (List.cons.inj heq).2).1 hu
  · next heq =>
    obtain ⟨-, heq⟩ := List.cons.inj heq
    obtain ⟨rfl, rfl⟩ := List.cons.inj heq
    simp only [h]
  · next hne heq =>
    obtain ⟨rfl, rfl⟩ := List.cons.inj heq
    exact absurd rfl (hne letter rest rfl)

theorem hexValue?_of_isHexDigit {c : Char} {value : Nat} (h : IsHexDigit c value) :
    hexValue? c = some value := by
  have hsmall : value < 16 := by
    rcases h with h | h
    · exact (List.getElem?_eq_some_iff.1 h).1
    · exact (List.getElem?_eq_some_iff.1 h).1
  have hlower : ∀ value < 16, ("0123456789abcdef".toList[value]?).bind hexValue? = some value := by
    decide
  have hupper : ∀ value < 16, ("0123456789ABCDEF".toList[value]?).bind hexValue? = some value := by
    decide
  rcases h with h | h
  · have hvalue := hlower value hsmall
    rwa [h] at hvalue
  · have hvalue := hupper value hsmall
    rwa [h] at hvalue

theorem unescape?_of_mem : ∀ pair ∈ escapeLetters,
    pair.1 ≠ 'u' ∧ unescape? pair.1 = some pair.2 := by
  decide

/-- However a code point is written, it is read as itself. -/
theorem WritesPoint.readString?_eq {point : Nat} {text : Text} (h : WritesPoint point text)
    (rest : Text) (before : List Nat) :
    readString? (text ++ rest) before = readString? rest (point :: before) := by
  cases h with
  | plain hcontrol hquote hback => exact readString?_cons hquote hback hcontrol rest before
  | letter h =>
    obtain ⟨hu, hletter⟩ := unescape?_of_mem _ h
    exact readString?_letter hu hletter rest before
  | @number a b c d i j k l ha hb hc hd =>
    have hnumber : hexNumber? [a, b, c, d] = some (((i * 16 + j) * 16 + k) * 16 + l) := by
      simp only [hexNumber?, List.foldl_cons, List.foldl_nil, hexValue?_of_isHexDigit ha,
        hexValue?_of_isHexDigit hb, hexValue?_of_isHexDigit hc, hexValue?_of_isHexDigit hd]
      show some _ = some _
      congr 1
      omega
    show readString? ('\\' :: 'u' :: a :: b :: c :: d :: rest) before = _
    rw [readString?]
    simp only [hnumber]

theorem WritesPoints.readString?_eq {points : List Nat} {body : Text} (h : WritesPoints points body)
    (rest : Text) (before : List Nat) :
    readString? (body ++ '"' :: rest) before = some (before.reverse ++ points, rest) := by
  induction h generalizing before with
  | nil => simp
  | @cons point points text body hpoint hpoints ih =>
    rw [List.append_assoc, hpoint.readString?_eq, ih]
    simp

/-- A string is read behind its first quotation mark. -/
theorem WritesString.exists_body {points : List Nat} {text : Text} (h : WritesString points text) :
    ∃ body, text = '"' :: body ∧
      ∀ rest, readString? (body ++ rest) [] = some (points, rest) := by
  obtain ⟨body, hbody, rfl⟩ := h
  refine ⟨body ++ ['"'], rfl, fun rest ↦ ?_⟩
  rw [List.append_assoc, List.singleton_append, hbody.readString?_eq]
  rfl

/-! ## Texts -/

/-- The text that code points stand for, where each half of a surrogate pair stands beside the other. -/
inductive Denotes : List Nat → Text → Prop
  | nil : Denotes [] []
  | single {point : Nat} {points : List Nat} {text : Text} (hhigh : isHigh point = false)
      (hlow : isLow point = false) (h : Denotes points text) :
      Denotes (point :: points) (Char.ofNat point :: text)
  | pair {high low : Nat} {points : List Nat} {text : Text} (hhigh : isHigh high = true)
      (hlow : isLow low = true) (h : Denotes points text) :
      Denotes (high :: low :: points)
        (Char.ofNat (0x10000 + (high - 0xD800) * 0x400 + (low - 0xDC00)) :: text)

theorem foldl_pairStep_none (points : List Nat) : points.foldl pairStep none = none := by
  induction points with
  | nil => rfl
  | cons point points ih => exact ih

theorem Denotes.foldl_eq {points : List Nat} {text : Text} (h : Denotes points text) (before : Text) :
    points.foldl pairStep (some (none, before)) = some (none, text.reverse ++ before) := by
  induction h generalizing before with
  | nil => rfl
  | single hhigh hlow _ ih =>
    rw [List.foldl_cons]
    simp [hhigh, hlow, ih]
  | pair hhigh hlow _ ih =>
    rw [List.foldl_cons, List.foldl_cons]
    simp [hhigh, hlow, ih]

/-- What is read to the end without half of a pair left over is a text. -/
theorem exists_denotes : ∀ (points : List Nat) (before after : Text),
    points.foldl pairStep (some (none, before)) = some (none, after) →
      ∃ text, Denotes points text ∧ after = text.reverse ++ before
  | [], before, after, h => ⟨[], .nil, by simpa [eq_comm] using h⟩
  | [point], before, after, h => by
    cases hhigh : isHigh point with
    | true => simp [hhigh] at h
    | false =>
      cases hlow : isLow point with
      | true => simp [hhigh, hlow] at h
      | false => exact ⟨_, .single hhigh hlow .nil, by simpa [pairStep, hhigh, hlow, eq_comm] using h⟩
  | point :: next :: points, before, after, h => by
    rw [List.foldl_cons] at h
    cases hhigh : isHigh point with
    | true =>
      cases hlow : isLow next with
      | true =>
        rw [List.foldl_cons] at h
        simp only [pairStep, hhigh, hlow, if_true] at h
        obtain ⟨text, hdenotes, rfl⟩ := exists_denotes points _ after h
        exact ⟨_, .pair hhigh hlow hdenotes, by simp⟩
      | false =>
        rw [List.foldl_cons] at h
        simp [hhigh, hlow, foldl_pairStep_none] at h
    | false =>
      cases hlow : isLow point with
      | true => simp [hhigh, hlow, foldl_pairStep_none] at h
      | false =>
        simp only [pairStep, hhigh, hlow, Bool.false_eq_true, if_false] at h
        obtain ⟨text, hdenotes, rfl⟩ := exists_denotes (next :: points) _ after h
        exact ⟨_, .single hhigh hlow hdenotes, by simp⟩

theorem text?_eq_some_iff {points : List Nat} {text : Text} :
    text? points = some text ↔ Denotes points text := by
  constructor
  · intro h
    unfold text? at h
    split at h
    · next after hread =>
      obtain ⟨other, hdenotes, rfl⟩ := exists_denotes points [] after hread
      have hsame : other = text := by simpa using h
      exact hsame ▸ hdenotes
    · cases h
  · intro h
    simp [text?, h.foldl_eq]

/-! ## Values -/

/-- A field of an object, with the texts that are written for its name and for its value. -/
structure Field where
  name : List Nat
  value : Json
  quoted : Padded
  spelled : Padded

/-- What is written for a field. -/
def Field.whole (field : Field) : Text :=
  field.quoted.whole ++ ':' :: field.spelled.whole

/-- The texts that write a value. -/
inductive Spells : Json → Text → Prop
  | null : Spells .null "null".toList
  | true : Spells (.bool true) "true".toList
  | false : Spells (.bool false) "false".toList
  | number (isNegative : Bool) {whole fraction power : Text} (hwhole : IsWhole whole)
      (hfraction : IsFraction fraction) (hpower : IsPower power) :
      Spells (.number (numeral isNegative whole fraction power))
        (numeral isNegative whole fraction power)
  | string {points : List Nat} {text : Text} (h : WritesString points text) :
      Spells (.string points) text
  | noItems {spacing : Text} (h : IsSpacing spacing) : Spells (.array []) ('[' :: (spacing ++ [']']))
  | items {items : List (Json × Padded)} (hne : items ≠ [])
      (h : ∀ item ∈ items, Spells item.1 item.2.text) :
      Spells (.array (items.map Prod.fst))
        ('[' :: (Text.join [','] (items.map fun item ↦ item.2.whole) ++ [']']))
  | noFields {spacing : Text} (h : IsSpacing spacing) :
      Spells (.object []) ('{' :: (spacing ++ ['}']))
  | fields {fields : List Field} (hne : fields ≠ [])
      (hnames : ∀ field ∈ fields, WritesString field.name field.quoted.text)
      (h : ∀ field ∈ fields, Spells field.value field.spelled.text) :
      Spells (.object (fields.map fun field ↦ (field.name, field.value)))
        ('{' :: (Text.join [','] (fields.map Field.whole) ++ ['}']))

theorem Spells.field (field : Field) (hname : WritesString field.name field.quoted.text)
    (h : Spells field.value field.spelled.text) :
    Spells (.object [(field.name, field.value)]) ('{' :: (field.whole ++ ['}'])) := by
  have hfields : Spells (.object ([field].map fun field ↦ (field.name, field.value)))
      ('{' :: (Text.join [','] ([field].map Field.whole) ++ ['}'])) :=
    .fields (List.cons_ne_nil field []) (by simpa using hname) (by simpa using h)
  simpa using hfields

/-- Whether a text is read as a value, whatever follows it, in as many steps as the text is long. -/
def ReadsAs (value : Json) (text : Text) : Prop :=
  ∀ fuel rest, text.length ≤ fuel → Ends rest → readValue? fuel (text ++ rest) = some (value, rest)

/-- Whether a text begins with a character that begins a value. -/
def BeginsValue (text : Text) : Prop :=
  ∃ c rest, text = c :: rest ∧ isSpace c = false ∧ c ≠ ']'

theorem BeginsValue.skipSpace_eq {text : Text} (h : BeginsValue text) : skipSpace text = text := by
  obtain ⟨c, rest, rfl, hspace, -⟩ := h
  simp [skipSpace, hspace]

theorem BeginsValue.append {text : Text} (h : BeginsValue text) (more : Text) :
    BeginsValue (text ++ more) := by
  obtain ⟨c, rest, rfl, hc⟩ := h
  exact ⟨c, rest ++ more, rfl, hc⟩

theorem Spells.beginsValue {value : Json} {text : Text} (h : Spells value text) : BeginsValue text := by
  cases h with
  | null | true | false => exact ⟨_, _, rfl, by decide, by decide⟩
  | number isNegative hwhole hfraction hpower =>
    obtain ⟨c, more, hc, hfirst⟩ := exists_numeral_eq_cons isNegative hwhole _ _
    refine ⟨c, more, hc, ?_, ?_⟩
    · rcases hfirst with rfl | hdigit
      · decide
      · simp only [isSpace, Bool.or_eq_false_iff, beq_eq_false_iff_ne]
        refine ⟨⟨⟨?_, ?_⟩, ?_⟩, ?_⟩ <;>
          · rintro rfl
            cases hdigit
    · rintro rfl
      rcases hfirst with hfirst | hfirst <;> cases hfirst
  | string h =>
    obtain ⟨body, rfl, -⟩ := h.exists_body
    exact ⟨'"', body, rfl, by decide, by decide⟩
  | noItems | items => exact ⟨'[', _, rfl, by decide, by decide⟩
  | noFields | fields => exact ⟨'\x7b', _, rfl, by decide, by decide⟩

/-- A value with white space around it is read up to the delimiter behind it. -/
theorem ReadsAs.padded {value : Json} {padded : Padded} (h : ReadsAs value padded.text) {fuel : Nat}
    (hfuel : padded.whole.length ≤ fuel) {c : Char} (hc : c = ',' ∨ c = ']' ∨ c = '}') (rest : Text) :
    readValue? fuel (padded.whole ++ c :: rest) = some (value, padded.after ++ c :: rest) := by
  have hlength : padded.text.length ≤ fuel := by
    simp only [Padded.whole, List.length_append] at hfuel
    omega
  rw [Padded.whole, List.append_assoc, List.append_assoc, readValue?_append padded.isSpacing_before]
  exact h fuel _ hlength (ends_append padded.isSpacing_after (ends_cons hc rest))

/-- The items of an array are read one after the other. -/
theorem readItems?_of_spelled {items : List (Json × Padded)} (hne : items ≠ [])
    (hread : ∀ item ∈ items, ReadsAs item.1 item.2.text) {fuel : Nat} (before : List Json) (rest : Text)
    (hfuel : (Text.join [','] (items.map fun item ↦ item.2.whole)).length < fuel) :
    readItems? fuel (Text.join [','] (items.map fun item ↦ item.2.whole) ++ ']' :: rest) before =
      some (.array (before.reverse ++ items.map Prod.fst), rest) := by
  induction items generalizing fuel before with
  | nil => exact absurd rfl hne
  | cons item items ih =>
    obtain ⟨fuel, rfl⟩ : ∃ less, fuel = less + 1 := ⟨fuel - 1, by omega⟩
    rw [List.forall_mem_cons] at hread
    have hspace := item.2.isSpacing_after
    cases items with
    | nil =>
      simp only [List.map_cons, List.map_nil, Text.join_singleton] at hfuel ⊢
      rw [readItems?, hread.1.padded (Nat.le_of_lt_succ hfuel) (by simp) rest]
      simp [skipSpace_append_cons hspace, isSpace]
    | cons next items =>
      simp only [List.map_cons, Text.join_cons_cons, List.length_append, List.length_singleton] at hfuel ⊢
      rw [List.append_assoc, List.append_assoc, List.singleton_append, readItems?,
        hread.1.padded (by omega) (by simp) _]
      have hless : (Text.join [','] ((next :: items).map fun item ↦ item.2.whole)).length < fuel := by
        simp only [List.map_cons]
        omega
      have hrest := ih (List.cons_ne_nil next items) hread.2 (item.1 :: before) hless
      simpa [skipSpace_append_cons hspace, isSpace] using hrest

/-- A field is read up to the delimiter behind it, which decides how it goes on. -/
theorem readFields?_of_spelled_field {field : Field} (hname : WritesString field.name field.quoted.text)
    (hread : ReadsAs field.value field.spelled.text) {fuel : Nat} (hfuel : field.whole.length ≤ fuel)
    (before : List (List Nat × Json)) (rest : Text) :
    readFields? (fuel + 1) (field.whole ++ ',' :: rest) before =
        readFields? fuel rest ((field.name, field.value) :: before) ∧
      readFields? (fuel + 1) (field.whole ++ '}' :: rest) before =
        some (.object ((field.name, field.value) :: before).reverse, rest) := by
  obtain ⟨body, hbody, hstring⟩ := hname.exists_body
  have hlength : field.spelled.whole.length ≤ fuel := by
    simp only [Field.whole, List.length_append, List.length_cons] at hfuel
    omega
  have hskip (more : Text) : skipSpace (field.whole ++ more) =
      '"' :: (body ++ (field.quoted.after ++ ':' :: (field.spelled.whole ++ more))) := by
    simp only [Field.whole, Padded.whole, List.append_assoc, List.cons_append, hbody]
    exact skipSpace_append_cons field.quoted.isSpacing_before (by decide) _
  have hcolon (more : Text) : skipSpace (field.quoted.after ++ ':' :: more) = ':' :: more :=
    skipSpace_append_cons field.quoted.isSpacing_after (by decide) more
  have hafter (c : Char) (hc : isSpace c = false) :
      skipSpace (field.spelled.after ++ c :: rest) = c :: rest :=
    skipSpace_append_cons field.spelled.isSpacing_after hc rest
  constructor
  · have hvalue := hread.padded hlength (c := ',') (by simp) rest
    rw [readFields?, hskip]
    simp only [hstring, hcolon, hvalue, hafter ',' (by decide)]
  · have hvalue := hread.padded hlength (c := '}') (by simp) rest
    rw [readFields?, hskip]
    simp only [hstring, hcolon, hvalue, hafter '}' (by decide)]

/-- The fields of an object are read one after the other. -/
theorem readFields?_of_spelled {fields : List Field} (hne : fields ≠ [])
    (hnames : ∀ field ∈ fields, WritesString field.name field.quoted.text)
    (hread : ∀ field ∈ fields, ReadsAs field.value field.spelled.text) {fuel : Nat}
    (before : List (List Nat × Json)) (rest : Text)
    (hfuel : (Text.join [','] (fields.map Field.whole)).length < fuel) :
    readFields? fuel (Text.join [','] (fields.map Field.whole) ++ '}' :: rest) before =
      some (.object (before.reverse ++ fields.map fun field ↦ (field.name, field.value)), rest) := by
  induction fields generalizing fuel before with
  | nil => exact absurd rfl hne
  | cons field fields ih =>
    obtain ⟨fuel, rfl⟩ : ∃ less, fuel = less + 1 := ⟨fuel - 1, by omega⟩
    rw [List.forall_mem_cons] at hread hnames
    cases fields with
    | nil =>
      simp only [List.map_cons, List.map_nil, Text.join_singleton] at hfuel ⊢
      have hfield := readFields?_of_spelled_field hnames.1 hread.1 (Nat.le_of_lt_succ hfuel) before rest
      rw [hfield.2, List.reverse_cons]
    | cons next fields =>
      simp only [List.map_cons, Text.join_cons_cons, List.length_append, List.length_singleton] at hfuel ⊢
      have hless : (Text.join [','] ((next :: fields).map Field.whole)).length < fuel := by
        simp only [List.map_cons]
        omega
      have hrest := ih (List.cons_ne_nil next fields) hnames.2 hread.2
        ((field.name, field.value) :: before) hless
      have hlength : field.whole.length ≤ fuel := by omega
      rw [List.append_assoc, List.append_assoc, List.singleton_append,
        (readFields?_of_spelled_field hnames.1 hread.1 hlength before _).1]
      simpa using hrest

theorem exists_join_eq (text : Text) (texts : List Text) :
    ∃ tail, Text.join [','] (text :: texts) = text ++ tail := by
  cases texts with
  | nil => exact ⟨[], by simp⟩
  | cons next texts =>
    rw [Text.join_cons_cons, List.append_assoc]
    exact ⟨_, rfl⟩

/-- An array with a value in it is read as items. -/
theorem readValue?_items {before text : Text} (hbefore : IsSpacing before) (h : BeginsValue text)
    (fuel : Nat) :
    readValue? (fuel + 1) ('[' :: (before ++ text)) = readItems? fuel (before ++ text) [] := by
  have hskip : skipSpace (before ++ text) = text := by
    rw [skipSpace_append hbefore, h.skipSpace_eq]
  obtain ⟨c, rest, rfl, -, hclose⟩ := h
  rw [readValue?, skipSpace_cons (by decide)]
  simp only [hskip]
  split
  · next heq => exact absurd (List.cons.inj heq).1 hclose
  · rfl

/-- An object with a name in it is read as fields. -/
theorem readValue?_fields {before : Text} (hbefore : IsSpacing before) (text : Text) (fuel : Nat) :
    readValue? (fuel + 1) ('{' :: (before ++ '"' :: text)) =
      readFields? fuel (before ++ '"' :: text) [] := by
  have hskip : skipSpace (before ++ '"' :: text) = '"' :: text :=
    skipSpace_append_cons hbefore (by decide) text
  rw [readValue?, skipSpace_cons (by decide)]
  simp only [hskip]
  rfl

theorem readValue?_of_number {c : Char} (h : c = '-' ∨ c.isDigit = true) (fuel : Nat)
    (text : Text) : readValue? (fuel + 1) (c :: text) =
      (readNumber? (c :: text)).map fun read ↦ (.number read.1, read.2) := by
  have hne (d : Char) (hd : d ≠ '-') (hdigit : d.isDigit = false) : c ≠ d := by
    rintro rfl
    rcases h with h | h
    · exact hd h
    · rw [hdigit] at h
      cases h
  have hspace : isSpace c = false := by
    simp [isSpace, hne]
  rw [readValue?, skipSpace_cons hspace]
  split
  all_goals first
    | rfl
    | next heq => exact absurd (List.cons.inj heq).1 (hne _ (by decide) (by decide))

/-- Whichever way a value is written, it is read back. -/
theorem Spells.readsAs {value : Json} {text : Text} (h : Spells value text) : ReadsAs value text := by
  -- a text of a value has a first character, for which there is a step
  have hstep {value : Json} {text : Text} (h : Spells value text) {fuel : Nat}
      (hfuel : text.length ≤ fuel) : ∃ less, fuel = less + 1 := by
    obtain ⟨c, more, hc, -⟩ := h.beginsValue
    rw [hc, List.length_cons] at hfuel
    exact ⟨fuel - 1, by omega⟩
  induction h with
  | null =>
    intro fuel rest hfuel _
    obtain ⟨fuel, rfl⟩ := hstep .null hfuel
    simp [skipSpace_cons, isSpace]
  | true =>
    intro fuel rest hfuel _
    obtain ⟨fuel, rfl⟩ := hstep .true hfuel
    simp [skipSpace_cons, isSpace]
  | false =>
    intro fuel rest hfuel _
    obtain ⟨fuel, rfl⟩ := hstep .false hfuel
    simp [skipSpace_cons, isSpace]
  | number isNegative hwhole hfraction hpower =>
    intro fuel rest hfuel hends
    obtain ⟨fuel, rfl⟩ := hstep (.number isNegative hwhole hfraction hpower) hfuel
    obtain ⟨c, more, hc, hfirst⟩ := exists_numeral_eq_cons isNegative hwhole _ _
    have hread := readNumber?_numeral isNegative hwhole hfraction hpower hends
    rw [hc, List.cons_append] at hread
    rw [hc, List.cons_append, readValue?_of_number hfirst, hread]
    rfl
  | string h =>
    intro fuel rest hfuel _
    obtain ⟨fuel, rfl⟩ := hstep (.string h) hfuel
    obtain ⟨body, rfl, hread⟩ := h.exists_body
    rw [List.cons_append, readValue?, skipSpace_cons (by decide)]
    simp only [hread]
    rfl
  | noItems h =>
    intro fuel rest hfuel _
    obtain ⟨fuel, rfl⟩ := hstep (.noItems h) hfuel
    have hclose := skipSpace_append_cons h (c := ']') (by decide) rest
    simp [skipSpace_cons, isSpace, hclose]
  | @items items hne h ih =>
    intro fuel rest hfuel _
    obtain ⟨fuel, rfl⟩ := hstep (.items hne h) hfuel
    have hlength : (Text.join [','] (items.map fun item ↦ item.2.whole)).length < fuel := by
      simp only [List.length_append, List.length_cons] at hfuel
      omega
    have hread := readItems?_of_spelled hne ih [] rest hlength
    obtain ⟨first, others, rfl⟩ := List.exists_cons_of_ne_nil hne
    obtain ⟨tail, htail⟩ := exists_join_eq first.2.whole (others.map fun item ↦ item.2.whole)
    rw [List.map_cons, htail, Padded.whole, List.append_assoc, List.append_assoc,
      List.append_assoc] at hread
    have hbegins := (h first List.mem_cons_self).beginsValue.append
      (first.2.after ++ (tail ++ ']' :: rest))
    rw [List.map_cons, htail, Padded.whole, List.cons_append, List.append_assoc, List.append_assoc,
      List.append_assoc, List.append_assoc, List.singleton_append,
      readValue?_items first.2.isSpacing_before hbegins, hread]
    rfl
  | noFields h =>
    intro fuel rest hfuel _
    obtain ⟨fuel, rfl⟩ := hstep (.noFields h) hfuel
    have hclose := skipSpace_append_cons h (c := '}') (by decide) rest
    simp [skipSpace_cons, isSpace, hclose]
  | @fields fields hne hnames h ih =>
    intro fuel rest hfuel _
    obtain ⟨fuel, rfl⟩ := hstep (.fields hne hnames h) hfuel
    have hlength : (Text.join [','] (fields.map Field.whole)).length < fuel := by
      simp only [List.length_append, List.length_cons] at hfuel
      omega
    have hread := readFields?_of_spelled hne hnames ih [] rest hlength
    obtain ⟨first, others, rfl⟩ := List.exists_cons_of_ne_nil hne
    obtain ⟨tail, htail⟩ := exists_join_eq first.whole (others.map Field.whole)
    obtain ⟨body, hbody, -⟩ := (hnames first List.mem_cons_self).exists_body
    have hwhole (more : Text) : Text.join [','] ((first :: others).map Field.whole) ++ more =
        first.quoted.before ++ '"' :: (body ++ first.quoted.after ++
          ':' :: first.spelled.whole ++ tail ++ more) := by
      rw [List.map_cons, htail, Field.whole, Padded.whole, hbody]
      simp
    rw [hwhole] at hread
    rw [List.cons_append, List.append_assoc, List.singleton_append, hwhole,
      readValue?_fields first.quoted.isSpacing_before, hread]
    rfl

/-- A text that holds one value with white space around it is read as that value. -/
theorem Spells.read?_eq {value : Json} {text before after : Text} (h : Spells value text)
    (hbefore : IsSpacing before) (hafter : IsSpacing after) :
    read? (before ++ text ++ after) = some value := by
  have hends := ends_append hafter ends_nil
  rw [List.append_nil] at hends
  have hlength : text.length ≤ (before ++ text ++ after).length + 1 := by
    simp only [List.length_append]
    omega
  have hread := h.readsAs _ after hlength hends
  have hskip : skipSpace after = [] := by
    rw [← List.append_nil after, skipSpace_append hafter]
    rfl
  rw [read?, List.append_assoc, readValue?_append hbefore, ← List.append_assoc, hread]
  simp only [hskip]
  rfl

end CodeRepair.Json
