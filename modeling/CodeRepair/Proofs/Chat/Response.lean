import CodeRepair.Chat.Response
import CodeRepair.Proofs.Json.Grammar
import CodeRepair.Proofs.Json.Member
import Mathlib.Data.List.Forall2

/-!
# Which responses have an answer

A response has an answer when it is an object with a list of choices, at least one, each of them an object with
a message, and each message an object in which the content is a string, null or missing.  The answer is the
content of the first choice, and a defect in any other choice is a defect of the whole response.  In whichever
way such a value is written, the answer is read; fields that are not asked for may hold anything.
-/

namespace CodeRepair.Chat.Response

/-- Where an object stands that is read in a response. -/
inductive Position
  | response
  | choice
  | message

/-- The name of the field that is read in an object. -/
def Position.known : Position → Text
  | response => "choices".toList
  | choice => "message".toList
  | message => "content".toList

/-- An object has the field that is read, with a value. -/
def Holds (fields : List (List Nat × Json)) (position : Position) (value : Json) : Prop :=
  (Json.points position.known, value) ∈ fields

/-! ## The schema -/

/-- A content of a message, with its text. -/
inductive IsContent : Json → Text → Prop
  | null : IsContent .null []
  | string {points : List Nat} {text : Text} (h : Json.Denotes points text) :
      IsContent (.string points) text

/-- A message, with the text of its content. -/
inductive IsMessage : Json → Text → Prop
  | missing {fields : List (List Nat × Json)} (h : ∀ value, ¬ Holds fields .message value) :
      IsMessage (.object fields) []
  | content {fields : List (List Nat × Json)} {value : Json} {text : Text}
      (hvalue : Holds fields .message value) (h : IsContent value text) :
      IsMessage (.object fields) text

/-- A choice, with the text of its message. -/
inductive IsChoice : Json → Text → Prop
  | message {fields : List (List Nat × Json)} {value : Json} {text : Text}
      (hvalue : Holds fields .choice value) (h : IsMessage value text) :
      IsChoice (.object fields) text

/-- A response, with the text of its first choice. -/
inductive IsResponse : Json → Text → Prop
  | choices {fields : List (List Nat × Json)} {first : Json} {others : List Json} {text : Text}
      (hchoices : Holds fields .response (.array (first :: others))) (hfirst : IsChoice first text)
      (hothers : ∀ other ∈ others, ∃ content, IsChoice other content) :
      IsResponse (.object fields) text

/-! ## What is read -/

/-- The parts of a value that are read, whatever they are. -/
inductive StandsAt (value : Json) : Position → Json → Prop
  | response : StandsAt value .response value
  | choice {fields : List (List Nat × Json)} {items : List Json} {part : Json}
      (h : StandsAt value .response (.object fields)) (hitems : Holds fields .response (.array items))
      (hpart : part ∈ items) : StandsAt value .choice part
  | message {fields : List (List Nat × Json)} {part : Json}
      (h : StandsAt value .choice (.object fields)) (hpart : Holds fields .choice part) :
      StandsAt value .message part

/-- The objects that are read: the value itself, the choices in it and the messages in those. -/
theorem standsAt_cases {value part : Json} {position : Position} (h : StandsAt value position part) :
    position = .response ∧ part = value ∨
      ∃ fields items choice, value = .object fields ∧ Holds fields .response (.array items) ∧
        choice ∈ items ∧ (position = .choice ∧ part = choice ∨
          ∃ inner, choice = .object inner ∧ position = .message ∧ Holds inner .choice part) := by
  cases h with
  | response => exact .inl ⟨rfl, rfl⟩
  | choice h hitems hpart =>
    cases h
    exact .inr ⟨_, _, _, rfl, hitems, hpart, .inl ⟨rfl, rfl⟩⟩
  | message h hpart =>
    cases h with
    | choice h hitems hchoice =>
      cases h
      exact .inr ⟨_, _, _, rfl, hitems, hchoice, .inr ⟨_, rfl, rfl, hpart⟩⟩

/-- Where an object is read there is no array, and the field that is read comes at most once. -/
structure IsRegular (value : Json) : Prop where
  noArray : ∀ position items, ¬ StandsAt value position (.array items)
  once : ∀ position fields, StandsAt value position (.object fields) →
    (fields.map Prod.fst).count (Json.points position.known) ≤ 1

/-- In the objects that are read no name holds half of a surrogate pair without the other. -/
def IsNamed (value : Json) : Prop :=
  ∀ position fields, StandsAt value position (.object fields) →
    ∀ field ∈ fields, ∃ text, Json.Denotes field.1 text

/-- A part that is regular by itself. -/
structure IsProper (position : Position) (part : Json) : Prop where
  noArray : ∀ items, part ≠ .array items
  once : ∀ fields, part = .object fields →
    (fields.map Prod.fst).count (Json.points position.known) ≤ 1
  names : ∀ fields, part = .object fields → ∀ field ∈ fields, ∃ text, Json.Denotes field.1 text

variable {value : Json} {position : Position} {fields : List (List Nat × Json)} {text : Text}

theorem isProper_of_standsAt (hregular : IsRegular value) (hnamed : IsNamed value) {part : Json}
    (h : StandsAt value position part) : IsProper position part := by
  refine ⟨fun items hpart ↦ ?_, fun fields hpart ↦ ?_, fun fields hpart ↦ ?_⟩
  · exact hregular.noArray position items (hpart ▸ h)
  · exact hregular.once position fields (hpart ▸ h)
  · exact hnamed position fields (hpart ▸ h)

/-- A value is regular if all of its parts are. -/
theorem isRegular_of_isProper
    (h : ∀ position part, StandsAt value position part → IsProper position part) :
    IsRegular value ∧ IsNamed value := by
  refine ⟨⟨fun position items hpart ↦ ?_, fun position fields hpart ↦ ?_⟩,
    fun position fields hpart ↦ ?_⟩
  · exact (h position _ hpart).noArray items rfl
  · exact (h position _ hpart).once fields rfl
  · exact (h position _ hpart).names fields rfl

theorem isProper_object (honce : (fields.map Prod.fst).count (Json.points position.known) ≤ 1)
    (hnames : ∀ field ∈ fields, ∃ name, field.1 = Json.points name) :
    IsProper position (.object fields) := by
  refine ⟨nofun, fun other hother ↦ ?_, fun other hother ↦ ?_⟩
  · exact Json.object.inj hother ▸ honce
  · intro field hfield
    obtain ⟨name, hname⟩ := hnames field (Json.object.inj hother ▸ hfield)
    exact ⟨name, hname ▸ Json.text?_eq_some_iff.1 (Json.text?_points name)⟩

theorem mem_fieldsOf_iff : value ∈ Json.fieldsOf position.known fields ↔ Holds fields position value := by
  simp [Json.fieldsOf, Holds]

theorem length_fieldsOf (name : Text) (fields : List (List Nat × Json)) :
    (Json.fieldsOf name fields).length = (fields.map Prod.fst).count (Json.points name) := by
  rw [Json.fieldsOf, List.length_map, List.count_eq_countP, List.countP_map,
    List.countP_eq_length_filter]
  rfl

/-- The field that is read is missing, or it is there with its only value. -/
theorem field?_cases (h : IsProper position (.object fields)) :
    (field? position.known fields = some none ∧ ∀ value, ¬ Holds fields position value) ∨
      ∃ value, field? position.known fields = some (some value) ∧
        ∀ other, Holds fields position other ↔ other = value := by
  have hnames : (fields.all fun field ↦ (Json.text? field.1).isSome) = true := by
    rw [List.all_eq_true]
    intro field hfield
    obtain ⟨text, htext⟩ := h.names fields rfl field hfield
    rw [Json.text?_eq_some_iff.2 htext]
    rfl
  have honce : (Json.fieldsOf position.known fields).length ≤ 1 := by
    rw [length_fieldsOf]
    exact h.once fields rfl
  have hmem (value : Json) := @mem_fieldsOf_iff value position fields
  simp only [field?, hnames, if_true]
  match hfound : Json.fieldsOf position.known fields with
  | [] =>
    rw [hfound] at hmem
    exact .inl ⟨rfl, fun value hvalue ↦ List.not_mem_nil ((hmem value).2 hvalue)⟩
  | [value] =>
    rw [hfound] at hmem
    exact .inr ⟨value, rfl, fun other ↦ by rw [← hmem, List.mem_singleton]⟩
  | first :: second :: rest =>
    rw [hfound] at honce
    simp at honce

theorem eq_of_holds (h : IsProper position (.object fields)) {other : Json}
    (hvalue : Holds fields position value) (hother : Holds fields position other) : value = other := by
  rcases field?_cases h with ⟨-, hnone⟩ | ⟨only, -, honly⟩
  · exact absurd hvalue (hnone value)
  · rw [(honly value).1 hvalue, (honly other).1 hother]

/-! ## Each part -/

theorem content?_eq_some_iff : content? value = some text ↔ IsContent value text := by
  constructor
  · intro h
    unfold content? at h
    split at h
    · cases h
      exact .null
    · exact .string (Json.text?_eq_some_iff.1 h)
    · cases h
  · intro h
    cases h with
    | null => rfl
    | string h => exact Json.text?_eq_some_iff.2 h

theorem message?_eq_some_iff (hproper : IsProper .message value) :
    message? value = some text ↔ IsMessage value text := by
  cases value with
  | array items => exact absurd rfl (hproper.noArray items)
  | null | bool | number | string => exact ⟨nofun, nofun⟩
  | object fields =>
    rcases field?_cases hproper with ⟨hfield, hnone⟩ | ⟨content, hfield, honly⟩
    · replace hfield : field? "content".toList fields = some none := hfield
      simp only [message?, hfield, Option.some.injEq]
      constructor
      · rintro rfl
        exact .missing hnone
      · intro h
        cases h with
        | missing => rfl
        | content hvalue => exact absurd hvalue (hnone _)
    · replace hfield : field? "content".toList fields = some (some content) := hfield
      simp only [message?, hfield, content?_eq_some_iff]
      constructor
      · exact .content ((honly content).2 rfl)
      · intro h
        cases h with
        | missing hnone => exact absurd ((honly content).2 rfl) (hnone content)
        | content hvalue h => exact (honly _).1 hvalue ▸ h

theorem choice?_eq_some_iff (hproper : IsProper .choice value)
    (hmessage : ∀ fields message, value = .object fields → Holds fields .choice message →
      IsProper .message message) :
    choice? value = some text ↔ IsChoice value text := by
  cases value with
  | array items => exact absurd rfl (hproper.noArray items)
  | null | bool | number | string => exact ⟨nofun, nofun⟩
  | object fields =>
    rcases field?_cases hproper with ⟨hfield, hnone⟩ | ⟨message, hfield, honly⟩
    · replace hfield : field? "message".toList fields = some none := hfield
      simp only [choice?, hfield]
      refine ⟨nofun, fun h ↦ ?_⟩
      cases h with
      | message hvalue => exact absurd hvalue (hnone _)
    · replace hfield : field? "message".toList fields = some (some message) := hfield
      have hthere := (honly message).2 rfl
      simp only [choice?, hfield, message?_eq_some_iff (hmessage fields message rfl hthere)]
      constructor
      · exact .message hthere
      · intro h
        cases h with
        | message hvalue h => exact (honly _).1 hvalue ▸ h

/-- A list of choices is read as their contents, one for each. -/
theorem mapM_choice?_eq_some_iff {items : List Json} {texts : List Text}
    (h : ∀ item ∈ items, ∀ text, choice? item = some text ↔ IsChoice item text) :
    items.mapM choice? = some texts ↔ List.Forall₂ IsChoice items texts := by
  induction items generalizing texts with
  | nil =>
    rw [List.forall₂_nil_left_iff, List.mapM_nil]
    exact ⟨fun h ↦ (Option.some.inj h).symm, fun h ↦ h ▸ rfl⟩
  | cons item items ih =>
    rw [List.forall_mem_cons] at h
    simp only [List.mapM_cons, Option.bind_eq_bind, Option.bind_eq_some_iff, h.1, ih h.2,
      List.forall₂_cons_left_iff]
    constructor
    · rintro ⟨text, htext, texts, htexts, heq⟩
      exact ⟨text, texts, htext, htexts, (Option.some.inj heq).symm⟩
    · rintro ⟨text, texts, htext, htexts, rfl⟩
      exact ⟨text, htext, texts, htexts, rfl⟩

theorem contents?_eq_some_iff (hregular : IsRegular value) (hnamed : IsNamed value)
    {texts : List Text} :
    contents? value = some texts ↔ ∃ fields items, value = .object fields ∧
      Holds fields .response (.array items) ∧ List.Forall₂ IsChoice items texts := by
  have hproper {position : Position} {part : Json} (h : StandsAt value position part) :
      IsProper position part := isProper_of_standsAt hregular hnamed h
  cases value with
  | array items => exact absurd rfl ((hproper .response).noArray items)
  | null | bool | number | string => exact ⟨nofun, by rintro ⟨fields, items, h, -⟩; cases h⟩
  | object fields =>
    rcases field?_cases (hproper .response) with ⟨hfield, hnone⟩ | ⟨choices, hfield, honly⟩
    · replace hfield : field? "choices".toList fields = some none := hfield
      simp only [contents?, hfield]
      refine ⟨nofun, ?_⟩
      rintro ⟨fields', items, h, hitems, -⟩
      cases h
      exact absurd hitems (hnone _)
    · replace hfield : field? "choices".toList fields = some (some choices) := hfield
      have hthere := (honly choices).2 rfl
      simp only [contents?, hfield]
      cases choices with
      | array items =>
        have hitem (item : Json) (hmem : item ∈ items) (text : Text) :
            choice? item = some text ↔ IsChoice item text := by
          have hstands : StandsAt (.object fields) .choice item := .choice .response hthere hmem
          refine choice?_eq_some_iff (hproper hstands) fun fields' message hobject hmessage ↦ ?_
          exact hproper (.message (hobject ▸ hstands) hmessage)
        rw [choices?, mapM_choice?_eq_some_iff hitem]
        constructor
        · intro h
          exact ⟨fields, items, rfl, hthere, h⟩
        · rintro ⟨fields', items', h, hitems, htexts⟩
          cases h
          cases (honly _).1 hitems
          exact htexts
      | null | bool | number | string | object =>
        refine ⟨nofun, ?_⟩
        rintro ⟨fields', items', h, hitems, -⟩
        cases h
        cases (honly _).1 hitems

/-! ## Whole responses -/

/-- A list of choices has its contents exactly when each of the choices has one. -/
theorem exists_forall₂_iff {items : List Json} :
    (∃ texts, List.Forall₂ IsChoice items texts) ↔ ∀ item ∈ items, ∃ text, IsChoice item text := by
  induction items with
  | nil => exact ⟨fun _ ↦ nofun, fun _ ↦ ⟨[], .nil⟩⟩
  | cons item items ih =>
    rw [List.forall_mem_cons, ← ih]
    constructor
    · rintro ⟨texts, h⟩
      obtain ⟨text, others, hitem, hothers, -⟩ := List.forall₂_cons_left_iff.1 h
      exact ⟨⟨text, hitem⟩, others, hothers⟩
    · rintro ⟨⟨text, hitem⟩, texts, hitems⟩
      exact ⟨text :: texts, .cons hitem hitems⟩

theorem exists_contents?_iff (hregular : IsRegular value) (hnamed : IsNamed value) {answer : Text} :
    (∃ others, contents? value = some (answer :: others)) ↔ IsResponse value answer := by
  simp only [contents?_eq_some_iff hregular hnamed]
  constructor
  · rintro ⟨others, fields, items, rfl, hitems, htexts⟩
    obtain ⟨first, rest, hfirst, hrest, rfl⟩ := List.forall₂_cons_right_iff.1 htexts
    exact .choices hitems hfirst (exists_forall₂_iff.1 ⟨others, hrest⟩)
  · intro h
    cases h with
    | choices hchoices hfirst hothers =>
      obtain ⟨others, hrest⟩ := exists_forall₂_iff.2 hothers
      exact ⟨others, _, _, rfl, hchoices, .cons hfirst hrest⟩

theorem read_eq_ok_iff {body answer : Text} (h : Json.read? body = some value) :
    read body = .ok answer ↔ ∃ others, contents? value = some (answer :: others) := by
  rw [read, h, Option.bind_some]
  split
  · next hnone => simp [hnone]
  · next hempty => simp [hempty]
  · next content others hcontents => simp [hcontents]

/-- In whichever way a regular value is written, it is answered exactly when it is a response, by the content of
its first choice, and a defect in any of its choices makes the whole of it malformed. -/
theorem read_decides {before after : Text} (h : Json.Spells value text)
    (hbefore : Json.IsSpacing before) (hafter : Json.IsSpacing after) (hregular : IsRegular value)
    (hnamed : IsNamed value) :
    (∀ answer, read (before ++ text ++ after) = .ok answer ↔ IsResponse value answer) ∧
    ∀ fields items, value = .object fields → Holds fields .response (.array items) →
      (∃ item ∈ items, ∀ content, ¬ IsChoice item content) →
        read (before ++ text ++ after) = .error (.malformed (before ++ text ++ after)) := by
  have hvalue := h.read?_eq hbefore hafter
  refine ⟨fun answer ↦ ?_, fun fields items hobject hitems ⟨item, hmem, hdefect⟩ ↦ ?_⟩
  · rw [read_eq_ok_iff hvalue, exists_contents?_iff hregular hnamed]
  · have hnone : contents? value = none := by
      rw [Option.eq_none_iff_forall_ne_some]
      intro texts hcontents
      obtain ⟨fields', items', hobject', hitems', htexts⟩ :=
        (contents?_eq_some_iff hregular hnamed).1 hcontents
      cases hobject.symm.trans hobject'
      cases eq_of_holds (isProper_of_standsAt hregular hnamed (hobject ▸ .response)) hitems hitems'
      obtain ⟨content, hcontent⟩ := exists_forall₂_iff.1 ⟨texts, htexts⟩ item hmem
      exact hdefect content hcontent
    rw [read, hvalue, Option.bind_some, hnone]

/-- A response with white space and an escape in its first name, a number with an exponent in a field that is not
read, a surrogate pair in the first content and no content in the second choice. -/
theorem read_decides_odd_spelling :
    let message : Json := .object [(Json.points "content".toList, .string [0xD83D, 0xDE00])]
    let value : Json := .object [(Json.points "choices".toList, .array
      [.object [(Json.points "message".toList, message)],
        .object [(Json.points "message".toList, .object [])]]),
      (Json.points "id".toList, .number "1E+2".toList)]
    let text : Text := ("\x7b \"\\u0063hoices\" :[\x7b\"message\":\x7b\"content\":\"\\ud83d\\uDE00\"\x7d\x7d," ++
      "\x7b\"message\":\x7b\x7d\x7d],\"id\":1E+2\x7d").toList
    Json.Spells value text ∧ IsRegular value ∧ IsNamed value ∧
      read ("\n".toList ++ text ++ " ".toList) = .ok [Char.ofNat 0x1F600] := by
  intro message value text
  have hcontent : Json.Spells (.string [0xD83D, 0xDE00]) "\"\\ud83d\\uDE00\"".toList := by
    refine .string ⟨_, .cons (.number (i := 13) (j := 8) (k := 3) (l := 13) ?_ ?_ ?_ ?_)
      (.cons (.number (i := 13) (j := 14) (k := 0) (l := 0) ?_ ?_ ?_ ?_) .nil), rfl⟩ <;> decide
  have hmessage : Json.Spells message "\x7b\"content\":\"\\ud83d\\uDE00\"\x7d".toList :=
    .field ⟨_, _, .bare _, .bare _⟩ (@Json.writesString_points "content".toList (by simp)) hcontent
  have hfirst : Json.Spells (.object [(Json.points "message".toList, message)])
      "\x7b\"message\":\x7b\"content\":\"\\ud83d\\uDE00\"\x7d\x7d".toList :=
    .field ⟨_, _, .bare _, .bare _⟩ (@Json.writesString_points "message".toList (by simp)) hmessage
  have hempty : Json.Spells (.object []) "\x7b\x7d".toList := .noFields Json.isSpacing_nil
  have hsecond : Json.Spells (.object [(Json.points "message".toList, .object [])])
      "\x7b\"message\":\x7b\x7d\x7d".toList :=
    .field ⟨_, _, .bare _, .bare _⟩ (@Json.writesString_points "message".toList (by simp)) hempty
  have hchoices : Json.WritesString (Json.points "choices".toList) "\"\\u0063hoices\"".toList := by
    refine ⟨_, .cons (.number (i := 0) (j := 0) (k := 6) (l := 3) ?_ ?_ ?_ ?_)
      (@Json.writesPoints_points "hoices".toList (by simp)), rfl⟩ <;> decide
  have hnumber : Json.Spells (.number "1E+2".toList) "1E+2".toList := by
    have hdigits {c : Char} (hc : c.isDigit = true) : Json.IsDigits [c] := ⟨by simp, by simpa using hc⟩
    exact @Json.Spells.number false ['1'] [] "E+2".toList ⟨hdigits rfl, by decide⟩ (.inl rfl)
      (.inr ⟨'E', ['+'], ['2'], rfl, .inr rfl, .inr (.inl rfl), hdigits rfl⟩)
  have hspelled : Json.Spells value text := by
    have hspacing : Json.IsSpacing " ".toList := by simp [Json.IsSpacing]
    refine @Json.Spells.fields
      [⟨Json.points "choices".toList, _, ⟨_, _, _, hspacing, hspacing⟩, .bare _⟩, ⟨_, _, .bare _, .bare _⟩]
      (by simp) (List.forall_mem_cons.2 ⟨hchoices, List.forall_mem_singleton.2
        (@Json.writesString_points "id".toList (by simp))⟩)
      (List.forall_mem_cons.2 ⟨@Json.Spells.items [(_, .bare _), (_, .bare _)] (by simp)
        (List.forall_mem_cons.2 ⟨hfirst, List.forall_mem_singleton.2 hsecond⟩),
          List.forall_mem_singleton.2 hnumber⟩)
  have hparts {position : Position} {part : Json} (h : StandsAt value position part) :
      position = .response ∧ part = value ∨
        position = .choice ∧ (part = .object [(Json.points "message".toList, message)] ∨
          part = .object [(Json.points "message".toList, .object [])]) ∨
        position = .message ∧ (part = message ∨ part = .object []) := by
    rcases standsAt_cases h with h | ⟨fields, items, choice, hvalue, hitems, hchoice, h⟩
    · exact .inl h
    obtain rfl := Json.object.inj hvalue
    simp only [Holds, List.mem_cons, List.not_mem_nil, or_false, Prod.mk.injEq] at hitems
    rcases hitems with ⟨-, hitems⟩ | ⟨-, hitems⟩ <;> cases hitems
    simp only [List.mem_cons, List.not_mem_nil, or_false] at hchoice
    rcases h with ⟨rfl, rfl⟩ | ⟨inner, rfl, rfl, hinner⟩
    · exact .inr (.inl ⟨rfl, hchoice⟩)
    · rcases hchoice with hchoice | hchoice <;> cases hchoice
      · exact .inr (.inr ⟨rfl, .inl (Prod.mk.inj (List.mem_singleton.1 hinner)).2⟩)
      · exact .inr (.inr ⟨rfl, .inr (Prod.mk.inj (List.mem_singleton.1 hinner)).2⟩)
  have hregular : IsRegular value ∧ IsNamed value := by
    refine isRegular_of_isProper fun position part h ↦ ?_
    rcases hparts h with ⟨rfl, rfl⟩ | ⟨rfl, rfl | rfl⟩ | ⟨rfl, rfl | rfl⟩
    · refine isProper_object (by decide) (List.forall_mem_cons.2 ⟨⟨_, rfl⟩, ?_⟩)
      exact List.forall_mem_singleton.2 ⟨_, rfl⟩
    · exact isProper_object (by decide) (List.forall_mem_singleton.2 ⟨_, rfl⟩)
    · exact isProper_object (by decide) (List.forall_mem_singleton.2 ⟨_, rfl⟩)
    · exact isProper_object (by decide) (List.forall_mem_singleton.2 ⟨_, rfl⟩)
    · exact isProper_object (by decide) (List.forall_mem_nil _)
  have hspacing {c : Char} (hc : c = ' ' ∨ c = '\n') : Json.IsSpacing [c] := by
    simpa [Json.IsSpacing] using hc.elim .inl fun h ↦ .inr (.inr (.inl h))
  refine ⟨hspelled, hregular.1, hregular.2, ((read_decides hspelled (hspacing (.inr rfl))
    (hspacing (.inl rfl)) hregular.1 hregular.2).1 _).2 ?_⟩
  refine .choices (List.mem_cons_self) (.message List.mem_cons_self (.content List.mem_cons_self
    (.string (.pair rfl rfl .nil)))) (List.forall_mem_singleton.2 ⟨[], ?_⟩)
  exact .message List.mem_cons_self (.missing fun value ↦ List.not_mem_nil)

/-- A response with a content, and a null in a field of another name. -/
def answering (name content : List Nat) : Json :=
  .object [(name, .null), (Json.points "choices".toList, .array [.object [(Json.points "message".toList,
    .object [(Json.points "content".toList, .string content)])]])]

theorem isRegular_answering {name : List Nat} (hname : name ≠ Json.points "choices".toList)
    (content : List Nat) : IsRegular (answering name content) := by
  have honce (known : List Nat) : [known].count known ≤ 1 := by simp
  have hparts {position : Position} {part : Json} (h : StandsAt (answering name content) position part) :
      ∃ fields, part = .object fields ∧
        (fields.map Prod.fst).count (Json.points position.known) ≤ 1 := by
    rcases standsAt_cases h with ⟨rfl, rfl⟩ | ⟨fields, items, choice, hvalue, hitems, hchoice, h⟩
    · refine ⟨_, rfl, ?_⟩
      rw [List.map_cons]
      show (name :: [Json.points "choices".toList]).count (Json.points "choices".toList) ≤ 1
      rw [List.count_cons_of_ne hname]
      exact honce _
    obtain rfl := Json.object.inj hvalue
    simp only [Holds, List.mem_cons, List.not_mem_nil, or_false, Prod.mk.injEq] at hitems
    rcases hitems with ⟨-, hitems⟩ | ⟨-, hitems⟩ <;> cases hitems
    rw [List.mem_singleton] at hchoice
    rcases h with ⟨rfl, rfl⟩ | ⟨inner, rfl, rfl, hinner⟩
    · exact ⟨_, hchoice, honce _⟩
    · cases hchoice
      exact ⟨_, (Prod.mk.inj (List.mem_singleton.1 hinner)).2, honce _⟩
  refine ⟨fun position items h ↦ ?_, fun position fields h ↦ ?_⟩
  · obtain ⟨fields, hpart, -⟩ := hparts h
    cases hpart
  · obtain ⟨other, hpart, honce⟩ := hparts h
    exact Json.object.inj hpart ▸ honce

theorem spells_answering {name content : List Nat} {quoted written : Text}
    (hname : Json.WritesString name quoted) (hcontent : Json.WritesString content written) :
    Json.Spells (answering name content) ("\x7b".toList ++ quoted ++
      ":null,\"choices\":[\x7b\"message\":\x7b\"content\":".toList ++ written ++
        "\x7d\x7d]\x7d".toList) := by
  have hmessage := Json.Spells.field ⟨Json.points "content".toList, _, .bare _, .bare _⟩
    (Json.writesString_points (by simp)) (.string hcontent)
  have hchoice := Json.Spells.field ⟨Json.points "message".toList, _, .bare _, .bare _⟩
    (Json.writesString_points (by simp)) hmessage
  have hchoices := @Json.Spells.items [(_, .bare _)] (by simp) (List.forall_mem_singleton.2 hchoice)
  have hnull : Json.Spells .null ['n', 'u', 'l', 'l'] := .null
  have hvalue := @Json.Spells.fields [⟨name, .null, .bare quoted, .bare ['n', 'u', 'l', 'l']⟩,
    ⟨Json.points "choices".toList, _, .bare _, .bare _⟩] (by simp)
    (List.forall_mem_cons.2 ⟨hname, List.forall_mem_singleton.2 (Json.writesString_points (by simp))⟩)
    (List.forall_mem_cons.2 ⟨hnull, List.forall_mem_singleton.2 hchoices⟩)
  simpa [answering, Json.Field.whole, Json.Padded.whole, Json.Padded.bare] using hvalue

/-- Half of a surrogate pair is written in a name that is not asked for, or in a content: the value is regular,
but it is not read. -/
theorem read_decides_unpaired :
    let named := "\x7b\"\\ud800\":null,\"choices\":[\x7b\"message\":\x7b\"content\":\"x\"\x7d\x7d]\x7d".toList
    let stated := "\x7b\"id\":null,\"choices\":[\x7b\"message\":\x7b\"content\":\"\\ud800\"\x7d\x7d]\x7d".toList
    (Json.Spells (answering [0xD800] (Json.points "x".toList)) named ∧
      IsRegular (answering [0xD800] (Json.points "x".toList)) ∧
        IsResponse (answering [0xD800] (Json.points "x".toList)) "x".toList ∧
          read named = .error (.malformed named)) ∧
    Json.Spells (answering (Json.points "id".toList) [0xD800]) stated ∧
      IsRegular (answering (Json.points "id".toList) [0xD800]) ∧
        read stated = .error (.malformed stated) := by
  intro named stated
  have hhalf : Json.WritesString [0xD800] "\"\\ud800\"".toList := by
    refine ⟨_, .cons (.number (i := 13) (j := 8) (k := 0) (l := 0) ?_ ?_ ?_ ?_) .nil, rfl⟩ <;> decide
  have hx := @Json.writesString_points "x".toList (by simp)
  have hid := @Json.writesString_points "id".toList (by simp)
  refine ⟨⟨spells_answering hhalf hx, isRegular_answering (by decide) _, ?_, by decide +kernel⟩,
    spells_answering hid hhalf, isRegular_answering (by decide) _, by decide +kernel⟩
  refine .choices (List.mem_cons_of_mem _ List.mem_cons_self) (.message List.mem_cons_self
    (.content List.mem_cons_self (.string ?_))) (List.forall_mem_nil _)
  exact Json.text?_eq_some_iff.1 (Json.text?_points _)

end CodeRepair.Chat.Response
