import CodeRepair.Proofs.Text.FirstOccurrence
import CodeRepair.Proofs.Text.Slice
import CodeRepair.Proofs.Text.Stop
import CodeRepair.Template
import Mathlib.Data.List.Sort

/-!
# Templates are spliced once

A placeholder begins with a brace and has no other one of that kind, so the first places of two slots
never overlap, and the one that comes second in a template is also the first one of its slot behind the
other place.  What is found that way is a division of the template: the pieces between the places, with
the placeholders put back, are the template again.  A rendered text has the values of the slots in these
places, and walking over the template by positions gives the same text.
-/

namespace CodeRepair

namespace Slot

/-- What follows the opening brace of a placeholder. -/
def ending (slot : Slot) : Text :=
  slot.name ++ ['}']

theorem brace_not_mem_ending (slot : Slot) : '{' ∉ slot.ending := by
  cases slot <;> decide

theorem ending_ne_nil (slot : Slot) : slot.ending ≠ [] :=
  List.append_ne_nil_of_right_ne_nil slot.name (List.cons_ne_nil _ _)

theorem head?_ending_injective : Function.Injective fun slot : Slot ↦ slot.ending.head? := by
  have hne : Slot.code.ending.head? ≠ Slot.linterOutput.ending.head? := by decide
  intro slot other h
  cases slot with
  | code =>
    cases other with
    | code => rfl
    | linterOutput => exact absurd h hne
  | linterOutput =>
    cases other with
    | code => exact absurd h.symm hne
    | linterOutput => rfl

/-- Two placeholders do not begin alike. -/
theorem eq_of_placeholder_append {slot other : Slot} {text more : Text}
    (h : slot.placeholder ++ text = other.placeholder ++ more) : slot = other := by
  have hending : slot.ending ++ text = other.ending ++ more := (List.cons.inj h).2
  have hhead := congrArg List.head? hending
  rw [List.head?_append_of_ne_nil _ slot.ending_ne_nil,
    List.head?_append_of_ne_nil _ other.ending_ne_nil] at hhead
  exact head?_ending_injective hhead

theorem eq_or_eq {slot other : Slot} (hne : slot ≠ other) (third : Slot) :
    third = slot ∨ third = other := by
  cases slot <;> cases other <;> cases third <;> simp at hne ⊢

end Slot

namespace Template

/-! ## Two places -/

/-- Of the first places of two slots one stands in front of the other, with all of its placeholder. -/
theorem exists_between {template before rest before' rest' : Text} {slot other : Slot}
    (hne : slot ≠ other) (h : Text.IsFirst slot.placeholder template before rest)
    (hother : Text.IsFirst other.placeholder template before' rest')
    (hle : before.length ≤ before'.length) :
    ∃ middle, before' = before ++ slot.placeholder ++ middle ∧
      rest = middle ++ other.placeholder ++ rest' := by
  have htext := h.text_eq.symm.trans hother.text_eq
  refine Text.exists_between slot.brace_not_mem_ending htext (Nat.lt_of_le_of_ne hle fun hlength ↦ ?_)
  rw [List.append_assoc, List.append_assoc] at htext
  have hplaceholders := (List.append_inj htext hlength).2
  exact hne (Slot.eq_of_placeholder_append hplaceholders)

namespace Pieces

@[simp]
theorem fill_nil (start : Text) (value : Slot → Text) : fill ⟨start, []⟩ value = start := by
  simp [fill]

@[simp]
theorem fill_cons (start text : Text) (slot : Slot) (places : List (Slot × Text))
    (value : Slot → Text) :
    fill ⟨start, (slot, text) :: places⟩ value = start ++ value slot ++ fill ⟨text, places⟩ value := by
  simp [fill]

end Pieces

/-- How a template is divided: into the pieces around the first places of the slots that occur. -/
inductive Division (template : Text) : Pieces → Prop
  | whole (hnone : ∀ slot : Slot, ¬slot.placeholder <:+: template) :
    Division template ⟨template, []⟩
  | one {slot : Slot} {before after : Text} (h : Text.IsFirst slot.placeholder template before after)
    (hnone : ∀ other : Slot, other ≠ slot → ¬other.placeholder <:+: template) :
    Division template ⟨before, [(slot, after)]⟩
  | two {slot other : Slot} {before middle after : Text} (hne : slot ≠ other)
    (h : Text.IsFirst slot.placeholder template before (middle ++ other.placeholder ++ after))
    (hother : Text.IsFirst other.placeholder template (before ++ slot.placeholder ++ middle) after) :
    Division template ⟨before, [(slot, middle), (other, after)]⟩

/-- Behind the place of one slot the other one is found where it first is in the whole template. -/
theorem splitFirst?_rest {template before rest before' rest' : Text} {slot other : Slot}
    (hne : slot ≠ other) (h : Text.IsFirst slot.placeholder template before rest)
    (hother : Text.IsFirst other.placeholder template before' rest')
    (hle : before.length ≤ before'.length) :
    ∃ middle, Text.splitFirst? other.placeholder rest = some (middle, rest') ∧
      Division template ⟨before, [(slot, middle), (other, rest')]⟩ := by
  obtain ⟨middle, rfl, rfl⟩ := exists_between hne h hother hle
  refine ⟨middle, Text.splitFirst?_eq_some_iff.2 ?_, .two hne h hother⟩
  have htemplate := h.text_eq
  rw [htemplate] at hother
  exact hother.of_append

theorem Division.of_missing {template before after : Text} {slot other : Slot} (hne : slot ≠ other)
    (h : Text.splitFirst? slot.placeholder template = some (before, after))
    (hother : Text.splitFirst? other.placeholder template = none) :
    Division template ⟨before, [(slot, after)]⟩ := by
  refine .one (Text.splitFirst?_eq_some_iff.1 h) fun third hthird ↦ ?_
  rw [(Slot.eq_or_eq hne third).resolve_left hthird]
  exact Text.splitFirst?_eq_none_iff.1 hother

theorem division_cut (template : Text) : Division template (cut template) := by
  cases hcode : Text.splitFirst? Slot.code.placeholder template with
  | none =>
    cases hlinter : Text.splitFirst? Slot.linterOutput.placeholder template with
    | none =>
      simp only [cut, place?, hcode, hlinter, Option.map_none]
      refine .whole fun slot ↦ ?_
      apply Text.splitFirst?_eq_none_iff.1
      cases slot <;> assumption
    | some parts =>
      simp only [cut, place?, hcode, hlinter, Option.map_none, Option.map_some]
      exact .of_missing (by decide) hlinter hcode
  | some parts =>
    cases hlinter : Text.splitFirst? Slot.linterOutput.placeholder template with
    | none =>
      simp only [cut, place?, hcode, hlinter, Option.map_none, Option.map_some]
      exact .of_missing (by decide) hcode hlinter
    | some parts' =>
      have hfirst := Text.splitFirst?_eq_some_iff.1 hcode
      have hsecond := Text.splitFirst?_eq_some_iff.1 hlinter
      simp only [cut, place?, hcode, hlinter, Option.map_some]
      by_cases hle : parts.1.length ≤ parts'.1.length
      · obtain ⟨middle, hsplit, hdivision⟩ := splitFirst?_rest (by decide) hfirst hsecond hle
        simpa only [if_pos hle, hsplit] using hdivision
      · obtain ⟨middle, hsplit, hdivision⟩ :=
          splitFirst?_rest (by decide) hsecond hfirst (Nat.le_of_not_le hle)
        simpa only [if_neg hle, hsplit] using hdivision

/-! ## What a division says -/

namespace Division

variable {template : Text} {pieces : Pieces}

theorem fill_placeholder (h : Division template pieces) :
    pieces.fill Slot.placeholder = template := by
  cases h with
  | whole => simp
  | one h => simp [h.text_eq]
  | two hne h hother => simp [hother.text_eq]

/-- The slots of the places are those that occur, each once. -/
theorem nodup_slots (h : Division template pieces) : (pieces.places.map Prod.fst).Nodup := by
  cases h with
  | whole => simp
  | one h => simp
  | two hne h hother => simpa using hne

theorem mem_slots_iff (h : Division template pieces) (slot : Slot) :
    slot ∈ pieces.places.map Prod.fst ↔ slot.placeholder <:+: template := by
  cases h with
  | whole hnone => simp [hnone]
  | @one found before after h hnone =>
    rw [List.map_singleton, List.mem_singleton]
    constructor
    · rintro rfl
      exact h.isInfix
    · intro hinfix
      by_contra hne
      exact hnone slot hne hinfix
  | @two found other before middle after hne h hother =>
    have hall : slot = found ∨ slot = other := Slot.eq_or_eq hne slot
    simp only [List.map_cons, List.map_nil, List.mem_cons, List.not_mem_nil, or_false, hall, true_iff]
    rcases hall with rfl | rfl
    · exact h.isInfix
    · exact hother.isInfix

/-- At each place the template is divided at the first occurrence of the slot's placeholder. -/
theorem isFirst (h : Division template pieces) {front back : List (Slot × Text)} {slot : Slot}
    {text : Text} (hplaces : pieces.places = front ++ (slot, text) :: back) :
    Text.IsFirst slot.placeholder template (Pieces.fill ⟨pieces.start, front⟩ Slot.placeholder)
      (Pieces.fill ⟨text, back⟩ Slot.placeholder) := by
  cases h with
  | whole hnone => simp at hplaces
  | one h hnone =>
    cases front with
    | nil =>
      cases hplaces
      simpa using h
    | cons place front => simp at hplaces
  | two hne h hother =>
    cases front with
    | nil =>
      obtain ⟨hplace, rfl⟩ := List.cons.inj hplaces
      cases hplace
      simpa using h
    | cons place front =>
      obtain ⟨rfl, hlater⟩ := List.cons.inj hplaces
      cases front with
      | nil =>
        obtain ⟨hplace, rfl⟩ := List.cons.inj hlater
        cases hplace
        simpa using hother
      | cons next front => simp at hlater

end Division

/-! ## Positions -/

/-- The first places of the slots in a template, by position. -/
def marks (template : Text) : List (Nat × Slot) :=
  (Slot.all.filterMap fun slot ↦
    (Text.splitFirst? slot.placeholder template).map fun parts ↦ (Text.size parts.1, slot)).insertionSort
    fun mark other ↦ mark.1 ≤ other.1

/-- A template with its places filled, taken from it slice by slice from a position on. -/
def splice? (template : Text) (value : Slot → Text) (cursor : Nat) : List (Nat × Slot) → Option Text
  | [] => Text.slice? template cursor (Text.size template)
  | (position, slot) :: marks => do
    let text ← Text.slice? template cursor position
    let rest ← splice? template value (position + Text.size slot.placeholder) marks
    return text ++ value slot ++ rest

/-- The positions between which a template is spliced, up to its end. -/
def edges (template : Text) : List (Nat × Slot) → List Nat
  | [] => [Text.size template]
  | (position, slot) :: marks =>
    position :: (position + Text.size slot.placeholder) :: edges template marks

/-- Where the places of some pieces are in a template that has them from a position on. -/
def positions (cursor : Nat) (start : Text) : List (Slot × Text) → List (Nat × Slot)
  | [] => []
  | (slot, text) :: places =>
    let position := cursor + Text.size start
    (position, slot) :: positions (position + Text.size slot.placeholder) text places

theorem splice?_positions (value : Slot → Text) (before start : Text) (places : List (Slot × Text)) :
    splice? (before ++ Pieces.fill ⟨start, places⟩ Slot.placeholder) value (Text.size before)
        (positions (Text.size before) start places) =
      some (Pieces.fill ⟨start, places⟩ value) := by
  induction places generalizing before start with
  | nil =>
    rw [Pieces.fill_nil, Pieces.fill_nil, positions, splice?, Text.slice?_eq_some_iff]
    exact ⟨before, [], by rw [List.append_nil], rfl, rfl⟩
  | cons place places ih =>
    obtain ⟨slot, text⟩ := place
    have hslice : Text.slice? (before ++ Pieces.fill ⟨start, (slot, text) :: places⟩ Slot.placeholder)
        (Text.size before) (Text.size before + Text.size start) = some start := by
      rw [Text.slice?_eq_some_iff]
      refine ⟨before, slot.placeholder ++ Pieces.fill ⟨text, places⟩ Slot.placeholder, ?_, rfl, ?_⟩
      · simp
      · simp
    have hrest := ih (before ++ start ++ slot.placeholder) text
    simp only [Text.size_append, List.append_assoc] at hrest
    simp only [Pieces.fill_cons, List.append_assoc] at hslice ⊢
    rw [positions, splice?, hslice, Nat.add_assoc, hrest]
    exact congrArg some (List.append_assoc _ _ _)

/-- Where a template can be spliced, its positions are in it and in order. -/
theorem isChain_of_splice? {template text : Text} {value : Slot → Text} {cursor : Nat}
    {marks : List (Nat × Slot)} (h : splice? template value cursor marks = some text) :
    (cursor :: edges template marks).IsChain (· ≤ ·) := by
  have hle {start stop : Nat} {part : Text} (hslice : Text.slice? template start stop = some part) :
      start ≤ stop := by
    obtain ⟨before, after, -, hstart, hstop⟩ := Text.slice?_eq_some_iff.1 hslice
    rw [← hstart, ← hstop, Text.size_append]
    exact Nat.le_add_right _ _
  induction marks generalizing cursor text with
  | nil => simpa [edges] using hle h
  | cons mark marks ih =>
    obtain ⟨position, slot⟩ := mark
    rw [splice?] at h
    obtain ⟨first, hfirst, h⟩ := Option.bind_eq_some_iff.1 h
    obtain ⟨rest, hrest, -⟩ := Option.bind_eq_some_iff.1 h
    rw [edges, List.isChain_cons_cons, List.isChain_cons_cons]
    exact ⟨hle hfirst, Nat.le_add_right _ _, ih hrest⟩

theorem insertionSort_pair {position position' : Nat} (h : position < position') (slot other : Slot) :
    [(position, slot), (position', other)].insertionSort (fun mark other ↦ mark.1 ≤ other.1) =
        [(position, slot), (position', other)] ∧
      [(position', other), (position, slot)].insertionSort (fun mark other ↦ mark.1 ≤ other.1) =
        [(position, slot), (position', other)] := by
  simp [Nat.le_of_lt h, Nat.not_le_of_lt h]

/-- The places of the pieces are at the positions where the placeholders are first found. -/
theorem Division.marks_eq {template : Text} {pieces : Pieces} (h : Division template pieces) :
    marks template = positions 0 pieces.start pieces.places := by
  have hfound {slot : Slot} {before after : Text}
      (hfirst : Text.IsFirst slot.placeholder template before after) :
      Text.splitFirst? slot.placeholder template = some (before, after) :=
    Text.splitFirst?_eq_some_iff.2 hfirst
  have hmissing {slot : Slot} (hnone : ¬slot.placeholder <:+: template) :
      Text.splitFirst? slot.placeholder template = none :=
    Text.splitFirst?_eq_none_iff.2 hnone
  cases h with
  | whole hnone => simp [marks, positions, hmissing (hnone _)]
  | @one slot before after h hnone =>
    cases slot with
    | code => simp [marks, positions, Slot.all, hfound h, hmissing (hnone .linterOutput (by decide))]
    | linterOutput => simp [marks, positions, Slot.all, hfound h, hmissing (hnone .code (by decide))]
  | @two slot other before middle after hne h hother =>
    have hlt : Text.size before < Text.size (before ++ slot.placeholder ++ middle) := by
      have hpos : 0 < Text.size slot.placeholder := by cases slot <;> decide
      rw [Text.size_append, Text.size_append]
      omega
    have hpair := insertionSort_pair hlt slot other
    have hpositions : positions 0 before [(slot, middle), (other, after)] =
        [(Text.size before, slot), (Text.size (before ++ slot.placeholder ++ middle), other)] := by
      simp [positions, Nat.add_assoc]
    rw [hpositions]
    cases slot with
    | code =>
      cases other with
      | code => exact absurd rfl hne
      | linterOutput =>
        simpa only [marks, Slot.all, List.filterMap_cons, List.filterMap_nil, hfound h, hfound hother,
          Option.map_some] using hpair.1
    | linterOutput =>
      cases other with
      | code =>
        simpa only [marks, Slot.all, List.filterMap_cons, List.filterMap_nil, hfound h, hfound hother,
          Option.map_some] using hpair.2
      | linterOutput => exact absurd rfl hne

/-- A template is rendered by one splice.  Its pieces do not depend on the bindings; between them stand
the values of the slots that occur, each once, at the places where their placeholders first occur.  The
template itself has the placeholders there, and walking over it by positions gives the rendered text,
with all positions in it and in order. -/
theorem render_splices_once (template : Text) :
    let pieces := cut template
    (∀ bindings : Bindings, render template bindings =
      pieces.start ++ pieces.places.flatMap fun place ↦ (bindings.get place.1).getD [] ++ place.2) ∧
    (∀ slot : Slot, slot ∈ pieces.places.map Prod.fst ↔ slot.placeholder <:+: template) ∧
    (pieces.places.map Prod.fst).Nodup ∧
    (∀ front slot text back, pieces.places = front ++ (slot, text) :: back →
      Text.IsFirst slot.placeholder template (Pieces.fill ⟨pieces.start, front⟩ Slot.placeholder)
        (Pieces.fill ⟨text, back⟩ Slot.placeholder)) ∧
    pieces.fill Slot.placeholder = template ∧
    render template { code := some Slot.code.placeholder
                      linterOutput := some Slot.linterOutput.placeholder } = template ∧
    (0 :: edges template (marks template)).Pairwise (· ≤ ·) ∧
    ∀ bindings : Bindings,
      splice? template bindings.value 0 (marks template) = some (render template bindings) := by
  intro pieces
  have hdivision : Division template pieces := division_cut template
  have hsplice (value : Slot → Text) :
      splice? template value 0 (marks template) = some (pieces.fill value) := by
    have hpositions := splice?_positions value [] pieces.start pieces.places
    rw [List.nil_append, hdivision.fill_placeholder, Text.size_nil] at hpositions
    rwa [hdivision.marks_eq]
  refine ⟨fun bindings ↦ rfl, hdivision.mem_slots_iff, hdivision.nodup_slots,
    fun front slot text back ↦ hdivision.isFirst, hdivision.fill_placeholder, ?_, ?_,
    fun bindings ↦ hsplice bindings.value⟩
  · have hvalue : Bindings.value ⟨some Slot.code.placeholder, some Slot.linterOutput.placeholder⟩ =
        Slot.placeholder := by
      funext slot
      cases slot <;> rfl
    rw [render, hvalue]
    exact hdivision.fill_placeholder
  · apply List.isChain_iff_pairwise.1
    exact isChain_of_splice? (hsplice Slot.placeholder)

end Template

end CodeRepair
