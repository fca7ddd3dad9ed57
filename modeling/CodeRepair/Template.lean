import CodeRepair.Text.Occurrence

/-!
# Templates

A template is a text with a place for each slot: the first occurrence of the slot's placeholder.
Rendering puts the bound values into these places.  The places are found in the template, before
any value is put in, so a placeholder inside a value is text like any other, and so is every later
occurrence of a placeholder in the template.
-/

namespace CodeRepair

/-- What a template can ask for. -/
inductive Slot
  | code
  | linterOutput
  deriving DecidableEq, Repr

namespace Slot

/-- Every slot. -/
def all : List Slot := [code, linterOutput]

/-- The name of a slot. -/
def name : Slot → Text
  | code => "code".toList
  | linterOutput => "linterOutput".toList

/-- The text that stands for a slot in a template. -/
def placeholder (slot : Slot) : Text :=
  '{' :: slot.name ++ ['}']

/-- The slot of a name. -/
def ofName? (name : Text) : Option Slot :=
  all.find? fun slot ↦ slot.name == name

end Slot

/-- At most one value for each slot. -/
structure Bindings where
  code : Option Text := none
  linterOutput : Option Text := none
  deriving DecidableEq, Repr

namespace Bindings

/-- The value of a slot. -/
def get (bindings : Bindings) : Slot → Option Text
  | .code => bindings.code
  | .linterOutput => bindings.linterOutput

/-- The bindings with a new value for one slot. -/
def set (bindings : Bindings) (slot : Slot) (value : Text) : Bindings :=
  match slot with
  | .code => { bindings with code := some value }
  | .linterOutput => { bindings with linterOutput := some value }

/-- The text that takes the place of a slot: nothing where it is unbound. -/
def value (bindings : Bindings) (slot : Slot) : Text :=
  (bindings.get slot).getD []

@[simp]
theorem get_set_self (bindings : Bindings) (slot : Slot) (value : Text) :
    (bindings.set slot value).get slot = some value := by
  cases slot <;> rfl

theorem get_set_of_ne {bindings : Bindings} {slot other : Slot} (h : other ≠ slot) (value : Text) :
    (bindings.set slot value).get other = bindings.get other := by
  cases slot <;> cases other <;> simp_all [get, set]

end Bindings

namespace Template

/-- A template cut at its places: text, and then the slots in order, each with the text after
it. -/
structure Pieces where
  start : Text
  places : List (Slot × Text)
  deriving DecidableEq, Repr

/-- The text of a cut template under an assignment of texts to slots. -/
def Pieces.fill (pieces : Pieces) (value : Slot → Text) : Text :=
  pieces.start ++ pieces.places.flatMap fun place ↦ value place.1 ++ place.2

/-- Where a slot's placeholder first occurs, and what stands around it. -/
def place? (template : Text) (slot : Slot) : Option (Slot × Text × Text) :=
  (Text.splitFirst? slot.placeholder template).map fun parts ↦ (slot, parts.1, parts.2)

/-- The places of a template.  Where both slots occur, the one with less text before it comes
first, and the other is sought in the text after that place. -/
def cut (template : Text) : Pieces :=
  match place? template .code, place? template .linterOutput with
  | none, none => ⟨template, []⟩
  | some (slot, before, after), none => ⟨before, [(slot, after)]⟩
  | none, some (slot, before, after) => ⟨before, [(slot, after)]⟩
  | some (slot, before, after), some (slot', before', after') =>
    let (first, start, rest, second) :=
      if before.length ≤ before'.length then (slot, before, after, slot')
      else (slot', before', after', slot)
    match Text.splitFirst? second.placeholder rest with
    | some (middle, last) => ⟨start, [(first, middle), (second, last)]⟩
    | none => ⟨start, [(first, rest)]⟩

/-- The text of a template with its places filled. -/
def render (template : Text) (bindings : Bindings) : Text :=
  (cut template).fill bindings.value

end Template

end CodeRepair
