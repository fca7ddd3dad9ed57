import CodeRepair.Proofs.Json.RoundTrip

/-!
# Members of objects

A reader of JSON looks for the members of an object by their names, and takes for a text or a number
what a string or a number holds.  Such a reader is described here without the printer.
-/

namespace CodeRepair.Json

/-- The value of the only member of a name in an object. -/
def member? (name : String) : Json → Option Json
  | .object fields =>
    match fieldsOf name.toList fields with
    | [value] => some value
    | _ => none
  | _ => none

/-- The text that a string holds. -/
def toText? : Json → Option Text
  | .string points => text? points
  | _ => none

/-- The unsigned integer of 32 bits that a number in decimal digits is. -/
def toUInt32? : Json → Option UInt32
  | .number written => do
    let n ← Text.asciiNumber? written
    guard (n < UInt32.size)
    return UInt32.ofNat n
  | _ => none

/-- A number as it is written. -/
def toWritten? : Json → Option Text
  | .number written => some written
  | _ => none

/-- The items of an array. -/
def toItems? : Json → Option (List Json)
  | .array items => some items
  | _ => none

/-- A character is no half of a surrogate pair, so it is read on its own. -/
theorem pairStep_toNat (text : Text) (c : Char) :
    pairStep (some (none, text)) c.toNat = some (none, c :: text) := by
  have hvalid : c.toNat < 0xD800 ∨ 0xDFFF < c.toNat ∧ c.toNat < 0x110000 := c.valid
  have hhigh : isHigh c.toNat = false := by
    simp only [isHigh, Bool.and_eq_false_iff, decide_eq_false_iff_not]
    omega
  have hlow : isLow c.toNat = false := by
    simp only [isLow, Bool.and_eq_false_iff, decide_eq_false_iff_not]
    omega
  simp [pairStep, hhigh, hlow]

theorem foldl_pairStep_points (text before : Text) :
    (points text).foldl pairStep (some (none, before)) = some (none, text.reverse ++ before) := by
  induction text generalizing before with
  | nil => rfl
  | cons c text ih =>
    have hpoints : points (c :: text) = c.toNat :: points text := rfl
    rw [hpoints, List.foldl_cons, pairStep_toNat, ih, List.reverse_cons, List.append_assoc]
    rfl

theorem text?_points (text : Text) : text? (points text) = some text := by
  simp [text?, foldl_pairStep_points]

@[simp]
theorem toText?_ofText (text : Text) : (ofText text).toText? = some text :=
  text?_points text

@[simp]
theorem toUInt32?_ofNat (n : UInt32) : (ofNat n.toNat).toUInt32? = some n := by
  have hsize : n.toNat < UInt32.size := n.toNat_lt
  have hguard : (guard (n.toNat < UInt32.size) : Option Unit) = some () := if_pos hsize
  rw [ofNat, toUInt32?, Text.asciiNumber?_ofNat]
  show (guard (n.toNat < UInt32.size) >>= fun _ ↦ some (UInt32.ofNat n.toNat)) = some n
  rw [hguard, UInt32.ofNat_toNat]
  rfl

/-- Every member of an object is named by a text, so only the values matter. -/
theorem isWritable_members {members : List (String × Json)}
    (h : ∀ member ∈ members, member.2.IsWritable) :
    (object (members.map fun member ↦ (points member.1.toList, member.2))).IsWritable := by
  refine .object ?_ ?_
  · intro field hfield point hpoint
    obtain ⟨member, -, rfl⟩ := List.mem_map.1 hfield
    exact isPoint_of_mem_points hpoint
  · intro field hfield
    obtain ⟨member, hmember, rfl⟩ := List.mem_map.1 hfield
    exact h member hmember

/-- Different names have different code points. -/
theorem fieldsOf_cons (name field : String) (value : Json) (fields : List (List Nat × Json)) :
    fieldsOf name.toList ((points field.toList, value) :: fields) =
      if field = name then value :: fieldsOf name.toList fields
      else fieldsOf name.toList fields := by
  have hname : (points field.toList == points name.toList) = decide (field = name) := by
    rw [Bool.eq_iff_iff, beq_iff_eq, decide_eq_true_iff, points, points,
      List.map_inj_right fun _ _ ↦ Char.toNat_inj.1, String.toList_inj]
  simp only [fieldsOf, List.filter_cons, hname, decide_eq_true_eq]
  split <;> rfl

theorem fieldsOf_nil (name : String) : fieldsOf name.toList [] = [] :=
  rfl

/-- Items that are read one by one are read together. -/
theorem mapM_map_eq_some {α β : Type} {write : α → Json} {read : Json → Option β} {value : α → β}
    (h : ∀ a, read (write a) = some (value a)) (items : List α) :
    (items.map write).mapM read = some (items.map value) := by
  induction items with
  | nil => rfl
  | cons a items ih => simp [h, ih]

end CodeRepair.Json
