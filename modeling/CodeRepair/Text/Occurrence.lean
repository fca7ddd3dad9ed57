import CodeRepair.Text.Basic

/-!
# Occurrences

Where one text occurs inside another: what stands before and after its first occurrence, and what
stands after its last one.  Both are found from the back, so that the state at each character is
the text from there on together with the answer for it.
-/

namespace CodeRepair.Text

/-- One step towards the first occurrence: the text from here on, and its parts around it. -/
def firstStep (sought : Text) (c : Char) (later : Text × Option (Text × Text)) :
    Text × Option (Text × Text) :=
  let here := c :: later.1
  match dropHead? sought here with
  | some rest => (here, some ([], rest))
  | none => (here, later.2.map fun parts ↦ (c :: parts.1, parts.2))

/-- What stands before and after the first occurrence of a text. -/
def splitFirst? (sought text : Text) : Option (Text × Text) :=
  (text.foldr (firstStep sought) ([], (dropHead? sought []).map fun rest ↦ ([], rest))).2

/-- One step towards the last occurrence: the text from here on, and what follows it there. -/
def lastStep (sought : Text) (c : Char) (later : Text × Option Text) : Text × Option Text :=
  let here := c :: later.1
  (here, later.2.or (dropHead? sought here))

/-- What stands after the last occurrence of a text. -/
def afterLast? (sought text : Text) : Option Text :=
  (text.foldr (lastStep sought) ([], dropHead? sought [])).2

/-- Whether a text occurs inside another. -/
def occursIn (sought text : Text) : Bool :=
  (afterLast? sought text).isSome

end CodeRepair.Text
