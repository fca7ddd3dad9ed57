import CodeRepair.Text.Basic

/-!
# Failures

A failure is told from its outermost cause to its root.
-/

namespace CodeRepair

/-- What went wrong, as a list of causes from the outermost to the root. -/
abbrev Failure := List Text

/-- The causes of a failure in one line. -/
def Failure.message (failure : Failure) : Text :=
  Text.join ": ".toList failure

end CodeRepair
