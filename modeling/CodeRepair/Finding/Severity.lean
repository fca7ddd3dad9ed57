import CodeRepair.Text.Basic

/-!
# Severity

How grave a finding is, as the first letter of its code tells.
-/

namespace CodeRepair

/-- The three grades of a finding. -/
inductive Severity
  | error
  | warning
  | information
  deriving DecidableEq, Repr

namespace Severity

/-- `F` and `E` begin the code of an error and `I` that of an information; all else, the empty code
included, is a warning. -/
def ofCode : Text → Severity
  | 'F' :: _ => error
  | 'E' :: _ => error
  | 'I' :: _ => information
  | _ => warning

/-- The word for a severity, in listings and in JSON alike. -/
def name : Severity → Text
  | error => "error".toList
  | warning => "warning".toList
  | information => "information".toList

end Severity

end CodeRepair
