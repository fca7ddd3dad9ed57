import CodeRepair.Text.Blank
import CodeRepair.Text.Occurrence

/-!
# The answer in a model's response

A model writes what it likes around its answer, but puts a marker before it.  Prompts quote the
marker, and so may the model; what follows the last marker is the answer.
-/

namespace CodeRepair.Answer

/-- The marker before an answer. -/
def marker : Text := "Output:".toList

/-- The text after the last marker, or the whole response where there is none, without white space
at its ends. -/
def extract (response : Text) : Text :=
  Text.trim ((Text.afterLast? marker response).getD response)

end CodeRepair.Answer
