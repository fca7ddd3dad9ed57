import CodeRepair.Template

/-!
# The stages of a repair

A stage is one revision of the program text: a label for the user, a template for the prompt, and
the slots that it asks for.  A repair has three stages of its own: the findings of the linter, bugs
that a linter cannot see, and style.
-/

namespace CodeRepair

/-- One revision of the program text. -/
structure Stage where
  label : Text
  template : Text
  slots : List Slot
  deriving DecidableEq, Repr

namespace Stage

/-- Whether a stage asks for a slot. -/
def requires (stage : Stage) (slot : Slot) : Bool :=
  stage.slots.contains slot

/-- The prompt of a stage: the program text, and the side values of the other slots that the stage
asks for. -/
def prompt (stage : Stage) (code : Text) (side : Bindings) : Text :=
  Template.render stage.template
    { code := some code
      linterOutput := if stage.requires .linterOutput then some (side.value .linterOutput) else none }

/-- The template of the first stage. -/
def lintTemplate : String :=
  "You are repairing a Python module that a static analysis tool has flagged.\n\n" ++
  "Rewrite the module so that every finding below is resolved. Change only what\n" ++
  "the findings require; keep names, structure and behaviour otherwise intact.\n\n" ++
  "<findings>\n\x7blinterOutput\x7d\n</findings>\n\n" ++
  "<code>\n\x7bcode\x7d\n</code>\n\n" ++
  "Reply with a short note if you must, then the complete corrected module after\n" ++
  "a line containing only `Output:`. Do not wrap the module in Markdown fences and\n" ++
  "do not omit any part of it.\n"

/-- The template of the second stage. -/
def logicTemplate : String :=
  "You are reviewing a Python module for bugs that a linter cannot see: wrong\n" ++
  "conditions, off-by-one loops, unreachable branches, misuse of mutable state,\n" ++
  "statements that cannot run at module level.\n\n" ++
  "Fix the bugs you are certain about. Leave correct code exactly as it is. Do not\n" ++
  "add features, comments or type hints.\n\n" ++
  "<code>\n\x7bcode\x7d\n</code>\n\n" ++
  "Reply with the complete module after a line containing only `Output:`. Do not\n" ++
  "wrap the module in Markdown fences.\n"

/-- The template of the third stage. -/
def styleTemplate : String :=
  "Make this Python module idiomatic without changing what it does: prefer\n" ++
  "`isinstance` checks, drop statements with no effect, remove dead `else`\n" ++
  "branches on loops, and keep the formatting PEP 8 compliant.\n\n" ++
  "<code>\n\x7bcode\x7d\n</code>\n\n" ++
  "Reply with the complete module after a line containing only `Output:`. Do not\n" ++
  "wrap the module in Markdown fences.\n"

/-- The stages of every repair. -/
def standard : List Stage :=
  [⟨"Fixing linter findings".toList, lintTemplate.toList, [.code, .linterOutput]⟩,
    ⟨"Repairing logic errors".toList, logicTemplate.toList, [.code]⟩,
    ⟨"Polishing style".toList, styleTemplate.toList, [.code]⟩]

end Stage

end CodeRepair
