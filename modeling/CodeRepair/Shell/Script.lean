import CodeRepair.Text.Basic

/-!
# Shell scripts

A script is a command, and commands are put together from simple ones.  The words of a simple command
consist of parts, some of which only get their text when the command is run.  Commands know the line
on which they begin, because complaints name it.
-/

namespace CodeRepair.Shell

/-- What a redirection does with a descriptor. -/
inductive Direction
  | read
  | write
  /-- Even if there is a file. -/
  | clobber
  | append
  /-- Open for both. -/
  | both
  /-- It becomes the same as another one, or is closed. -/
  | duplicate
  deriving DecidableEq, Repr

/-- What is cut off the value of a parameter. -/
structure Cut where
  atEnd : Bool
  longest : Bool
  deriving DecidableEq, Repr

mutual

/-- A part of a word.  What stands in quotation marks is not split into several words. -/
inductive Part
  | text (value : Text) (quoted : Bool)
  | parameter (name : Text) (use : Use) (quoted : Bool)
  /-- What a script writes, without the line feeds at its end. -/
  | output (script : Script) (quoted : Bool)
  /-- The value of an arithmetic expression. -/
  | arithmetic (expression : List Part) (quoted : Bool)

/-- What is made of the value of a parameter.  With the flag, an empty value is taken for none. -/
inductive Use
  | value
  | length
  | default (orEmpty : Bool) (word : List Part)
  | assign (orEmpty : Bool) (word : List Part)
  | demand (orEmpty : Bool) (word : List Part)
  | replace (orEmpty : Bool) (word : List Part)
  | cut (cut : Cut) (pattern : List Part)
  /-- The value with a word behind it. -/
  | followed (word : List Part)
  /-- Something that is refused when it is reached. -/
  | malformed

/-- A redirection of a descriptor. -/
inductive Redirection
  | file (descriptor : Nat) (direction : Direction) (target : List Part)
  /-- The text that stands in the script under a number. -/
  | document (descriptor : Nat) (number : Nat)

/-- A script. -/
inductive Script
  | simple (line : Nat) (assignments : List (Text × List Part)) (words : List (List Part))
      (redirections : List Redirection)
  | pipeline (elements : List Script)
  | negated (script : Script)
  /-- The second script runs only if the first one succeeds. -/
  | both (left right : Script)
  /-- The second script runs only if the first one fails. -/
  | either (left right : Script)
  | sequence (left right : Script)
  | redirected (line : Nat) (body : Script) (redirections : List Redirection)
  | subshell (line : Nat) (body : Script) (redirections : List Redirection)
  | choice (condition body otherwise : Script)
  | loop (condition body : Script)
  | iteration (line : Nat) (name : Text) (words : List (List Part)) (body : Script)
  /-- The script of the first branch with a pattern that the word matches. -/
  | selection (line : Nat) (word : List Part) (branches : List (List (List Part) × Script))
  | definition (name : Text) (line : Nat) (body : Script)
  /-- The shell goes on without waiting for the script. -/
  | background (body : Script)
  /-- Nothing to do. -/
  | idle

end

/-- A word of a script. -/
abbrev Word := List Part

/-- The texts inside a script that redirections refer to, by their numbers. -/
abbrev Documents := List (Nat × Word)

/-- A name for the beginning of a command. -/
structure Alias where
  name : Text
  /-- What is read in its place. -/
  value : Text
  deriving DecidableEq, Repr

/-- Whether the word behind an alias may be one too. -/
def Alias.chains (entry : Alias) : Bool :=
  entry.value.getLast? = some ' ' || entry.value.getLast? = some '\t'

end CodeRepair.Shell
