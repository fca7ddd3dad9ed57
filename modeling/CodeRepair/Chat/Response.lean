import CodeRepair.Chat.Request
import CodeRepair.Json.Reader

/-!
# Responses of a model

A response is a JSON object with a list of choices; a choice has a message, and a message may have a
content.  Fields of other names are passed over, whatever they hold, and a field that is read may
not come twice.  An object may also be written as the array of its fields.  All choices must be in
form, and the content of the first one is the answer.
-/

namespace CodeRepair.Chat

/-- What is wrong with a response. -/
inductive ResponseError
  | malformed (body : Text)
  | noChoices
  deriving DecidableEq, Repr

/-- The wording of a fault; a malformed body is shown up to its two-hundredth character. -/
def ResponseError.message : ResponseError → Text
  | malformed body => "decode chat completion: ".toList ++ body.take 200
  | noChoices => "chat completion returned no choices".toList

namespace Response

/-- The field of a name, if there is one, in an object whose names are all texts.  It may not come
twice. -/
def field? (name : Text) (fields : List (List Nat × Json)) : Option (Option Json) :=
  if fields.all fun field ↦ (Json.text? field.1).isSome then
    match Json.fieldsOf name fields with
    | [] => some none
    | [value] => some (some value)
    | _ => none
  else none

/-- The content of a message, empty where it is null. -/
def content? : Json → Option Text
  | .null => some []
  | .string points => Json.text? points
  | _ => none

/-- The content in a message, empty where there is none. -/
def message? : Json → Option Text
  | .object fields =>
    match field? "content".toList fields with
    | some (some value) => content? value
    | some none => some []
    | none => none
  | .array [] => some []
  | .array [value] => content? value
  | _ => none

/-- The content in a choice. -/
def choice? : Json → Option Text
  | .object fields =>
    match field? "message".toList fields with
    | some (some value) => message? value
    | _ => none
  | .array [value] => message? value
  | _ => none

/-- The contents in a list of choices. -/
def choices? : Json → Option (List Text)
  | .array items => items.mapM choice?
  | _ => none

/-- The contents of the choices in a response. -/
def contents? : Json → Option (List Text)
  | .object fields =>
    match field? "choices".toList fields with
    | some (some value) => choices? value
    | _ => none
  | .array [value] => choices? value
  | _ => none

/-- The answer in the body of a response. -/
def read (body : Text) : Except ResponseError Text :=
  match (Json.read? body).bind contents? with
  | none => .error (.malformed body)
  | some [] => .error .noChoices
  | some (content :: _) => .ok content

end Response

end CodeRepair.Chat
