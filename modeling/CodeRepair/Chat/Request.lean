import CodeRepair.Decimal.Layout
import CodeRepair.Failure
import CodeRepair.Json.Printer

/-!
# Requests to a model

A request names a model and a temperature and holds a conversation.  It is sent as a JSON object.
-/

namespace CodeRepair

namespace Chat

/-- One message of a conversation. -/
structure Message where
  role : Text
  content : Text
  deriving DecidableEq, Repr

/-- The role of the one who asks. -/
def Message.userRole : Text := "user".toList

/-- A request to a model. -/
structure Request where
  model : Text
  temperature : Decimal.Single
  messages : List Message
  deriving DecidableEq, Repr

namespace Request

/-- A request with one message, from the user. -/
def ofPrompt (model : Text) (temperature : Decimal.Single) (prompt : Text) : Request :=
  ⟨model, temperature, [⟨Message.userRole, prompt⟩]⟩

/-- The first message of the user, empty if there is none. -/
def prompt (request : Request) : Text :=
  ((request.messages.find? fun message ↦ message.role == Message.userRole).map
    Message.content).getD []

/-- A message as a JSON value. -/
def jsonOfMessage (message : Message) : Json :=
  .object [(Json.points "role".toList, .ofText message.role),
    (Json.points "content".toList, .ofText message.content)]

/-- A request as a JSON value. -/
def toJson (request : Request) : Json :=
  .object [(Json.points "model".toList, .ofText request.model),
    (Json.points "temperature".toList,
      if request.temperature.isFinite then
        .number (Decimal.Layout.request.write request.temperature)
      else .null),
    (Json.points "messages".toList, .array (request.messages.map jsonOfMessage))]

/-- The body in which a request is sent. -/
def body (request : Request) : Text :=
  request.toJson.write

end Request

end Chat

/-- A model: what it makes of a request, and the state it is in afterwards. -/
structure Model (σ : Type) where
  complete : σ → Chat.Request → Except Failure Text × σ

end CodeRepair
