import CodeRepair.Chat.Request
import CodeRepair.Proofs.Decimal.Layout
import CodeRepair.Proofs.Json.Member

/-!
# The body of a request is read back

Whatever characters the messages hold and whatever number the temperature is, the body of a request is
JSON.  A service that looks for the members by their names finds the model and the messages as they
were asked for.  It finds a number for the temperature exactly if the temperature is finite.
-/

namespace CodeRepair.Chat

/-! ## Reading a body -/

/-- The message that a value describes. -/
def Message.ofJson? (value : Json) : Option Message := do
  let role ← (← value.member? "role").toText?
  let content ← (← value.member? "content").toText?
  return ⟨role, content⟩

/-- The model and the messages that a value asks for. -/
def askedOf? (value : Json) : Option (Text × List Message) := do
  let model ← (← value.member? "model").toText?
  let items ← (← value.member? "messages").toItems?
  let messages ← items.mapM Message.ofJson?
  return (model, messages)

/-- The model and the messages that a body asks for. -/
def readBody? (body : Text) : Option (Text × List Message) :=
  (Json.read? body).bind askedOf?

/-- The number that a value asks for as its temperature, as it is written. -/
def temperatureOf? (value : Json) : Option Text := do
  (← value.member? "temperature").toWritten?

/-- The number that a body asks for as its temperature, as it is written. -/
def readTemperature? (body : Text) : Option Text :=
  (Json.read? body).bind temperatureOf?

namespace Request

/-! ## The body is JSON -/

theorem isWritable_jsonOfMessage (message : Message) : (jsonOfMessage message).IsWritable := by
  let members := [("role", Json.ofText message.role), ("content", Json.ofText message.content)]
  have hmembers : ∀ member ∈ members, member.2.IsWritable := by
    simp [members, Json.isWritable_ofText]
  exact Json.isWritable_members hmembers

/-- A temperature that is no finite number is sent as null. -/
theorem isWritable_temperature (temperature : Decimal.Single) :
    (if temperature.isFinite then Json.number (Decimal.Layout.request.write temperature)
      else .null).IsWritable := by
  split
  · next h => exact .number (Decimal.isNumeral_write_request h)
  · exact .null

theorem isWritable_toJson (request : Request) : request.toJson.IsWritable := by
  have hmessages : (Json.array (request.messages.map jsonOfMessage)).IsWritable := by
    refine .array fun item hitem ↦ ?_
    obtain ⟨message, -, rfl⟩ := List.mem_map.1 hitem
    exact isWritable_jsonOfMessage message
  let members := [("model", Json.ofText request.model),
    ("temperature", if request.temperature.isFinite then
      Json.number (Decimal.Layout.request.write request.temperature) else .null),
    ("messages", .array (request.messages.map jsonOfMessage))]
  have hmembers : ∀ member ∈ members, member.2.IsWritable := by
    simp [members, hmessages, Json.isWritable_ofText, isWritable_temperature]
  exact Json.isWritable_members hmembers

/-! ## What is read back -/

theorem ofJson?_jsonOfMessage (message : Message) :
    Message.ofJson? (jsonOfMessage message) = some message := by
  simp only [Message.ofJson?, jsonOfMessage, Json.member?, Json.fieldsOf_cons, Json.fieldsOf_nil]
  simp

theorem askedOf?_toJson (request : Request) :
    askedOf? request.toJson = some (request.model, request.messages) := by
  have hitems : (request.messages.map jsonOfMessage).mapM Message.ofJson? =
      some (request.messages.map id) :=
    Json.mapM_map_eq_some ofJson?_jsonOfMessage request.messages
  simp only [askedOf?, toJson, Json.member?, Json.fieldsOf_cons, Json.fieldsOf_nil]
  simp [Json.toItems?, hitems]

theorem readBody?_body (request : Request) :
    readBody? request.body = some (request.model, request.messages) := by
  rw [readBody?, body, request.isWritable_toJson.read?_write, Option.bind_some, askedOf?_toJson]

theorem temperatureOf?_toJson (request : Request) :
    temperatureOf? request.toJson = if request.temperature.isFinite then
      some (Decimal.Layout.request.write request.temperature) else none := by
  have hwritten : Json.toWritten? (if request.temperature.isFinite then
      Json.number (Decimal.Layout.request.write request.temperature) else .null) =
      if request.temperature.isFinite then
        some (Decimal.Layout.request.write request.temperature) else none := by
    split <;> rfl
  simp only [temperatureOf?, toJson, Json.member?, Json.fieldsOf_cons, Json.fieldsOf_nil]
  simpa using hwritten

theorem readTemperature?_body (request : Request) :
    readTemperature? request.body = if request.temperature.isFinite then
      some (Decimal.Layout.request.write request.temperature) else none := by
  rw [readTemperature?, body, request.isWritable_toJson.read?_write, Option.bind_some,
    temperatureOf?_toJson]

/-- The body of a request has a number of JSON for the temperature. -/
def CarriesNumber (request : Request) : Prop :=
  ∃ written, readTemperature? request.body = some written ∧ Json.IsNumeral written

theorem carriesNumber_iff {request : Request} :
    request.CarriesNumber ↔ request.temperature.isFinite = true := by
  rw [CarriesNumber, readTemperature?_body]
  constructor
  · rintro ⟨written, hwritten, -⟩
    by_contra hfinite
    rw [if_neg hfinite] at hwritten
    cases hwritten
  · intro hfinite
    exact ⟨_, if_pos hfinite, Decimal.isNumeral_write_request hfinite⟩

end Request

end CodeRepair.Chat
