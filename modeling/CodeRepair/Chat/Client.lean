import CodeRepair.Chat.Response
import CodeRepair.Config.Basic
import CodeRepair.Web.Base64
import CodeRepair.Web.Exchange

/-!
# Clients of a chat service

A client sends each request once, to the address that its configuration names, and reads the answer.
The key comes from the environment.  Nothing is kept between two requests.
-/

namespace CodeRepair.Chat

/-- Why there is no client. -/
inductive ClientFault
  /-- The environment has no key under the name. -/
  | noKey (name : Text)
  | invalidKey
  deriving DecidableEq, Repr

/-- A fault with its causes. -/
def ClientFault.failure : ClientFault → Failure
  | noKey name => ["read API key from $".toList ++ name, "environment variable not found".toList]
  | invalidKey => ["invalid API key header".toList, "failed to parse header value".toList]

/-- The wording of a fault without its causes. -/
def ClientFault.message (fault : ClientFault) : Text :=
  fault.failure.head?.getD []

/-- A client. -/
structure Client where
  /-- The address of the service, as it is written. -/
  address : Text
  authorization : Text
  deriving DecidableEq, Repr

/-- A text without the slashes at its end. -/
def dropSlashes (text : Text) : Text :=
  (text.reverse.dropWhile (· == '/')).reverse

/-- The address of the service below an endpoint. -/
def addressOf (endpoint : Text) : Text :=
  dropSlashes endpoint ++ "/chat/completions".toList

namespace Client

/-- The client of an endpoint with a key. -/
def ofKey (settings : Config.Model) (key : Text) : Except ClientFault Client :=
  let authorization := "Bearer ".toList ++ key
  if Web.isHeaderValue authorization then .ok ⟨addressOf settings.endpoint, authorization⟩
  else .error .invalidKey

/-- The client of a configuration, with the key that the environment has. -/
def ofConfig (environment : Text → Option Text) (settings : Config.Model) :
    Except ClientFault Client :=
  match environment settings.apiKeyEnv with
  | none => .error (.noKey settings.apiKeyEnv)
  | some key => ofKey settings key

/-- What a request authorizes itself with: the key, unless the address names a user. -/
def authorizationFor (client : Client) (address : Web.Address) : Text :=
  if address.user.isEmpty && address.password.isEmpty then client.authorization
  else "Basic ".toList ++ Web.base64 (Web.percentDecode address.user ++ Text.encode [':'] ++
    Web.percentDecode address.password)

/-- The request that is sent to the service, if its address can be read. -/
def webRequest? (client : Client) (request : Request) : Option Web.Request :=
  (Web.Address.read? client.address).map fun address ↦
    { method := "POST".toList
      address
      authorization := client.authorizationFor address
      contentType := "application/json".toList
      body := request.body }

/-- The failure of a request that does not get through. -/
def notSent : Failure :=
  ["send chat completion request".toList]

/-- What a reply of the service comes to.  Of a refusal the first three hundred characters are
shown. -/
def readReply (reply : Web.Reply) : Except Failure Text :=
  let body := Text.decodeLenient reply.body
  if Web.isSuccess reply.status then
    match Response.read body with
    | .ok content => .ok content
    | .error fault => .error [fault.message]
  else .error ["HTTP ".toList ++ Web.statusText reply.status ++ ": ".toList ++ body.take 300]

/-- One request, sent once. -/
def complete {σ : Type} (client : Client) (transport : Web.Transport σ) (world : σ)
    (request : Request) : Except Failure Text × σ :=
  match client.webRequest? request with
  | none => (.error notSent, world)
  | some webRequest =>
    match transport.send world webRequest with
    | (none, world) => (.error notSent, world)
    | (some reply, world) => (readReply reply, world)

/-- The model behind a service. -/
def model {σ : Type} (client : Client) (transport : Web.Transport σ) : Model σ :=
  ⟨client.complete transport⟩

end Client

end CodeRepair.Chat
