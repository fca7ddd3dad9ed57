import CodeRepair.Chat.Client
import CodeRepair.Proofs.Chat.Request
import CodeRepair.Proofs.Repair.Threading
import Mathlib.Data.List.Forall2

/-!
# Calls of a client are independent

A client is called several times, and the web answers the requests in turn, well or badly.  Each call
sends one request, always to the same place and with the same authorization, and asks its own question.
What a call comes to is decided by the answer to its own request: no request is sent again, and no
answer shows in another call.
-/

namespace CodeRepair

/-- A web that answers requests in turn, whatever they are.  Its world is the requests so far. -/
def Web.Transport.answering (answers : Nat → Option Web.Reply) :
    Web.Transport (List Web.Request) :=
  ⟨fun sent request ↦ (answers sent.length, sent ++ [request])⟩

namespace Chat

/-! ## What is asked -/

/-- What a model is asked in one call. -/
structure Question where
  model : Text
  temperature : Decimal.Single
  prompt : Text

/-- The request for a question. -/
def Question.request (question : Question) : Request :=
  .ofPrompt question.model question.temperature question.prompt

/-- A client asks a question at an address. -/
structure Client.Asks (client : Client) (address : Web.Address) (question : Question)
    (sent : Web.Request) : Prop where
  method_eq : sent.method = "POST".toList
  address_eq : sent.address = address
  authorization_eq : sent.authorization = client.authorizationFor address
  contentType_eq : sent.contentType = "application/json".toList
  body_eq : readBody? sent.body = some (question.model, [⟨"user".toList, question.prompt⟩])

/-! ## What an answer comes to -/

/-- The longest text of no more than so many characters that a text begins with. -/
structure IsLongestStart (limit : Nat) (text start : Text) : Prop where
  starts : start <+: text
  length_le : start.length ≤ limit
  longest : ∀ other, other <+: text → other.length ≤ limit → other <+: start

theorem isLongestStart_take (limit : Nat) (text : Text) :
    IsLongestStart limit text (text.take limit) where
  starts := List.take_prefix limit text
  length_le := List.length_take_le limit text
  longest _ hother hlength := List.prefix_take_iff.2 ⟨hother, hlength⟩

theorem IsLongestStart.unique {limit : Nat} {text start other : Text}
    (h : IsLongestStart limit text start) (hother : IsLongestStart limit text other) :
    start = other :=
  (hother.longest start h.starts h.length_le).eq_of_length_le
    (h.longest other hother.starts hother.length_le).length_le

/-- Whether the status of a reply says that all went well. -/
def IsAccepted (reply : Web.Reply) : Prop :=
  200 ≤ reply.status ∧ reply.status ≤ 299

/-- What a call comes to whose request is answered by a reply. -/
structure RepliedBy (reply : Web.Reply) (result : Except Failure Text) : Prop where
  ok_iff (content : Text) : result = .ok content ↔
    IsAccepted reply ∧ Response.read (Text.decodeLenient reply.body) = .ok content
  unread (haccepted : IsAccepted reply) (fault : ResponseError)
    (hfault : Response.read (Text.decodeLenient reply.body) = .error fault) :
    result = .error [fault.message]
  refused (hrefused : ¬ IsAccepted reply) :
    ∃ shown, IsLongestStart 300 (Text.decodeLenient reply.body) shown ∧
      result = .error ["HTTP ".toList ++ Web.statusText reply.status ++ ": ".toList ++ shown]

/-- What a call comes to whose request is answered so, or does not get through. -/
def AnsweredBy (answer : Option Web.Reply) (result : Except Failure Text) : Prop :=
  match answer with
  | some reply => RepliedBy reply result
  | none => result = .error Client.notSent

/-- A reply decides what a call comes to. -/
theorem RepliedBy.unique {reply : Web.Reply} {result other : Except Failure Text}
    (h : RepliedBy reply result) (hother : RepliedBy reply other) : result = other := by
  by_cases haccepted : IsAccepted reply
  · cases hread : Response.read (Text.decodeLenient reply.body) with
    | ok content =>
      rw [(h.ok_iff content).2 ⟨haccepted, hread⟩, (hother.ok_iff content).2 ⟨haccepted, hread⟩]
    | error fault =>
      rw [h.unread haccepted fault hread, hother.unread haccepted fault hread]
  · obtain ⟨shown, hshown, hresult⟩ := h.refused haccepted
    obtain ⟨shown', hshown', hresult'⟩ := hother.refused haccepted
    rw [hresult, hresult', hshown.unique hshown']

theorem AnsweredBy.unique {answer : Option Web.Reply} {result other : Except Failure Text}
    (h : AnsweredBy answer result) (hother : AnsweredBy answer other) : result = other := by
  cases answer with
  | none => exact h.trans hother.symm
  | some reply => exact RepliedBy.unique h hother

namespace Client

theorem isSuccess_iff (reply : Web.Reply) :
    Web.isSuccess reply.status = true ↔ IsAccepted reply := by
  rw [Web.isSuccess, Bool.and_eq_true, decide_eq_true_iff, decide_eq_true_iff, IsAccepted,
    Nat.lt_succ_iff]

theorem repliedBy_readReply (reply : Web.Reply) : RepliedBy reply (readReply reply) := by
  by_cases haccepted : IsAccepted reply
  · have hsuccess := (isSuccess_iff reply).2 haccepted
    cases hread : Response.read (Text.decodeLenient reply.body) with
    | ok content =>
      have hreply : readReply reply = .ok content := by simp [readReply, hsuccess, hread]
      rw [hreply]
      refine ⟨fun other ↦ ?_, fun _ fault hfault ↦ ?_, fun hrefused ↦ absurd haccepted hrefused⟩
      · simp [haccepted, hread]
      · rw [hread] at hfault
        cases hfault
    | error fault =>
      have hreply : readReply reply = .error [fault.message] := by
        simp [readReply, hsuccess, hread]
      rw [hreply]
      refine ⟨fun content ↦ ?_, fun _ other hother ↦ ?_, fun hrefused ↦ absurd haccepted hrefused⟩
      · simp [hread]
      · rw [Except.error.inj (hread.symm.trans hother)]
  · have hreply : readReply reply = .error ["HTTP ".toList ++ Web.statusText reply.status ++
        ": ".toList ++ (Text.decodeLenient reply.body).take 300] :=
      if_neg (mt (isSuccess_iff reply).1 haccepted)
    rw [hreply]
    refine ⟨fun content ↦ ?_, fun h ↦ absurd h haccepted, fun _ ↦ ?_⟩
    · simp [haccepted]
    · exact ⟨_, isLongestStart_take 300 _, rfl⟩

/-- What is made of the answer to a request. -/
def readAnswer : Option Web.Reply → Except Failure Text
  | some reply => readReply reply
  | none => .error notSent

theorem answeredBy_readAnswer (answer : Option Web.Reply) :
    AnsweredBy answer (readAnswer answer) := by
  cases answer with
  | none => exact rfl
  | some reply => exact repliedBy_readReply reply

/-! ## One call -/

section

variable (client : Client) (answers : Nat → Option Web.Reply)

/-- What is sent to an address for a request. -/
def webRequest (address : Web.Address) (request : Request) : Web.Request where
  method := "POST".toList
  address := address
  authorization := client.authorizationFor address
  contentType := "application/json".toList
  body := request.body

theorem asks_webRequest (address : Web.Address) (question : Question) :
    client.Asks address question (client.webRequest address question.request) :=
  ⟨rfl, rfl, rfl, rfl, Request.readBody?_body question.request⟩

variable {client} {address : Web.Address}

/-- One call sends one request, whatever the answer to it is. -/
theorem complete_of_read (h : Web.Address.read? client.address = some address)
    (sent : List Web.Request) (request : Request) :
    (client.model (.answering answers)).complete sent request =
      (readAnswer (answers sent.length), sent ++ [client.webRequest address request]) := by
  have hweb : client.webRequest? request = some (client.webRequest address request) := by
    rw [webRequest?, h]
    rfl
  show client.complete (.answering answers) sent request = _
  simp only [complete, hweb, Web.Transport.answering]
  cases answers sent.length <;> rfl

theorem complete_of_unread (h : Web.Address.read? client.address = none)
    (sent : List Web.Request) (request : Request) :
    (client.model (.answering answers)).complete sent request = (.error notSent, sent) := by
  show client.complete (.answering answers) sent request = _
  rw [complete, webRequest?, h]
  rfl

/-! ## All calls -/

theorem after_of_read (h : Web.Address.read? client.address = some address)
    (sent : List Web.Request) (requests : List Request) :
    (client.model (.answering answers)).after sent requests =
      sent ++ requests.map (client.webRequest address) := by
  induction requests generalizing sent with
  | nil => simp [Model.after]
  | cons request requests ih =>
    rw [Model.after_cons, complete_of_read answers h, ih, List.append_assoc]
    rfl

theorem answers_of_read (h : Web.Address.read? client.address = some address)
    (sent : List Web.Request) (requests : List Request) :
    (client.model (.answering answers)).answers sent requests =
      requests.mapIdx fun i _ ↦ readAnswer (answers (sent.length + i)) := by
  induction requests generalizing sent with
  | nil => rfl
  | cons request requests ih =>
    rw [Model.answers, complete_of_read answers h, ih, List.mapIdx_cons]
    simp [Nat.add_assoc, Nat.add_comm 1]

theorem after_of_unread (h : Web.Address.read? client.address = none)
    (sent : List Web.Request) (requests : List Request) :
    (client.model (.answering answers)).after sent requests = sent := by
  induction requests with
  | nil => rfl
  | cons request requests ih => rw [Model.after_cons, complete_of_unread answers h, ih]

theorem answers_of_unread (h : Web.Address.read? client.address = none)
    (sent : List Web.Request) (requests : List Request) :
    (client.model (.answering answers)).answers sent requests =
      requests.map fun _ ↦ .error notSent := by
  induction requests with
  | nil => rfl
  | cons request requests ih =>
    rw [Model.answers, complete_of_unread answers h, ih, List.map_cons]

end

end Client

/-- Each question is asked once, at the same address and with the same authorization, and what a call
comes to depends on the answer to its own request. -/
structure Client.AsksEachOnce (client : Client) (address : Web.Address) (questions : List Question)
    (sent : List Web.Request) : Prop where
  asks : List.Forall₂ (client.Asks address) questions sent
  /-- The first calls send the first requests, one each. -/
  sent_eq (answers : Nat → Option Web.Reply) (i : Nat) :
    (client.model (.answering answers)).after [] ((questions.take i).map Question.request) =
      sent.take i
  result_iff (answers : Nat → Option Web.Reply) (i : Nat) (hi : i < questions.length)
    (result : Except Failure Text) :
    ((client.model (.answering answers)).answers [] (questions.map Question.request))[i]? =
      some result ↔ AnsweredBy (answers i) result
  /-- However the other calls are answered, the result is the same. -/
  result_congr (answers others : Nat → Option Web.Reply) (i : Nat) (h : others i = answers i) :
    ((client.model (.answering others)).answers [] (questions.map Question.request))[i]? =
      ((client.model (.answering answers)).answers [] (questions.map Question.request))[i]?

/-- The calls of a client whose address can be read are independent of each other.  A client with any
other address sends nothing. -/
theorem calls_independent (client : Client) (questions : List Question) :
    match Web.Address.read? client.address with
    | some address => ∃ sent, client.AsksEachOnce address questions sent
    | none => ∀ answers,
      let model := client.model (.answering answers)
      let requests := questions.map Question.request
      model.after [] requests = [] ∧
        model.answers [] requests = requests.map fun _ ↦ .error Client.notSent := by
  split
  · next address hread =>
    have hresult (answers : Nat → Option Web.Reply) (i : Nat) :
        ((client.model (.answering answers)).answers [] (questions.map Question.request))[i]? =
          questions[i]?.map fun _ ↦ Client.readAnswer (answers i) := by
      rw [Client.answers_of_read answers hread, List.getElem?_mapIdx, List.getElem?_map,
        List.length_nil, Nat.zero_add, Option.map_map]
      rfl
    refine ⟨questions.map fun question ↦ client.webRequest address question.request, ?_,
      fun answers i ↦ ?_, fun answers i hi result ↦ ?_, fun answers others i h ↦ ?_⟩
    · rw [List.forall₂_map_right_iff, List.forall₂_same]
      exact fun question _ ↦ client.asks_webRequest address question
    · rw [Client.after_of_read answers hread, List.map_map, List.nil_append, List.map_take]
      rfl
    · rw [hresult, List.getElem?_eq_getElem hi, Option.map_some, Option.some_inj]
      have hanswered := Client.answeredBy_readAnswer (answers i)
      exact ⟨fun h ↦ h ▸ hanswered, hanswered.unique⟩
    · rw [hresult, hresult, h]
  · next hread =>
    intro answers
    exact ⟨Client.after_of_unread answers hread _ _, Client.answers_of_unread answers hread _ _⟩

/-- A configuration is taken with a port that no address has.  Then no request is sent, though it would
be answered well. -/
theorem calls_unsent_of_port :
    let config : Config := { model := { endpoint := "http://localhost:99999/v1".toList } }
    let client : Client := ⟨addressOf config.model.endpoint, "Bearer k".toList⟩
    let question : Question := ⟨"m".toList, config.model.temperature, "hi".toList⟩
    let reply : Web.Reply :=
      ⟨200, Text.encode "\x7b\"choices\":[\x7b\"message\":\x7b\"content\":\"x\"\x7d\x7d]\x7d".toList⟩
    let model := client.model (.answering fun _ ↦ some reply)
    config.fault? = none ∧ Client.ofConfig (fun _ ↦ some "k".toList) config.model = .ok client ∧
      RepliedBy reply (.ok "x".toList) ∧
      (∀ sent, model.after [] [question.request] ≠ [sent]) ∧
      model.answers [] [question.request] = [.error Client.notSent] := by
  intro config client question reply model
  have hread : Web.Address.read? client.address = none := by decide +kernel
  have hreply : Client.readReply reply = .ok "x".toList := by decide +kernel
  refine ⟨by decide +kernel, by decide +kernel, hreply ▸ Client.repliedBy_readReply reply,
    fun sent ↦ ?_, Client.answers_of_unread _ hread _ _⟩
  rw [Client.after_of_unread _ hread]
  exact List.cons_ne_nil sent [] ∘ Eq.symm

end Chat

end CodeRepair
