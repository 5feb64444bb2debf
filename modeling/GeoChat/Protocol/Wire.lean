import GeoChat.Net.RoundTrip
import GeoChat.Protocol.Replies
import GeoChat.Rapidjson.RoundTrip
import GeoChat.Server.Calls
import GeoChat.Server.Independence

/-!
# A session over the wire

The requests of a client go through everything that lies between the two
processes: the writer of the body, the framing, the cut of the bytes into
segments, the reader of the other side, the router, the parser and `parse_meta`.
What comes out are the tasks of the requests, and on the way back the replies.
-/

namespace GeoChat

open Library Program InMemory

section Documents

open Rapidjson

@[simp]
theorem exact_uint64 (number : Nat) : Exact (.uint64 number) := by
  have small : ((number % 2 ^ 64 : Nat) : Int) < 2 ^ 64 := by
    exact_mod_cast Nat.mod_lt number (by decide)
  exact .int (by omega) small

@[simp]
theorem exact_ofCString (text : Bytes) : Exact (.ofCString text) := .string _

@[simp]
theorem exact_object {members : List (Bytes × Json)} :
    Exact (.object members) ↔ ∀ member ∈ members, Exact member.2 := by
  constructor
  · rintro ⟨⟩
    assumption
  · exact .object

@[simp]
theorem exact_array {elements : List Json} :
    Exact (.array elements) ↔ ∀ element ∈ elements, Exact element := by
  constructor
  · rintro ⟨⟩
    assumption
  · exact .array

/-- The client writes no document that the parser might refuse. -/
theorem ApiRequest.exact_document (request : ApiRequest) : Exact request.document := by
  cases request with
  | idle uid heartbit password =>
      simp only [ApiRequest.document]
      split <;> simp
  | _ => simp [ApiRequest.document]

theorem readsBack_request (doubles : Doubles) (request : ApiRequest) :
    Json.ReadsBack (parse doubles) request.document :=
  parse_write doubles _ request.exact_document

open ApiclientUtils in
theorem readsBack_messages (doubles : Doubles) (msgs : List ApiMessage) (now : Int) :
    Json.ReadsBack (parse doubles) (messagesDocument msgs now) := by
  refine parse_write doubles _ ?_
  simp [messagesDocument, messageDocument]

end Documents

section Requests

namespace ApiRequest

/-- The message that a request is sent as. -/
def wire (request : ApiRequest) : WireMessage :=
  .request (cmd2string request.cmd) (bytes "application/json") request.body

theorem wire_encode (request : ApiRequest) : request.wire.encode = request.encode := rfl

theorem wire_valid {request : ApiRequest} (fits : request.body.length < 2 ^ 64) :
    request.wire.Valid := by
  have table : ∀ cmd : Cmd, ∀ byte ∈ cmd2string cmd, byte ≠ 32 ∧ byte ≠ 13 ∧ byte ≠ 10 := by
    intro cmd
    cases cmd <;> decide +kernel
  exact ⟨fits, table _, by decide +kernel, by decide +kernel⟩

/-- The task that a request asks for, in the city of its sender. -/
def task (city : Bytes) (request : ApiRequest) : Task :=
  match request with
  | .userCreate user password =>
      { cmd := .userCreate, request := { user, password, city },
        storage := bytes "localhost:3306" }
  | _ => { cmd := request.cmd, request := request.params }

@[simp]
theorem task_cmd (city : Bytes) (request : ApiRequest) : (request.task city).cmd = request.cmd := by
  cases request <;> rfl

theorem task_storage (city : Bytes) (request : ApiRequest) :
    (request.task city).storage =
      if request.cmd = .userCreate then bytes "localhost:3306" else [] := by
  cases request <;> rfl

variable {setup : Setup} {passLen : Int}

/-- The parameters in which the body of a request is parsed on a new
connection. -/
def start (city : Bytes) (request : ApiRequest) : Params :=
  if request.cmd = .userCreate then { city } else {}

/-- `parse_meta` makes the parameters of the task out of the first ones. -/
theorem parseMeta_start {parse : Bytes → Option Json} {request : ApiRequest}
    (valid : request.Valid passLen) (returned : Json.ReadsBack parse request.document)
    (details : RequestDetails) (city : Bytes) :
    parseMeta parse passLen { details with params := request.start city } request.body
        request.cmd = .ok ({ details with params := (request.task city).request }, []) := by
  by_cases create : request.cmd = .userCreate
  · cases request with
    | userCreate user password =>
        have parsed := parse_body (body_eq valid) returned
        obtain ⟨userText, passwordText, strong⟩ := valid
        exact parseMeta_credentials parsed rfl passwordText rfl userText (.inl rfl) fun _ => strong
    | _ => cases create
  · have fresh : request.start city = {} := if_neg create
    have same : (request.task city).request = request.params := by
      cases request with
      | userCreate => exact absurd rfl create
      | _ => rfl
    rw [same, parseMeta_body valid returned fresh]

/-- A request for a history says how many messages it wants. -/
theorem setsRelevant {parse : Bytes → Option Json} {request : ApiRequest}
    (valid : request.Valid passLen) (returned : Json.ReadsBack parse request.document)
    (notIdle : request.cmd ≠ .idle) : SetsRelevant parse request.body request.cmd := by
  refine ⟨notIdle, fun history document uid user password parsed uncounted => ?_⟩
  cases request with
  | userHistory uid user count password =>
      have same := (parse_body (body_eq valid) returned).symm.trans parsed
      cases same
      have counted : (userHistory uid user count password).document.number (bytes "count") =
          some count := by
        have found : (userHistory uid user count password).document.member (bytes "count") =
            some (.uint64 count) := rfl
        rw [Json.number, found]
        simp only [Json.getUint_uint64 valid.2.2.1]
        rfl
      cases counted.symm.trans uncounted.noCount
  | _ => cases history

end ApiRequest

/-- The reply that the reader of the server gives for a request. -/
structure ApiRequest.ArrivesAs (request : ApiRequest) (reply : HttpReply) : Prop where
  resource : reply.resource = cmd2string request.cmd
  contentType : reply.getHeader (bytes "Content-Type") = bytes "application/json"
  body : reply.body = request.body

namespace ApiClient

variable {setup : Setup} {request : ApiRequest} {arrival : Arrival} {client : ApiClient}
  {city : Bytes}

theorem route_of_dispatch {resource : Bytes} {cmd : Cmd} (notIdle : cmd ≠ .idle)
    (dispatched : dispatch resource = some cmd) :
    resource ≠ bytes "/v1/idle" ∧ route resource = some cmd := by
  unfold dispatch at dispatched
  split at dispatched
  next => exact absurd (Option.some.inj dispatched).symm notIdle
  next other => exact ⟨other, dispatched⟩

/-- The handler of a good request puts one task into the queue. Its parameters
are those of the request as far as the command reads them. -/
theorem v1Handler_request (valid : request.Valid setup.passLen)
    (returned : Json.ReadsBack setup.parse request.document) (notIdle : request.cmd ≠ .idle)
    {reply : HttpReply} (arrives : request.ArrivesAs reply) {details : RequestDetails}
    (noIp : details.params.ipAddress = [])
    (sameCity : request.cmd = .userCreate → details.params.city = city) :
    ∃ params : Params, params.ipAddress = [] ∧
      params.relevant request.cmd = (request.task city).request.relevant request.cmd ∧
      v1Handler setup.parse setup.passLen reply request.cmd
          { client with requestDetails := details } =
        .ok ({ client with requestDetails := { details with command := request.cmd, params } },
          [{ cmd := request.cmd, request := params, storage := (request.task city).storage }]) := by
  have fresh := request.parseMeta_start valid returned
    { details with command := request.cmd } city
  have accepted : (Utils.startsWith (reply.getHeader (bytes "Content-Type")) (bytes "text/plain") ||
      Utils.startsWith (reply.getHeader (bytes "Content-Type")) (bytes "application/json")) =
      true := by
    rw [arrives.contentType]
    decide
  obtain ⟨violation, _, failed⟩ | ⟨left, right, text, one, two, keptLeft, _, agree⟩ :=
    parallel_parseMeta setup.parse setup.passLen request.body request.cmd
      { details with command := request.cmd }
      { details with command := request.cmd, params := request.start city }
      (by
        rw [noIp, ApiRequest.start]
        split <;> rfl)
      (fun create => by rw [sameCity create, ApiRequest.start, if_pos create])
  · rw [fresh] at failed
    cases failed
  · rw [fresh] at two
    simp only [Except.ok.injEq, Prod.mk.injEq, RequestDetails.mk.injEq] at two
    obtain ⟨⟨rfl, -⟩, rfl⟩ := two
    refine ⟨left, keptLeft.trans noIp, agree rfl (request.setsRelevant valid returned notIdle), ?_⟩
    unfold v1Handler handlerImpl
    rw [if_pos accepted, arrives.body, one, request.task_storage]
    rfl

/-- A routed request goes to its handler. Only a creation has a city. -/
theorem arrive_routed {cmd : Cmd} (found : arrival.lookup = some (.ok city))
    (notIdlePath : Utils.lowercased arrival.reply.resource ≠ bytes "/v1/idle")
    (routed : route (Utils.lowercased arrival.reply.resource) = some cmd) :
    ∃ details : RequestDetails,
      details.params.ipAddress = client.requestDetails.params.ipAddress ∧
      (cmd = .userCreate → details.params.city = city) ∧
      arrive setup arrival client = v1Handler setup.parse setup.passLen arrival.reply cmd
        { client with requestDetails := details } := by
  unfold arrive requestFromClientReadHandler
  simp only [if_neg notIdlePath, routed, found]
  split
  next none => cases none
  next creates =>
    cases creates
    refine ⟨{ client.requestDetails with
      remoteAddress := client.remoteAddr
      resource := Utils.lowercased arrival.reply.resource
      method := arrival.reply.method
      params := { client.requestDetails.params with city } }, ?_, ?_, ?_⟩
    · rfl
    · exact fun _ => rfl
    · rfl
  next other notCreate same =>
    cases same
    refine ⟨{ client.requestDetails with
      remoteAddress := client.remoteAddr
      resource := Utils.lowercased arrival.reply.resource
      method := arrival.reply.method }, ?_, ?_, ?_⟩
    · rfl
    · exact fun creates => absurd creates notCreate
    · rfl

/-- A good request that arrives on a connection, whatever was sent on it before,
becomes a task that is served like the task of the request. -/
theorem arrive_request (valid : request.Valid setup.passLen)
    (returned : Json.ReadsBack setup.parse request.document) (notIdle : request.cmd ≠ .idle)
    (arrives : request.ArrivesAs arrival.reply) (found : arrival.lookup = some (.ok city))
    (noIp : client.requestDetails.params.ipAddress = []) :
    ∃ (details : RequestDetails) (task : Task), details.params.ipAddress = [] ∧
      arrive setup arrival client = .ok ({ client with requestDetails := details }, [task]) ∧
      ∀ now storage, serve now storage (DatabaseWorker.processTask setup.sort task) =
        serve now storage (DatabaseWorker.processTask setup.sort (request.task city)) := by
  have dispatched : dispatch (Utils.lowercased arrival.reply.resource) = some request.cmd := by
    rw [arrives.resource]
    exact request.dispatch_cmd
  rcases route_of_dispatch notIdle dispatched with ⟨notIdlePath, routed⟩
  obtain ⟨details, ip, sameCity, arrived⟩ :=
    @arrive_routed setup arrival client city _ found notIdlePath routed
  obtain ⟨params, noAddress, agree, handled⟩ := @v1Handler_request setup request client
    city valid returned notIdle arrival.reply arrives details (ip.trans noIp) sameCity
  refine ⟨{ details with command := request.cmd, params }, _, noAddress, arrived.trans handled,
    fun now storage => ?_⟩
  have same : request.task city =
      { cmd := request.cmd, request := (request.task city).request,
        storage := (request.task city).storage } := by
    cases request <;> rfl
  rw [same]
  exact serve_of_relevant _ agree

end ApiClient

end Requests

section Replies

namespace ClientCall

/-- The message that a call of a worker is written as. -/
def message (now : Int) : ClientCall → WireMessage
  | .sendErrorResponse httpCode apiCode desc => .errorResponse httpCode apiCode desc
  | .sendOkResponse body => .okResponse body
  | .sendMessages msgs | .sendMessagesToIdleConn msgs =>
      .okResponse (ApiclientUtils.okBodyOfMessages msgs now)

/-- The codes of the errors that a worker reports. -/
def errorCodes : List Nat := [403, 404, 409, 500]

/-- The call reports an error with one of the codes. -/
def Known : ClientCall → Prop
  | .sendErrorResponse httpCode _ _ => httpCode ∈ errorCodes
  | _ => True

theorem message_valid {call : ClientCall} {now : Int} (known : call.Known)
    (fits : (call.message now).body.length < 2 ^ 64) : (call.message now).Valid := by
  cases call with
  | sendErrorResponse httpCode apiCode desc =>
      have listed : errorCodes ⊆ WireMessage.knownCodes := by decide
      exact ⟨fits, listed known⟩
  | _ => exact ⟨fits, trivial⟩

end ClientCall

/-- An effect that is no error with another code. -/
def Effect.Known : Effect → Prop
  | .client made => made.Known
  | _ => True

namespace DatabaseWorker

theorem known_guard {task : Task} {next : User → Prog Unit}
    (further : ∀ user, (next user).Uses Effect.Known) :
    (do
      let user ← lookupCheckPass task
      if user.id = 0 then pure () else next user).Uses Effect.Known := by
  refine .bind (uses_lookupCheckPass trivial ?_ ?_) fun user => ?_
  · exact (by decide : 409 ∈ ClientCall.errorCodes)
  · exact (by decide : 403 ∈ ClientCall.errorCodes)
  · split
    · exact uses_pure _ _
    · exact further user

theorem known_guardByName {name : Bytes} {task : Task} {checkPass : Bool} {next : User → Prog Unit}
    (further : ∀ user, (next user).Uses Effect.Known) :
    (do
      let user ← lookupCheckPassByName name task checkPass
      if user.id = 0 then pure () else next user).Uses Effect.Known := by
  refine .bind (uses_lookupCheckPassByName trivial ?_ ?_ ?_) fun user => ?_
  · exact (by decide : 404 ∈ ClientCall.errorCodes)
  · exact (by decide : 403 ∈ ClientCall.errorCodes)
  · exact (by decide : 500 ∈ ClientCall.errorCodes)
  · split
    · exact uses_pure _ _
    · exact further user

theorem known_client {call : ClientCall} (known : call.Known) :
    (Prog.client call).Uses Effect.Known := uses_perform.mpr known

theorem known_answer (body : Int → Bytes) :
    (do let now ← Prog.time; Prog.client (.sendOkResponse (body now))).Uses Effect.Known :=
  .bind (uses_perform.mpr trivial) fun _ => known_client trivial

theorem known_storeMessage (userFrom chatTo : Nat) (text : Bytes) :
    (storeMessage userFrom chatTo text).Uses Effect.Known :=
  .bind (uses_perform.mpr trivial) fun _ => .bind (uses_perform.mpr trivial) fun _ =>
    known_client trivial

theorem known_processLocation (task : Task) {lookup : Prog (List Bytes)} (key missing : Bytes)
    (known : lookup.Uses Effect.Known) :
    (processLocation task lookup key missing).Uses Effect.Known := by
  refine known_guard fun user => .bind known fun items => ?_
  split
  · exact known_client (by decide : 404 ∈ ClientCall.errorCodes)
  · exact known_answer _

theorem known_processIdle (task : Task) : (processIdle task).Uses Effect.Known := by
  refine known_guard fun user => .bind (uses_perform.mpr trivial) fun _ =>
    .bind (uses_perform.mpr trivial) fun _ => .bind ?_ fun chats =>
      .bind (uses_readChats (fun _ _ => trivial) _ _) fun batch => ?_
  · exact .bind (uses_perform.mpr trivial) (uses_lookupChatsById fun _ => trivial)
  · unfold sendBatch
    split
    · exact .bind (uses_toApiFormatBatch (fun _ => trivial) (fun _ => trivial) _) fun _ =>
        known_client trivial
    · split
      · exact known_client trivial
      · exact uses_pure _ _

/-- Every code that a task sends has its own status line. -/
theorem known_processTask (sort : TimestampSort) (task : Task) :
    (processTask sort task).Uses Effect.Known := by
  have conflict : 409 ∈ ClientCall.errorCodes := by decide
  have missing : 404 ∈ ClientCall.errorCodes := by decide
  have internal : 500 ∈ ClientCall.errorCodes := by decide
  unfold processTask
  split
  · exact known_processIdle task
  · exact known_guard fun _ => known_guardByName fun _ => known_answer _
  · exact known_guard fun _ => known_guardByName fun _ => .bind (uses_perform.mpr trivial) fun _ =>
      .bind (uses_perform.mpr trivial) fun _ =>
        .bind (uses_toApiFormat (fun _ => trivial) (fun _ => trivial) _) fun _ =>
          known_client trivial
  · refine known_guard fun _ => .bind (uses_perform.mpr trivial) fun usersTo => ?_
    split
    · exact known_client missing
    · exact known_storeMessage _ _ _
    · exact known_client internal
  · refine .bind (uses_perform.mpr trivial) fun user => ?_
    split
    · exact known_client conflict
    · exact known_answer _
  · exact known_guardByName fun _ => known_answer _
  · refine known_guard fun _ => .bind (uses_perform.mpr trivial) fun chat => ?_
    split
    · exact known_client conflict
    · exact known_answer _
  · refine known_guard fun _ => known_guardByName fun _ => .bind (uses_perform.mpr trivial) ?_
    intro chats
    split
    · exact .bind (uses_perform.mpr trivial) fun _ => known_client trivial
    · exact known_client missing
  · refine known_guard fun _ => .bind (uses_perform.mpr trivial) fun chats => ?_
    split
    · exact known_storeMessage _ _ _
    · exact known_client missing
  · exact known_processLocation task _ _ (uses_perform.mpr trivial)
  · exact known_processLocation task _ _ (uses_perform.mpr trivial)
  all_goals exact uses_pure _ _

/-- What is told the client has the codes of the calls. -/
theorem known_of_clientCalls {history : List (Exchange Effect Effect.Reply)}
    (known : ∀ exchange ∈ history, exchange.1.Known) {made : ClientCall}
    (told : made ∈ history.flatMap clientCalls) : made.Known := by
  obtain ⟨exchange, member, called⟩ := List.mem_flatMap.mp told
  have knownCall := known exchange member
  unfold clientCalls at called
  split at called
  next =>
    rw [List.mem_singleton.mp called]
    exact knownCall
  next => cases called

end DatabaseWorker

namespace ApiClient

/-- The calls of a worker on the connection, and the writes that they start with
the calls of their handlers. The result are the bytes that are written. -/
def settle (now : Int) (calls : List ClientCall) (client : ApiClient) : Bytes × ApiClient :=
  let answered := calls.foldl (fun client made => client.receive now made) client
  (answered.writes.flatMap (·.1),
    answered.writes.foldl (fun client write => client.complete write.2 false 0)
      { answered with writes := [] })

variable {client : ApiClient}

/-- A call starts the write of its message and leaves the request alone. -/
theorem receive_writes (now : Int) (made : ClientCall) (client : ApiClient) :
    (∃ completion, (client.receive now made).writes =
      client.writes ++ [((made.message now).encode, completion)]) ∧
    (client.receive now made).requestDetails = client.requestDetails := by
  cases made with
  | _ => exact ⟨⟨_, rfl⟩, rfl⟩

theorem foldl_receive (now : Int) (calls : List ClientCall) (client : ApiClient) :
    (calls.foldl (fun client made => client.receive now made) client).writes.flatMap (·.1) =
      client.writes.flatMap (·.1) ++ (calls.map (ClientCall.message now)).flatMap
        WireMessage.encode ∧
    (calls.foldl (fun client made => client.receive now made) client).requestDetails =
      client.requestDetails := by
  induction calls generalizing client with
  | nil => simp
  | cons made rest inductionHypothesis =>
      obtain ⟨⟨completion, writes⟩, details⟩ := receive_writes now made client
      obtain ⟨written, kept⟩ := inductionHypothesis (client.receive now made)
      refine ⟨?_, kept.trans details⟩
      rw [List.foldl_cons, written, writes]
      simp

theorem foldl_complete_details (writes : List (Bytes × Completion)) (client : ApiClient) :
    (writes.foldl (fun client write => client.complete write.2 false 0) client).requestDetails =
        client.requestDetails ∧
      (writes.foldl (fun client write => client.complete write.2 false 0) client).writes =
        client.writes := by
  induction writes generalizing client with
  | nil => exact ⟨rfl, rfl⟩
  | cons write rest inductionHypothesis =>
      rcases write with ⟨response, completion⟩
      obtain ⟨details, others⟩ := inductionHypothesis (client.complete completion false 0)
      rw [List.foldl_cons]
      refine ⟨details.trans ?_, others.trans ?_⟩
      all_goals cases completion <;> rfl

theorem settle_eq (now : Int) (calls : List ClientCall) (idle : client.writes = []) :
    (client.settle now calls).1 =
        (calls.map (ClientCall.message now)).flatMap WireMessage.encode ∧
      (client.settle now calls).2.requestDetails = client.requestDetails ∧
      (client.settle now calls).2.writes = [] := by
  obtain ⟨written, details⟩ := foldl_receive now calls client
  obtain ⟨kept, writes⟩ := foldl_complete_details
    (calls.foldl (fun client made => client.receive now made) client).writes
    { calls.foldl (fun client made => client.receive now made) client with writes := [] }
  rw [idle] at written
  exact ⟨written, kept.trans details, writes⟩

end ApiClient

end Replies

/-- The city that the lookup for the sender of a request returns, and the time of
the clock while it is served. -/
structure Moment where
  city : Bytes := []
  now : Int

section Session

open ApiClient

variable (setup : Setup) (zlib : Zlib)

/-- The server for one connection whose client waits for each reply: a request
is read, its handler called, its task processed, and what is written for it
completed before the next request is read. The result are all bytes that are
written, and the storage. -/
def serveStream : List Moment → Stream → ApiClient → Storage → Option (Bytes × Storage)
  | [], _, _, storage => some ([], storage)
  | moment :: rest, stream, client, storage =>
      let reader := Reader.asyncResponse zlib stream
      match reader.handled with
      | [(.none, reply)] =>
          let arrival : Arrival := { reply, lookup := some (.ok moment.city), now := moment.now }
          match arrive setup arrival client with
          | .error _ => none
          | .ok (later, tasks) =>
              let served := serveTasks setup moment.now storage tasks
              let settled := later.settle moment.now served.1
              (serveStream rest reader.stream settled.2 served.2).map fun others =>
                (settled.1 ++ others.1, others.2)
      | _ => none

/-- What the session is about: the tasks of the requests, processed in their
order, and the messages that they answer with. -/
def serveRequests (sort : TimestampSort) :
    List (ApiRequest × Moment) → Storage → List WireMessage × Storage
  | [], storage => ([], storage)
  | (request, moment) :: rest, storage =>
      let served := serve moment.now storage
        (DatabaseWorker.processTask sort (request.task moment.city))
      let others := serveRequests sort rest served.2
      (served.1.map (ClientCall.message moment.now) ++ others.1, others.2)

variable {setup}

theorem ApiRequest.arrivesAs {request : ApiRequest} {result : ConnectionError × HttpReply}
    (delivered : request.wire.Delivered result) : request.ArrivesAs result.2 :=
  ⟨delivered.2.2.2.1, delivered.2.2.2.2, delivered.2.1⟩

/-- The bytes on the wire are served like the requests they stand for. -/
theorem serveStream_eq {requests : List (ApiRequest × Moment)} {stream : Stream}
    {client : ApiClient} {storage : Storage}
    (valid : ∀ request ∈ requests, request.1.Valid setup.passLen)
    (readsBack : ∀ request ∈ requests, Json.ReadsBack setup.parse request.1.document)
    (fits : ∀ request ∈ requests, request.1.body.length < 2 ^ 64)
    (notIdle : ∀ request ∈ requests, request.1.cmd ≠ .idle)
    (content : stream.content = requests.flatMap fun request => request.1.encode)
    (noIp : client.requestDetails.params.ipAddress = []) (idle : client.writes = []) :
    serveStream setup zlib (requests.map (·.2)) stream client storage =
      some ((serveRequests setup.sort requests storage).1.flatMap WireMessage.encode,
        (serveRequests setup.sort requests storage).2) := by
  induction requests generalizing stream client storage with
  | nil => rfl
  | cons request rest inductionHypothesis =>
      rcases request with ⟨request, moment⟩
      rcases List.forall_mem_cons.mp valid with ⟨validFirst, validRest⟩
      rcases List.forall_mem_cons.mp readsBack with ⟨readsFirst, readsRest⟩
      rcases List.forall_mem_cons.mp fits with ⟨fitsFirst, fitsRest⟩
      rcases List.forall_mem_cons.mp notIdle with ⟨notIdleFirst, notIdleRest⟩
      rw [List.flatMap_cons] at content
      obtain ⟨result, handled, delivered, left⟩ :=
        Reader.asyncResponse_message zlib (request.wire_valid fitsFirst) content
      have noError : result = (.none, result.2) := Prod.ext delivered.1 rfl
      obtain ⟨details, task, ip, arrived, served⟩ := @arrive_request setup request
        { reply := result.2, lookup := some (.ok moment.city), now := moment.now } client
        moment.city validFirst readsFirst notIdleFirst (ApiRequest.arrivesAs delivered) rfl noIp
      have alone : serveTasks setup moment.now storage [task] = serve moment.now storage
          (DatabaseWorker.processTask setup.sort (request.task moment.city)) := by
        rw [← served]
        simp only [serveTasks, List.append_nil]
      obtain ⟨written, kept, quiet⟩ := @settle_eq { client with requestDetails := details }
        moment.now (serve moment.now storage
          (DatabaseWorker.processTask setup.sort (request.task moment.city))).1 idle
      rw [List.map_cons, serveStream, handled, noError]
      simp only [arrived, alone]
      rw [inductionHypothesis validRest readsRest fitsRest notIdleRest left
        ((congrArg (fun details => details.params.ipAddress) kept).trans ip) quiet]
      simp only [Option.map_some, serveRequests, written, List.flatMap_append]

/-- For every list of good requests and every cut of their bytes, the server
leaves the storage and writes the bytes that the requests stand for, with
rapidjson as its parser. -/
theorem session_over_wire (doubles : Rapidjson.Doubles) (zlib : Zlib) (passLen : Int)
    (sort : TimestampSort) (requests : List (ApiRequest × Moment)) (stream : Stream)
    (client : ApiClient) (storage : Storage)
    (valid : ∀ request ∈ requests, request.1.Valid passLen)
    (fits : ∀ request ∈ requests, request.1.body.length < 2 ^ 64)
    (notIdle : ∀ request ∈ requests, request.1.cmd ≠ .idle)
    (content : stream.content = requests.flatMap fun request => request.1.encode)
    (noIp : client.requestDetails.params.ipAddress = []) (idle : client.writes = []) :
    serveStream ⟨Rapidjson.parse doubles, passLen, sort⟩ zlib (requests.map (·.2)) stream client
        storage =
      some ((serveRequests sort requests storage).1.flatMap WireMessage.encode,
        (serveRequests sort requests storage).2) :=
  serveStream_eq zlib valid (fun request _ => readsBack_request doubles request.1) fits notIdle
    content noIp idle

/-- Two requests whose bytes arrive in three segments. -/
theorem session_over_wire_two :
    let requests : List (ApiRequest × Moment) :=
      [(.userCreate (bytes "bob") (bytes "secret_pass"), ⟨bytes "Kazan", 10⟩),
        (.userLogin (bytes "bob") (bytes "secret_pass"), ⟨[], 20⟩)]
    let whole := requests.flatMap fun request => request.1.encode
    serveStream ⟨Rapidjson.parse Rapidjson.wholeDoubles, 8, .stable⟩ refusingZlib
        (requests.map (·.2)) ⟨[], [whole.take 30, (whole.drop 30).take 100, whole.drop 130]⟩
        ApiClient.connected {} =
      some ((serveRequests .stable requests {}).1.flatMap WireMessage.encode,
        (serveRequests .stable requests {}).2) := by
  intro requests whole
  refine session_over_wire _ _ 8 .stable requests _ ApiClient.connected {} ?_ ?_ ?_ ?_ rfl rfl
  · intro request member
    rcases List.mem_pair.mp member with rfl | rfl
    · refine ⟨?_, ?_, ?_⟩ <;> decide +kernel
    · refine ⟨?_, ?_⟩ <;> decide +kernel
  · decide +kernel
  · decide
  · decide +kernel

end Session

end GeoChat
