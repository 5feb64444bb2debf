import GeoChat.Net.Http
import GeoChat.Server.LocationClient
import GeoChat.Server.Request
import GeoChat.Server.Worker

/-!
# `ApiClient`

The object that serves one connection: its fields, the reads and writes it has
under way, and the handlers of its requests, its timer and its writes. The
handlers of one connection run on one thread. What a handler needs from outside
is an argument: the time, what the lookup of a city came to, and how many waits
of the timer had already expired when the timer was set or cancelled, since
those are no longer stopped by it.
-/

namespace GeoChat

/-- The conversion of a `uint64_t` to `time_t`. -/
def toTime (value : Nat) : Int := if value < 2 ^ 63 then value else value - 2 ^ 64

/-- `max_timestamp`. -/
def maxTimestamp (msgs : List ApiMessage) : Nat :=
  msgs.foldl (fun ts msg => if ts < msg.ts then msg.ts else ts) 0

/-- The task that `db::Task` makes of the details of a request. -/
def RequestDetails.task (details : RequestDetails) : Task :=
  { cmd := details.command, request := details.params }

/-- The handler that a write calls at its end. -/
inductive Completion where
  | responseToClientWrote
  | idleStarted
  | batchWrote (maxTs : Nat)
  deriving DecidableEq, Repr

/-- `ApiClient`. `reads` and `timers` count the operations whose handlers are
still to be called, `writes` are those of the writes in their order. -/
structure ApiClient where
  httpCode : Nat := 200
  newestMsgTimestamp : Nat := 0
  lastClientPing : Nat := 0
  requestDetails : RequestDetails
  remoteAddr : Bytes := []
  reads : Nat := 0
  writes : List (Bytes × Completion) := []
  timers : Nat := 0
  deriving DecidableEq, Repr

namespace ApiClient

def readCmd (client : ApiClient) : ApiClient := { client with reads := client.reads + 1 }

/-- `asyncRequest` of the socket. -/
def asyncRequest (response : Bytes) (completion : Completion) (client : ApiClient) : ApiClient :=
  { client with writes := client.writes ++ [(response, completion)] }

def sendOkResponse (body : Bytes) (client : ApiClient) : ApiClient :=
  client.asyncRequest (buildApiOkResponse body) .responseToClientWrote

def sendMessages (msgs : List ApiMessage) (now : Int) (client : ApiClient) : ApiClient :=
  client.asyncRequest (buildApiOkResponse (ApiclientUtils.okBodyOfMessages msgs now))
    .responseToClientWrote

def sendMessagesToIdleConn (msgs : List ApiMessage) (now : Int) (client : ApiClient) :
    ApiClient :=
  client.asyncRequest (buildApiOkResponse (ApiclientUtils.okBodyOfMessages msgs now))
    (.batchWrote (maxTimestamp msgs))

def sendErrorResponse (httpCode : Nat) (apiCode : ApiStatusCode) (desc : Bytes)
    (client : ApiClient) : ApiClient :=
  { client with httpCode }.asyncRequest (buildApiErrorRsponse httpCode apiCode desc)
    .responseToClientWrote

/-- Set the timer, which cancels the waits that have not expired, and wait. -/
def waitTimer (expired : Nat) (client : ApiClient) : ApiClient :=
  { client with timers := min expired client.timers + 1 }

def sendOkResponseAndStartIdle (now : Int) (expired : Nat) (client : ApiClient) : ApiClient :=
  let body := ApiclientUtils.okBodyOfCommand client.requestDetails.command now
  (client.asyncRequest (buildApiOkResponse body) .idleStarted).waitTimer expired

/-- `timerWaitTaskResultHandler` of a wait that was not cancelled, with the
task it puts into the queue. -/
def timerWaitTaskResultHandler (now : Int) (expired : Nat) (client : ApiClient) :
    ApiClient × Task :=
  let details := client.requestDetails
  let details :=
    if toUint64 details.params.ts < client.newestMsgTimestamp then
      { details with params := { details.params with ts := toTime client.newestMsgTimestamp } }
    else details
  -- the difference of a `time_t` and a `uint64_t` is unsigned
  let ping : Bool := 5 < (toUint64 now + (2 ^ 64 - client.lastClientPing)) % 2 ^ 64
  let lastClientPing := if ping then toUint64 now else client.lastClientPing
  ({ client with requestDetails := details, lastClientPing }.waitTimer expired,
    { details.task with ping })

/-- `responseToClientWroteHandler`, for an error as well. -/
def responseToClientWroteHandler (client : ApiClient) : ApiClient :=
  { client with httpCode := 200 }.readCmd

/-- The handler of `sendMessagesToIdleConn`. -/
def batchWroteHandler (maxTs : Nat) (failed : Bool) (expired : Nat) (client : ApiClient) :
    ApiClient :=
  if failed then { client with timers := min expired client.timers }
  else { client with newestMsgTimestamp := maxTs }

/-- Call the handler of a write. -/
def complete (completion : Completion) (failed : Bool) (expired : Nat) (client : ApiClient) :
    ApiClient :=
  match completion with
  | .responseToClientWrote => client.responseToClientWroteHandler
  | .idleStarted => client
  | .batchWrote maxTs => client.batchWroteHandler maxTs failed expired

/-- The calls of a worker. -/
def receive (now : Int) (client : ApiClient) : ClientCall → ApiClient
  | .sendErrorResponse httpCode apiCode desc => client.sendErrorResponse httpCode apiCode desc
  | .sendOkResponse body => client.sendOkResponse body
  | .sendMessages msgs => client.sendMessages msgs now
  | .sendMessagesToIdleConn msgs => client.sendMessagesToIdleConn msgs now

/-- The branches for the resources in their order, `/v1/idle` apart. -/
def routes : List (Bytes × Cmd) :=
  [(bytes "/v1/message/send", .messageSend),
    (bytes "/v1/message/sendchat", .messageSendChat),
    (bytes "/v1/user/login", .userLogin),
    (bytes "/v1/user/create", .userCreate),
    (bytes "/v1/chat/create", .chatCreate),
    (bytes "/v1/user/history", .userHistory),
    (bytes "/v1/group/history", .chatHistory),
    (bytes "/v1/user/status", .userStatus),
    (bytes "/v1/chat/adduser", .chatAdduser),
    (bytes "/v1/locations", .getLocations),
    (bytes "/v1/locations/users", .chatWithLocation)]

def route (resource : Bytes) : Option Cmd :=
  (routes.find? fun branch => branch.1 = resource).map (·.2)

section Requests

variable (parse : Bytes → Option Json) (passLen : Int)

/-- `handler_impl`, with the tasks it puts into the queue. -/
def handlerImpl (req : HttpReply) (command : Cmd) (client : ApiClient) :
    Checked (ApiClient × List Task) := do
  let contentType := req.getHeader (bytes "Content-Type")
  if Utils.startsWith contentType (bytes "text/plain") ||
      Utils.startsWith contentType (bytes "application/json") then
    let (details, err) ← parseMeta parse passLen client.requestDetails req.body command
    let client := { client with requestDetails := details }
    if !err.isEmpty then
      pure (client.sendErrorResponse 400 .errBadRequest err, [])
    else
      let storage := if command = .userCreate then bytes "localhost:3306" else []
      pure (client, [{ details.task with storage }])
  else
    pure (client.sendErrorResponse 400 .errBadRequest (bytes "not allowed content type"), [])

def v1Handler (req : HttpReply) (cmd : Cmd) (client : ApiClient) :
    Checked (ApiClient × List Task) :=
  handlerImpl parse passLen req cmd
    { client with requestDetails := { client.requestDetails with command := cmd } }

/-- The branch of `requestFromClientReadHandler` for `/v1/idle`. -/
def idleHandler (req : HttpReply) (now : Int) (expired : Nat) (client : ApiClient) :
    Checked (ApiClient × List Task) := do
  let (details, err) ← parseMeta parse passLen
    { client.requestDetails with command := .idle } req.body .idle
  let client := { client with requestDetails := details }
  if !err.isEmpty then
    pure (client.sendErrorResponse 400 .errBadRequest err, [])
  else
    pure (client.sendOkResponseAndStartIdle now expired, [])

/-- The call of `get_city_by_ip` in a handler. An exception leaves the handler,
and only the loop of the thread catches it; a lookup that still runs holds the
handler and its thread, of which only the handler is modelled. -/
def getCity (lookup : Lookup) (handler : Bytes → Checked (ApiClient × List Task))
    (client : ApiClient) : Checked (ApiClient × List Task) :=
  match lookup with
  | some (.ok city) => handler city
  | some (.error (.violated violation)) => .error violation
  | some (.error .systemError) | some (.error .outOfRange) | none => pure (client, [])

/-- `requestFromClientReadHandler` of a request that was read. -/
def requestFromClientReadHandler (reply : HttpReply) (lookup : Lookup) (now : Int)
    (expired : Nat) (client : ApiClient) : Checked (ApiClient × List Task) :=
  let resource := Utils.lowercased reply.resource
  let details :=
    { client.requestDetails with
      remoteAddress := client.remoteAddr, resource, method := reply.method }
  let client := { client with requestDetails := details }
  if resource = bytes "/v1/idle" then idleHandler parse passLen reply now expired client
  else
    match route resource with
    | none => pure (client.sendErrorResponse 404 .errNotFound (bytes "bad request"), [])
    | some .userCreate =>
        client.getCity lookup fun city =>
          v1Handler parse passLen reply .userCreate
            { client with requestDetails :=
              { details with params := { details.params with city } } }
    | some cmd => v1Handler parse passLen reply cmd client

end Requests

end ApiClient

end GeoChat
