import GeoChat.Client.Input
import GeoChat.Client.Replies
import GeoChat.Library.Channel
import GeoChat.Net.Http

/-!
# The client

`Client` of `client/src/client.cpp` with its handlers. `m_Http` and
`m_HttpIdle` are channels: `createConnect` replaces the current link, and the
handlers of operations that an older link has pending still run. The timeout
only cancels operations, which then end with an error like any other.
-/

namespace GeoChat

open Library

/-- The requests that the client builds. -/
inductive ApiRequest where
  | userCreate (user password : Bytes)
  | userLogin (user password : Bytes)
  | messageSend (uid : Nat) (recipient message password : Bytes)
  | messageSendChat (uid : Nat) (chatname message password : Bytes)
  | userHistory (uid : Nat) (user : Bytes) (count : Nat) (password : Bytes)
  | userStatus (uid : Nat) (user password : Bytes)
  | chatCreate (uid : Nat) (chatname password : Bytes)
  | chatAdduser (uid : Nat) (chatname adduser password : Bytes)
  | chatWithLocation (uid : Nat) (city password : Bytes)
  | getLocations (uid : Nat) (clientIp password : Bytes)
  | idle (uid heartbit : Nat) (password : Bytes)
  deriving DecidableEq, Repr

namespace ApiRequest

def cmd : ApiRequest → Cmd
  | .userCreate .. => .userCreate
  | .userLogin .. => .userLogin
  | .messageSend .. => .messageSend
  | .messageSendChat .. => .messageSendChat
  | .userHistory .. => .userHistory
  | .userStatus .. => .userStatus
  | .chatCreate .. => .chatCreate
  | .chatAdduser .. => .chatAdduser
  | .chatWithLocation .. => .chatWithLocation
  | .getLocations .. => .getLocations
  | .idle .. => .idle

open CliUtils in
def body : ApiRequest → Bytes
  | .userCreate user password => buildUserPassBody user password
  | .userLogin user password => buildUserPassBody user password
  | .messageSend uid recipient message password =>
      buildUserSendMsgBody uid 0 recipient message password
  | .messageSendChat uid chatname message password =>
      buildGroupsMsgBody uid chatname [] message password
  | .userHistory uid user count password => buildUserHistoryMsgBody uid user count password
  | .userStatus uid user password => buildUserHistoryMsgBody uid user 0 password
  | .chatCreate uid chatname password => buildGroupsMsgBody uid chatname [] [] password
  | .chatAdduser uid chatname adduser password =>
      buildGroupsMsgBody uid chatname adduser [] password
  | .chatWithLocation uid city password => buildLocationBody uid city password
  | .getLocations uid clientIp password => buildLocationBody uid clientIp password
  | .idle uid heartbit password => buildUserSendMsgBody uid heartbit [] [] password

/-- The bytes that are written. -/
def encode (request : ApiRequest) : Bytes :=
  buildRequest (cmd2string request.cmd) (bytes "application/json") request.body

end ApiRequest

/-- `Client::mode_t`. No handler sets `CHAT_G`. -/
inductive Mode where
  | usual
  | chatU
  | chatG
  deriving DecidableEq, Repr

/-- What `AbstractUi::showMsg` is given. -/
inductive Shown where
  | text (msg : Bytes)
  | message (sender recipient message : Bytes)
  deriving DecidableEq, Repr

/-- A request on `m_Http`, with the command given to `sendRequest`. -/
structure Asked where
  cmd : InputCmd
  request : ApiRequest
  deriving DecidableEq, Repr

/-- `Client`. `stopped` says that the process was sent `SIGINT`. -/
structure Client where
  host : Bytes
  port : Int
  user : Bytes
  password : Bytes
  mode : Mode := .usual
  stateUser : Bytes := []
  lastCmd : InputCmd := .none
  selfId : Nat := 0
  selfChatId : Nat := 0
  heartBit : Nat := 0
  idleState : Bool := false
  http : Channel Asked := {}
  httpIdle : Channel ApiRequest := {}
  shown : List Shown := []
  stopped : Bool := false
  deriving DecidableEq, Repr

/-- `input::help`. -/
def Input.help : Bytes :=
  bytes "Commands are:\n" ++
  bytes "   HELP\n" ++
  bytes "   LOGIN <user> <pass>\n" ++
  bytes "   REGISTER <user> <pass>\n" ++
  bytes "   REGISTER_G <group>\n" ++
  bytes "   CHAT_WITH <user>\n" ++
  bytes "   CHAT_WITH_LOCATION <location>\n" ++
  bytes "   GET_LOCATIONS\n" ++
  bytes "   ADD_TO_G <user> <group>\n" ++
  bytes "   UNCHAT\n" ++
  bytes "   HISTORY <user> [N]\n" ++
  bytes "   HISTORY_G <group> [N]\n" ++
  bytes "   DIRECT_MSG <user> <msg>\n" ++
  bytes "   DIRECT_MSG_G <group> <msg>\n" ++
  bytes "   STATUS <user>\n" ++
  bytes "   STATUS_G <group>\n" ++
  bytes "   QUIT\n"

namespace Client

/-- The client after the constructor and the first `asyncConnect` of `run`. -/
def started (host : Bytes) (port : Int) (user password : Bytes) : Client :=
  { host, port, user, password, http := Channel.connect {} }

def showMsg (client : Client) (msg : Bytes) : Client :=
  { client with shown := client.shown ++ [.text msg] }

def showMsgs (client : Client) (msgs : List CliUtils.MsgResponse) : Client :=
  { client with shown := client.shown ++ msgs.map fun r => .message r.sender r.recipient r.msg }

/-- `sendRequest`. -/
def sendRequest (client : Client) (cmd : InputCmd) (request : ApiRequest) : Client :=
  { client with lastCmd := cmd, http := client.http.write { cmd, request } }

/-- The commands of `onUserInput` outside the chat mode. -/
def onCommand (client : Client) (args : Args) : Client :=
  match args.cmd with
  | .none => client.showMsg (bytes "unrecognized command. type \"HELP\" for help")
  | .unchat =>
      { client.showMsg (bytes "switch to usual mode") with mode := .usual, stateUser := [] }
  | .quit => { client.showMsg (bytes "Bye! Client will exit NOW") with stopped := true }
  | .help => client.showMsg Input.help
  | .registerUser => client.sendRequest .registerUser (.userCreate args.reg.name args.reg.pass)
  | .login =>
      { client.sendRequest .login (.userLogin args.login.name args.login.pass) with
        password := args.login.pass }
  | .directMsgUser =>
      client.sendRequest .directMsgUser
        (.messageSend client.selfId args.direct.name args.direct.message client.password)
  | .historyUser =>
      client.sendRequest .historyUser
        (.userHistory client.selfId args.history.name args.history.count client.password)
  | .statusUser =>
      client.sendRequest .statusUser (.userStatus client.selfId args.status client.password)
  | .chatWithUser =>
      { client.showMsg (bytes "chat with: " ++ args.chat) with
        mode := .chatU, stateUser := args.chat }
  | .registerGroup =>
      client.sendRequest .registerGroup
        (.chatCreate client.selfId args.group.groupname client.password)
  | .addToGroup =>
      client.sendRequest .addToGroup
        (.chatAdduser client.selfId args.group.groupname args.group.username client.password)
  | .directMsgGroup =>
      client.sendRequest .directMsgGroup
        (.messageSendChat client.selfId args.direct.name args.direct.message client.password)
  | .chatWithLocation =>
      client.sendRequest .chatWithLocation
        (.chatWithLocation client.selfId args.location client.password)
  | .getLocations =>
      client.sendRequest .getLocations
        (.getLocations client.selfId (bytes "192.168.1.9") client.password)
  | .historyGroup | .statusGroup => client.showMsg (bytes "unsupported command")

/-- In the chat mode a line is a message, except for two commands. -/
def chats (client : Client) (msg : Bytes) (args : Args) : Bool :=
  !msg.isEmpty && client.mode = .chatU && args.cmd ≠ .unchat && args.cmd ≠ .directMsgUser

/-- `onUserInput`. -/
def onUserInput (client : Client) (msg : Bytes) : Client :=
  let args := Input.parse msg
  if client.chats msg args then
    client.sendRequest .directMsgUser
      (.messageSend client.selfId client.stateUser msg client.password)
  else
    client.onCommand args

/-- The condition of the login in `onHttpConnect`. -/
def hasCredentials (client : Client) : Bool := !client.user.isEmpty && !client.password.isEmpty

/-- `onHttpConnect`. -/
def onHttpConnect (client : Client) (failed : Bool) : Client :=
  if failed then { client with http := client.http.connect }
  else
    let shown := client.showMsg
      (bytes "connected to server: " ++ client.host ++ bytes ":" ++ decimalInt client.port)
    if client.hasCredentials then
      shown.sendRequest .login (.userLogin client.user client.password)
    else shown

/-- `onHttpWrite`. The response is read on the current link. -/
def onHttpWrite (client : Client) (failed : Bool) : Client :=
  if failed then client else { client with http := client.http.read }

/-- The branch of `onHttpRead` for an error. -/
def onHttpReadError (client : Client) : Client :=
  { client with http := client.http.create.connect }

section Replies

variable (parse : Bytes → Option Json)

/-- The reply to a login. -/
def readLogin (client : Client) (body : Bytes) : Checked Client := do
  let (err, resp) ← CliUtils.parseResponseAswer parse body
  if !err.isEmpty then pure (client.showMsg err)
  else
    let client :=
      { client with selfId := resp.uid, selfChatId := resp.chatid, heartBit := resp.heartbit }
    if client.httpIdle.isOpen then pure client
    else pure { client with httpIdle := client.httpIdle.connect }

/-- A list of messages, as both kinds of connections receive it. -/
def readMsgs (client : Client) (body : Bytes) : Checked Client := do
  let (err, response) ← CliUtils.parseMsgResponse parse body
  if !err.isEmpty then pure (client.showMsg (bytes "error: " ++ err))
  else pure (client.showMsgs response)

/-- How long ago the user of a status reply was online. -/
def onlineText (resp : CliUtils.Response) : Bytes :=
  let lastOnline := if resp.heartbit < resp.serverTs then resp.serverTs - resp.heartbit else 0
  if lastOnline < 5 then bytes "user online"
  else bytes "user was online at about " ++ decimal lastOnline ++ bytes " seconds ago"

/-- The reply to a status request. -/
def readStatus (client : Client) (body : Bytes) : Checked Client := do
  let (err, resp) ← CliUtils.parseResponseAswer parse body
  if !err.isEmpty then pure (client.showMsg err)
  else pure (client.showMsg (onlineText resp))

/-- The reply to the two location requests. -/
def readNames (client : Client) (label : Bytes)
    (parsed : Checked (Bytes × CliUtils.NamesResponse)) : Checked Client := do
  let (err, resp) ← parsed
  if !err.isEmpty then pure (client.showMsg err)
  else pure (resp.names.foldl (fun client name => client.showMsg (label ++ name)) client)

/-- What `onHttpRead` does with a reply of status 200 under a command. -/
def interpret (client : Client) (cmd : InputCmd) (body : Bytes) : Checked Client :=
  match cmd with
  | .login => client.readLogin parse body
  | .historyUser => client.readMsgs parse body
  | .statusUser => client.readStatus parse body
  | .getLocations =>
      client.readNames (bytes "location: ") (CliUtils.parseLocationResponse parse body)
  | .chatWithLocation =>
      client.readNames (bytes "user: ") (CliUtils.parseChatLocResponse parse body)
  | _ => pure client

/-- `onHttpRead` of a reply. -/
def onHttpRead (client : Client) (reply : HttpReply) : Checked Client :=
  if reply.status ≠ 200 then
    pure ((client.showMsg (decimalInt reply.status)).showMsg reply.body)
  else
    (client.showMsg (bytes "200 OK")).interpret parse client.lastCmd reply.body

/-- `onHttpIdleConnect`. -/
def onHttpIdleConnect (client : Client) (failed : Bool) : Client :=
  if failed then { client with httpIdle := client.httpIdle.connect }
  else
    { client with
      httpIdle := client.httpIdle.write (.idle client.selfId client.heartBit client.password) }

/-- `onHttpIdleWrite`. -/
def onHttpIdleWrite (client : Client) (failed : Bool) : Client :=
  if failed then client else { client with httpIdle := client.httpIdle.read }

/-- The branch of `onHttpIdleRead` for an error or another status. -/
def onHttpIdleError (client : Client) : Client :=
  { client.showMsg (bytes "connection is broken, please relogin") with
    idleState := false
    httpIdle := client.httpIdle.create
    http := client.http.create.connect }

/-- A reply on the idle connection. The first one is the acknowledgement. -/
def readIdle (client : Client) (body : Bytes) : Checked Client :=
  if client.idleState then client.readMsgs parse body
  else pure { client with idleState := true }

/-- `onHttpIdleRead` of a reply. -/
def onHttpIdleRead (client : Client) (reply : HttpReply) : Checked Client :=
  if reply.status ≠ 200 then pure client.onHttpIdleError
  else do
    let client ← client.readIdle parse reply.body
    pure { client with httpIdle := client.httpIdle.read }

/-- The id that the client takes from a reply. The reply is read under the last
command, whatever it answers. -/
def loginId (client : Client) (reply : HttpReply) : Option Nat :=
  if reply.status = 200 ∧ client.lastCmd = .login then
    match CliUtils.parseResponseAswer parse reply.body with
    | .ok ([], resp) => some resp.uid
    | _ => none
  else none

variable {parse} {client next : Client} {body : Bytes}

theorem readMsgs_shown (read : client.readMsgs parse body = .ok next) :
    ∃ shown, next = { client with shown } := by
  obtain ⟨⟨err, response⟩, _, rest⟩ := Checked.bind_ok read
  simp only at rest
  split at rest
  all_goals
    cases rest
    exact ⟨_, rfl⟩

theorem readStatus_shown (read : client.readStatus parse body = .ok next) :
    ∃ shown, next = { client with shown } := by
  obtain ⟨⟨err, resp⟩, _, rest⟩ := Checked.bind_ok read
  simp only at rest
  split at rest
  all_goals
    cases rest
    exact ⟨_, rfl⟩

theorem showNames_shown (label : Bytes) (names : List Bytes) (client : Client) :
    ∃ shown, names.foldl (fun client name => client.showMsg (label ++ name)) client =
      { client with shown } := by
  induction names generalizing client with
  | nil => exact ⟨client.shown, rfl⟩
  | cons name rest inductionHypothesis =>
      obtain ⟨shown, same⟩ := inductionHypothesis (client.showMsg (label ++ name))
      exact ⟨shown, same⟩

theorem readNames_shown {label : Bytes} {parsed : Checked (Bytes × CliUtils.NamesResponse)}
    (read : client.readNames label parsed = .ok next) : ∃ shown, next = { client with shown } := by
  obtain ⟨⟨err, resp⟩, _, rest⟩ := Checked.bind_ok read
  simp only at rest
  split at rest
  next =>
    cases rest
    exact ⟨_, rfl⟩
  next =>
    cases rest
    exact showNames_shown label resp.names client

/-- A reply to a login that can be read. -/
def loggedIn (client : Client) (resp : CliUtils.Response) : Client :=
  { client with
    selfId := resp.uid, selfChatId := resp.chatid, heartBit := resp.heartbit
    httpIdle := if client.httpIdle.isOpen then client.httpIdle else client.httpIdle.connect }

theorem readLogin_cases (read : client.readLogin parse body = .ok next) :
    (∃ err resp, CliUtils.parseResponseAswer parse body = .ok (err, resp) ∧ err ≠ [] ∧
        next = client.showMsg err) ∨
      ∃ resp, CliUtils.parseResponseAswer parse body = .ok ([], resp) ∧
        next = client.loggedIn resp := by
  obtain ⟨⟨err, resp⟩, parsed, rest⟩ := Checked.bind_ok read
  simp only at rest
  split at rest
  next failed =>
    cases rest
    refine .inl ⟨err, resp, parsed, ?_, rfl⟩
    rintro rfl
    cases failed
  next succeeded =>
    have empty : err = [] := by simpa using succeeded
    subst empty
    refine .inr ⟨resp, parsed, ?_⟩
    split at rest
    next isOpen =>
      cases rest
      simp only [loggedIn, if_pos isOpen]
    next closed =>
      cases rest
      simp only [loggedIn, if_neg closed]

theorem interpret_shown {cmd : InputCmd} (other : cmd ≠ .login)
    (read : client.interpret parse cmd body = .ok next) :
    ∃ shown, next = { client with shown } := by
  unfold interpret at read
  split at read
  next => exact absurd rfl other
  next => exact readMsgs_shown read
  next => exact readStatus_shown read
  next => exact readNames_shown read
  next => exact readNames_shown read
  next =>
    cases read
    exact ⟨_, rfl⟩

/-- A reply is a login, or nothing but shown. -/
theorem onHttpRead_cases {reply : HttpReply} (read : client.onHttpRead parse reply = .ok next) :
    (client.loginId parse reply = none ∧ ∃ shown, next = { client with shown }) ∨
      ∃ resp shown, client.loginId parse reply = some resp.uid ∧
        next = { client.loggedIn resp with shown } := by
  unfold onHttpRead at read
  split at read
  next refused =>
    cases read
    exact .inl ⟨if_neg fun both => refused both.1, _, rfl⟩
  next accepted =>
    have status : reply.status = 200 := not_not.mp accepted
    by_cases login : client.lastCmd = .login
    · rw [login] at read
      obtain ⟨err, resp, parsed, nonempty, rfl⟩ | ⟨resp, parsed, rfl⟩ := readLogin_cases read
      · refine .inl ⟨?_, _, rfl⟩
        rw [loginId, if_pos ⟨status, login⟩, parsed]
        cases err with
        | nil => exact absurd rfl nonempty
        | cons => rfl
      · refine .inr ⟨resp, _, ?_, rfl⟩
        rw [loginId, if_pos ⟨status, login⟩, parsed]
    · obtain ⟨shown, rfl⟩ := interpret_shown login read
      exact .inl ⟨if_neg fun both => login both.2, shown, rfl⟩

/-- A reply on the idle connection breaks the connection, or is shown. -/
theorem onHttpIdleRead_cases {reply : HttpReply}
    (read : client.onHttpIdleRead parse reply = .ok next) :
    next = client.onHttpIdleError ∨ ∃ idleState shown,
      next = { client with idleState, shown, httpIdle := client.httpIdle.read } := by
  unfold onHttpIdleRead at read
  split at read
  next =>
    cases read
    exact .inl rfl
  next =>
    obtain ⟨middle, first, rest⟩ := Checked.bind_ok read
    cases rest
    refine .inr ?_
    unfold readIdle at first
    split at first
    next =>
      obtain ⟨shown, rfl⟩ := readMsgs_shown first
      exact ⟨client.idleState, shown, rfl⟩
    next =>
      cases first
      exact ⟨true, client.shown, rfl⟩

end Replies

end Client

end GeoChat
