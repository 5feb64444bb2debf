import GeoChat.Common.Json
import GeoChat.Server.Database

/-!
# `DatabaseWorker::processQueue`

The body of the worker's loop for one task, as a program of calls, with the
response bodies of `apiclient_utils.cpp`. Every branch of the source returns to
the head of the loop with `continue`; here the branch ends the program.
-/

namespace GeoChat

open Library

namespace ApiclientUtils

/-- `build_api_ok_response_body` of a command. -/
def okBodyOfCommand (command : Cmd) (now : Int) : Bytes :=
  (Json.object
    [(bytes "cmd", .uint64 command.code), (bytes "server_ts", .uint64 (toUint64 now))]).write

/-- `build_api_ok_response_body` of a user. -/
def okBodyOfUser (user : User) (now : Int) : Bytes :=
  (Json.object
    [(bytes "id", .uint64 user.id), (bytes "chatid", .uint64 user.selfChatId),
      (bytes "heartbit", .uint64 (toUint64 user.heartbit)),
      (bytes "name", .ofCString user.name), (bytes "server_ts", .uint64 (toUint64 now))]).write

/-- `build_api_ok_response_body` of a chat. -/
def okBodyOfChat (chat : Chat) (now : Int) : Bytes :=
  (Json.object
    [(bytes "chatid", .uint64 chat.id), (bytes "name", .ofCString chat.name),
      (bytes "server_ts", .uint64 (toUint64 now))]).write

/-- `build_api_ok_response_body` of messages. -/
def okBodyOfMessages (msgs : List ApiMessage) (now : Int) : Bytes :=
  (Json.object
    [(bytes "server_ts", .uint64 (toUint64 now)),
      (bytes "msgs", .array (msgs.map fun msg => .object
        [(bytes "from", .ofCString msg.sender), (bytes "to", .ofCString msg.recipient),
          (bytes "message", .ofCString msg.msg), (bytes "ts", .uint64 msg.ts)]))]).write

/-- `build_api_ok_response_body` of a set, under the plural of the key. -/
def okBodyOfItems (key : Bytes) (items : List Bytes) (now : Int) : Bytes :=
  (Json.object
    [(bytes "server_ts", .uint64 (toUint64 now)),
      (cstr (key ++ bytes "s"), .array
        ((items.filter fun item => !item.isEmpty).map fun item => .object
          [(cstr key, .ofCString item)]))]).write

end ApiclientUtils

open ApiclientUtils

/-- `std::sort` by descending timestamp. The order of equal timestamps is not
specified, so it is left to the instance. -/
structure TimestampSort where
  sort : List Message → List Message
  perm : ∀ msgs, (sort msgs).Perm msgs
  sorted : ∀ msgs, (sort msgs).Pairwise fun first second => second.ts ≤ first.ts

/-- The order of a stable sort. -/
def TimestampSort.stable : TimestampSort where
  sort msgs := msgs.mergeSort fun first second => second.ts ≤ first.ts
  perm msgs := List.mergeSort_perm msgs _
  sorted msgs := by
    have ordered := @List.pairwise_mergeSort Message
      (fun first second => decide (second.ts ≤ first.ts)) (by simp; omega) (by simp; omega) msgs
    simpa using ordered

/-- What the password column holds for a password. -/
def encryptedPass (password : Bytes) : Bytes := decimalInt (Utils.crc32 password)

def statusZero : Bytes := bytes "\x7b\"status\": 0\x7d"

namespace DatabaseWorker

def lookupCheckPass (task : Task) : Prog User := do
  let user ← Prog.db (.lookupUserById task.request.uid)
  if user.id = 0 then do
    Prog.client (.sendErrorResponse 409 .errConstraint (bytes "user does not exist"))
    pure {}
  else if encryptedPass task.request.password ≠ user.password then do
    Prog.client (.sendErrorResponse 403 .errConstraint (bytes "wrong password"))
    pure {}
  else
    pure user

def lookupCheckPassByName (name : Bytes) (task : Task) (checkPass : Bool) : Prog User := do
  let users ← Prog.db (.lookupUserByName name)
  match users with
  | [] => do
      Prog.client (.sendErrorResponse 404 .errNotFound (bytes "user does not exist"))
      pure {}
  | [user] =>
      if checkPass && encryptedPass task.request.password ≠ user.password then do
        Prog.client (.sendErrorResponse 403 .errConstraint (bytes "wrong password"))
        pure {}
      else
        pure user
  | _ => do
      Prog.client
        (.sendErrorResponse 500 .errInternal (bytes "more than one user with that name"))
      pure {}

def toApiFormat : List Message → Prog (List ApiMessage)
  | [] => pure []
  | msg :: rest => do
      let chat ← Prog.db (.lookupChatById msg.chatTo)
      let user ← Prog.db (.lookupUserById msg.userFrom)
      let msgs ← toApiFormat rest
      pure (⟨toUint64 msg.ts, user.name, chat.name, msg.message⟩ :: msgs)

/-- The overload of `to_api_format` for one list of messages for each chat. -/
def toApiFormatBatch : List (List Message) → Prog (List ApiMessage)
  | [] => pure []
  | msgs :: rest => do
      let first ← toApiFormat msgs
      let remaining ← toApiFormatBatch rest
      pure (first ++ remaining)

def mixFromAndToMessages (sort : TimestampSort) (fromMsgs toMsgs : List Message) (max : Nat) :
    List Message :=
  let tmp := sort.sort (fromMsgs ++ toMsgs)
  if tmp.length ≤ max then tmp else tmp.take max

/-- The loop of the idle branch over the chats of the user. -/
def readChats (ts : Int) : List Chat → Prog (List (List Message))
  | [] => pure []
  | chat :: rest => do
      let msgs ← Prog.db (.getMessages chat.id { ts })
      let batch ← readChats ts rest
      pure (if msgs.isEmpty then batch else msgs :: batch)

/-- The last part of the idle branch. -/
def sendBatch (ping : Bool) (msgsBatch : List (List Message)) : Prog Unit :=
  if !msgsBatch.isEmpty then do
    let apiMsgs ← toApiFormatBatch msgsBatch
    Prog.client (.sendMessagesToIdleConn apiMsgs)
  else if ping then
    Prog.client (.sendMessagesToIdleConn [])
  else
    pure ()

def processIdle (task : Task) : Prog Unit := do
  let user ← lookupCheckPass task
  if user.id = 0 then
    pure ()
  else do
    let now ← Prog.time
    Prog.db (.updateUserHeartBit user now)
    let chats ← Prog.lookupChatsForUserId user.id
    let msgsBatch ← readChats task.request.ts chats
    sendBatch task.ping msgsBatch

def processUserStatus (task : Task) : Prog Unit := do
  let user ← lookupCheckPass task
  if user.id = 0 then
    pure ()
  else do
    let userTo ← lookupCheckPassByName task.request.user task false
    if userTo.id = 0 then
      pure ()
    else do
      let now ← Prog.time
      Prog.client (.sendOkResponse (okBodyOfUser userTo now))

/-- `opt.max_count` is 32 bits wide, the product before it 64. -/
def historyOpt (count : Nat) : GetMsgOpt := { maxCount := count * 2 % 2 ^ 64 % 2 ^ 32 }

def processUserHistory (sort : TimestampSort) (task : Task) : Prog Unit := do
  let userFrom ← lookupCheckPass task
  if userFrom.id = 0 then
    pure ()
  else do
    let userTo ← lookupCheckPassByName task.request.user task false
    if userTo.id = 0 then
      pure ()
    else do
      let opt := historyOpt task.request.count
      let msgsTo ← Prog.db (.selectMessages
        (fun msg => msg.userFrom = userFrom.id && msg.chatTo = userTo.selfChatId) opt)
      let msgsFrom ← Prog.db (.selectMessages
        (fun msg => msg.userFrom = userTo.id && msg.chatTo = userFrom.selfChatId) opt)
      let mix := mixFromAndToMessages sort msgsFrom msgsTo task.request.count
      let apiMsgs ← toApiFormat mix
      Prog.client (.sendMessages apiMsgs)

/-- The shared end of the two send branches. -/
def storeMessage (userFrom chatTo : Nat) (text : Bytes) : Prog Unit := do
  let now ← Prog.time
  Prog.db (.saveMessage { userFrom, chatTo, message := text, ts := now })
  Prog.client (.sendOkResponse statusZero)

def processMessageSend (task : Task) : Prog Unit := do
  let user ← lookupCheckPass task
  if user.id = 0 then
    pure ()
  else do
    let usersTo ← Prog.db (.lookupUserByName task.request.toUser)
    match usersTo with
    | [] =>
        Prog.client (.sendErrorResponse 404 .errNotFound (bytes "user to does not exist"))
    | [userTo] => storeMessage user.id userTo.selfChatId task.request.message
    | _ =>
        Prog.client
          (.sendErrorResponse 500 .errInternal (bytes "more than one user with that name"))

def processUserCreate (task : Task) : Prog Unit := do
  let user ← Prog.db (.createUser task.request.user (encryptedPass task.request.password)
    task.storage task.request.ipAddress task.request.city)
  if user.id = 0 then
    Prog.client (.sendErrorResponse 409 .errConstraint (bytes "user already exists"))
  else do
    let now ← Prog.time
    Prog.client (.sendOkResponse (okBodyOfUser user now))

def processUserLogin (task : Task) : Prog Unit := do
  let user ← lookupCheckPassByName task.request.user task true
  if user.id = 0 then
    pure ()
  else do
    let now ← Prog.time
    Prog.client (.sendOkResponse (okBodyOfUser user now))

def processChatCreate (task : Task) : Prog Unit := do
  let user ← lookupCheckPass task
  if user.id = 0 then
    pure ()
  else do
    let chat ← Prog.db (.createChat task.request.chat.name task.request.uid)
    if chat.id = 0 then
      Prog.client (.sendErrorResponse 409 .errConstraint (bytes "chat already exists"))
    else do
      let now ← Prog.time
      Prog.client (.sendOkResponse (okBodyOfChat chat now))

/-- The source also builds the body of the chat and does not use it. -/
def processChatAdduser (task : Task) : Prog Unit := do
  let user ← lookupCheckPass task
  if user.id = 0 then
    pure ()
  else do
    let toAdd ← lookupCheckPassByName task.request.chat.adduser task false
    if toAdd.id = 0 then
      pure ()
    else do
      let chats ← Prog.db (.lookupChatByName task.request.chat.name)
      match chats with
      | [chat] => do
          Prog.db (.addUserToChat chat toAdd)
          Prog.client (.sendOkResponse statusZero)
      | _ => Prog.client (.sendErrorResponse 404 .errNotFound (bytes "chat does not exist"))

def processMessageSendChat (task : Task) : Prog Unit := do
  let user ← lookupCheckPass task
  if user.id = 0 then
    pure ()
  else do
    let chats ← Prog.db (.lookupChatByName task.request.chat.name)
    match chats with
    | [chat] => storeMessage user.id chat.id task.request.message
    | _ => Prog.client (.sendErrorResponse 404 .errNotFound (bytes "chat does not exist"))

/-- The two location branches differ in the lookup, the key and the text of
the error. -/
def processLocation (task : Task) (lookup : Prog (List Bytes)) (key missing : Bytes) :
    Prog Unit := do
  let user ← lookupCheckPass task
  if user.id = 0 then
    pure ()
  else do
    let items ← lookup
    if items.isEmpty then
      Prog.client (.sendErrorResponse 404 .errNotFound missing)
    else do
      let now ← Prog.time
      Prog.client (.sendOkResponse (okBodyOfItems key items now))

def processGetLocations (task : Task) : Prog Unit :=
  processLocation task (Prog.db .getAllDistinctLocations) (bytes "location")
    (bytes "no locations")

def processChatWithLocation (task : Task) : Prog Unit :=
  processLocation task (Prog.db (.getAllUsersFromLocation task.request.city)) (bytes "user")
    (bytes "no users from " ++ task.request.city)

/-- One turn of `processQueue`. Commands without a branch do nothing. -/
def processTask (sort : TimestampSort) (task : Task) : Prog Unit :=
  match task.cmd with
  | .idle => processIdle task
  | .userStatus => processUserStatus task
  | .userHistory => processUserHistory sort task
  | .messageSend => processMessageSend task
  | .userCreate => processUserCreate task
  | .userLogin => processUserLogin task
  | .chatCreate => processChatCreate task
  | .chatAdduser => processChatAdduser task
  | .messageSendChat => processMessageSendChat task
  | .getLocations => processGetLocations task
  | .chatWithLocation => processChatWithLocation task
  | .chatHistory | .chatStatus | .messageRecent | .cmdLast => pure ()

end DatabaseWorker

end GeoChat
