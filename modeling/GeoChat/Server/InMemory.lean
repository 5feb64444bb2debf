import GeoChat.Server.Database

/-!
# `InMemoryConnection`

The storage and the calls of `inmemory_dbconn.cpp`. The two auto-increment
counters are `uint64_t` and wrap.
-/

namespace GeoChat

open Library

/-- `InMemoryConnection::Storage`. -/
structure Storage where
  userAutoincrement : Nat := 1
  chatAutoincrement : Nat := 1
  chats : List Chat := []
  users : List User := []
  chatuser : List Chatuser := []
  messages : List Message := []
  deriving DecidableEq, Repr

/-- Insertion into a `std::set<std::string>` kept as an increasing list. -/
def insertOrdered (item : Bytes) : List Bytes → List Bytes
  | [] => [item]
  | head :: rest =>
      if item = head then head :: rest
      else if item < head then item :: head :: rest
      else head :: insertOrdered item rest

/-- A message of the chat that is newer than the cursor. -/
def Message.newer (chatid : Nat) (ts : Int) (msg : Message) : Bool :=
  msg.chatTo = chatid && ts < msg.ts

/-- Set the flag that `getMessages` sets on what it returns. -/
def Message.markRead (msg : Message) : Message := { msg with flags := .read }

namespace InMemory

/-- The loop of `updateUserHeartBit`: the first user of the id. -/
def setHeartBit (id : Nat) (ts : Int) : List User → List User
  | [] => []
  | user :: rest =>
      if user.id = id then { user with heartbit := ts } :: rest
      else user :: setHeartBit id ts rest

def updateUserHeartBit (user : User) (ts : Int) (storage : Storage) : Storage :=
  { storage with users := setHeartBit user.id ts storage.users }

def createUser (name pass stpath ip city : Bytes) (storage : Storage) : User × Storage :=
  if storage.users.any fun user => user.name = name then ({}, storage)
  else
    let chatId := storage.chatAutoincrement
    let userId := storage.userAutoincrement
    let user : User :=
      { id := userId, selfChatId := chatId, name, password := pass, stpath, ip, city }
    (user,
      { storage with
        chatAutoincrement := (storage.chatAutoincrement + 1) % 2 ^ 64
        userAutoincrement := (storage.userAutoincrement + 1) % 2 ^ 64
        chats := storage.chats ++ [{ id := chatId, name }]
        users := storage.users ++ [user]
        chatuser := storage.chatuser ++ [{ chatid := chatId, uid := userId }] })

def createChat (name : Bytes) (uid : Nat) (storage : Storage) : Chat × Storage :=
  if storage.chats.any fun chat => chat.name = name then ({}, storage)
  else
    let chat : Chat := { id := storage.chatAutoincrement, name }
    (chat,
      { storage with
        chatAutoincrement := (storage.chatAutoincrement + 1) % 2 ^ 64
        chats := storage.chats ++ [chat]
        chatuser := storage.chatuser ++
          if 0 < uid then [{ chatid := chat.id, uid }] else [] })

def lookupUserByName (name : Bytes) (storage : Storage) : List User :=
  storage.users.filter fun user => user.name = name

def lookupUserById (id : Nat) (storage : Storage) : User :=
  (storage.users.find? fun user => user.id = id).getD {}

theorem lookupUserById_still (id : Nat) (storage : Storage) :
    (lookupUserById id storage).still =
      ((storage.users.map User.still).find? fun user => user.id = id).getD {} := by
  have byId : (fun user : User => decide (user.id = id)) ∘ User.still =
      fun user => decide (user.id = id) := rfl
  rw [List.find?_map, byId]
  unfold lookupUserById
  cases storage.users.find? fun user => user.id = id <;> rfl

def lookupUserByCity (city : Bytes) (storage : Storage) : List User :=
  storage.users.filter fun user => user.city = city

/-- The first half of `lookupChatsForUserId`, under its lock. -/
def chatidsForUserId (uid : Nat) (storage : Storage) : List Nat :=
  (storage.chatuser.filter fun row => row.uid = uid).map (·.chatid)

def lookupChatByName (name : Bytes) (storage : Storage) : List Chat :=
  storage.chats.filter fun chat => chat.name = name

def lookupChatById (chatid : Nat) (storage : Storage) : Chat :=
  (storage.chats.find? fun chat => chat.id = chatid).getD {}

/-- The first half of `lookupUsersForChatId`, under its lock. -/
def uidsForChatId (chatid : Nat) (storage : Storage) : List Nat :=
  (storage.chatuser.filter fun row => row.chatid = chatid).map (·.uid)

def lookupChatsForUserId (uid : Nat) (storage : Storage) : List Chat :=
  (chatidsForUserId uid storage).map (lookupChatById · storage)

def lookupUsersForChatId (chatid : Nat) (storage : Storage) : List User :=
  (uidsForChatId chatid storage).map (lookupUserById · storage)

def addUserToChat (chat : Chat) (user : User) (storage : Storage) : Storage :=
  if storage.chatuser.any fun row => row.chatid = chat.id && row.uid = user.id then storage
  else { storage with
    chatuser := storage.chatuser ++ [{ chatid := chat.id, uid := user.id }] }

def saveMessage (msg : Message) (storage : Storage) : Storage :=
  { storage with messages := storage.messages ++ [msg] }

/-- The message at index `i` if it matches, as the zero or one messages that a
turn of a scan pushes. -/
def hitAt (pred : Message → Bool) (messages : List Message) (i : Nat) : List Message :=
  (messages[i]?.filter pred).toList

/-- `if (opt.max_count && ret.size() >= opt.max_count)`. -/
def limitReached (opt : GetMsgOpt) (ret : List Message) : Bool :=
  opt.maxCount ≠ 0 && opt.maxCount ≤ ret.length

/-- The loop of `getMessages`, which goes from index `i` down to `0`. It takes
the message at `i` and marks it, then tests the limit, then the index. -/
def getMessagesFrom (chatid : Nat) (opt : GetMsgOpt) :
    Nat → List Message → List Message → List Message × List Message
  | i, messages, ret =>
      let hit := hitAt (Message.newer chatid opt.ts) messages i
      let marked := if hit.isEmpty then messages else messages.modify i Message.markRead
      let ret := ret ++ hit
      if limitReached opt ret then (ret, marked)
      else match i with
        | 0 => (ret, marked)
        | i + 1 => getMessagesFrom chatid opt i marked ret

def getMessages (chatid : Nat) (opt : GetMsgOpt) (storage : Storage) :
    List Message × Storage :=
  if storage.messages.isEmpty then ([], storage)
  else
    let scanned :=
      getMessagesFrom chatid opt (storage.messages.length - 1) storage.messages []
    (scanned.1, { storage with messages := scanned.2 })

/-- The loop of `selectMessages`. -/
def selectMessagesFrom (pred : Message → Bool) (opt : GetMsgOpt) (messages : List Message) :
    Nat → List Message → List Message
  | i, ret =>
      let ret := ret ++ hitAt pred messages i
      if limitReached opt ret then ret
      else match i with
        | 0 => ret
        | i + 1 => selectMessagesFrom pred opt messages i ret

def selectMessages (pred : Message → Bool) (opt : GetMsgOpt) (storage : Storage) :
    List Message :=
  if storage.messages.isEmpty then []
  else selectMessagesFrom pred opt storage.messages (storage.messages.length - 1) []

def getAllDistinctLocations (storage : Storage) : List Bytes :=
  storage.users.foldl (fun cities user => insertOrdered user.city cities) []

/-- Not finished in the source: the set holds the city itself. -/
def getAllUsersFromLocation (city : Bytes) (_storage : Storage) : List Bytes := [city]

/-- Execute one call on the storage. -/
def exec : (op : DbOp) → Storage → op.Result × Storage
  | .updateUserHeartBit user ts, storage => ((), updateUserHeartBit user ts storage)
  | .createUser name pass stpath ip city, storage => createUser name pass stpath ip city storage
  | .createChat name uid, storage => createChat name uid storage
  | .lookupUserByName name, storage => (lookupUserByName name storage, storage)
  | .lookupUserById id, storage => (lookupUserById id storage, storage)
  | .lookupUserByCity city, storage => (lookupUserByCity city storage, storage)
  | .chatidsForUserId uid, storage => (chatidsForUserId uid storage, storage)
  | .lookupChatByName name, storage => (lookupChatByName name storage, storage)
  | .lookupChatById chatid, storage => (lookupChatById chatid storage, storage)
  | .uidsForChatId chatid, storage => (uidsForChatId chatid storage, storage)
  | .addUserToChat chat user, storage => ((), addUserToChat chat user storage)
  | .saveMessage msg, storage => ((), saveMessage msg storage)
  | .getMessages chatid opt, storage => getMessages chatid opt storage
  | .selectMessages pred opt, storage => (selectMessages pred opt storage, storage)
  | .getAllDistinctLocations, storage => (getAllDistinctLocations storage, storage)
  | .getAllUsersFromLocation city, storage => (getAllUsersFromLocation city storage, storage)

/-- The backend, whose calls read no clock. -/
def backend : Backend Storage := fun _ op storage => exec op storage

/-- The calls of a worker over the storage, at the time `now` of the clock. -/
def handle (now : Int) : Program.Handler Effect Effect.Reply Storage
  | .db op, storage => exec op storage
  | .time, storage => (now, storage)
  | .client _, storage => ((), storage)

theorem handle_backend : backend.handle = handle := by
  funext now effect storage
  cases effect with
  | _ => rfl

end InMemory

/-- The form in which a client gets a message. -/
def Storage.apiForm (storage : Storage) (msg : Message) : ApiMessage :=
  ⟨toUint64 msg.ts, (InMemory.lookupUserById msg.userFrom storage).name,
    (InMemory.lookupChatById msg.chatTo storage).name, msg.message⟩

end GeoChat
