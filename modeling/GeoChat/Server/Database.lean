import GeoChat.Common.Command
import GeoChat.Library.Program

/-!
# Rows, tasks and calls of the database layer

The data of `database.hpp` and `request.hpp`, and the calls that a worker makes
while it processes a task: calls of an `AbstractConnection`, reads of the
clock, and calls of the client the task belongs to. A connection call is one
critical section. `lookupChatsForUserId` and `lookupUsersForChatId` of both
backends lock once for the link table and once for each row, so to a worker they
are programs over the calls. A `time_t` is an integer.
-/

namespace GeoChat

open Library

/-- `db::Chat`. Id `0` is the default-constructed row. -/
structure Chat where
  id : Nat := 0
  name : Bytes := []
  deriving DecidableEq, Repr

/-- `db::User`. -/
structure User where
  id : Nat := 0
  selfChatId : Nat := 0
  name : Bytes := []
  password : Bytes := []
  stpath : Bytes := []
  ip : Bytes := []
  city : Bytes := []
  heartbit : Int := 0
  deriving DecidableEq, Repr

/-- All of a user but the heartbit. -/
def User.still (user : User) : User := { user with heartbit := 0 }

@[simp]
theorem User.still_id (user : User) : user.still.id = user.id := rfl

@[simp]
theorem User.still_name (user : User) : user.still.name = user.name := rfl

/-- `db::Chatuser`, one membership. -/
structure Chatuser where
  chatid : Nat
  uid : Nat
  deriving DecidableEq, Repr

/-- `db::get_msg_opt_t`. -/
structure GetMsgOpt where
  ts : Int := 0
  maxCount : Nat := 3
  deriving DecidableEq, Repr

inductive Flags where
  | unread
  | read
  | answered
  deriving DecidableEq, Repr

/-- `db::Message`. -/
structure Message where
  flags : Flags := .unread
  userFrom : Nat
  chatTo : Nat
  ts : Int := 0
  message : Bytes
  deriving DecidableEq, Repr

/-- `RequestDetails::Params::chat`. -/
structure ChatParams where
  name : Bytes := []
  adduser : Bytes := []
  deriving DecidableEq, Repr

/-- `RequestDetails::Params`. -/
structure Params where
  uid : Nat := 0
  ts : Int := 0
  count : Nat := 0
  message : Bytes := []
  toUser : Bytes := []
  user : Bytes := []
  password : Bytes := []
  ipAddress : Bytes := []
  city : Bytes := []
  chat : ChatParams := {}
  deriving DecidableEq, Repr

/-- `db::Task`, without the pointer to its client. -/
structure Task where
  ping : Bool := false
  cmd : Cmd
  request : Params
  storage : Bytes := []
  deriving DecidableEq, Repr

/-- `apiclient_utils::Message`. Its timestamp is a `uint64_t`. -/
structure ApiMessage where
  ts : Nat
  sender : Bytes
  recipient : Bytes
  msg : Bytes
  deriving DecidableEq, Repr

/-- One critical section of an `AbstractConnection`. -/
inductive DbOp where
  | updateUserHeartBit (user : User) (ts : Int)
  | createUser (name pass stpath ip city : Bytes)
  | createChat (name : Bytes) (uid : Nat)
  | lookupUserByName (name : Bytes)
  | lookupUserById (id : Nat)
  | lookupUserByCity (city : Bytes)
  | chatidsForUserId (uid : Nat)
  | lookupChatByName (name : Bytes)
  | lookupChatById (chatid : Nat)
  | uidsForChatId (chatid : Nat)
  | addUserToChat (chat : Chat) (user : User)
  | saveMessage (msg : Message)
  | getMessages (chatid : Nat) (opt : GetMsgOpt)
  | selectMessages (pred : Message → Bool) (opt : GetMsgOpt)
  | getAllDistinctLocations
  | getAllUsersFromLocation (city : Bytes)

/-- The result type of each call. A `std::set` is its increasing list. -/
abbrev DbOp.Result : DbOp → Type
  | .updateUserHeartBit _ _ => Unit
  | .createUser _ _ _ _ _ => User
  | .createChat _ _ => Chat
  | .lookupUserByName _ => List User
  | .lookupUserById _ => User
  | .lookupUserByCity _ => List User
  | .chatidsForUserId _ => List Nat
  | .lookupChatByName _ => List Chat
  | .lookupChatById _ => Chat
  | .uidsForChatId _ => List Nat
  | .addUserToChat _ _ => Unit
  | .saveMessage _ => Unit
  | .getMessages _ _ => List Message
  | .selectMessages _ _ => List Message
  | .getAllDistinctLocations => List Bytes
  | .getAllUsersFromLocation _ => List Bytes

/-- The storage behind `AbstractConnection`: what a call returns and leaves, at a
time of the clock of the storage. -/
abbrev Backend (Store : Type) := Int → (op : DbOp) → Store → op.Result × Store

/-- What a worker calls on the client of its task. -/
inductive ClientCall where
  | sendErrorResponse (httpCode : Nat) (apiCode : ApiStatusCode) (desc : Bytes)
  | sendOkResponse (body : Bytes)
  | sendMessages (msgs : List ApiMessage)
  | sendMessagesToIdleConn (msgs : List ApiMessage)
  deriving DecidableEq, Repr

inductive Effect where
  | db (op : DbOp)
  | time
  | client (call : ClientCall)

abbrev Effect.Reply : Effect → Type
  | .db op => op.Result
  | .time => Int
  | .client _ => Unit

/-- A program of a worker. -/
abbrev Prog := Program Effect Effect.Reply

/-- The calls of a worker over a storage, at the time `now` of the clock. -/
def Backend.handle {Store : Type} (backend : Backend Store) (now : Int) :
    Program.Handler Effect Effect.Reply Store
  | .db op, store => backend now op store
  | .time, store => (now, store)
  | .client _, store => ((), store)

/-- The calls that a worker has made, with their results. -/
abbrev History := List (Exchange Effect Effect.Reply)

abbrev Prog.db (op : DbOp) : Prog op.Result := Program.perform (Effect.db op)

/-- `time(NULL)`. -/
abbrev Prog.time : Prog Int := Program.perform Effect.time

abbrev Prog.client (call : ClientCall) : Prog Unit := Program.perform (Effect.client call)

/-- The loop over the ids of the link table. -/
def Prog.lookupEach {Row : Type} (lookup : Nat → Prog Row) : List Nat → Prog (List Row)
  | [] => pure []
  | id :: rest => do
      let row ← lookup id
      let rows ← Prog.lookupEach lookup rest
      pure (row :: rows)

abbrev Prog.lookupChatsById : List Nat → Prog (List Chat) :=
  Prog.lookupEach fun chatid => Prog.db (.lookupChatById chatid)

/-- `AbstractConnection::lookupChatsForUserId`, for a worker among others. -/
def Prog.lookupChatsForUserId (uid : Nat) : Prog (List Chat) := do
  let chatids ← Prog.db (.chatidsForUserId uid)
  Prog.lookupChatsById chatids

abbrev Prog.lookupUsersById : List Nat → Prog (List User) :=
  Prog.lookupEach fun uid => Prog.db (.lookupUserById uid)

/-- `AbstractConnection::lookupUsersForChatId`, for a worker among others. -/
def Prog.lookupUsersForChatId (chatid : Nat) : Prog (List User) := do
  let uids ← Prog.db (.uidsForChatId chatid)
  Prog.lookupUsersById uids

end GeoChat
