import Mathlib.Data.List.Sort
import GeoChat.Server.InMemory

/-!
# `MysqlConnection`

The tables of `init.sql` as lists of rows, and the calls of
`mysql_connection.cpp` as sequences of SQL statements in autocommit mode. A
statement that raises `sql::SQLException` changes nothing and ends its call:
every call catches the exception and returns what it has by then. Which
statements raise, for a value too long for its column, a foreign key or a lost
connection, is left to the parameter `raises` over the number of the statement.
-/

namespace GeoChat

open Library

/-- A row of the table `message`. -/
structure MessageRow where
  id : Nat
  userId : Nat
  chatId : Nat
  flags : Flags
  time : Nat
  text : Bytes
  deriving DecidableEq, Repr

/-- The tables, the auto-increment values, `LAST_INSERT_ID()` and the number of
statements executed so far. -/
structure Mysql where
  user : List User := []
  chat : List Chat := []
  chatuser : List Chatuser := []
  message : List MessageRow := []
  userAutoincrement : Nat := 1
  chatAutoincrement : Nat := 1
  messageAutoincrement : Nat := 1
  lastInsertId : Nat := 0
  executed : Nat := 0
  deriving DecidableEq, Repr

/-- The body of a `try` block: `none` is the exception. -/
def Sql (Result : Type) := Mysql → Option Result × Mysql

instance : Monad Sql where
  pure result := fun mysql => (some result, mysql)
  bind body next := fun mysql =>
    match body mysql with
    | (none, later) => (none, later)
    | (some result, later) => next result later

theorem Sql.pure_apply {Result : Type} (result : Result) (mysql : Mysql) :
    (pure result : Sql Result) mysql = (some result, mysql) := rfl

theorem Sql.bind_none {First Second : Type} {body : Sql First} {mysql later : Mysql}
    (next : First → Sql Second) (raised : body mysql = (none, later)) :
    (body >>= next) mysql = (none, later) := by
  simp [bind, raised]

theorem Sql.bind_some {First Second : Type} {body : Sql First} {result : First}
    {mysql later : Mysql} (next : First → Sql Second)
    (passed : body mysql = (some result, later)) : (body >>= next) mysql = next result later := by
  simp [bind, passed]

/-- A 32-bit unsigned parameter, set with `setUInt`. -/
def toUint32 (value : Int) : Nat := (value % 2 ^ 32).toNat

namespace MessageRow

/-- The `db::Message` that a row is read into. -/
def toMessage (row : MessageRow) : Message :=
  { flags := row.flags, userFrom := row.userId, chatTo := row.chatId, ts := row.time,
    message := row.text }

end MessageRow

namespace Mysql

/-- One more statement, and nothing else. -/
def counted (mysql : Mysql) : Mysql := { mysql with executed := mysql.executed + 1 }

@[simp]
theorem counted_executed (mysql : Mysql) : mysql.counted.executed = mysql.executed + 1 := rfl

@[simp]
theorem counted_user (mysql : Mysql) : mysql.counted.user = mysql.user := rfl

@[simp]
theorem counted_chat (mysql : Mysql) : mysql.counted.chat = mysql.chat := rfl

@[simp]
theorem counted_chatuser (mysql : Mysql) : mysql.counted.chatuser = mysql.chatuser := rfl

@[simp]
theorem counted_message (mysql : Mysql) : mysql.counted.message = mysql.message := rfl

section Statements

variable (raises : Nat → Bool)

/-- Prepare and execute one statement. -/
def statement {Result : Type} (effect : Mysql → Result × Mysql) : Sql Result := fun mysql =>
  if raises mysql.executed then (none, mysql.counted)
  else
    let executed := effect mysql.counted
    (some executed.1, executed.2)

theorem statement_raising {Result : Type} (effect : Mysql → Result × Mysql) {mysql : Mysql}
    (raised : raises mysql.executed = true) :
    statement raises effect mysql = (none, mysql.counted) := by
  simp [statement, raised]

theorem statement_passing {Result : Type} (effect : Mysql → Result × Mysql) {mysql : Mysql}
    (passed : raises mysql.executed = false) :
    statement raises effect mysql =
      (some (effect mysql.counted).1, (effect mysql.counted).2) := by
  simp [statement, passed]

/-- The block `try { ... } catch (sql::SQLException&)` with the value that the
call returns after it. -/
def caught {Result : Type} (default : Result) (body : Sql Result) (mysql : Mysql) :
    Result × Mysql :=
  let executed := body mysql
  (executed.1.getD default, executed.2)

def selectUsers (pred : User → Bool) : Sql (List User) :=
  statement raises fun mysql => (mysql.user.filter pred, mysql)

def selectChats (pred : Chat → Bool) : Sql (List Chat) :=
  statement raises fun mysql => (mysql.chat.filter pred, mysql)

def selectChatusers (pred : Chatuser → Bool) : Sql (List Chatuser) :=
  statement raises fun mysql => (mysql.chatuser.filter pred, mysql)

/-- `ORDER BY id DESC`, and `LIMIT` unless the limit is `0`. -/
def selectMessageRows (pred : MessageRow → Bool) (limit : Nat) : Sql (List MessageRow) :=
  statement raises fun mysql =>
    let rows := (mysql.message.filter pred).insertionSort fun first second => second.id ≤ first.id
    (if limit = 0 then rows else rows.take limit, mysql)

/-- `INSERT INTO chat(name)`. -/
def insertChat (name : Bytes) : Sql Unit :=
  statement raises fun mysql =>
    ((), { mysql with
      chat := mysql.chat ++ [{ id := mysql.chatAutoincrement, name }]
      chatAutoincrement := mysql.chatAutoincrement + 1
      lastInsertId := mysql.chatAutoincrement })

/-- `INSERT INTO user`, with the heartbit `NOW()`. -/
def insertUser (now : Int) (user : User) : Sql Unit :=
  statement raises fun mysql =>
    ((), { mysql with
      user := mysql.user ++ [{ user with id := mysql.userAutoincrement, heartbit := now }]
      userAutoincrement := mysql.userAutoincrement + 1
      lastInsertId := mysql.userAutoincrement })

/-- `INSERT INTO chatuser`. -/
def insertChatuser (uid chatid : Nat) : Sql Unit :=
  statement raises fun mysql =>
    ((), { mysql with chatuser := mysql.chatuser ++ [{ chatid, uid }] })

/-- `INSERT INTO message`. -/
def insertMessage (msg : Message) : Sql Unit :=
  statement raises fun mysql =>
    ((), { mysql with
      message := mysql.message ++
        [{ id := mysql.messageAutoincrement, userId := msg.userFrom, chatId := msg.chatTo,
           flags := msg.flags, time := toUint32 msg.ts, text := msg.message }]
      messageAutoincrement := mysql.messageAutoincrement + 1
      lastInsertId := mysql.messageAutoincrement })

/-- `UPDATE user SET heartbit`. -/
def updateHeartbit (id : Nat) (ts : Int) : Sql Unit :=
  statement raises fun mysql =>
    ((), { mysql with user := mysql.user.map fun user =>
      if user.id = id then { user with heartbit := toUint32 ts } else user })

/-- `UPDATE message SET flags`. -/
def updateFlags (id : Nat) : Sql Unit :=
  statement raises fun mysql =>
    ((), { mysql with message := mysql.message.map fun row =>
      if row.id = id then { row with flags := .read } else row })

def getLastInsertId : Sql Nat :=
  statement raises fun mysql => (mysql.lastInsertId, mysql)

end Statements

/-- The loop over the ids of the link table. -/
def lookupEach {Row : Type} (lookup : Nat → Mysql → Row × Mysql) :
    List Nat → List Row → Mysql → List Row × Mysql
  | [], ret, mysql => (ret, mysql)
  | id :: rest, ret, mysql =>
      let found := lookup id mysql
      lookupEach lookup rest (ret ++ [found.1]) found.2

section Calls

variable (raises : Nat → Bool) (now : Int)

def updateUserHeartBit (user : User) (ts : Int) : Mysql → Unit × Mysql :=
  caught () (updateHeartbit raises user.id ts)

def createUser (name pass stpath ip city : Bytes) : Mysql → User × Mysql :=
  caught {} do
    let existing ← selectUsers raises fun user => user.name = name
    if !existing.isEmpty then
      pure {}
    else do
      insertChat raises name
      let chatId ← getLastInsertId raises
      insertUser raises now
        { selfChatId := chatId, name, password := pass, stpath, ip, city }
      let userId ← getLastInsertId raises
      insertChatuser raises userId chatId
      pure { id := userId, selfChatId := chatId, name, password := pass, stpath, ip, city }

def createChat (name : Bytes) (uid : Nat) : Mysql → Chat × Mysql :=
  caught {} do
    let existing ← selectChats raises fun chat => chat.name = name
    if !existing.isEmpty then
      pure {}
    else do
      insertChat raises name
      let chatId ← getLastInsertId raises
      if 0 < uid then
        insertChatuser raises uid chatId
      pure { id := chatId, name }

def lookupUserByName (name : Bytes) : Mysql → List User × Mysql :=
  caught [] (selectUsers raises fun user => user.name = name)

def lookupUserById (id : Nat) : Mysql → User × Mysql :=
  caught {} do
    let found ← selectUsers raises fun user => user.id = id
    pure (found.headD {})

def lookupUserByCity (city : Bytes) : Mysql → List User × Mysql :=
  caught [] (selectUsers raises fun user => user.city = city)

/-- The first half of `lookupChatsForUserId`, under its lock. -/
def chatidsForUserId (uid : Nat) : Mysql → List Nat × Mysql :=
  caught [] do
    let rows ← selectChatusers raises fun row => row.uid = uid
    pure (rows.map (·.chatid))

def lookupChatByName (name : Bytes) : Mysql → List Chat × Mysql :=
  caught [] (selectChats raises fun chat => chat.name = name)

def lookupChatById (chatid : Nat) : Mysql → Chat × Mysql :=
  caught {} do
    let found ← selectChats raises fun chat => chat.id = chatid
    pure (found.headD {})

/-- The first half of `lookupUsersForChatId`, under its lock. -/
def uidsForChatId (chatid : Nat) : Mysql → List Nat × Mysql :=
  caught [] do
    let rows ← selectChatusers raises fun row => row.chatid = chatid
    pure (rows.map (·.uid))

def lookupChatsForUserId (uid : Nat) (mysql : Mysql) : List Chat × Mysql :=
  let chats := chatidsForUserId raises uid mysql
  lookupEach (lookupChatById raises) chats.1 [] chats.2

def lookupUsersForChatId (chatid : Nat) (mysql : Mysql) : List User × Mysql :=
  let uids := uidsForChatId raises chatid mysql
  lookupEach (lookupUserById raises) uids.1 [] uids.2

def addUserToChat (chat : Chat) (user : User) : Mysql → Unit × Mysql :=
  caught () do
    let rows ← selectChatusers raises fun row => row.uid = user.id && row.chatid = chat.id
    if !rows.isEmpty then
      pure ()
    else
      insertChatuser raises user.id chat.id

def saveMessage (msg : Message) : Mysql → Unit × Mysql :=
  caught () (insertMessage raises msg)

/-- The loop of `getMessages`: each row is pushed and then marked, and an
exception of the `UPDATE` ends the loop. -/
def readRows : List MessageRow → List Message → Mysql → List Message × Mysql
  | [], ret, mysql => (ret, mysql)
  | row :: rest, ret, mysql =>
      let ret := ret ++ [row.toMessage]
      match updateFlags raises row.id mysql with
      | (none, later) => (ret, later)
      | (some _, later) => readRows rest ret later

def getMessages (chatid : Nat) (opt : GetMsgOpt) (mysql : Mysql) : List Message × Mysql :=
  match selectMessageRows raises
      (fun row => row.chatId = chatid && toUint32 opt.ts < row.time) opt.maxCount mysql with
  | (none, later) => ([], later)
  | (some rows, later) => readRows raises rows [] later

/-- The limit is part of the query, the predicate comes after it. -/
def selectMessages (pred : Message → Bool) (opt : GetMsgOpt) : Mysql → List Message × Mysql :=
  caught [] do
    let rows ← selectMessageRows raises (fun _ => true) opt.maxCount
    pure ((rows.map MessageRow.toMessage).filter pred)

def getAllDistinctLocations : Mysql → List Bytes × Mysql :=
  caught [] do
    let users ← selectUsers raises fun _ => true
    pure (users.foldl (fun cities user => insertOrdered user.city cities) [])

def getAllUsersFromLocation (city : Bytes) : Mysql → List Bytes × Mysql :=
  caught [] do
    let users ← selectUsers raises fun user => user.city = city
    pure (users.foldl (fun names user => insertOrdered user.name names) [])

/-- Execute one call. -/
def exec : (op : DbOp) → Mysql → op.Result × Mysql
  | .updateUserHeartBit user ts => updateUserHeartBit raises user ts
  | .createUser name pass stpath ip city => createUser raises now name pass stpath ip city
  | .createChat name uid => createChat raises name uid
  | .lookupUserByName name => lookupUserByName raises name
  | .lookupUserById id => lookupUserById raises id
  | .lookupUserByCity city => lookupUserByCity raises city
  | .chatidsForUserId uid => chatidsForUserId raises uid
  | .lookupChatByName name => lookupChatByName raises name
  | .lookupChatById chatid => lookupChatById raises chatid
  | .uidsForChatId chatid => uidsForChatId raises chatid
  | .addUserToChat chat user => addUserToChat raises chat user
  | .saveMessage msg => saveMessage raises msg
  | .getMessages chatid opt => getMessages raises chatid opt
  | .selectMessages pred opt => selectMessages raises pred opt
  | .getAllDistinctLocations => getAllDistinctLocations raises
  | .getAllUsersFromLocation city => getAllUsersFromLocation raises city

/-- The backend, whose clock is that of the database. -/
def backend : Backend Mysql := fun now op mysql => exec raises now op mysql

/-- The calls of a worker over the tables, at the time `now` of the clock. -/
def handle : Program.Handler Effect Effect.Reply Mysql
  | .db op, mysql => exec raises now op mysql
  | .time, mysql => (now, mysql)
  | .client _, mysql => ((), mysql)

end Calls

theorem lookupEach_ret {Row : Type} (lookup : Nat → Mysql → Row × Mysql) (ids : List Nat)
    (ret : List Row) (mysql : Mysql) :
    lookupEach lookup ids ret mysql =
      (ret ++ (lookupEach lookup ids [] mysql).1, (lookupEach lookup ids [] mysql).2) := by
  induction ids generalizing ret mysql with
  | nil => simp [lookupEach]
  | cons id rest inductionHypothesis =>
      rw [lookupEach, inductionHypothesis, lookupEach, inductionHypothesis ([] ++ _)]
      simp

section Programs

variable {raises : Nat → Bool} {now : Int}

theorem run_lookupEach {Row : Type} {lookup : Nat → Prog Row} {call : Nat → Mysql → Row × Mysql}
    (same : ∀ id mysql, (lookup id).run (handle raises now) mysql = call id mysql) (ids : List Nat)
    (mysql : Mysql) :
    (Prog.lookupEach lookup ids).run (handle raises now) mysql = lookupEach call ids [] mysql := by
  induction ids generalizing mysql with
  | nil => rfl
  | cons id rest inductionHypothesis =>
      rw [lookupEach, lookupEach_ret]
      simp only [Prog.lookupEach, Program.run_bind, same, inductionHypothesis, Program.run_pure]
      rfl

/-- Without other workers the program is the call. -/
theorem run_lookupChatsForUserId (uid : Nat) (mysql : Mysql) :
    (Prog.lookupChatsForUserId uid).run (handle raises now) mysql =
      lookupChatsForUserId raises uid mysql :=
  run_lookupEach (fun _ _ => rfl) _ _

theorem run_lookupUsersForChatId (chatid : Nat) (mysql : Mysql) :
    (Prog.lookupUsersForChatId chatid).run (handle raises now) mysql =
      lookupUsersForChatId raises chatid mysql :=
  run_lookupEach (fun _ _ => rfl) _ _

end Programs

theorem handle_backend (raises : Nat → Bool) : (backend raises).handle = handle raises := by
  funext now effect mysql
  cases effect with
  | _ => rfl

end Mysql

end GeoChat
