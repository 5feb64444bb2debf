import GeoChat.Server.Mysql
import GeoChat.Server.Store.Scan

/-!
# Statements that do not fail

What the calls of `MysqlConnection` return and leave in the tables when no
statement raises. The ids of the messages increase, so `ORDER BY id DESC` is the
reverse of the order of insertion.
-/

namespace GeoChat

open Library

namespace Mysql

/-- No statement raises. -/
def never : Nat → Bool := fun _ => false

section Calls

variable (mysql : Mysql)

theorem createUser_existing (now : Int) {name : Bytes} (pass stpath ip city : Bytes)
    (existing : (mysql.user.any fun user => user.name = name) = true) :
    createUser never now name pass stpath ip city mysql = ({}, mysql.counted) := by
  have found : (mysql.user.filter fun user => user.name = name).isEmpty = false := by
    simpa using existing
  unfold createUser caught selectUsers
  rw [Sql.bind_some _ (statement_passing never _ rfl)]
  simp only [counted_user, found, Bool.not_false, if_true]
  rfl

theorem createUser_fresh (now : Int) {name : Bytes} (pass stpath ip city : Bytes)
    (fresh : (mysql.user.any fun user => user.name = name) = false) :
    createUser never now name pass stpath ip city mysql =
      ({ id := mysql.userAutoincrement, selfChatId := mysql.chatAutoincrement, name,
         password := pass, stpath, ip, city },
        { mysql with
          user := mysql.user ++
            [{ id := mysql.userAutoincrement, selfChatId := mysql.chatAutoincrement, name,
               password := pass, stpath, ip, city, heartbit := now }]
          chat := mysql.chat ++ [{ id := mysql.chatAutoincrement, name }]
          chatuser := mysql.chatuser ++
            [{ chatid := mysql.chatAutoincrement, uid := mysql.userAutoincrement }]
          userAutoincrement := mysql.userAutoincrement + 1
          chatAutoincrement := mysql.chatAutoincrement + 1
          lastInsertId := mysql.userAutoincrement
          executed := mysql.executed + 6 }) := by
  have none : (mysql.user.filter fun user => user.name = name).isEmpty = true := by
    simpa using fresh
  unfold createUser caught selectUsers
  rw [Sql.bind_some _ (statement_passing never _ rfl)]
  simp only [counted_user, none, Bool.not_true, Bool.false_eq_true, if_false]
  rfl

theorem createChat_existing {name : Bytes} (uid : Nat)
    (existing : (mysql.chat.any fun chat => chat.name = name) = true) :
    createChat never name uid mysql = ({}, mysql.counted) := by
  have found : (mysql.chat.filter fun chat => chat.name = name).isEmpty = false := by
    simpa using existing
  unfold createChat caught selectChats
  rw [Sql.bind_some _ (statement_passing never _ rfl)]
  simp only [counted_chat, found, Bool.not_false, if_true]
  rfl

theorem createChat_fresh {name : Bytes} (uid : Nat)
    (fresh : (mysql.chat.any fun chat => chat.name = name) = false) :
    createChat never name uid mysql =
      ({ id := mysql.chatAutoincrement, name },
        { mysql with
          chat := mysql.chat ++ [{ id := mysql.chatAutoincrement, name }]
          chatuser := mysql.chatuser ++
            if 0 < uid then [{ chatid := mysql.chatAutoincrement, uid }] else []
          chatAutoincrement := mysql.chatAutoincrement + 1
          lastInsertId := mysql.chatAutoincrement
          executed := mysql.executed + 3 + if 0 < uid then 1 else 0 }) := by
  have none : (mysql.chat.filter fun chat => chat.name = name).isEmpty = true := by
    simpa using fresh
  unfold createChat caught selectChats
  rw [Sql.bind_some _ (statement_passing never _ rfl)]
  simp only [counted_chat, none, Bool.not_true, Bool.false_eq_true, if_false]
  by_cases member : 0 < uid
  · simp only [member, if_true]
    rfl
  · simp only [member, if_false, List.append_nil]
    rfl

theorem addUserToChat_existing {chat : Chat} {user : User}
    (existing : (mysql.chatuser.any fun row => row.uid = user.id && row.chatid = chat.id) = true) :
    addUserToChat never chat user mysql = ((), mysql.counted) := by
  have found : (mysql.chatuser.filter fun row =>
      row.uid = user.id && row.chatid = chat.id).isEmpty = false := by
    simpa using existing
  unfold addUserToChat caught selectChatusers
  rw [Sql.bind_some _ (statement_passing never _ rfl)]
  simp only [counted_chatuser, found, Bool.not_false, if_true]
  rfl

theorem addUserToChat_fresh {chat : Chat} {user : User}
    (fresh : (mysql.chatuser.any fun row => row.uid = user.id && row.chatid = chat.id) = false) :
    addUserToChat never chat user mysql =
      ((), { mysql with
        chatuser := mysql.chatuser ++ [{ chatid := chat.id, uid := user.id }]
        executed := mysql.executed + 2 }) := by
  have none : (mysql.chatuser.filter fun row =>
      row.uid = user.id && row.chatid = chat.id).isEmpty = true := by
    simpa using fresh
  unfold addUserToChat caught selectChatusers
  rw [Sql.bind_some _ (statement_passing never _ rfl)]
  simp only [counted_chatuser, none, Bool.not_true, Bool.false_eq_true, if_false]
  rfl

/-- The row of a message. -/
def rowOf (id : Nat) (msg : Message) : MessageRow :=
  { id, userId := msg.userFrom, chatId := msg.chatTo, flags := msg.flags, time := toUint32 msg.ts,
    text := msg.message }

theorem saveMessage_never (msg : Message) :
    saveMessage never msg mysql =
      ((), { mysql with
        message := mysql.message ++ [rowOf mysql.messageAutoincrement msg]
        messageAutoincrement := mysql.messageAutoincrement + 1
        lastInsertId := mysql.messageAutoincrement
        executed := mysql.executed + 1 }) := by
  unfold saveMessage caught insertMessage
  rw [statement_passing never _ rfl]
  rfl

/-- A message comes back from its row if its timestamp fits into the parameter. -/
theorem toMessage_rowOf (id : Nat) {msg : Message} (inRange : 0 ≤ msg.ts ∧ msg.ts < 2 ^ 32) :
    (rowOf id msg).toMessage = msg := by
  have time : (toUint32 msg.ts : Int) = msg.ts := by
    unfold toUint32
    omega
  simp only [rowOf, MessageRow.toMessage, time]

end Calls

section Rows

theorem orderedInsert_last {row : MessageRow} {rows : List MessageRow}
    (older : ∀ other ∈ rows, row.id < other.id) :
    rows.orderedInsert (fun first second => second.id ≤ first.id) row = rows ++ [row] := by
  induction rows with
  | nil => rfl
  | cons other rest inductionHypothesis =>
      have newer : ¬ other.id ≤ row.id := Nat.not_le.mpr (older other List.mem_cons_self)
      rw [List.orderedInsert_cons, if_neg newer,
        inductionHypothesis fun next member => older next (List.mem_cons_of_mem _ member)]
      rfl

/-- Rows in the order of their ids are sorted by reversing them. -/
theorem insertionSort_increasing {rows : List MessageRow}
    (increasing : rows.Pairwise fun first second => first.id < second.id) :
    rows.insertionSort (fun first second => second.id ≤ first.id) = rows.reverse := by
  induction rows with
  | nil => rfl
  | cons row rest inductionHypothesis =>
      obtain ⟨first, others⟩ := List.pairwise_cons.mp increasing
      rw [List.insertionSort_cons, inductionHypothesis others, List.reverse_cons]
      exact orderedInsert_last fun other member => first other (List.mem_reverse.mp member)

/-- The rows of a query, newest first. -/
theorem selectMessageRows_never {mysql : Mysql} (pred : MessageRow → Bool) (limit : Nat)
    (increasing : mysql.message.Pairwise fun first second => first.id < second.id) :
    selectMessageRows never pred limit mysql =
      (some (cutAt limit (mysql.message.filter pred).reverse), mysql.counted) := by
  unfold selectMessageRows
  rw [statement_passing never _ rfl]
  simp only [counted_message, insertionSort_increasing (increasing.filter pred), cutAt]

theorem selectMessages_never {mysql : Mysql} (pred : Message → Bool) (opt : GetMsgOpt)
    (increasing : mysql.message.Pairwise fun first second => first.id < second.id) :
    selectMessages never pred opt mysql =
      ((cutAt opt.maxCount (mysql.message.map MessageRow.toMessage).reverse).filter pred,
        mysql.counted) := by
  unfold selectMessages caught
  rw [Sql.bind_some _ (selectMessageRows_never _ _ increasing)]
  simp only [List.filter_true, Sql.pure_apply, Option.getD_some]
  rw [← List.map_reverse, map_cutAt]

/-- The rows with the flag that `getMessages` sets on those of the given ids. -/
def markRows (ids : List Nat) (rows : List MessageRow) : List MessageRow :=
  rows.map fun row => if row.id ∈ ids then { row with flags := .read } else row

theorem updateFlags_never (id : Nat) (mysql : Mysql) :
    updateFlags never id mysql =
      (some (), { mysql.counted with message := markRows [id] mysql.message }) := by
  unfold updateFlags markRows
  rw [statement_passing never _ rfl]
  simp only [counted_message, List.mem_singleton]

theorem markRows_markRows (id : Nat) (ids : List Nat) (rows : List MessageRow) :
    markRows ids (markRows [id] rows) = markRows (id :: ids) rows := by
  unfold markRows
  rw [List.map_map]
  refine List.map_congr_left fun row _ => ?_
  by_cases same : row.id = id
  · simp [same]
  · by_cases later : row.id ∈ ids <;> simp [same, later]

theorem readRows_never (rows : List MessageRow) (ret : List Message) (mysql : Mysql) :
    readRows never rows ret mysql =
      (ret ++ rows.map MessageRow.toMessage,
        { mysql with
          message := markRows (rows.map (·.id)) mysql.message
          executed := mysql.executed + rows.length }) := by
  induction rows generalizing ret mysql with
  | nil => simp [readRows, markRows]
  | cons row rest inductionHypothesis =>
      unfold readRows
      rw [updateFlags_never]
      simp only
      rw [inductionHypothesis]
      simp only [markRows_markRows, List.map_cons, List.append_assoc, List.singleton_append,
        List.length_cons, counted, Nat.add_assoc, Nat.add_comm 1]

theorem getMessages_never {mysql : Mysql} (chatid : Nat) (opt : GetMsgOpt)
    (increasing : mysql.message.Pairwise fun first second => first.id < second.id) :
    ∃ executed rows, rows = cutAt opt.maxCount (mysql.message.filter fun row =>
        row.chatId = chatid && toUint32 opt.ts < row.time).reverse ∧
      getMessages never chatid opt mysql =
        (rows.map MessageRow.toMessage,
          { mysql with message := markRows (rows.map (·.id)) mysql.message, executed }) := by
  unfold getMessages
  rw [selectMessageRows_never _ _ increasing]
  simp only
  rw [readRows_never]
  exact ⟨_, _, rfl, rfl⟩

end Rows

end Mysql

end GeoChat
