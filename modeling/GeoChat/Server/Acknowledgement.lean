import GeoChat.Server.Calls
import GeoChat.Server.Mysql
import GeoChat.Server.Store.History

/-!
# Acknowledged writes over MySQL

`processQueue` answers with status `0` after a call that inserts a row. The
call catches the exception of its statement and tells its caller nothing, so
the answer is the same when the row was not inserted.
-/

namespace GeoChat

open Library

/-- The reply `{"status": 0}`. -/
def Effect.acknowledges : Effect → Bool
  | .client (.sendOkResponse body) => body = statusZero
  | _ => false

def acknowledged (trace : List (Exchange Effect Effect.Reply)) : Bool :=
  trace.any fun exchange => exchange.1.acknowledges

/-- The number of rows that hold a message. -/
def Mysql.copies (userId chatId : Nat) (ts : Int) (text : Bytes) (mysql : Mysql) : Nat :=
  mysql.message.countP fun row =>
    row.userId = userId && row.chatId = chatId && row.time = toUint32 ts && row.text = text

/-- The row of the message is there that was not there before. -/
def Mysql.Gained (userId chatId : Nat) (ts : Int) (text : Bytes) (before later : Mysql) : Prop :=
  before.copies userId chatId ts text < later.copies userId chatId ts text

/-- What the reply to a writing command says: the message has a new row, or the
membership has one. -/
def Written (task : Task) (now : Int) (before later : Mysql) : Prop :=
  match task.cmd with
  | .messageSend => ∃ user ∈ before.user, user.name = task.request.toUser ∧
      Mysql.Gained task.request.uid user.selfChatId now task.request.message before later
  | .messageSendChat => ∃ chat ∈ before.chat, chat.name = task.request.chat.name ∧
      Mysql.Gained task.request.uid chat.id now task.request.message before later
  | .chatAdduser => ∃ chat ∈ before.chat, ∃ user ∈ before.user,
      chat.name = task.request.chat.name ∧ user.name = task.request.chat.adduser ∧
        ⟨chat.id, user.id⟩ ∈ later.chatuser
  | _ => True

namespace Mysql

/-- The password that the task gives is that of the first user of its id. -/
def authenticates (task : Task) (mysql : Mysql) : Bool :=
  match mysql.user.filter fun user => user.id = task.request.uid with
  | user :: _ => user.id ≠ 0 && encryptedPass task.request.password = user.password
  | [] => false

/-- The lookups of the task succeed and the statement that should write its row
raises: the third of a message, the fourth or the fifth of a new membership. -/
def LosesWrite (raises : Nat → Bool) (task : Task) (mysql : Mysql) : Prop :=
  raises mysql.executed = false ∧ mysql.authenticates task = true ∧
    raises (mysql.executed + 1) = false ∧
    match task.cmd with
    | .messageSend =>
        (mysql.user.filter fun user => user.name = task.request.toUser).length = 1 ∧
          raises (mysql.executed + 2) = true
    | .messageSendChat =>
        (mysql.chat.filter fun chat => chat.name = task.request.chat.name).length = 1 ∧
          raises (mysql.executed + 2) = true
    | .chatAdduser =>
        raises (mysql.executed + 2) = false ∧
          ∃ user chat,
            (mysql.user.filter fun user => user.name = task.request.chat.adduser) = [user] ∧
            (mysql.chat.filter fun chat => chat.name = task.request.chat.name) = [chat] ∧
            user.id ≠ 0 ∧ ⟨chat.id, user.id⟩ ∉ mysql.chatuser ∧
            (raises (mysql.executed + 3) = true ∨ raises (mysql.executed + 4) = true)
    | _ => False

section Calls

variable (raises : Nat → Bool) (now : Int) (mysql : Mysql)

theorem lookupUserById_eq (id : Nat) :
    lookupUserById raises id mysql =
      (if raises mysql.executed then {}
       else (mysql.user.filter fun user => user.id = id).headD {}, mysql.counted) := by
  unfold lookupUserById caught selectUsers
  cases raised : raises mysql.executed with
  | true =>
      rw [Sql.bind_none _ (statement_raising raises _ raised)]
      rfl
  | false =>
      rw [Sql.bind_some _ (statement_passing raises _ raised)]
      rfl

theorem lookupUserByName_eq (name : Bytes) :
    lookupUserByName raises name mysql =
      (if raises mysql.executed then [] else mysql.user.filter fun user => user.name = name,
        mysql.counted) := by
  unfold lookupUserByName caught selectUsers
  cases raised : raises mysql.executed with
  | true =>
      rw [statement_raising raises _ raised]
      rfl
  | false =>
      rw [statement_passing raises _ raised]
      rfl

theorem lookupChatByName_eq (name : Bytes) :
    lookupChatByName raises name mysql =
      (if raises mysql.executed then [] else mysql.chat.filter fun chat => chat.name = name,
        mysql.counted) := by
  unfold lookupChatByName caught selectChats
  cases raised : raises mysql.executed with
  | true =>
      rw [statement_raising raises _ raised]
      rfl
  | false =>
      rw [statement_passing raises _ raised]
      rfl

/-- The row of a saved message is the only change to the table, if there is
one. -/
theorem saveMessage_message (msg : Message) :
    (raises mysql.executed = true → (saveMessage raises msg mysql).2.message = mysql.message) ∧
    (raises mysql.executed = false →
      ∃ id, (saveMessage raises msg mysql).2.message = mysql.message ++
        [{ id, userId := msg.userFrom, chatId := msg.chatTo, flags := msg.flags,
           time := toUint32 msg.ts, text := msg.message }]) := by
  unfold saveMessage caught insertMessage
  constructor
  · intro raised
    rw [statement_raising raises _ raised]
    rfl
  · intro passed
    rw [statement_passing raises _ passed]
    exact ⟨_, rfl⟩

/-- `addUserToChat` leaves the membership in the table unless it was not there
and one of the two statements raised. -/
theorem addUserToChat_mem (chat : Chat) (user : User) :
    ⟨chat.id, user.id⟩ ∈ (addUserToChat raises chat user mysql).2.chatuser ↔
      ⟨chat.id, user.id⟩ ∈ mysql.chatuser ∨
        raises mysql.executed = false ∧ raises (mysql.executed + 1) = false := by
  unfold addUserToChat caught selectChatusers
  cases raised : raises mysql.executed with
  | true =>
      rw [Sql.bind_none _ (statement_raising raises _ raised)]
      simp [counted]
  | false =>
      rw [Sql.bind_some _ (statement_passing raises _ raised)]
      by_cases present : (⟨chat.id, user.id⟩ : Chatuser) ∈ mysql.chatuser
      · have found : (mysql.counted.chatuser.filter fun row =>
            row.uid = user.id && row.chatid = chat.id).isEmpty = false := by
          rw [List.isEmpty_eq_false_iff_exists_mem]
          exact ⟨_, List.mem_filter.mpr ⟨present, by simp⟩⟩
        simp only [found, Bool.not_false, if_true, Sql.pure_apply]
        exact iff_of_true present (.inl present)
      · have missing : (mysql.counted.chatuser.filter fun row =>
            row.uid = user.id && row.chatid = chat.id).isEmpty = true := by
          rw [List.isEmpty_iff, List.filter_eq_nil_iff]
          rintro ⟨chatid, uid⟩ member same
          simp only [Bool.and_eq_true, decide_eq_true_eq] at same
          rcases same with ⟨rfl, rfl⟩
          exact present member
        simp only [missing, Bool.not_true, Bool.false_eq_true, if_false, insertChatuser]
        cases raisedInsert : raises (mysql.executed + 1) with
        | true =>
            rw [statement_raising raises _ raisedInsert]
            simp [counted, present]
        | false =>
            rw [statement_passing raises _ raisedInsert]
            simp

/-- The user that `lookup_check_pass` accepts. -/
def checkPass (task : Task) : User :=
  let user := (lookupUserById raises task.request.uid mysql).1
  if user.id = 0 then {}
  else if encryptedPass task.request.password ≠ user.password then {}
  else user

@[simp]
theorem handle_db (op : DbOp) : handle raises now (.db op) mysql = exec raises now op mysql := rfl

@[simp]
theorem handle_client (call : ClientCall) :
    handle raises now (.client call) mysql = ((), mysql) := rfl

theorem run_lookupCheckPass (task : Task) :
    (DatabaseWorker.lookupCheckPass task).run (handle raises now) mysql =
      (checkPass raises mysql task, mysql.counted) := by
  have looked : (lookupUserById raises task.request.uid mysql).2 = mysql.counted := by
    rw [lookupUserById_eq]
  simp only [DatabaseWorker.lookupCheckPass, checkPass, Program.perform_bind, Program.run_call,
    handle_db, exec]
  by_cases missing : (lookupUserById raises task.request.uid mysql).1.id = 0
  · simp only [missing, if_true, Program.run_call, Program.run_pure, handle_client, looked]
  · by_cases wrong : encryptedPass task.request.password ≠
      (lookupUserById raises task.request.uid mysql).1.password
    · simp only [missing, if_false, wrong, if_true, Program.run_call, Program.run_pure,
        handle_client, looked, ne_eq, not_false_eq_true]
    · simp only [missing, if_false, wrong, Program.run_pure, looked]

theorem checkPass_accepts (task : Task) :
    (checkPass raises mysql task).id ≠ 0 ↔
      raises mysql.executed = false ∧ mysql.authenticates task = true := by
  unfold checkPass authenticates
  rw [lookupUserById_eq]
  cases raised : raises mysql.executed with
  | true => simp
  | false =>
      cases found : mysql.user.filter fun user => user.id = task.request.uid with
      | nil => simp
      | cons user rest =>
          by_cases zero : user.id = 0
          · simp [zero]
          · by_cases right : encryptedPass task.request.password = user.password
            · simp [zero, right]
            · simp [zero, right]

theorem checkPass_id {task : Task} (accepted : (checkPass raises mysql task).id ≠ 0) :
    (checkPass raises mysql task).id = task.request.uid := by
  have rightUser := ((checkPass_accepts raises mysql task).mp accepted).2
  have passed := ((checkPass_accepts raises mysql task).mp accepted).1
  unfold checkPass
  unfold authenticates at rightUser
  rw [lookupUserById_eq, passed]
  split at rightUser
  next user rest found =>
    have member : user ∈ mysql.user.filter fun user => user.id = task.request.uid := by
      simp [found]
    have sameId : user.id = task.request.uid := by simpa using (List.mem_filter.mp member).2
    simp only [ne_eq, Bool.and_eq_true, decide_eq_true_eq] at rightUser
    simpa [found, rightUser.1, rightUser.2] using sameId
  next => simp at rightUser

/-- The user that `lookup_check_pass_by_name` finds without a password check. -/
def findByName (name : Bytes) : User :=
  match (lookupUserByName raises name mysql).1 with
  | [user] => user
  | _ => {}

theorem run_lookupCheckPassByName (name : Bytes) (task : Task) :
    (DatabaseWorker.lookupCheckPassByName name task false).run (handle raises now) mysql =
      (findByName raises mysql name, mysql.counted) := by
  have looked : (lookupUserByName raises name mysql).2 = mysql.counted := by
    rw [lookupUserByName_eq]
  obtain ⟨users, found⟩ : ∃ users, (lookupUserByName raises name mysql).1 = users := ⟨_, rfl⟩
  simp only [DatabaseWorker.lookupCheckPassByName, findByName, Program.perform_bind,
    Program.run_call, handle_db, exec, found, looked]
  rcases users with _ | ⟨user, _ | ⟨other, rest⟩⟩ <;> rfl

end Calls

end Mysql

namespace DatabaseWorker

theorem silent_lookupCheckPass (task : Task) :
    (lookupCheckPass task).Uses fun effect => effect.acknowledges = false :=
  uses_lookupCheckPass rfl rfl rfl

theorem silent_lookupCheckPassByName (name : Bytes) (task : Task) (checkPass : Bool) :
    (lookupCheckPassByName name task checkPass).Uses
      fun effect => effect.acknowledges = false :=
  uses_lookupCheckPassByName rfl rfl rfl rfl

theorem acknowledged_cons (exchange : Exchange Effect Effect.Reply)
    (rest : List (Exchange Effect Effect.Reply)) :
    acknowledged (exchange :: rest) = (exchange.1.acknowledges || acknowledged rest) :=
  List.any_cons

theorem acknowledged_append (first second : List (Exchange Effect Effect.Reply)) :
    acknowledged (first ++ second) = (acknowledged first || acknowledged second) :=
  List.any_append

theorem acknowledged_silent {Result : Type} {program : Prog Result}
    (silent : program.Uses fun effect => effect.acknowledges = false)
    (handle : Program.Handler Effect Effect.Reply Mysql) (mysql : Mysql) :
    acknowledged (program.trace handle mysql) = false := by
  rw [acknowledged, List.any_eq_false]
  intro exchange member
  simpa using silent.of_mem_trace member

variable (raises : Nat → Bool) (sort : TimestampSort) (now : Int) (task : Task) (mysql : Mysql)

theorem acknowledged_storeMessage (userFrom chatTo : Nat) (text : Bytes) :
    acknowledged ((storeMessage userFrom chatTo text).trace (Mysql.handle raises now) mysql) =
      true := by
  simp [storeMessage, acknowledged, Effect.acknowledges]

theorem acknowledged_error (httpCode : Nat) (apiCode : ApiStatusCode) (desc : Bytes) :
    acknowledged ((Prog.client (.sendErrorResponse httpCode apiCode desc)).trace
      (Mysql.handle raises now) mysql) = false := by
  simp [acknowledged, Effect.acknowledges]

/-- A task that is not accepted is not acknowledged and loses nothing. -/
theorem denied_silent {next : User → Prog Unit}
    (denied : (Mysql.checkPass raises mysql task).id = 0) :
    acknowledged
        ((do
          let user ← lookupCheckPass task
          if user.id = 0 then pure () else next user : Prog Unit).trace
            (Mysql.handle raises now) mysql) = false ∧
      ¬ Mysql.LosesWrite raises task mysql := by
  constructor
  · simp only [Program.trace_bind, Mysql.run_lookupCheckPass, acknowledged_append,
      acknowledged_silent (silent_lookupCheckPass task), Bool.false_or, denied, if_true]
    rfl
  · rintro ⟨passed, right, _⟩
    exact (Mysql.checkPass_accepts raises mysql task).mpr ⟨passed, right⟩ denied

/-- A task that is accepted goes on after one statement. -/
theorem accepted_continues {next : User → Prog Unit}
    (accepted : (Mysql.checkPass raises mysql task).id ≠ 0) :
    acknowledged
        ((do
          let user ← lookupCheckPass task
          if user.id = 0 then pure () else next user : Prog Unit).trace
            (Mysql.handle raises now) mysql) =
      acknowledged ((next (Mysql.checkPass raises mysql task)).trace
        (Mysql.handle raises now) mysql.counted) ∧
    (do
      let user ← lookupCheckPass task
      if user.id = 0 then pure () else next user : Prog Unit).run (Mysql.handle raises now) mysql =
      (next (Mysql.checkPass raises mysql task)).run (Mysql.handle raises now)
        mysql.counted := by
  constructor
  · simp only [Program.trace_bind, Mysql.run_lookupCheckPass, acknowledged_append,
      acknowledged_silent (silent_lookupCheckPass task), Bool.false_or, accepted, if_false]
  · simp only [Program.run_bind, Mysql.run_lookupCheckPass, accepted, if_false]

/-- What is known of a message command: either it is not acknowledged and loses
nothing, or it comes to store its message as its third statement. -/
def SendsOrStops (chatids : List Nat) : Prop :=
  acknowledged ((processTask sort task).trace (Mysql.handle raises now) mysql) = false ∧
      ¬ Mysql.LosesWrite raises task mysql ∨
    ∃ chatTo, chatids = [chatTo] ∧
      acknowledged ((processTask sort task).trace (Mysql.handle raises now) mysql) = true ∧
      (Mysql.LosesWrite raises task mysql ↔ raises (mysql.executed + 2) = true) ∧
      ((processTask sort task).run (Mysql.handle raises now) mysql).2 =
        (Mysql.saveMessage raises
          { userFrom := task.request.uid, chatTo, message := task.request.message, ts := now }
          mysql.counted.counted).2

theorem messageSend_cases (command : task.cmd = .messageSend) :
    SendsOrStops raises sort now task mysql
      ((mysql.user.filter fun user => user.name = task.request.toUser).map (·.selfChatId)) := by
  unfold SendsOrStops
  simp only [processTask, command, processMessageSend]
  by_cases denied : (Mysql.checkPass raises mysql task).id = 0
  · exact .inl (denied_silent raises now task mysql denied)
  · rcases (Mysql.checkPass_accepts raises mysql task).mp denied with ⟨passed, right⟩
    rw [(accepted_continues raises now task mysql denied).1,
      (accepted_continues raises now task mysql denied).2]
    simp only [Program.perform_bind, Program.trace_call, Program.run_call, Mysql.handle_db,
      Mysql.exec, Mysql.lookupUserByName_eq, Mysql.counted_executed, Mysql.counted_user,
      acknowledged_cons, Effect.acknowledges, Bool.false_or, Mysql.LosesWrite, command]
    by_cases raised : raises (mysql.executed + 1) = true
    · simp only [raised, if_true]
      exact .inl ⟨acknowledged_error _ _ _ _ _ _, by simp⟩
    · obtain ⟨users, found⟩ : ∃ users,
          (mysql.user.filter fun user => user.name = task.request.toUser) = users := ⟨_, rfl⟩
      simp only [raised, found, Bool.false_eq_true, if_false]
      rcases users with _ | ⟨userTo, _ | ⟨other, rest⟩⟩
      · exact .inl ⟨acknowledged_error _ _ _ _ _ _, by simp⟩
      · refine .inr ⟨userTo.selfChatId, rfl, acknowledged_storeMessage _ _ _ _ _ _, ?_, ?_⟩
        · simp [passed, right]
        · rw [Mysql.checkPass_id raises mysql denied]
          rfl
      · exact .inl ⟨acknowledged_error _ _ _ _ _ _, by simp⟩

theorem messageSendChat_cases (command : task.cmd = .messageSendChat) :
    SendsOrStops raises sort now task mysql
      ((mysql.chat.filter fun chat => chat.name = task.request.chat.name).map (·.id)) := by
  unfold SendsOrStops
  simp only [processTask, command, processMessageSendChat]
  by_cases denied : (Mysql.checkPass raises mysql task).id = 0
  · exact .inl (denied_silent raises now task mysql denied)
  · rcases (Mysql.checkPass_accepts raises mysql task).mp denied with ⟨passed, right⟩
    rw [(accepted_continues raises now task mysql denied).1,
      (accepted_continues raises now task mysql denied).2]
    simp only [Program.perform_bind, Program.trace_call, Program.run_call, Mysql.handle_db,
      Mysql.exec, Mysql.lookupChatByName_eq, Mysql.counted_executed, Mysql.counted_chat,
      acknowledged_cons, Effect.acknowledges, Bool.false_or, Mysql.LosesWrite, command]
    by_cases raised : raises (mysql.executed + 1) = true
    · simp only [raised, if_true]
      exact .inl ⟨acknowledged_error _ _ _ _ _ _, by simp⟩
    · obtain ⟨chats, found⟩ : ∃ chats,
          (mysql.chat.filter fun chat => chat.name = task.request.chat.name) = chats := ⟨_, rfl⟩
      simp only [raised, found, Bool.false_eq_true, if_false]
      rcases chats with _ | ⟨chat, _ | ⟨other, rest⟩⟩
      · exact .inl ⟨acknowledged_error _ _ _ _ _ _, by simp⟩
      · refine .inr ⟨chat.id, rfl, acknowledged_storeMessage _ _ _ _ _ _, ?_, ?_⟩
        · simp [passed, right]
        · rw [Mysql.checkPass_id raises mysql denied]
          rfl
      · exact .inl ⟨acknowledged_error _ _ _ _ _ _, by simp⟩

/-- Everything that a `CHAT_ADDUSER` can do. -/
theorem chatAdduser_cases (command : task.cmd = .chatAdduser) :
    acknowledged ((processTask sort task).trace (Mysql.handle raises now) mysql) = false ∧
        ¬ Mysql.LosesWrite raises task mysql ∨
      ∃ user chat,
        (mysql.user.filter fun user => user.name = task.request.chat.adduser) = [user] ∧
        (mysql.chat.filter fun chat => chat.name = task.request.chat.name) = [chat] ∧
        acknowledged ((processTask sort task).trace (Mysql.handle raises now) mysql) = true ∧
        (Mysql.LosesWrite raises task mysql ↔
          ⟨chat.id, user.id⟩ ∉ mysql.chatuser ∧
            (raises (mysql.executed + 3) = true ∨ raises (mysql.executed + 4) = true)) ∧
        ((processTask sort task).run (Mysql.handle raises now) mysql).2 =
          (Mysql.addUserToChat raises chat user mysql.counted.counted.counted).2 := by
  simp only [processTask, command, processChatAdduser]
  by_cases denied : (Mysql.checkPass raises mysql task).id = 0
  · exact .inl (denied_silent raises now task mysql denied)
  · rcases (Mysql.checkPass_accepts raises mysql task).mp denied with ⟨passed, right⟩
    rw [(accepted_continues raises now task mysql denied).1,
      (accepted_continues raises now task mysql denied).2]
    simp only [Program.trace_bind, Program.run_bind, Mysql.run_lookupCheckPassByName,
      acknowledged_append, acknowledged_silent (silent_lookupCheckPassByName _ task false),
      Bool.false_or, Mysql.findByName, Mysql.lookupUserByName_eq, Mysql.counted_executed,
      Mysql.counted_user, Mysql.LosesWrite, command]
    by_cases raised : raises (mysql.executed + 1) = true
    · simp only [raised, if_true]
      exact .inl ⟨rfl, by simp⟩
    · obtain ⟨users, found⟩ : ∃ users, (mysql.user.filter fun user =>
        user.name = task.request.chat.adduser) = users := ⟨_, rfl⟩
      simp only [raised, found, Bool.false_eq_true, if_false]
      rcases users with _ | ⟨user, _ | ⟨other, rest⟩⟩
      · exact .inl ⟨rfl, by simp⟩
      · by_cases zero : user.id = 0
        · simp only [zero, if_true]
          refine .inl ⟨rfl, ?_⟩
          rintro ⟨_, _, _, _, single, _, same, _, nonzero, _⟩
          cases same
          exact nonzero zero
        · simp only [zero, if_false, Program.perform_bind, Program.trace_call, Program.run_call,
            Mysql.handle_db, Mysql.exec, Mysql.lookupChatByName_eq, Mysql.counted_executed,
            Mysql.counted_chat, acknowledged_cons, Effect.acknowledges, Bool.false_or]
          by_cases raisedChat : raises (mysql.executed + 1 + 1) = true
          · simp only [raisedChat, if_true]
            exact .inl ⟨acknowledged_error _ _ _ _ _ _, by simp⟩
          · obtain ⟨chats, foundChat⟩ : ∃ chats, (mysql.chat.filter fun chat =>
              chat.name = task.request.chat.name) = chats := ⟨_, rfl⟩
            simp only [raisedChat, foundChat, Bool.false_eq_true, if_false]
            rcases chats with _ | ⟨chat, _ | ⟨other, rest⟩⟩
            · exact .inl ⟨acknowledged_error _ _ _ _ _ _, by simp⟩
            · have looked : ((lookupCheckPassByName task.request.chat.adduser task false).run
                  (Mysql.handle raises now) mysql.counted).1 = user := by
                rw [Mysql.run_lookupCheckPassByName]
                simp [Mysql.findByName, Mysql.lookupUserByName_eq, found, raised]
              refine .inr ⟨user, chat, rfl, rfl, rfl, ?_, congrArg (fun added =>
                (Mysql.addUserToChat raises chat added mysql.counted.counted.counted).2) looked⟩
              simp [passed, right, zero]
            · exact .inl ⟨acknowledged_error _ _ _ _ _ _, by simp⟩
      · exact .inl ⟨rfl, by simp⟩

end DatabaseWorker

open DatabaseWorker

theorem gained_saveMessage (raises : Nat → Bool) (mysql : Mysql) (userFrom chatTo : Nat)
    (now : Int) (text : Bytes) :
    Mysql.Gained userFrom chatTo now text mysql
        (Mysql.saveMessage raises { userFrom, chatTo, message := text, ts := now }
          mysql.counted.counted).2 ↔ raises (mysql.executed + 2) = false := by
  have saved := Mysql.saveMessage_message raises mysql.counted.counted
    { userFrom, chatTo, message := text, ts := now }
  unfold Mysql.Gained Mysql.copies
  cases raised : raises (mysql.executed + 2) with
  | true =>
      rw [saved.1 raised]
      simp
  | false =>
      rcases saved.2 raised with ⟨id, appended⟩
      rw [appended]
      simp

/-- A message command meets its acknowledgement exactly when it does not lose
its write. -/
theorem sends_iff {raises : Nat → Bool} {sort : TimestampSort} {now : Int} {task : Task}
    {mysql : Mysql} {chatids : List Nat} {written : Mysql → Prop}
    (cases_ : SendsOrStops raises sort now task mysql chatids)
    (writes : ∀ later, written later ↔
      ∃ chatTo ∈ chatids, Mysql.Gained task.request.uid chatTo now task.request.message
        mysql later) :
    (acknowledged ((processTask sort task).trace (Mysql.handle raises now) mysql) = true →
        written ((processTask sort task).run (Mysql.handle raises now) mysql).2) ↔
      ¬ Mysql.LosesWrite raises task mysql := by
  rcases cases_ with ⟨silent, safe⟩ | ⟨chatTo, single, acked, loses, later⟩
  · exact iff_of_true (fun acked => absurd acked (by simp [silent])) safe
  · rw [writes, later, loses, single]
    simp only [acked, true_imp_iff, List.mem_singleton, exists_eq_left, gained_saveMessage,
      Bool.not_eq_true]

/-- The membership that an acknowledged `CHAT_ADDUSER` is about. -/
theorem written_adduser_iff {task : Task} {now : Int} {before later : Mysql} {user : User}
    {chat : Chat} (command : task.cmd = .chatAdduser)
    (oneUser : (before.user.filter fun user => user.name = task.request.chat.adduser) = [user])
    (oneChat : (before.chat.filter fun chat => chat.name = task.request.chat.name) = [chat]) :
    Written task now before later ↔ ⟨chat.id, user.id⟩ ∈ later.chatuser := by
  have isUser : ∀ other, other ∈ before.user ∧ other.name = task.request.chat.adduser ↔
      other = user := by
    intro other
    rw [← List.mem_singleton (b := user), ← oneUser, List.mem_filter, decide_eq_true_iff]
  have isChat : ∀ other, other ∈ before.chat ∧ other.name = task.request.chat.name ↔
      other = chat := by
    intro other
    rw [← List.mem_singleton (b := chat), ← oneChat, List.mem_filter, decide_eq_true_iff]
  simp only [Written, command]
  constructor
  · rintro ⟨otherChat, memberChat, otherUser, memberUser, chatNamed, userNamed, row⟩
    rw [(isChat otherChat).mp ⟨memberChat, chatNamed⟩,
      (isUser otherUser).mp ⟨memberUser, userNamed⟩] at row
    exact row
  · intro row
    have chatFound := (isChat chat).mpr rfl
    have userFound := (isUser user).mpr rfl
    exact ⟨chat, chatFound.1, user, userFound.1, chatFound.2, userFound.2, row⟩

/-- The reply `{"status": 0}` says the truth exactly when the statement that
should write the row does not raise, or the membership was there before. -/
theorem acknowledged_written_iff (raises : Nat → Bool) (sort : TimestampSort) (now : Int)
    (task : Task) (mysql : Mysql) :
    (acknowledged ((processTask sort task).trace (Mysql.handle raises now) mysql) = true →
        Written task now mysql ((processTask sort task).run (Mysql.handle raises now) mysql).2) ↔
      ¬ Mysql.LosesWrite raises task mysql := by
  cases command : task.cmd with
  | messageSend =>
      refine sends_iff (messageSend_cases raises sort now task mysql command) fun later => ?_
      simp only [Written, command, List.mem_map, List.mem_filter, decide_eq_true_eq]
      constructor
      · rintro ⟨user, member, named, gained⟩
        exact ⟨_, ⟨user, ⟨member, named⟩, rfl⟩, gained⟩
      · rintro ⟨_, ⟨user, ⟨member, named⟩, rfl⟩, gained⟩
        exact ⟨user, member, named, gained⟩
  | messageSendChat =>
      refine sends_iff (messageSendChat_cases raises sort now task mysql command) fun later => ?_
      simp only [Written, command, List.mem_map, List.mem_filter, decide_eq_true_eq]
      constructor
      · rintro ⟨chat, member, named, gained⟩
        exact ⟨_, ⟨chat, ⟨member, named⟩, rfl⟩, gained⟩
      · rintro ⟨_, ⟨chat, ⟨member, named⟩, rfl⟩, gained⟩
        exact ⟨chat, member, named, gained⟩
  | chatAdduser =>
      rcases chatAdduser_cases raises sort now task mysql command with
        ⟨silent, safe⟩ | ⟨user, chat, oneUser, oneChat, acked, loses, later⟩
      · exact iff_of_true (fun acked => absurd acked (by simp [silent])) safe
      · rw [written_adduser_iff command oneUser oneChat, later, loses, Mysql.addUserToChat_mem]
        simp only [acked, true_imp_iff, Mysql.counted_chatuser, Mysql.counted_executed, not_and_or,
          not_or, not_not, Bool.not_eq_true]
  | _ =>
      refine iff_of_true (fun _ => ?_) ?_
      · simp only [Written, command]
      · rintro ⟨_, _, _, lost⟩
        simp only [command] at lost

/-- The tables of two users who both have the password of the example. -/
def twoRows : Mysql :=
  let storage := twoUsers (bytes "Passw0rd") (bytes "Passw0rd")
  { user := storage.users, chat := storage.chats, chatuser := storage.chatuser }

/-- A message to Bob that is longer than its column. -/
def longMessage : Task :=
  { cmd := .messageSend
    request := { uid := 1, password := bytes "Passw0rd", toUser := bytes "bob",
                 message := List.replicate 513 97 } }

/-- The `INSERT` of the long text raises and the sender still gets status `0`. -/
theorem acknowledged_not_written :
    acknowledged ((processTask .stable longMessage).trace
        (Mysql.handle (fun number => number = 2) 5) twoRows) = true ∧
      ¬ Written longMessage 5 twoRows
        ((processTask .stable longMessage).run
          (Mysql.handle (fun number => number = 2) 5) twoRows).2 := by
  have unchanged : ((processTask .stable longMessage).run
      (Mysql.handle (fun number => number = 2) 5) twoRows).2.message = [] := by
    decide +kernel
  refine ⟨by decide +kernel, ?_⟩
  rintro ⟨user, _, _, gained⟩
  simp [Mysql.Gained, Mysql.copies, unchanged] at gained

end GeoChat
