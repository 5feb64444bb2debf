import GeoChat.Library.Ledger
import GeoChat.Server.Store.Serving
import GeoChat.Server.Store.Privacy

/-!
# Where the rows come from

Every row of the storage is accounted for by a task: a message by the one task
that sent it, a group and its members by tasks whose user has given the right
password. Nothing is stored twice, lost, or stored for somebody else, whatever
the other workers do in between.
-/

namespace GeoChat

open Library Program InMemory DatabaseWorker

/-- The task asks for a message to be stored. -/
def Task.Sends (task : Task) : Prop := task.cmd = .messageSend ∨ task.cmd = .messageSendChat

/-- The worker has made the call and got the reply. -/
abbrev Saw (history : History) (op : DbOp) (reply : op.Result) : Prop :=
  (⟨.db op, reply⟩ : Exchange Effect Effect.Reply) ∈ history

/-- The worker has found the user of the task, and the password is right. -/
def Authenticated (task : Task) (history : History) : Prop :=
  ∃ user : User, Saw history (.lookupUserById task.request.uid) user ∧ user.id ≠ 0 ∧
    encryptedPass task.request.password = user.password

/-- The worker has found the chat under the name that the task gives. -/
def Addressed (task : Task) (history : History) (chatTo : Nat) : Prop :=
  match task.cmd with
  | .messageSend => ∃ user : User, Saw history (.lookupUserByName task.request.toUser) [user] ∧
      user.selfChatId = chatTo
  | .messageSendChat => ∃ chat : Chat,
      Saw history (.lookupChatByName task.request.chat.name) [chat] ∧ chat.id = chatTo
  | _ => False

/-- The message is what the task asks for, at a time that the worker has read. -/
def Backed (task : Task) (history : History) (msg : Message) : Prop :=
  Authenticated task history ∧ Addressed task history msg.chatTo ∧
    (⟨.time, msg.ts⟩ : Exchange Effect Effect.Reply) ∈ history ∧
    msg = { msg with
      flags := .unread, userFrom := task.request.uid, message := task.request.message }

/-- The worker has made the group for the user of the task. -/
def Founded (task : Task) (history : History) (chat : Chat) : Prop :=
  task.cmd = .chatCreate ∧ Authenticated task history ∧
    Saw history (.createChat task.request.chat.name task.request.uid) chat

/-- The worker has made the membership, its user's own in a new group or one
that the task names. -/
def Admitted (task : Task) (history : History) (row : Chatuser) : Prop :=
  (∃ chat : Chat, Founded task history chat ∧ row = ⟨chat.id, task.request.uid⟩) ∨
    task.cmd = .chatAdduser ∧ Authenticated task history ∧ ∃ (chat : Chat) (user : User),
      Saw history (.lookupChatByName task.request.chat.name) [chat] ∧
        Saw history (.lookupUserByName task.request.chat.adduser) [user] ∧
          row = ⟨chat.id, user.id⟩

/-- What a worker must have been told before it inserts a row. -/
def Recorded (task : Task) (history : History) : Effect → Prop
  | .db (.createChat name uid) =>
      task.cmd = .chatCreate ∧ name = task.request.chat.name ∧ uid = task.request.uid ∧
        Authenticated task history
  | .db (.addUserToChat chat user) =>
      task.cmd = .chatAdduser ∧ Authenticated task history ∧
        Saw history (.lookupChatByName task.request.chat.name) [chat] ∧
        Saw history (.lookupUserByName task.request.chat.adduser) [user]
  | .db (.saveMessage msg) =>
      history.flatMap savedMessages = [] ∧ Backed task history msg
  | _ => True

/-- A task that sends a message is told that it is stored, and it is, or it is
told of an error, and it is not. -/
def Concluded (task : Task) (history : History) : Prop :=
  task.Sends →
    history.flatMap clientCalls = [.sendOkResponse statusZero] ∧
        (history.flatMap savedMessages).length = 1 ∨
      ∃ error, error.isError = true ∧ history.flatMap clientCalls = [error] ∧
        history.flatMap savedMessages = []

section Later

variable {task : Task} {history : History}

theorem Authenticated.later (authenticated : Authenticated task history)
    (made : History) : Authenticated task (history ++ made) := by
  obtain ⟨user, saw, right⟩ := authenticated
  exact ⟨user, List.mem_append_left _ saw, right⟩

theorem Addressed.later {chatTo : Nat} (addressed : Addressed task history chatTo)
    (made : History) : Addressed task (history ++ made) chatTo := by
  unfold Addressed at addressed ⊢
  cases command : task.cmd with
  | messageSend =>
      rw [command] at addressed
      obtain ⟨user, saw, same⟩ := addressed
      exact ⟨user, List.mem_append_left _ saw, same⟩
  | messageSendChat =>
      rw [command] at addressed
      obtain ⟨chat, saw, same⟩ := addressed
      exact ⟨chat, List.mem_append_left _ saw, same⟩
  | _ =>
      rw [command] at addressed
      exact addressed.elim

theorem Backed.later {msg : Message} (backed : Backed task history msg) (made : History) :
    Backed task (history ++ made) msg :=
  ⟨backed.1.later made, backed.2.1.later made, List.mem_append_left _ backed.2.2.1, backed.2.2.2⟩

theorem Founded.later {chat : Chat} (founded : Founded task history chat) (made : History) :
    Founded task (history ++ made) chat :=
  ⟨founded.1, founded.2.1.later made, List.mem_append_left _ founded.2.2⟩

theorem Admitted.later {row : Chatuser} (admitted : Admitted task history row) (made : History) :
    Admitted task (history ++ made) row := by
  rcases admitted with ⟨chat, founded, same⟩ | ⟨command, authenticated, chat, user, saw, seen, same⟩
  · exact .inl ⟨chat, founded.later made, same⟩
  · exact .inr ⟨command, authenticated.later made, chat, user, List.mem_append_left _ saw,
      List.mem_append_left _ seen, same⟩

end Later

theorem recorded_of_quiet {task : Task} (history : History) (effect : Effect)
    (quiet : effect.Quiet) : Recorded task history effect := by
  unfold Recorded
  split <;> first | exact quiet.elim | trivial

namespace DatabaseWorker

/-- A program that inserts what the task allows and ends with the right reply. -/
abbrev RecordedProg (task : Task) (history : History) (program : Prog Unit) : Prop :=
  program.Follows Answered (Recorded task) (fun later _ => Concluded task later) history

variable {task : Task} {history : History} {next : User → Prog Unit}

theorem recorded_quiet {program : Prog Unit} (quiet : program.Quiet) (other : ¬ task.Sends)
    (history : History) : RecordedProg task history program :=
  (quiet.follows recorded_of_quiet history).mono fun _ _ _ sends => absurd sends other

theorem recorded_guard
    (further : ∀ user : User, user.id ≠ 0 → user.id = task.request.uid →
      Authenticated task [⟨.db (.lookupUserById task.request.uid), user⟩] →
      RecordedProg task [⟨.db (.lookupUserById task.request.uid), user⟩] (next user)) :
    RecordedProg task []
      (do let user ← lookupCheckPass task; if user.id = 0 then pure () else next user) := by
  unfold lookupCheckPass
  simp only [Program.bind_assoc]
  refine .perform trivial fun user answered => ?_
  split
  next missing =>
    simp only [Program.bind_assoc]
    exact .perform trivial fun _ _ _ => .inr ⟨_, rfl, rfl, rfl⟩
  next present =>
    split
    next wrong =>
      simp only [Program.bind_assoc]
      exact .perform trivial fun _ _ _ => .inr ⟨_, rfl, rfl, rfl⟩
    next right =>
      simp only [Program.pure_bind, present, if_false]
      exact further user present (answered.resolve_left present)
        ⟨user, List.mem_singleton.mpr rfl, present, not_not.mp right⟩

theorem recorded_guardByName {name : Bytes} {checkPass : Bool} (other : ¬ task.Sends)
    (further : ∀ user : User,
      RecordedProg task (history ++ [⟨.db (.lookupUserByName name), [user]⟩]) (next user)) :
    RecordedProg task history
      (do
        let user ← lookupCheckPassByName name task checkPass
        if user.id = 0 then pure () else next user) := by
  unfold lookupCheckPassByName
  simp only [Program.bind_assoc]
  refine .perform trivial fun users _ => ?_
  split
  · simp only [Program.bind_assoc]
    exact .perform trivial fun _ _ sends => absurd sends other
  next user _ =>
    split
    · simp only [Program.bind_assoc]
      exact .perform trivial fun _ _ sends => absurd sends other
    · simp only [Program.pure_bind]
      split
      · exact fun sends => absurd sends other
      · exact further user
  · simp only [Program.bind_assoc]
    exact .perform trivial fun _ _ sends => absurd sends other

theorem recorded_storeMessage {userFrom chatTo : Nat} (own : userFrom = task.request.uid)
    (silent : history.flatMap clientCalls = []) (unsaved : history.flatMap savedMessages = [])
    (authenticated : Authenticated task history) (addressed : Addressed task history chatTo) :
    RecordedProg task history (storeMessage userFrom chatTo task.request.message) := by
  refine .perform trivial fun now _ => .perform ?_ fun _ _ => ⟨trivial, fun _ _ _ => .inl ⟨?_, ?_⟩⟩
  · exact ⟨by simp [unsaved, savedMessages], authenticated.later _, addressed.later _, by simp,
      by rw [own]⟩
  · simp [silent, clientCalls]
  · simp [unsaved, savedMessages]

theorem recorded_processMessageSend (command : task.cmd = .messageSend) :
    RecordedProg task [] (processMessageSend task) := by
  refine recorded_guard fun user present own authenticated => .perform trivial fun users _ => ?_
  split
  · exact .perform trivial fun _ _ _ => .inr ⟨_, rfl, rfl, rfl⟩
  next userTo _ =>
    refine recorded_storeMessage own rfl rfl (authenticated.later _) ?_
    unfold Addressed
    rw [command]
    exact ⟨userTo, by simp [Saw], rfl⟩
  · exact .perform trivial fun _ _ _ => .inr ⟨_, rfl, rfl, rfl⟩

theorem recorded_processMessageSendChat (command : task.cmd = .messageSendChat) :
    RecordedProg task [] (processMessageSendChat task) := by
  refine recorded_guard fun user present own authenticated => .perform trivial fun chats _ => ?_
  split
  next chat _ =>
    refine recorded_storeMessage own rfl rfl (authenticated.later _) ?_
    unfold Addressed
    rw [command]
    exact ⟨chat, by simp [Saw], rfl⟩
  · exact .perform trivial fun _ _ _ => .inr ⟨_, rfl, rfl, rfl⟩

theorem recorded_processChatCreate (command : task.cmd = .chatCreate) (other : ¬ task.Sends) :
    RecordedProg task [] (processChatCreate task) := by
  refine recorded_guard fun user present own authenticated => ?_
  refine .perform ⟨command, rfl, rfl, authenticated⟩ fun chat _ => recorded_quiet ?_ other _
  split
  · exact (lookup_client _).quiet
  · exact (lookup_answer _).quiet

theorem recorded_processChatAdduser (command : task.cmd = .chatAdduser) (other : ¬ task.Sends) :
    RecordedProg task [] (processChatAdduser task) := by
  refine recorded_guard fun user present own authenticated => ?_
  refine recorded_guardByName other fun toAdd => .perform trivial fun chats _ => ?_
  split
  next chat _ =>
    exact .perform ⟨command, (authenticated.later _).later _, by simp [Saw], by simp [Saw]⟩
      fun _ _ => recorded_quiet (lookup_client _).quiet other _
  · exact recorded_quiet (lookup_client _).quiet other _

theorem recorded_processTask (sort : TimestampSort) (task : Task) :
    RecordedProg task [] (processTask sort task) := by
  cases command : task.cmd with
  | messageSend =>
      simpa only [processTask, command] using recorded_processMessageSend command
  | messageSendChat =>
      simpa only [processTask, command] using recorded_processMessageSendChat command
  | chatCreate =>
      simpa only [processTask, command] using
        recorded_processChatCreate command (by simp [Task.Sends, command])
  | chatAdduser =>
      simpa only [processTask, command] using
        recorded_processChatAdduser command (by simp [Task.Sends, command])
  | userCreate =>
      simp only [processTask, command]
      refine .perform trivial fun user _ => recorded_quiet ?_ (by simp [Task.Sends, command]) _
      split
      · exact (lookup_client _).quiet
      · exact (lookup_answer _).quiet
  | _ =>
      refine recorded_quiet (quiet_processTask sort ?_ ?_ ?_ ?_ ?_)
        (by simp [Task.Sends, command]) []
      all_goals simp [command]

end DatabaseWorker

/-- Only a task that sends a message addresses a chat. -/
theorem Addressed.sends {task : Task} {history : History} {chatTo : Nat}
    (addressed : Addressed task history chatTo) : task.Sends := by
  unfold Addressed at addressed
  split at addressed
  next command => exact .inl command
  next command => exact .inr command
  next => exact addressed.elim

/-- A worker that does what its task allows has saved what its task asked
for. -/
theorem backed_of_made {possible : (effect : Effect) → effect.Reply → Prop} {task : Task}
    {history : History} (made : Made possible (Recorded task) history) :
    ∀ msg ∈ history.flatMap savedMessages, Backed task history msg := by
  refine made.vouched (fun history exchange msg backed => backed.later [exchange]) ?_
  intro history op reply allows _ msg new
  unfold savedMessages at new
  split at new
  next same =>
    cases same
    cases List.mem_singleton.mp new
    exact allows.2.later _
  next => cases new

/-- What an exchange has told its worker about users and chats is so. -/
def Told (storage : Storage) : Exchange Effect Effect.Reply → Prop
  | ⟨.db (.lookupUserById id), user⟩ =>
      user.id = 0 ∨ user.id = id ∧ user.still ∈ storage.users.map User.still
  | ⟨.db (.lookupUserByName name), users⟩ =>
      ∀ user ∈ users, user.name = name ∧ user.still ∈ storage.users.map User.still
  | ⟨.db (.lookupChatByName name), chats⟩ =>
      ∀ chat ∈ chats, chat.name = name ∧ chat ∈ storage.chats
  | ⟨.db (.createChat name _), chat⟩ => chat.id = 0 ∨ chat.name = name ∧ chat ∈ storage.chats
  | _ => True

/-- The memberships that an exchange may have added, other than that of a new
user in their own chat. -/
def joinedRows : Exchange Effect Effect.Reply → List Chatuser
  | ⟨.db (.createChat _ uid), chat⟩ => [⟨chat.id, uid⟩]
  | ⟨.db (.addUserToChat chat user), _⟩ => [⟨chat.id, user.id⟩]
  | _ => []

/-- The groups that an exchange may have added. -/
def madeChats : Exchange Effect Effect.Reply → List Chat
  | ⟨.db (.createChat _ _), chat⟩ => [chat]
  | _ => []

namespace InMemory

theorem handle_learns (now : Int) (effect : Effect) (storage : Storage) :
    Told (handle now effect storage).2 ⟨effect, (handle now effect storage).1⟩ := by
  cases effect with
  | time => trivial
  | client call => trivial
  | db op =>
      cases op with
      | lookupUserById id =>
          rcases lookupUserById_cases id storage with missing | ⟨member, found⟩
          · exact .inl (congrArg User.id missing)
          · exact .inr ⟨found, List.mem_map_of_mem member⟩
      | lookupUserByName name =>
          intro user member
          obtain ⟨stored, same⟩ := List.mem_filter.mp member
          exact ⟨of_decide_eq_true same, List.mem_map_of_mem stored⟩
      | lookupChatByName name =>
          intro chat member
          obtain ⟨stored, same⟩ := List.mem_filter.mp member
          exact ⟨of_decide_eq_true same, stored⟩
      | createChat name uid =>
          simp only [handle, exec, createChat]
          split
          · exact .inl rfl
          · exact .inr ⟨rfl, by simp⟩
      | _ => trivial

theorem handle_told (now : Int) (effect : Effect) (storage : Storage)
    (exchange : Exchange Effect Effect.Reply) (told : Told storage exchange) :
    Told (handle now effect storage).2 exchange := by
  obtain ⟨users, chats⟩ := handle_grows now effect storage
  unfold Told at told ⊢
  split
  · exact told.imp_right fun both => ⟨both.1, users.subset both.2⟩
  · exact fun user member => ⟨(told user member).1, users.subset (told user member).2⟩
  · exact fun chat member => ⟨(told chat member).1, chats.subset (told chat member).2⟩
  · exact told.imp_right fun both => ⟨both.1, chats.subset both.2⟩
  · trivial

/-- Each call adds the messages that its exchange has saved, and flags others. -/
theorem handle_saves (now : Int) (effect : Effect) (storage : Storage) :
    (handle now effect storage).2.messages.map Message.unflagged =
      storage.messages.map Message.unflagged ++
        (savedMessages ⟨effect, (handle now effect storage).1⟩).map Message.unflagged := by
  cases effect with
  | time => simp [handle, savedMessages]
  | client call => simp [handle, savedMessages]
  | db op =>
      cases op with
      | saveMessage msg => simp [handle, exec, saveMessage, savedMessages]
      | getMessages chatid opt =>
          obtain ⟨messages, result, unflagged⟩ := getMessages_storage chatid opt storage
          simp [handle, exec, result, unflagged, savedMessages]
      | createUser name pass stpath ip city =>
          simp only [handle, exec, createUser]
          split <;> simp [savedMessages]
      | createChat name uid =>
          simp only [handle, exec, createChat]
          split <;> simp [savedMessages]
      | addUserToChat chat user =>
          simp only [handle, exec, addUserToChat]
          split <;> simp [savedMessages]
      | _ => simp [handle, exec, updateUserHeartBit, savedMessages]

/-- A new membership or chat is that of a new user, or one that the exchange
shows. -/
theorem handle_adds (now : Int) (effect : Effect) (storage : Storage) :
    (handle now effect storage).2.chatuser ⊆
        storage.chatuser ++ (handle now effect storage).2.users.map User.selfRow ++
          joinedRows ⟨effect, (handle now effect storage).1⟩ ∧
      (handle now effect storage).2.chats ⊆
        storage.chats ++ (handle now effect storage).2.users.map User.selfChat ++
          madeChats ⟨effect, (handle now effect storage).1⟩ := by
  cases effect with
  | time => simp [handle]
  | client call => simp [handle]
  | db op =>
      cases op with
      | createUser name pass stpath ip city =>
          simp only [handle, exec, createUser]
          split
          · simp
          · refine ⟨List.append_subset.mpr ⟨by simp, ?_⟩, List.append_subset.mpr ⟨by simp, ?_⟩⟩
            · simp [User.selfRow]
            · simp [User.selfChat]
      | createChat name uid =>
          simp only [handle, exec, createChat]
          split
          · simp
          · refine ⟨List.append_subset.mpr ⟨by simp, ?_⟩, List.append_subset.mpr ⟨by simp, ?_⟩⟩
            · split <;> simp [joinedRows]
            · simp [madeChats]
      | addUserToChat chat user =>
          simp only [handle, exec, addUserToChat]
          split
          · simp
          · exact ⟨List.append_subset.mpr ⟨by simp, by simp [joinedRows]⟩, by simp⟩
      | getMessages chatid opt =>
          obtain ⟨messages, result, -⟩ := getMessages_storage chatid opt storage
          simp [handle, exec, result]
      | _ => simp [handle, exec, updateUserHeartBit, saveMessage]

end InMemory

namespace Storage

/-- A user has the id and the password that the task gives. -/
def Knows (storage : Storage) (task : Task) : Prop :=
  ∃ user ∈ storage.users, user.id = task.request.uid ∧
    user.password = encryptedPass task.request.password

/-- The task names the chat: by the user whose own chat it is, or by its name. -/
def Names (storage : Storage) (task : Task) (chatTo : Nat) : Prop :=
  match task.cmd with
  | .messageSend => ∃ user ∈ storage.users, user.name = task.request.toUser ∧
      user.selfChatId = chatTo
  | .messageSendChat => ∃ chat ∈ storage.chats, chat.name = task.request.chat.name ∧
      chat.id = chatTo
  | _ => False

/-- The message is what the task asked for, at a time that the worker has read. -/
def Vouches (storage : Storage) (task : Task) (history : History) (msg : Message) : Prop :=
  storage.Knows task ∧ storage.Names task msg.chatTo ∧
    (⟨.time, msg.ts⟩ : Exchange Effect Effect.Reply) ∈ history ∧
    msg = { msg with
      flags := .unread, userFrom := task.request.uid, message := task.request.message }

/-- The task asked for the group. -/
def Makes (storage : Storage) (task : Task) (chat : Chat) : Prop :=
  task.cmd = .chatCreate ∧ storage.Knows task ∧ chat.name = task.request.chat.name

/-- The task asked for the membership: its own in a new group, or that of a
user in a chat. -/
def Joins (storage : Storage) (task : Task) (row : Chatuser) : Prop :=
  storage.Knows task ∧ ∃ chat ∈ storage.chats, chat.id = row.chatid ∧
    chat.name = task.request.chat.name ∧
    (task.cmd = .chatCreate ∧ row.uid = task.request.uid ∨
      task.cmd = .chatAdduser ∧ ∃ user ∈ storage.users, user.id = row.uid ∧
        user.name = task.request.chat.adduser)

end Storage

section Told

variable {storage : Storage} {task : Task} {history : History}
  (told : ∀ exchange ∈ history, Told storage exchange)

include told

theorem Authenticated.knows (authenticated : Authenticated task history) :
    storage.Knows task := by
  obtain ⟨user, saw, present, right⟩ := authenticated
  obtain ⟨own, stored⟩ := (told _ saw).resolve_left present
  obtain ⟨row, member, same⟩ := List.mem_map.mp stored
  refine ⟨row, member, ?_, ?_⟩
  · rw [← row.still_id, same, user.still_id, own]
  · exact (congrArg User.password same).trans right.symm

theorem Addressed.names {chatTo : Nat} (addressed : Addressed task history chatTo) :
    storage.Names task chatTo := by
  unfold Addressed at addressed
  unfold Storage.Names
  split at addressed
  next command =>
    obtain ⟨user, saw, rfl⟩ := addressed
    obtain ⟨named, stored⟩ := told _ saw user (List.mem_singleton.mpr rfl)
    obtain ⟨row, member, same⟩ := List.mem_map.mp stored
    refine ⟨row, member, ?_, ?_⟩
    · rw [← row.still_name, same, user.still_name, named]
    · exact congrArg (·.selfChatId) same
  next command =>
    obtain ⟨chat, saw, rfl⟩ := addressed
    obtain ⟨named, stored⟩ := told _ saw chat (List.mem_singleton.mpr rfl)
    exact ⟨chat, stored, named, rfl⟩
  next => exact addressed.elim

end Told

section Schedules

variable {sort : TimestampSort} {pool : Pool Task Effect Effect.Reply Storage}
  (reached : (workers sort).Reaches ⟨{}, []⟩ pool)

include reached

theorem recorded_of_reaches :
    ∀ worker ∈ pool.workers, worker.Justified Answered Recorded Concluded :=
  Pool.justified reached (recorded_processTask sort) handle_answered

theorem told_of_reaches :
    ∀ worker ∈ pool.workers, ∀ exchange ∈ worker.history, Told pool.shared exchange :=
  Pool.told reached handle_learns handle_told

/-- A saved message was vouched for by what its worker had been told. -/
theorem saved_vouched {worker : Worker Task Effect Effect.Reply} (member : worker ∈ pool.workers)
    {msg : Message} (saved : msg ∈ worker.total savedMessages) :
    pool.shared.Vouches worker.task worker.history msg := by
  have told := told_of_reaches reached worker member
  have backed := backed_of_made (recorded_of_reaches reached worker member).made msg saved
  obtain ⟨authenticated, addressed, clock, own⟩ := backed
  exact ⟨authenticated.knows told, addressed.names told, clock, own⟩

theorem saved_at_most_once {worker : Worker Task Effect Effect.Reply}
    (member : worker ∈ pool.workers) : (worker.total savedMessages).length ≤ 1 := by
  refine (recorded_of_reaches reached worker member).made.at_most_one ?_ ?_
  · intro exchange
    unfold savedMessages
    split <;> simp
  · intro history op reply allows saves
    unfold savedMessages at saves
    split at saves
    next same =>
      cases same
      exact allows.1
    next => exact absurd rfl saves

/-- The stored messages are those that the workers have saved. -/
theorem saved_perm :
    (pool.shared.messages.map Message.unflagged).Perm (pool.total savedMessages) := by
  have unflagged : (pool.total savedMessages).map Message.unflagged = pool.total savedMessages := by
    refine (List.map_congr_left fun msg member => ?_).trans (List.map_id _)
    obtain ⟨worker, memberWorker, saved⟩ := Pool.mem_total.mp member
    rw [(saved_vouched reached memberWorker saved).2.2.2]
    rfl
  rw [← unflagged, Pool.map_total]
  exact Pool.stored_perm (fun storage => storage.messages.map Message.unflagged)
    (fun exchange => (savedMessages exchange).map Message.unflagged) reached rfl
    fun now effect storage => .of_eq (handle_saves now effect storage)

/-- A group that a worker has made was asked for by its task. -/
theorem made_vouched {worker : Worker Task Effect Effect.Reply} (member : worker ∈ pool.workers)
    {chat : Chat} (made : chat ∈ worker.total madeChats) (present : chat.id ≠ 0) :
    pool.shared.Makes worker.task chat := by
  have told := told_of_reaches reached worker member
  have founded : Founded worker.task worker.history chat := by
    refine (recorded_of_reaches reached worker member).made.vouched
      (fun history exchange chat founded => founded.later [exchange]) ?_ chat made
    intro history op reply allows _ chat new
    unfold madeChats at new
    split at new
    next same =>
      cases same
      cases List.mem_singleton.mp new
      obtain ⟨command, rfl, rfl, authenticated⟩ := allows
      exact ⟨command, authenticated.later _, by simp [Saw]⟩
    next => cases new
  obtain ⟨command, authenticated, saw⟩ := founded
  exact ⟨command, authenticated.knows told, ((told _ saw).resolve_left present).1⟩

/-- So was a membership that a worker has made. -/
theorem joined_vouched {worker : Worker Task Effect Effect.Reply} (member : worker ∈ pool.workers)
    {row : Chatuser} (joined : row ∈ worker.total joinedRows) (present : row.chatid ≠ 0) :
    pool.shared.Joins worker.task row := by
  have told := told_of_reaches reached worker member
  have admitted : Admitted worker.task worker.history row := by
    refine (recorded_of_reaches reached worker member).made.vouched
      (fun history exchange row admitted => admitted.later [exchange]) ?_ row joined
    intro history op reply allows _ row new
    unfold joinedRows at new
    split at new
    next chat same =>
      cases same
      obtain ⟨command, rfl, rfl, authenticated⟩ := allows
      exact .inl ⟨chat, ⟨command, authenticated.later _, by simp [Saw]⟩, List.mem_singleton.mp new⟩
    next same =>
      cases same
      obtain ⟨command, authenticated, saw, seen⟩ := allows
      exact .inr ⟨command, authenticated.later _, _, _, List.mem_append_left _ saw,
        List.mem_append_left _ seen, List.mem_singleton.mp new⟩
    next => cases new
  rcases admitted with ⟨chat, ⟨command, authenticated, saw⟩, rfl⟩ |
      ⟨command, authenticated, chat, user, saw, seen, rfl⟩
  · obtain ⟨named, stored⟩ := (told _ saw).resolve_left present
    exact ⟨authenticated.knows told, chat, stored, rfl, named, .inl ⟨command, rfl⟩⟩
  · obtain ⟨named, stored⟩ := told _ saw chat (List.mem_singleton.mpr rfl)
    obtain ⟨called, found⟩ := told _ seen user (List.mem_singleton.mpr rfl)
    obtain ⟨added, memberAdded, same⟩ := List.mem_map.mp found
    refine ⟨authenticated.knows told, chat, stored, rfl, named,
      .inr ⟨command, added, memberAdded, ?_, ?_⟩⟩
    · rw [← added.still_id, same, user.still_id]
    · rw [← added.still_name, same, user.still_name, called]

end Schedules

/-- No message is lost, forged or stored twice: in every schedule the stored
messages are, up to their flags and their order, those that the tasks have
saved. A task saves one at most, with the right password and as it asked for
it, and when it is through it has told its client whether it did. -/
theorem messages_accounted {sort : TimestampSort} {pool : Pool Task Effect Effect.Reply Storage}
    (reached : (workers sort).Reaches ⟨{}, []⟩ pool) :
    (pool.shared.messages.map Message.unflagged).Perm (pool.total savedMessages) ∧
      ∀ worker ∈ pool.workers,
        (∀ msg ∈ worker.total savedMessages,
          pool.shared.Vouches worker.task worker.history msg) ∧
        (worker.total savedMessages).length ≤ 1 ∧
        (worker.finished = true → Concluded worker.task worker.history) := by
  exact ⟨saved_perm reached, fun worker member => ⟨fun msg => saved_vouched reached member,
    saved_at_most_once reached member, (recorded_of_reaches reached worker member).accepted⟩⟩

/-- Alice makes a group, adds bob and bob writes to it, while somebody writes to
bob in the name of alice. -/
def founding : List (PoolEvent Task Int) :=
  [.take (createUserTask (bytes "alice")), .take (createUserTask (bytes "bob")), .call 0 1,
    .call 1 1,
    .take { cmd := .chatCreate, request :=
      { uid := 1, password := bytes "Passw0rd", chat := { name := bytes "chess" } } },
    .take { cmd := .messageSend, request :=
      { uid := 1, password := bytes "guess", toUser := bytes "bob", message := bytes "hi" } },
    .take { cmd := .chatAdduser, request :=
      { uid := 1, password := bytes "Passw0rd"
        chat := { name := bytes "chess", adduser := bytes "bob" } } },
    .take { cmd := .messageSendChat, request :=
      { uid := 2, password := bytes "Passw0rd", chat := { name := bytes "chess" }
        message := bytes "hello" } }] ++
  [.call 2 2, .call 3 2, .call 2 2, .call 4 3, .call 5 3, .call 3 3, .call 4 3, .call 5 3,
    .call 4 3, .call 5 4, .call 4 4, .call 5 4, .call 4 4, .call 5 4]

theorem messages_accounted_group :
    ∃ pool, (workers .stable).run founding ⟨{}, []⟩ = some pool ∧
      pool.shared.messages.length = 1 ∧
      (pool.shared.messages.map Message.unflagged).Perm (pool.total savedMessages) := by
  have shape : ((workers .stable).run founding ⟨{}, []⟩).map
      (fun pool : Pool Task Effect Effect.Reply Storage => pool.shared.messages.length) =
      some 1 := by
    decide +kernel
  obtain ⟨pool, ran, saved⟩ := Option.map_eq_some_iff.mp shape
  exact ⟨pool, ran, saved, (messages_accounted (System.reaches_of_run ran)).1⟩

/-- Nobody is in a chat, and no group exists, that a user did not ask for: in
every schedule a membership is that of a user in their own chat, or a task with
the right password has made it as it asked for it, and so for the chats. -/
theorem members_accounted {sort : TimestampSort} {pool : Pool Task Effect Effect.Reply Storage}
    (reached : (workers sort).Reaches ⟨{}, []⟩ pool) (room : pool.shared.creations < 2 ^ 64) :
    (∀ row ∈ pool.shared.chatuser, (∃ user ∈ pool.shared.users, user.selfRow = row) ∨
      ∃ worker ∈ pool.workers, pool.shared.Joins worker.task row) ∧
    (∀ chat ∈ pool.shared.chats, (∃ user ∈ pool.shared.users, user.selfChat = chat) ∨
      ∃ worker ∈ pool.workers, pool.shared.Makes worker.task chat) := by
  have linked := linked_of_reaches reached room
  have positive : ∀ chatid ∈ pool.shared.chats.map (·.id), chatid ≠ 0 := by
    intro chatid existing
    rw [linked.chatIds, List.mem_range'_1] at existing
    omega
  have grows : ∀ {Row : Type} (form : User → Row), (∀ user, form user.still = form user) →
      ∀ now effect storage,
        storage.users.map form ⊆ (handle now effect storage).2.users.map form := by
    intro Row form blind now effect storage
    have same : form ∘ User.still = form := funext blind
    have mapped := ((handle_grows now effect storage).1.map form).subset
    rwa [List.map_map, List.map_map, same] at mapped
  have joined := Pool.stored_subset (·.chatuser) (fun storage => storage.users.map User.selfRow)
    joinedRows reached rfl (grows _ fun _ => rfl)
    fun now effect storage => (handle_adds now effect storage).1
  have made := Pool.stored_subset (·.chats) (fun storage => storage.users.map User.selfChat)
    madeChats reached rfl (grows _ fun _ => rfl)
    fun now effect storage => (handle_adds now effect storage).2
  refine ⟨fun row member => ?_, fun chat member => ?_⟩
  · refine (List.mem_append.mp (joined member)).imp List.mem_map.mp fun shown => ?_
    obtain ⟨worker, memberWorker, shown⟩ := Pool.mem_total.mp shown
    exact ⟨worker, memberWorker, joined_vouched reached memberWorker shown
      (positive _ (linked.rowChats (List.mem_map_of_mem member)))⟩
  · refine (List.mem_append.mp (made member)).imp List.mem_map.mp fun shown => ?_
    obtain ⟨worker, memberWorker, shown⟩ := Pool.mem_total.mp shown
    exact ⟨worker, memberWorker, made_vouched reached memberWorker shown
      (positive _ (List.mem_map_of_mem member))⟩

theorem members_accounted_group :
    ∃ pool, (workers .stable).run founding ⟨{}, []⟩ = some pool ∧
      (pool.shared.chats.length, pool.shared.chatuser.length) = (3, 4) ∧
      ∀ chat ∈ pool.shared.chats, (∃ user ∈ pool.shared.users, user.selfChat = chat) ∨
        ∃ worker ∈ pool.workers, pool.shared.Makes worker.task chat := by
  have shape : ((workers .stable).run founding ⟨{}, []⟩).map
      (fun pool : Pool Task Effect Effect.Reply Storage =>
        (pool.shared.chats.length, pool.shared.chatuser.length)) = some (3, 4) := by
    decide +kernel
  obtain ⟨pool, ran, counts⟩ := Option.map_eq_some_iff.mp shape
  have room : pool.shared.creations < 2 ^ 64 := by
    unfold Storage.creations
    rw [(Prod.mk.inj counts).1]
    decide
  exact ⟨pool, ran, counts, (members_accounted (System.reaches_of_run ran) room).2⟩

end GeoChat
