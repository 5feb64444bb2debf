import GeoChat.Server.Calls
import GeoChat.Server.Connection
import GeoChat.Server.Store.Invariant

/-!
# The task of an idle connection

What an idle task reads and sends, while the tables of users, chats and
memberships stay as they are: it reads the chats of its user one after another,
with the same cursor, and sends what it has read as one batch. Nothing comes
after the batch.
-/

namespace GeoChat

open Library Program

/-- The tables other than the messages are the same, heartbits apart. -/
structure Storage.SameRows (start storage : Storage) : Prop where
  users : storage.users.map User.still = start.users.map User.still
  chats : storage.chats = start.chats
  chatuser : storage.chatuser = start.chatuser

theorem Storage.SameRows.trans {first second third : Storage} (same : first.SameRows second)
    (further : second.SameRows third) : first.SameRows third :=
  ⟨further.users.trans same.users, further.chats.trans same.chats,
    further.chatuser.trans same.chatuser⟩

namespace InMemory

theorem lookupUserById_sameRows {start storage : Storage} (same : start.SameRows storage)
    (id : Nat) : (lookupUserById id storage).still = (lookupUserById id start).still := by
  rw [lookupUserById_still, lookupUserById_still, same.users]

theorem lookupChatById_sameRows {start storage : Storage} (same : start.SameRows storage)
    (chatid : Nat) : lookupChatById chatid storage = lookupChatById chatid start := by
  rw [lookupChatById, lookupChatById, same.chats]

theorem chatidsForUserId_sameRows {start storage : Storage} (same : start.SameRows storage)
    (uid : Nat) : chatidsForUserId uid storage = chatidsForUserId uid start := by
  rw [chatidsForUserId, chatidsForUserId, same.chatuser]

/-- Only four calls change more than messages and heartbits. -/
theorem exec_sameRows (op : DbOp) (storage : Storage)
    (quiet : (Effect.db op).Quiet ∨ ∃ msg, op = .saveMessage msg) :
    storage.SameRows (exec op storage).2 := by
  rcases quiet with quiet | ⟨msg, rfl⟩
  · cases op with
    | updateUserHeartBit user ts =>
        refine ⟨?_, rfl, rfl⟩
        simp only [exec, updateUserHeartBit]
        exact setHeartBit_map User.still (fun _ _ => rfl) user.id ts storage.users
    | getMessages chatid opt =>
        rcases getMessages_storage chatid opt storage with ⟨messages, result, -⟩
        simp only [exec, result]
        exact ⟨rfl, rfl, rfl⟩
    | createUser => exact quiet.elim
    | createChat => exact quiet.elim
    | addUserToChat => exact quiet.elim
    | saveMessage => exact quiet.elim
    | _ => exact ⟨rfl, rfl, rfl⟩
  · exact ⟨rfl, rfl, rfl⟩

end InMemory

/-- The chats that an idle task of the user reads, in their order. -/
def Storage.chatPlan (storage : Storage) (uid : Nat) : List Nat :=
  (InMemory.chatidsForUserId uid storage).map fun chatid =>
    (InMemory.lookupChatById chatid storage).id

/-- A chat that exists is read for each of its members. -/
theorem Storage.mem_chatPlan {storage : Storage} {uid : Nat} {chat : Chat}
    (exists_ : chat ∈ storage.chats) (row : ⟨chat.id, uid⟩ ∈ storage.chatuser) :
    chat.id ∈ storage.chatPlan uid := by
  refine List.mem_map.mpr ⟨chat.id, ?_, ?_⟩
  · exact List.mem_map.mpr ⟨⟨chat.id, uid⟩, List.mem_filter.mpr ⟨row, by simp⟩, rfl⟩
  · exact InMemory.lookupChatById_id (List.mem_map_of_mem exists_)

namespace Storage.SameRows

variable {start storage : Storage} (same : start.SameRows storage)

include same

theorem chatPlan (uid : Nat) : storage.chatPlan uid = start.chatPlan uid := by
  simp only [Storage.chatPlan, InMemory.chatidsForUserId_sameRows same,
    InMemory.lookupChatById_sameRows same]

theorem apiForm (msg : Message) : storage.apiForm msg = start.apiForm msg := by
  have sender := congrArg User.name (InMemory.lookupUserById_sameRows same msg.userFrom)
  simp only [User.still_name] at sender
  simp only [Storage.apiForm, InMemory.lookupChatById_sameRows same, sender]

end Storage.SameRows

/-- The chats that were read, in their order. -/
def chatsRead (history : History) : List Nat :=
  history.flatMap fun
    | ⟨.db (.getMessages chatid _), _⟩ => [chatid]
    | _ => []

/-- What was read from them. -/
def messagesRead (history : History) : List Message := history.flatMap readMessages

/-- The batches that were sent. -/
def batchesSent (history : History) : List (List ApiMessage) :=
  history.flatMap fun
    | ⟨.client sent, _⟩ => sent.batch
    | _ => []

/-- How far a task has come. -/
def progress (history : History) : List Nat × List Message × List (List ApiMessage) :=
  (chatsRead history, messagesRead history, batchesSent history)

/-- An effect that an idle task makes besides the reads and the batch. -/
def Effect.plain : Effect → Bool
  | .db (.lookupUserById _) => true
  | .db (.updateUserHeartBit _ _) => true
  | .db (.chatidsForUserId _) => true
  | .db (.lookupChatById _) => true
  | .time => true
  | .client (.sendErrorResponse _ _ _) => true
  | _ => false

theorem progress_plain (history : History) {effect : Effect} (plain : effect.plain = true)
    (reply : effect.Reply) : progress (history ++ [⟨effect, reply⟩]) = progress history := by
  unfold Effect.plain at plain
  split at plain <;>
    first
    | contradiction
    | simp [progress, chatsRead, messagesRead, batchesSent, readMessages, ClientCall.batch]

/-- The replies that a call can get while the tables stay as they are. -/
def Faithful (start : Storage) : (effect : Effect) → effect.Reply → Prop
  | .db (.lookupUserById id), user => user.still = (InMemory.lookupUserById id start).still
  | .db (.lookupChatById chatid), chat => chat = InMemory.lookupChatById chatid start
  | .db (.chatidsForUserId uid), chatids => chatids = InMemory.chatidsForUserId uid start
  | .db (.getMessages chatid opt), msgs => ∀ msg ∈ msgs, msg.newer chatid opt.ts = true
  | _, _ => True

/-- The next call of an idle task: a plain one, the read of the next chat, or
the batch of all that was read, which is the last. -/
inductive IdleCall (start : Storage) (task : Task) (history : History) : Effect → Prop
  | plain {effect : Effect} :
      batchesSent history = [] → effect.plain = true → IdleCall start task history effect
  | read (chatid : Nat) :
      batchesSent history = [] →
      chatsRead history ++ [chatid] <+: start.chatPlan task.request.uid →
      IdleCall start task history (.db (.getMessages chatid { ts := task.request.ts }))
  | send :
      batchesSent history = [] → chatsRead history = start.chatPlan task.request.uid →
      IdleCall start task history
        (.client (.sendMessagesToIdleConn ((messagesRead history).map start.apiForm)))

namespace DatabaseWorker

variable {start : Storage} {task : Task} {history : History}

abbrev IdleProg {Result : Type} (start : Storage) (task : Task)
    (accepted : History → Result → Prop) (history : History) (program : Prog Result) : Prop :=
  program.Follows (Faithful start) (IdleCall start task) accepted history

/-- A plain call does not change how far the task has come. -/
theorem idle_plain {Result : Type} {accepted : History → Result → Prop} {effect : Effect}
    {next : effect.Reply → Prog Result} (plain : effect.plain = true)
    (unsent : batchesSent history = [])
    (further : ∀ later reply, Faithful start effect reply → progress later = progress history →
      IdleProg start task accepted later (next reply)) :
    IdleProg start task accepted history (Program.perform effect >>= next) :=
  .perform (.plain unsent plain) fun reply faithful =>
    further _ reply faithful (progress_plain history plain reply)

theorem unsent_of_progress {later : History} (same : progress later = progress history)
    (unsent : batchesSent history = []) : batchesSent later = [] :=
  (congrArg (·.2.2) same).trans unsent

theorem idle_lookupChatsById (chatids : List Nat) (unsent : batchesSent history = []) :
    IdleProg start task
      (fun later chats => progress later = progress history ∧
        chats = chatids.map fun chatid => InMemory.lookupChatById chatid start)
      history (Prog.lookupChatsById chatids) := by
  induction chatids generalizing history with
  | nil => exact ⟨rfl, rfl⟩
  | cons chatid rest inductionHypothesis =>
      refine idle_plain rfl unsent fun later chat faithful same => .bind ?_
      refine (inductionHypothesis (unsent_of_progress same unsent)).mono ?_
      rintro last chats ⟨sameLast, rfl⟩
      refine ⟨sameLast.trans same, ?_⟩
      rw [show chat = InMemory.lookupChatById chatid start from faithful]
      rfl

theorem idle_toApiFormat (msgs : List Message) (unsent : batchesSent history = []) :
    IdleProg start task
      (fun later apiMsgs => progress later = progress history ∧ apiMsgs = msgs.map start.apiForm)
      history (toApiFormat msgs) := by
  induction msgs generalizing history with
  | nil => exact ⟨rfl, rfl⟩
  | cons msg rest inductionHypothesis =>
      refine idle_plain rfl unsent fun later chat foundChat same => ?_
      have unsentLater := unsent_of_progress same unsent
      refine idle_plain rfl unsentLater fun last user foundUser sameLast => .bind ?_
      refine (inductionHypothesis (unsent_of_progress sameLast unsentLater)).mono ?_
      rintro final apiMsgs ⟨sameFinal, rfl⟩
      refine ⟨sameFinal.trans (sameLast.trans same), ?_⟩
      have sameUser : user.still = (InMemory.lookupUserById msg.userFrom start).still := foundUser
      have sender := congrArg User.name sameUser
      simp only [User.still_name] at sender
      rw [show chat = InMemory.lookupChatById msg.chatTo start from foundChat, sender]
      rfl

theorem idle_toApiFormatBatch (batch : List (List Message)) (unsent : batchesSent history = []) :
    IdleProg start task
      (fun later apiMsgs => progress later = progress history ∧
        apiMsgs = batch.flatten.map start.apiForm)
      history (toApiFormatBatch batch) := by
  induction batch generalizing history with
  | nil => exact ⟨rfl, rfl⟩
  | cons msgs rest inductionHypothesis =>
      refine .bind ((idle_toApiFormat msgs unsent).mono ?_)
      rintro later first ⟨same, rfl⟩
      refine .bind ((inductionHypothesis (unsent_of_progress same unsent)).mono ?_)
      rintro last remaining ⟨sameLast, rfl⟩
      exact ⟨sameLast.trans same, by simp⟩

/-- The loop over the chats reads the rest of the plan. -/
theorem idle_readChats (chats : List Chat) (unsent : batchesSent history = [])
    (rest : chatsRead history ++ chats.map (·.id) = start.chatPlan task.request.uid) :
    IdleProg start task
      (fun later batch => batchesSent later = [] ∧
        chatsRead later = start.chatPlan task.request.uid ∧
        messagesRead later = messagesRead history ++ batch.flatten)
      history (readChats task.request.ts chats) := by
  induction chats generalizing history with
  | nil => exact ⟨unsent, by simpa using rest, by simp⟩
  | cons chat others inductionHypothesis =>
      refine .perform (.read chat.id unsent ⟨others.map (·.id), by simpa using rest⟩) ?_
      intro msgs _
      refine .bind ((inductionHypothesis ?_ ?_).mono ?_)
      · simpa [batchesSent] using unsent
      · simpa [chatsRead] using rest
      · rintro later batch ⟨unsentLater, all, messages⟩
        refine ⟨unsentLater, all, ?_⟩
        rw [messages]
        cases msgs <;> simp [messagesRead, readMessages]

theorem idle_sendBatch {ping : Bool} {batch : List (List Message)}
    (unsent : batchesSent history = [])
    (all : chatsRead history = start.chatPlan task.request.uid)
    (messages : messagesRead history = batch.flatten) :
    IdleProg start task (fun _ _ => True) history (sendBatch ping batch) := by
  unfold sendBatch
  split
  · refine .bind ((idle_toApiFormatBatch batch unsent).mono ?_)
    rintro later apiMsgs ⟨same, rfl⟩
    have allLater : chatsRead later = start.chatPlan task.request.uid :=
      (congrArg (·.1) same).trans all
    have messagesLater : messagesRead later = batch.flatten :=
      (congrArg (·.2.1) same).trans messages
    refine ⟨?_, fun _ _ => trivial⟩
    rw [← messagesLater]
    exact .send (unsent_of_progress same unsent) allLater
  next empty =>
    have nothing : batch = [] := by simpa using empty
    split
    · refine ⟨?_, fun _ _ => trivial⟩
      have call := IdleCall.send unsent all
      rwa [messages, nothing] at call
    · trivial

/-- What an idle task does. -/
theorem idle_processIdle (start : Storage) (task : Task) :
    IdleProg start task (fun _ _ => True) [] (processIdle task) := by
  unfold processIdle lookupCheckPass
  simp only [Program.bind_assoc]
  refine idle_plain rfl rfl fun found user foundUser same => ?_
  have unsent := unsent_of_progress same rfl
  have plainEnd : ∀ httpCode apiCode desc,
      IdleProg start task (fun _ _ => True) found
        (Program.perform (.client (.sendErrorResponse httpCode apiCode desc)) >>= fun _ =>
          (pure () : Prog Unit)) := fun httpCode apiCode desc =>
    idle_plain rfl unsent fun _ _ _ _ => trivial
  split
  · simp only [Program.bind_assoc]
    exact plainEnd _ _ _
  next present =>
    split
    · simp only [Program.bind_assoc]
      exact plainEnd _ _ _
    · simp only [Program.pure_bind, present, if_false]
      have sameId : user.id = task.request.uid := by
        have sameUser : user.still = (InMemory.lookupUserById task.request.uid start).still :=
          foundUser
        have still := congrArg User.id sameUser
        simp only [User.still_id] at still
        rcases InMemory.lookupUserById_cases task.request.uid start with missing | ⟨_, own⟩
        · rw [still, missing] at present
          exact absurd rfl present
        · exact still.trans own
      refine idle_plain rfl unsent fun clock now _ sameClock => ?_
      refine idle_plain rfl (unsent_of_progress sameClock unsent) fun beat _ _ sameBeat => ?_
      have sameBefore : progress beat = progress [] := sameBeat.trans (sameClock.trans same)
      unfold Prog.lookupChatsForUserId
      simp only [Program.bind_assoc]
      refine idle_plain rfl (unsent_of_progress sameBefore rfl)
        fun listed chatids found' sameIds => ?_
      have sameListed : progress listed = progress [] := sameIds.trans sameBefore
      refine .bind ((idle_lookupChatsById chatids (unsent_of_progress sameListed rfl)).mono ?_)
      rintro later chats ⟨sameLater, rfl⟩
      have begun : progress later = progress [] := sameLater.trans sameListed
      have none : chatsRead later = [] := congrArg (·.1) begun
      have nothing : messagesRead later = [] := congrArg (·.2.1) begun
      have plan : chatids = InMemory.chatidsForUserId user.id start := found'
      refine .bind ((idle_readChats _ (unsent_of_progress begun rfl) ?_).mono ?_)
      · rw [none, List.nil_append, List.map_map, plan, sameId]
        rfl
      · rintro last batch ⟨unsentLast, all, messages⟩
        exact idle_sendBatch unsentLast all (by rw [messages, nothing, List.nil_append])

end DatabaseWorker

end GeoChat
