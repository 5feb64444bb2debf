import GeoChat.Server.Store.Sequence

/-!
# What a task answers

The calls on its client and the storage after a task that nothing interrupts,
written out for each command. Most branches begin with the check of the user id
and the password, some go on with a lookup by name.
-/

namespace GeoChat

open Library Program

/-- The call on the client that an exchange is. -/
def clientCalls : Exchange Effect Effect.Reply → List ClientCall
  | ⟨.client made, _⟩ => [made]
  | _ => []

/-- An error reply. -/
def ClientCall.isError : ClientCall → Bool
  | .sendErrorResponse .. => true
  | _ => false

/-- What a task has told its client, and the storage after it. -/
abbrev Served := List ClientCall × Storage

namespace InMemory

variable {Result : Type} (now : Int) (storage : Storage)

/-- The calls on the client and the storage after an uninterrupted program. -/
def serve (program : Prog Result) : Served :=
  ((program.trace (handle now) storage).flatMap clientCalls, (program.run (handle now) storage).2)

@[simp]
theorem serve_db (op : DbOp) (next : op.Result → Prog Result) :
    serve now storage (Prog.db op >>= next) =
      serve now (exec op storage).2 (next (exec op storage).1) := rfl

@[simp]
theorem serve_time (next : Int → Prog Result) :
    serve now storage (Prog.time >>= next) = serve now storage (next now) := rfl

/-- The error that `lookup_check_pass` sends. -/
def refusal (task : Task) : ClientCall :=
  if (lookupUserById task.request.uid storage).id = 0 then
    .sendErrorResponse 409 .errConstraint (bytes "user does not exist")
  else .sendErrorResponse 403 .errConstraint (bytes "wrong password")

/-- The error that `lookup_check_pass_by_name` sends. -/
def refusalByName (name : Bytes) (task : Task) (check : Bool) : Option ClientCall :=
  match lookupUserByName name storage with
  | [] => some (.sendErrorResponse 404 .errNotFound (bytes "user does not exist"))
  | [user] =>
      if check && encryptedPass task.request.password ≠ user.password then
        some (.sendErrorResponse 403 .errConstraint (bytes "wrong password"))
      else none
  | _ => some (.sendErrorResponse 500 .errInternal (bytes "more than one user with that name"))

/-- A branch that begins with `lookup_check_pass`. -/
def guarded (task : Task) (next : User → Served) : Served :=
  if (checkPass task storage).id = 0 then ([refusal storage task], storage)
  else next (checkPass task storage)

/-- A branch that goes on with `lookup_check_pass_by_name`. -/
def guardedByName (name : Bytes) (task : Task) (check : Bool) (next : User → Served) : Served :=
  match refusalByName storage name task check with
  | some error => ([error], storage)
  | none =>
      if (checkPassByName name task check storage).id = 0 then ([], storage)
      else next (checkPassByName name task check storage)

theorem serve_guard (task : Task) (next : User → Prog Unit) :
    serve now storage (do
      let user ← DatabaseWorker.lookupCheckPass task
      if user.id = 0 then pure () else next user) =
    guarded storage task fun user => serve now storage (next user) := by
  unfold DatabaseWorker.lookupCheckPass guarded checkPass refusal
  rw [bind_assoc, serve_db]
  simp only [exec]
  by_cases missing : (lookupUserById task.request.uid storage).id = 0
  · simp only [missing, if_true]
    rfl
  · by_cases wrong : encryptedPass task.request.password ≠
      (lookupUserById task.request.uid storage).password
    · simp only [missing, wrong, if_true, if_false, ne_eq, not_false_eq_true]
      rfl
    · simp only [missing, wrong, if_false, pure_bind]

theorem serve_guardByName (name : Bytes) (task : Task) (check : Bool) (next : User → Prog Unit) :
    serve now storage (do
      let user ← DatabaseWorker.lookupCheckPassByName name task check
      if user.id = 0 then pure () else next user) =
    guardedByName storage name task check fun user => serve now storage (next user) := by
  unfold DatabaseWorker.lookupCheckPassByName guardedByName checkPassByName refusalByName
  rw [bind_assoc, serve_db]
  simp only [exec]
  generalize lookupUserByName name storage = users
  rcases users with _ | ⟨user, _ | ⟨second, rest⟩⟩
  · rfl
  · simp only
    split
    next => rfl
    next =>
      simp only [pure_bind]
      split <;> rfl
  · rfl

end InMemory

/-- An effect that is no call on the client. -/
def Effect.Mute : Effect → Prop
  | .client _ => False
  | _ => True

theorem mute_lookupChatsById (chatids : List Nat) :
    (Prog.lookupChatsById chatids).Uses Effect.Mute :=
  uses_lookupChatsById (fun _ => trivial) chatids

namespace DatabaseWorker

open InMemory

theorem mute_toApiFormat (msgs : List Message) : (toApiFormat msgs).Uses Effect.Mute :=
  uses_toApiFormat (fun _ => trivial) (fun _ => trivial) msgs

theorem mute_toApiFormatBatch (batch : List (List Message)) :
    (toApiFormatBatch batch).Uses Effect.Mute :=
  uses_toApiFormatBatch (fun _ => trivial) (fun _ => trivial) batch

theorem mute_readChats (ts : Int) (chats : List Chat) : (readChats ts chats).Uses Effect.Mute :=
  uses_readChats (fun _ _ => trivial) ts chats

variable (now : Int) (storage : Storage) (task : Task)

theorem silent_of_mute {Result : Type} {program : Prog Result} (mute : program.Uses Effect.Mute) :
    (program.trace (handle now) storage).flatMap clientCalls = [] := by
  refine mute.flatMap_trace (fun exchange quiet => ?_) storage
  rcases exchange with ⟨effect, reply⟩
  cases effect with
  | client made => exact quiet.elim
  | _ => rfl

/-- The calls of a mute program followed by another. -/
theorem serve_mute_bind {First Result : Type} {program : Prog First}
    (mute : program.Uses Effect.Mute) (next : First → Prog Result) :
    serve now storage (program >>= next) =
      serve now (program.run (handle now) storage).2
        (next (program.run (handle now) storage).1) := by
  simp only [serve, trace_bind, run_bind, List.flatMap_append, silent_of_mute now storage mute,
    List.nil_append]

theorem run_toApiFormat (msgs : List Message) :
    (toApiFormat msgs).run (handle now) storage = (msgs.map storage.apiForm, storage) := by
  induction msgs with
  | nil => rfl
  | cons msg rest inductionHypothesis =>
      simp only [toApiFormat, perform_bind, run_call, handle_db, exec, run_bind,
        inductionHypothesis, run_pure, List.map_cons, Storage.apiForm]

/-- An accepted idle task sends at most one batch, and nothing else. -/
theorem serve_processIdle :
    ∃ rest : User → Served, serve now storage (processIdle task) = guarded storage task rest ∧
      ∀ user, (rest user).1 = [] ∨ ∃ msgs, (rest user).1 = [.sendMessagesToIdleConn msgs] := by
  refine ⟨_, serve_guard now storage task _, fun user => ?_⟩
  rw [serve_time, serve_db, Prog.lookupChatsForUserId, bind_assoc, serve_db,
    serve_mute_bind _ _ (mute_lookupChatsById _), serve_mute_bind _ _ (mute_readChats _ _)]
  unfold sendBatch
  split
  next =>
    rw [serve_mute_bind _ _ (mute_toApiFormatBatch _)]
    exact .inr ⟨_, rfl⟩
  next =>
    split
    next => exact .inr ⟨_, rfl⟩
    next => exact .inl rfl

theorem serve_processUserStatus :
    serve now storage (processUserStatus task) =
      guarded storage task fun _ =>
        guardedByName storage task.request.user task false fun userTo =>
          ([.sendOkResponse (ApiclientUtils.okBodyOfUser userTo now)], storage) := by
  unfold processUserStatus
  rw [serve_guard]
  congr
  funext user
  rw [serve_guardByName]
  rfl

/-- The messages that a request for the history of two users selects. -/
def history (sort : TimestampSort) (userFrom userTo : User) (count : Nat) : List Message :=
  let opt := historyOpt count
  mixFromAndToMessages sort
    (selectMessages
      (fun msg => msg.userFrom = userTo.id && msg.chatTo = userFrom.selfChatId) opt storage)
    (selectMessages
      (fun msg => msg.userFrom = userFrom.id && msg.chatTo = userTo.selfChatId) opt storage)
    count

theorem serve_processUserHistory (sort : TimestampSort) :
    serve now storage (processUserHistory sort task) =
      guarded storage task fun userFrom =>
        guardedByName storage task.request.user task false fun userTo =>
          ([.sendMessages ((history storage sort userFrom userTo task.request.count).map
            storage.apiForm)], storage) := by
  unfold processUserHistory
  rw [serve_guard]
  congr
  funext userFrom
  rw [serve_guardByName]
  congr
  funext userTo
  rw [serve_db, serve_db, serve_mute_bind _ _ (mute_toApiFormat _), run_toApiFormat]
  rfl

/-- The end of the two send branches. -/
def stored (userFrom chatTo : Nat) : Served :=
  ([.sendOkResponse statusZero],
    saveMessage { userFrom, chatTo, message := task.request.message, ts := now } storage)

theorem serve_processMessageSend :
    serve now storage (processMessageSend task) =
      guarded storage task fun user =>
        match lookupUserByName task.request.toUser storage with
        | [] =>
            ([.sendErrorResponse 404 .errNotFound (bytes "user to does not exist")], storage)
        | [userTo] => stored now storage task user.id userTo.selfChatId
        | _ => ([.sendErrorResponse 500 .errInternal (bytes "more than one user with that name")],
            storage) := by
  unfold processMessageSend
  rw [serve_guard]
  congr
  funext user
  rw [serve_db]
  simp only [exec]
  generalize lookupUserByName task.request.toUser storage = found
  rcases found with _ | ⟨first, _ | ⟨second, rest⟩⟩ <;> rfl

theorem serve_processMessageSendChat :
    serve now storage (processMessageSendChat task) =
      guarded storage task fun user =>
        match lookupChatByName task.request.chat.name storage with
        | [chat] => stored now storage task user.id chat.id
        | _ => ([.sendErrorResponse 404 .errNotFound (bytes "chat does not exist")], storage) := by
  unfold processMessageSendChat
  rw [serve_guard]
  congr
  funext user
  rw [serve_db]
  simp only [exec]
  generalize lookupChatByName task.request.chat.name storage = found
  rcases found with _ | ⟨first, _ | ⟨second, rest⟩⟩ <;> rfl

theorem serve_processUserCreate :
    serve now storage (processUserCreate task) =
      let created := createUser task.request.user (encryptedPass task.request.password)
        task.storage task.request.ipAddress task.request.city storage
      (if created.1.id = 0 then
        [.sendErrorResponse 409 .errConstraint (bytes "user already exists")]
      else [.sendOkResponse (ApiclientUtils.okBodyOfUser created.1 now)], created.2) := by
  unfold processUserCreate
  rw [serve_db]
  by_cases failed : (createUser task.request.user (encryptedPass task.request.password)
      task.storage task.request.ipAddress task.request.city storage).1.id = 0
  · simp only [exec, failed, if_true]
    rfl
  · simp only [exec, failed, if_false]
    rfl

theorem serve_processUserLogin :
    serve now storage (processUserLogin task) =
      guardedByName storage task.request.user task true fun user =>
        ([.sendOkResponse (ApiclientUtils.okBodyOfUser user now)], storage) := by
  unfold processUserLogin
  rw [serve_guardByName]
  rfl

theorem serve_processChatCreate :
    serve now storage (processChatCreate task) =
      guarded storage task fun _ =>
        let created := createChat task.request.chat.name task.request.uid storage
        (if created.1.id = 0 then
          [.sendErrorResponse 409 .errConstraint (bytes "chat already exists")]
        else [.sendOkResponse (ApiclientUtils.okBodyOfChat created.1 now)], created.2) := by
  unfold processChatCreate
  rw [serve_guard]
  congr
  funext user
  rw [serve_db]
  by_cases failed : (createChat task.request.chat.name task.request.uid storage).1.id = 0
  · simp only [exec, failed, if_true]
    rfl
  · simp only [exec, failed, if_false]
    rfl

theorem serve_processChatAdduser :
    serve now storage (processChatAdduser task) =
      guarded storage task fun _ =>
        guardedByName storage task.request.chat.adduser task false fun toAdd =>
          match lookupChatByName task.request.chat.name storage with
          | [chat] => ([.sendOkResponse statusZero], addUserToChat chat toAdd storage)
          | _ =>
              ([.sendErrorResponse 404 .errNotFound (bytes "chat does not exist")], storage) := by
  unfold processChatAdduser
  rw [serve_guard]
  congr
  funext user
  rw [serve_guardByName]
  congr
  funext toAdd
  rw [serve_db]
  simp only [exec]
  generalize lookupChatByName task.request.chat.name storage = found
  rcases found with _ | ⟨first, _ | ⟨second, rest⟩⟩ <;> rfl

/-- The answer to a request for names. -/
def named (key missing : Bytes) (items : List Bytes) : List ClientCall :=
  if items.isEmpty then [.sendErrorResponse 404 .errNotFound missing]
  else [.sendOkResponse (ApiclientUtils.okBodyOfItems key items now)]

theorem serve_processGetLocations :
    serve now storage (processGetLocations task) =
      guarded storage task fun _ =>
        (named now (bytes "location") (bytes "no locations") (getAllDistinctLocations storage),
          storage) := by
  unfold processGetLocations processLocation named
  rw [serve_guard]
  congr
  funext user
  rw [serve_db]
  cases empty : (getAllDistinctLocations storage).isEmpty with
  | true =>
      simp only [exec, empty, if_true]
      rfl
  | false =>
      simp only [exec, empty]
      rfl

theorem serve_processChatWithLocation :
    serve now storage (processChatWithLocation task) =
      guarded storage task fun _ =>
        (named now (bytes "user") (bytes "no users from " ++ task.request.city)
          (getAllUsersFromLocation task.request.city storage), storage) := by
  unfold processChatWithLocation processLocation named
  rw [serve_guard]
  rfl

end DatabaseWorker

end GeoChat
