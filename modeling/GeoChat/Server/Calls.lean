import GeoChat.Server.Worker

/-!
# The calls of a task

Which calls the parts of `processQueue` make. Most of them insert nothing; a
row is inserted only after the lookups that name what it refers to.
-/

namespace GeoChat

open Library

/-- An effect that reads rows other than messages, or none. -/
def Effect.Lookup : Effect → Prop
  | .db (.lookupUserById _) => True
  | .db (.lookupUserByName _) => True
  | .db (.chatidsForUserId _) => True
  | .db (.lookupChatById _) => True
  | .db (.lookupChatByName _) => True
  | .db _ => False
  | .time => True
  | .client _ => True

/-- An effect that inserts no row. -/
def Effect.Quiet : Effect → Prop
  | .db (.createUser ..) => False
  | .db (.createChat ..) => False
  | .db (.addUserToChat ..) => False
  | .db (.saveMessage ..) => False
  | _ => True

theorem Effect.Lookup.quiet {effect : Effect} (lookup : effect.Lookup) : effect.Quiet := by
  unfold Quiet
  split <;> first | exact lookup | trivial

/-- The messages that an exchange has read from a chat. -/
def readMessages : Exchange Effect Effect.Reply → List Message
  | ⟨.db (.getMessages _ _), msgs⟩ => msgs
  | _ => []

/-- A program that only looks rows up. -/
abbrev Prog.Lookup {Result : Type} (program : Prog Result) : Prop := program.Uses Effect.Lookup

/-- A program that inserts no row. -/
abbrev Prog.Quiet {Result : Type} (program : Prog Result) : Prop := program.Uses Effect.Quiet

open Program

theorem Prog.Lookup.quiet {Result : Type} {program : Prog Result} (lookup : program.Lookup) :
    program.Quiet :=
  lookup.mono fun _ => Effect.Lookup.quiet

theorem lookup_client (call : ClientCall) : (Prog.client call).Lookup := by
  simp [Effect.Lookup]

theorem uses_lookupChatsById {calls : Effect → Prop}
    (chats : ∀ chatid, calls (.db (.lookupChatById chatid))) (chatids : List Nat) :
    (Prog.lookupChatsById chatids).Uses calls := by
  induction chatids with
  | nil => exact uses_pure _ _
  | cons chatid rest inductionHypothesis =>
      exact .bind (uses_perform.mpr (chats chatid)) fun _ =>
        .bind inductionHypothesis fun _ => uses_pure _ _

theorem lookup_lookupChatsForUserId (uid : Nat) : (Prog.lookupChatsForUserId uid).Lookup :=
  .bind (by simp [Effect.Lookup]) (uses_lookupChatsById fun _ => trivial)

namespace DatabaseWorker

/-- The calls of `lookup_check_pass`. -/
theorem uses_lookupCheckPass {calls : Effect → Prop} {task : Task}
    (lookup : calls (.db (.lookupUserById task.request.uid)))
    (missing : calls
      (.client (.sendErrorResponse 409 .errConstraint (bytes "user does not exist"))))
    (wrong : calls (.client (.sendErrorResponse 403 .errConstraint (bytes "wrong password")))) :
    (lookupCheckPass task).Uses calls := by
  refine .bind (uses_perform.mpr lookup) fun user => ?_
  split
  · exact .bind (uses_perform.mpr missing) fun _ => uses_pure _ _
  · split
    · exact .bind (uses_perform.mpr wrong) fun _ => uses_pure _ _
    · exact uses_pure _ _

/-- The calls of `lookup_check_pass_by_name`. -/
theorem uses_lookupCheckPassByName {calls : Effect → Prop} {name : Bytes} {task : Task}
    {checkPass : Bool} (lookup : calls (.db (.lookupUserByName name)))
    (missing : calls (.client (.sendErrorResponse 404 .errNotFound (bytes "user does not exist"))))
    (wrong : calls (.client (.sendErrorResponse 403 .errConstraint (bytes "wrong password"))))
    (several : calls
      (.client (.sendErrorResponse 500 .errInternal (bytes "more than one user with that name")))) :
    (lookupCheckPassByName name task checkPass).Uses calls := by
  refine .bind (uses_perform.mpr lookup) fun users => ?_
  split
  · exact .bind (uses_perform.mpr missing) fun _ => uses_pure _ _
  · split
    · exact .bind (uses_perform.mpr wrong) fun _ => uses_pure _ _
    · exact uses_pure _ _
  · exact .bind (uses_perform.mpr several) fun _ => uses_pure _ _

theorem lookup_lookupCheckPass (task : Task) : (lookupCheckPass task).Lookup :=
  uses_lookupCheckPass trivial trivial trivial

theorem lookup_lookupCheckPassByName (name : Bytes) (task : Task) (checkPass : Bool) :
    (lookupCheckPassByName name task checkPass).Lookup :=
  uses_lookupCheckPassByName trivial trivial trivial trivial

theorem uses_toApiFormat {calls : Effect → Prop}
    (chats : ∀ chatid, calls (.db (.lookupChatById chatid)))
    (users : ∀ id, calls (.db (.lookupUserById id))) (msgs : List Message) :
    (toApiFormat msgs).Uses calls := by
  induction msgs with
  | nil => exact uses_pure _ _
  | cons msg rest inductionHypothesis =>
      exact .bind (uses_perform.mpr (chats _)) fun _ => .bind (uses_perform.mpr (users _)) fun _ =>
        .bind inductionHypothesis fun _ => uses_pure _ _

theorem uses_toApiFormatBatch {calls : Effect → Prop}
    (chats : ∀ chatid, calls (.db (.lookupChatById chatid)))
    (users : ∀ id, calls (.db (.lookupUserById id))) (batch : List (List Message)) :
    (toApiFormatBatch batch).Uses calls := by
  induction batch with
  | nil => exact uses_pure _ _
  | cons msgs rest inductionHypothesis =>
      exact .bind (uses_toApiFormat chats users msgs) fun _ =>
        .bind inductionHypothesis fun _ => uses_pure _ _

theorem lookup_toApiFormat (msgs : List Message) : (toApiFormat msgs).Lookup :=
  uses_toApiFormat (fun _ => trivial) (fun _ => trivial) msgs

theorem lookup_toApiFormatBatch (batch : List (List Message)) : (toApiFormatBatch batch).Lookup :=
  uses_toApiFormatBatch (fun _ => trivial) (fun _ => trivial) batch

theorem lookup_sendBatch (ping : Bool) (msgsBatch : List (List Message)) :
    (sendBatch ping msgsBatch).Lookup := by
  unfold sendBatch
  split
  · exact .bind (lookup_toApiFormatBatch _) fun _ => lookup_client _
  · split
    · exact lookup_client _
    · exact uses_pure _ _

/-- Answer with the time of the clock. -/
theorem lookup_answer (body : Int → Bytes) :
    (do let now ← Prog.time; Prog.client (.sendOkResponse (body now))).Lookup :=
  .bind (by simp [Effect.Lookup]) fun _ => lookup_client _

theorem uses_readChats {calls : Effect → Prop}
    (reads : ∀ chatid opt, calls (.db (.getMessages chatid opt))) (ts : Int) (chats : List Chat) :
    (readChats ts chats).Uses calls := by
  induction chats with
  | nil => exact uses_pure _ _
  | cons chat rest inductionHypothesis =>
      exact .bind (uses_perform.mpr (reads _ _)) fun _ =>
        .bind inductionHypothesis fun _ => uses_pure _ _

theorem quiet_readChats (ts : Int) (chats : List Chat) : (readChats ts chats).Quiet :=
  uses_readChats (fun _ _ => trivial) ts chats

/-- The guard that most branches begin with. -/
theorem uses_guard {calls : Effect → Prop}
    (lookups : ∀ effect : Effect, effect.Lookup → calls effect) {task : Task}
    {next : User → Prog Unit} (further : ∀ user, (next user).Uses calls) :
    (do
      let user ← lookupCheckPass task
      if user.id = 0 then pure () else next user).Uses calls := by
  refine .bind ((lookup_lookupCheckPass task).mono lookups) fun user => ?_
  split
  · exact uses_pure _ _
  · exact further user

/-- The same guard after a lookup by name. -/
theorem uses_guardByName {calls : Effect → Prop}
    (lookups : ∀ effect : Effect, effect.Lookup → calls effect) {name : Bytes} {task : Task}
    {checkPass : Bool} {next : User → Prog Unit} (further : ∀ user, (next user).Uses calls) :
    (do
      let user ← lookupCheckPassByName name task checkPass
      if user.id = 0 then pure () else next user).Uses calls := by
  refine .bind ((lookup_lookupCheckPassByName name task checkPass).mono lookups) fun user => ?_
  split
  · exact uses_pure _ _
  · exact further user

theorem quiet_guard {task : Task} {next : User → Prog Unit} (further : ∀ user, (next user).Quiet) :
    (do let user ← lookupCheckPass task; if user.id = 0 then pure () else next user).Quiet :=
  uses_guard (fun _ => Effect.Lookup.quiet) further

theorem quiet_guardByName {name : Bytes} {task : Task} {checkPass : Bool}
    {next : User → Prog Unit} (further : ∀ user, (next user).Quiet) :
    (do
      let user ← lookupCheckPassByName name task checkPass
      if user.id = 0 then pure () else next user).Quiet :=
  uses_guardByName (fun _ => Effect.Lookup.quiet) further

theorem quiet_processIdle (task : Task) : (processIdle task).Quiet :=
  quiet_guard fun user => .bind (by simp [Effect.Quiet]) fun _ =>
    .bind (by simp [Effect.Quiet]) fun _ => .bind (lookup_lookupChatsForUserId _).quiet fun _ =>
      .bind (quiet_readChats _ _) fun _ => (lookup_sendBatch _ _).quiet

theorem quiet_processUserStatus (task : Task) : (processUserStatus task).Quiet :=
  quiet_guard fun _ => quiet_guardByName fun _ => (lookup_answer _).quiet

theorem quiet_processUserHistory (sort : TimestampSort) (task : Task) :
    (processUserHistory sort task).Quiet :=
  quiet_guard fun _ => quiet_guardByName fun _ => .bind (by simp [Effect.Quiet]) fun _ =>
    .bind (by simp [Effect.Quiet]) fun _ => .bind (lookup_toApiFormat _).quiet fun _ =>
      (lookup_client _).quiet

theorem quiet_processUserLogin (task : Task) : (processUserLogin task).Quiet :=
  quiet_guardByName fun _ => (lookup_answer _).quiet

theorem quiet_processLocation (task : Task) {lookup : Prog (List Bytes)} (key missing : Bytes)
    (quiet : lookup.Quiet) : (processLocation task lookup key missing).Quiet := by
  refine quiet_guard fun user => .bind quiet fun items => ?_
  split
  · exact (lookup_client _).quiet
  · exact (lookup_answer _).quiet

/-- Only five commands insert anything. -/
theorem quiet_processTask {task : Task} (sort : TimestampSort)
    (noCreate : task.cmd ≠ .userCreate) (noChat : task.cmd ≠ .chatCreate)
    (noMember : task.cmd ≠ .chatAdduser) (noSend : task.cmd ≠ .messageSend)
    (noSendChat : task.cmd ≠ .messageSendChat) : (processTask sort task).Quiet := by
  unfold processTask
  split
  · exact quiet_processIdle task
  · exact quiet_processUserStatus task
  · exact quiet_processUserHistory sort task
  · contradiction
  · contradiction
  · exact quiet_processUserLogin task
  · contradiction
  · contradiction
  · contradiction
  · exact quiet_processLocation task _ _ (by simp [Effect.Quiet])
  · exact quiet_processLocation task _ _ (by simp [Effect.Quiet])
  all_goals exact uses_pure _ _

end DatabaseWorker

/-- The calls that a task can make: it inserts the rows of its own command. -/
def Effect.OwnOf (task : Task) : Effect → Prop
  | .db (.createUser name pass _ _ _) =>
      task.cmd = .userCreate ∧ name = task.request.user ∧
        pass = encryptedPass task.request.password
  | .db (.createChat name uid) =>
      task.cmd = .chatCreate ∧ name = task.request.chat.name ∧ uid = task.request.uid
  | .db (.addUserToChat _ _) => task.cmd = .chatAdduser
  | .db (.saveMessage msg) =>
      (task.cmd = .messageSend ∨ task.cmd = .messageSendChat) ∧
        msg.message = task.request.message
  | _ => True

theorem Effect.Quiet.ownOf {effect : Effect} (quiet : effect.Quiet) (task : Task) :
    effect.OwnOf task := by
  unfold OwnOf
  split <;> first | exact quiet.elim | trivial

namespace DatabaseWorker

theorem own_storeMessage {task : Task} (userFrom chatTo : Nat)
    (sends : task.cmd = .messageSend ∨ task.cmd = .messageSendChat) :
    (storeMessage userFrom chatTo task.request.message).Uses (Effect.OwnOf task) :=
  .bind (uses_perform.mpr trivial) fun _ => .bind (uses_perform.mpr ⟨sends, rfl⟩) fun _ =>
    uses_perform.mpr trivial

/-- What a task inserts is what its command asks for. -/
theorem own_processTask (sort : TimestampSort) (task : Task) :
    (processTask sort task).Uses (Effect.OwnOf task) := by
  have lookups : ∀ effect : Effect, effect.Lookup → effect.OwnOf task :=
    fun _ found => found.quiet.ownOf task
  have client : ∀ call : ClientCall, (Prog.client call).Uses (Effect.OwnOf task) :=
    fun call => (lookup_client call).mono lookups
  cases command : task.cmd with
  | userCreate =>
      simp only [processTask, command]
      refine .bind (uses_perform.mpr ⟨command, rfl, rfl⟩) fun user => ?_
      split
      · exact client _
      · exact (lookup_answer _).mono lookups
  | messageSend =>
      simp only [processTask, command]
      refine uses_guard lookups fun user => .bind (uses_perform.mpr trivial) fun usersTo => ?_
      split
      · exact client _
      · exact own_storeMessage _ _ (.inl command)
      · exact client _
  | messageSendChat =>
      simp only [processTask, command]
      refine uses_guard lookups fun user => .bind (uses_perform.mpr trivial) fun chats => ?_
      split
      · exact own_storeMessage _ _ (.inr command)
      · exact client _
  | chatCreate =>
      simp only [processTask, command]
      refine uses_guard lookups fun user =>
        .bind (uses_perform.mpr ⟨command, rfl, rfl⟩) fun chat => ?_
      split
      · exact client _
      · exact (lookup_answer _).mono lookups
  | chatAdduser =>
      simp only [processTask, command]
      refine uses_guard lookups fun user => uses_guardByName lookups fun toAdd => ?_
      refine .bind (uses_perform.mpr trivial) fun chats => ?_
      split
      · exact .bind (uses_perform.mpr command) fun _ => client _
      · exact client _
  | _ =>
      refine (quiet_processTask sort ?_ ?_ ?_ ?_ ?_).mono fun _ quiet => quiet.ownOf task
      all_goals simp [command]

end DatabaseWorker

end GeoChat
