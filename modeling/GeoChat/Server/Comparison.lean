import GeoChat.Library.Parallel
import GeoChat.Server.Calls
import GeoChat.Server.Store.Serving

/-!
# One task over two storages

What two workers do with the same task over storages that differ in some of
what they know of users. A comparison says how users correspond; the programs
of the tasks are then parallel, since they look at no more of a user than the
id, the own chat, the name, and whether the password of the task is right.
-/

namespace GeoChat

open Library Program

/-- A call that tasks make on both storages, whatever these know of users. -/
def DbOp.Common : DbOp → Prop
  | .saveMessage _ | .getMessages .. | .selectMessages .. | .getAllUsersFromLocation _
  | .lookupUserByCity _ => False
  | _ => True

/-- An effect whose replies do not show users that were looked up, nor the time. -/
def Effect.Settled : Effect → Prop
  | .time => False
  | .db (.lookupUserById _) | .db (.lookupUserByName _) | .db (.lookupUserByCity _) => False
  | _ => True

/-- How users correspond, what the clocks of both sides can say, and which calls
both sides answer alike. -/
structure Comparison where
  alike : User → User → Prop
  clock : Int → Prop
  mirrored : DbOp → Prop
  id : ∀ {user row}, alike user row → user.id = row.id
  selfChatId : ∀ {user row}, alike user row → user.selfChatId = row.selfChatId
  name : ∀ {user row}, alike user row → user.name = row.name
  none : alike {} {}
  common : ∀ {op : DbOp}, op.Common → mirrored op
  saves : ∀ {msg : Message}, clock msg.ts → mirrored (.saveMessage msg)

namespace Comparison

variable (comparison : Comparison) (task : Task)

def Permits : Effect → Prop
  | .db op => comparison.mirrored op
  | _ => True

/-- Bodies that show users that correspond. Two commands answer with a user whom
they have looked up. -/
def ShowsAlike (first second : Bytes) : Prop :=
  (task.cmd = .userStatus ∨ task.cmd = .userLogin) ∧
    ∃ user row now, comparison.alike user row ∧
      first = ApiclientUtils.okBodyOfUser user now ∧
      second = ApiclientUtils.okBodyOfUser row now

/-- Calls that differ in no more than users that correspond. -/
inductive Similar : Effect → Effect → Prop
  | same {effect : Effect} (permitted : comparison.Permits effect) : Similar effect effect
  | heartbit {user row : User} {ts : Int} (alike : comparison.alike user row) :
      Similar (.db (.updateUserHeartBit user ts)) (.db (.updateUserHeartBit row ts))
  | addUser {chat : Chat} {user row : User} (alike : comparison.alike user row) :
      Similar (.db (.addUserToChat chat user)) (.db (.addUserToChat chat row))
  | shown {first second : Bytes} (shows : comparison.ShowsAlike task first second) :
      Similar (.client (.sendOkResponse first)) (.client (.sendOkResponse second))

/-- The same for calls with their replies. -/
inductive Agree : Exchange Effect Effect.Reply → Exchange Effect Effect.Reply → Prop
  | same {effect : Effect} {reply : effect.Reply} (settled : effect.Settled) :
      Agree ⟨effect, reply⟩ ⟨effect, reply⟩
  | time {now : Int} (told : comparison.clock now) : Agree ⟨.time, now⟩ ⟨.time, now⟩
  | userById {id : Nat} {user row : User} (alike : comparison.alike user row)
      (own : user.id = id ∨ user.id = 0) :
      Agree ⟨.db (.lookupUserById id), user⟩ ⟨.db (.lookupUserById id), row⟩
  | usersByName {name : Bytes} {users rows : List User}
      (alike : List.Forall₂ comparison.alike users rows)
      (own : ∀ user ∈ users, user.name = name) :
      Agree ⟨.db (.lookupUserByName name), users⟩ ⟨.db (.lookupUserByName name), rows⟩
  | heartbit {user row : User} {ts : Int} (alike : comparison.alike user row) :
      Agree ⟨.db (.updateUserHeartBit user ts), ()⟩ ⟨.db (.updateUserHeartBit row ts), ()⟩
  | addUser {chat : Chat} {user row : User} (alike : comparison.alike user row) :
      Agree ⟨.db (.addUserToChat chat user), ()⟩ ⟨.db (.addUserToChat chat row), ()⟩
  | shown {first second : Bytes} (shows : comparison.ShowsAlike task first second) :
      Agree ⟨.client (.sendOkResponse first), ()⟩ ⟨.client (.sendOkResponse second), ()⟩

/-- Programs of one task on the two sides. -/
abbrev Par {First Second : Type} (accepted : First → Second → Prop) (one : Prog First)
    (two : Prog Second) : Prop :=
  Parallel (comparison.Similar task) (comparison.Agree task) accepted one two

/-- The password of the task is right on both sides or on none. -/
structure Judged : Prop where
  byId : task.cmd ≠ .userCreate → task.cmd ≠ .userLogin → ∀ user row, comparison.alike user row →
    user.id = task.request.uid →
    (encryptedPass task.request.password = user.password ↔
      encryptedPass task.request.password = row.password)
  byName : task.cmd = .userLogin → ∀ user row, comparison.alike user row →
    user.name = task.request.user →
    (encryptedPass task.request.password = user.password ↔
      encryptedPass task.request.password = row.password)

/-- A task whose calls both sides answer alike. -/
structure Covers : Prop where
  judged : comparison.Judged task
  reads : task.cmd = .idle → ∀ chatid, comparison.mirrored (.getMessages chatid
    { ts := task.request.ts })
  selects : task.cmd = .userHistory → ∀ pred opt, comparison.mirrored (.selectMessages pred opt)
  locates : task.cmd = .chatWithLocation → ∀ city,
    comparison.mirrored (.getAllUsersFromLocation city)

variable {comparison task}

theorem Agree.determined {effect : Effect} {reply answer : effect.Reply}
    (settled : effect.Settled) (agrees : comparison.Agree task ⟨effect, reply⟩ ⟨effect, answer⟩) :
    reply = answer := by
  cases agrees with
  | same => rfl
  | time => exact settled.elim
  | userById => exact settled.elim
  | usersByName => exact settled.elim
  | heartbit => rfl
  | addUser => rfl
  | shown => rfl

theorem Agree.of_eq {effect : Effect} {reply answer : effect.Reply} (settled : effect.Settled)
    (same : reply = answer) : comparison.Agree task ⟨effect, reply⟩ ⟨effect, answer⟩ :=
  same ▸ .same settled

theorem Agree.times {now time : Int} (agrees : comparison.Agree task ⟨.time, now⟩ ⟨.time, time⟩) :
    now = time ∧ comparison.clock now := by
  cases agrees with
  | same settled => exact settled.elim
  | time told => exact ⟨rfl, told⟩

theorem Agree.usersAlike {id : Nat} {user row : User}
    (agrees : comparison.Agree task ⟨.db (.lookupUserById id), user⟩
      ⟨.db (.lookupUserById id), row⟩) :
    comparison.alike user row ∧ (user.id = id ∨ user.id = 0) := by
  cases agrees with
  | same settled => exact settled.elim
  | userById alike own => exact ⟨alike, own⟩

theorem Agree.listsAlike {name : Bytes} {users rows : List User}
    (agrees : comparison.Agree task ⟨.db (.lookupUserByName name), users⟩
      ⟨.db (.lookupUserByName name), rows⟩) :
    List.Forall₂ comparison.alike users rows ∧ ∀ user ∈ users, user.name = name := by
  cases agrees with
  | same settled => exact settled.elim
  | usersByName alike own => exact ⟨alike, own⟩

section Rules

variable {First Second : Type} {accepted : First → Second → Prop}

theorem par_db (op : DbOp) (mirrored : comparison.mirrored op) (settled : (Effect.db op).Settled)
    {next : op.Result → Prog First} {other : op.Result → Prog Second}
    (continues : ∀ reply, comparison.Par task accepted (next reply) (other reply)) :
    comparison.Par task accepted (Prog.db op >>= next) (Prog.db op >>= other) := by
  refine parallel_perform (.same mirrored) fun reply answer agrees => ?_
  rw [← agrees.determined settled]
  exact continues reply

theorem par_common (op : DbOp) (common : op.Common) (settled : (Effect.db op).Settled)
    {next : op.Result → Prog First} {other : op.Result → Prog Second}
    (continues : ∀ reply, comparison.Par task accepted (next reply) (other reply)) :
    comparison.Par task accepted (Prog.db op >>= next) (Prog.db op >>= other) :=
  par_db op (comparison.common common) settled continues

theorem par_time {next : Int → Prog First} {other : Int → Prog Second}
    (continues : ∀ now, comparison.clock now →
      comparison.Par task accepted (next now) (other now)) :
    comparison.Par task accepted (Prog.time >>= next) (Prog.time >>= other) := by
  refine parallel_perform (.same trivial) fun now time agrees => ?_
  obtain ⟨rfl, told⟩ := agrees.times
  exact continues now told

theorem par_client (call : ClientCall) {next : Unit → Prog First} {other : Unit → Prog Second}
    (continues : comparison.Par task accepted (next ()) (other ())) :
    comparison.Par task accepted (Prog.client call >>= next) (Prog.client call >>= other) :=
  parallel_perform (.same trivial) fun _ _ _ => continues

theorem par_userById {id : Nat} {next : User → Prog First} {other : User → Prog Second}
    (continues : ∀ user row, comparison.alike user row → (user.id = id ∨ user.id = 0) →
      comparison.Par task accepted (next user) (other row)) :
    comparison.Par task accepted (Prog.db (.lookupUserById id) >>= next)
      (Prog.db (.lookupUserById id) >>= other) := by
  refine parallel_perform (.same (comparison.common trivial)) fun user row agrees => ?_
  exact continues user row agrees.usersAlike.1 agrees.usersAlike.2

theorem par_usersByName {name : Bytes} {next : List User → Prog First}
    {other : List User → Prog Second}
    (continues : ∀ users rows, List.Forall₂ comparison.alike users rows →
      (∀ user ∈ users, user.name = name) →
      comparison.Par task accepted (next users) (other rows)) :
    comparison.Par task accepted (Prog.db (.lookupUserByName name) >>= next)
      (Prog.db (.lookupUserByName name) >>= other) := by
  refine parallel_perform (.same (comparison.common trivial)) fun users rows agrees => ?_
  exact continues users rows agrees.listsAlike.1 agrees.listsAlike.2

/-- A program all of whose calls are answered the same. -/
theorem par_self {program : Prog First}
    (uses : program.Uses fun effect => comparison.Permits effect ∧ effect.Settled) :
    comparison.Par task Eq program program :=
  uses.parallel (fun _ both => .same both.1) fun _ _ _ both agrees => agrees.determined both.2

theorem par_ite {condition : Prop} [Decidable condition] {one other : Prog First}
    {two another : Prog Second} (whenTrue : comparison.Par task accepted one two)
    (whenFalse : comparison.Par task accepted other another) :
    comparison.Par task accepted (if condition then one else other)
      (if condition then two else another) := by
  split
  · exact whenTrue
  · exact whenFalse

end Rules

/-- An answer ends the task. -/
theorem par_answer (call : ClientCall) :
    comparison.Par task (fun _ _ => True) (Prog.client call) (Prog.client call) :=
  ⟨.same trivial, fun _ _ _ => trivial⟩

end Comparison

namespace DatabaseWorker

open Comparison ApiclientUtils

variable {comparison : Comparison} {task : Task} {next other : User → Prog Unit}

/-- The guard of most branches lets corresponding users pass. -/
theorem par_guard
    (judged : ∀ user row, comparison.alike user row → user.id = task.request.uid →
      (encryptedPass task.request.password = user.password ↔
        encryptedPass task.request.password = row.password))
    (further : ∀ user row, comparison.alike user row →
      comparison.Par task (fun _ _ => True) (next user) (other row)) :
    comparison.Par task (fun _ _ => True)
      (do
        let user ← lookupCheckPass task
        if user.id = 0 then pure () else next user)
      (do
        let user ← lookupCheckPass task
        if user.id = 0 then pure () else other user) := by
  unfold lookupCheckPass
  simp only [bind_assoc]
  refine par_userById fun user row alike own => ?_
  have sameId := comparison.id alike
  by_cases missing : user.id = 0
  · have missingRow : row.id = 0 := sameId.symm.trans missing
    simp only [missing, missingRow, if_true, bind_assoc]
    exact par_client _ trivial
  · have presentRow : ¬ row.id = 0 := fun zero => missing (sameId.trans zero)
    have sameVerdict := judged user row alike (own.resolve_right missing)
    simp only [missing, presentRow, if_false, ne_eq, sameVerdict]
    by_cases right : encryptedPass task.request.password = row.password
    · simp only [right, not_true_eq_false, if_false, pure_bind, missing, presentRow]
      exact further user row alike
    · simp only [right, not_false_eq_true, if_true, bind_assoc]
      exact par_client _ trivial

/-- So does the guard by name. -/
theorem par_guardByName {name : Bytes} {check : Bool}
    (judged : check = true → ∀ user row, comparison.alike user row → user.name = name →
      (encryptedPass task.request.password = user.password ↔
        encryptedPass task.request.password = row.password))
    (further : ∀ user row, comparison.alike user row →
      comparison.Par task (fun _ _ => True) (next user) (other row)) :
    comparison.Par task (fun _ _ => True)
      (do
        let user ← lookupCheckPassByName name task check
        if user.id = 0 then pure () else next user)
      (do
        let user ← lookupCheckPassByName name task check
        if user.id = 0 then pure () else other user) := by
  unfold lookupCheckPassByName
  simp only [bind_assoc]
  refine par_usersByName fun users rows alike own => ?_
  cases alike with
  | nil =>
      simp only [bind_assoc]
      exact par_client _ trivial
  | @cons user row others rest first remaining =>
      cases remaining with
      | cons =>
          simp only [bind_assoc]
          exact par_client _ trivial
      | nil =>
          have sameVerdict : (check && decide (encryptedPass task.request.password ≠
              user.password)) =
              (check && decide (encryptedPass task.request.password ≠ row.password)) := by
            cases check with
            | false => rfl
            | true => simp [judged rfl user row first (own user List.mem_cons_self)]
          simp only [sameVerdict]
          split
          · simp only [bind_assoc]
            exact par_client _ trivial
          · simp only [pure_bind, comparison.id first]
            refine par_ite trivial (further user row first)

theorem par_storeMessage (userFrom chatTo : Nat) (text : Bytes) :
    comparison.Par task (fun _ _ => True) (storeMessage userFrom chatTo text)
      (storeMessage userFrom chatTo text) :=
  par_time fun _ told =>
    par_db (.saveMessage _) (comparison.saves told) trivial fun _ => par_answer _

theorem par_timed (body : Int → Bytes) :
    comparison.Par task (fun _ _ => True)
      (do let now ← Prog.time; Prog.client (.sendOkResponse (body now)))
      (do let now ← Prog.time; Prog.client (.sendOkResponse (body now))) :=
  par_time fun _ _ => par_answer _

/-- The same user, as both sides show them. -/
theorem par_shown (shows : task.cmd = .userStatus ∨ task.cmd = .userLogin) {user row : User}
    (alike : comparison.alike user row) :
    comparison.Par task (fun _ _ => True)
      (do let now ← Prog.time; Prog.client (.sendOkResponse (okBodyOfUser user now)))
      (do let now ← Prog.time; Prog.client (.sendOkResponse (okBodyOfUser row now))) :=
  par_time fun now _ => ⟨.shown ⟨shows, user, row, now, alike, rfl, rfl⟩, fun _ _ _ => trivial⟩

theorem par_toApiFormat (msgs : List Message) :
    comparison.Par task Eq (toApiFormat msgs) (toApiFormat msgs) := by
  induction msgs with
  | nil => exact rfl
  | cons msg rest inductionHypothesis =>
      refine par_common (.lookupChatById _) trivial trivial fun chat => ?_
      refine par_userById fun user row alike _ => ?_
      refine Parallel.bind inductionHypothesis ?_
      rintro first second rfl
      exact congrArg (fun name => ApiMessage.mk _ name _ _ :: first) (comparison.name alike)

theorem par_toApiFormatBatch (batch : List (List Message)) :
    comparison.Par task Eq (toApiFormatBatch batch) (toApiFormatBatch batch) := by
  induction batch with
  | nil => exact rfl
  | cons msgs rest inductionHypothesis =>
      refine Parallel.bind (par_toApiFormat msgs) ?_
      rintro first second rfl
      refine Parallel.bind inductionHypothesis ?_
      rintro others remaining rfl
      exact rfl

theorem par_readChats {ts : Int} (mirrored : ∀ chatid, comparison.mirrored (.getMessages chatid
    { ts })) (chats : List Chat) :
    comparison.Par task Eq (readChats ts chats) (readChats ts chats) := by
  induction chats with
  | nil => exact rfl
  | cons chat rest inductionHypothesis =>
      refine par_db (.getMessages _ _) (mirrored chat.id) trivial fun msgs => ?_
      refine Parallel.bind inductionHypothesis ?_
      rintro first second rfl
      exact rfl

theorem par_sendBatch (ping : Bool) (batch : List (List Message)) :
    comparison.Par task (fun _ _ => True) (sendBatch ping batch) (sendBatch ping batch) := by
  unfold sendBatch
  refine par_ite ?_ (par_ite (par_answer _) trivial)
  refine Parallel.bind (par_toApiFormatBatch batch) ?_
  rintro first second rfl
  exact par_answer _

theorem par_lookupChatsForUserId (uid : Nat) :
    comparison.Par task Eq (Prog.lookupChatsForUserId uid) (Prog.lookupChatsForUserId uid) := by
  have links : comparison.mirrored (.chatidsForUserId uid) := comparison.common trivial
  have chats : ∀ chatid, comparison.mirrored (.lookupChatById chatid) :=
    fun _ => comparison.common trivial
  exact par_self (.bind (uses_perform.mpr ⟨links, trivial⟩) fun _ =>
    uses_lookupChatsById (fun chatid => ⟨chats chatid, trivial⟩) _)

variable (covers : comparison.Covers task)

include covers

theorem par_processIdle (command : task.cmd = .idle) :
    comparison.Par task (fun _ _ => True) (processIdle task) (processIdle task) := by
  refine par_guard (covers.judged.byId (by simp [command]) (by simp [command])) ?_
  intro user row alike
  refine par_time fun now _ => parallel_perform (.heartbit alike) fun _ _ _ => ?_
  rw [comparison.id alike]
  refine Parallel.bind (par_lookupChatsForUserId row.id) ?_
  rintro chats others rfl
  refine Parallel.bind (par_readChats (covers.reads command) chats) ?_
  rintro batch second rfl
  exact par_sendBatch task.ping batch

theorem par_processUserStatus (command : task.cmd = .userStatus) :
    comparison.Par task (fun _ _ => True) (processUserStatus task) (processUserStatus task) := by
  refine par_guard (covers.judged.byId (by simp [command]) (by simp [command])) ?_
  intro requester twin _
  refine par_guardByName (fun never => by cases never) fun user row alike => ?_
  exact par_shown (.inl command) alike

theorem par_processUserHistory (sort : TimestampSort) (command : task.cmd = .userHistory) :
    comparison.Par task (fun _ _ => True) (processUserHistory sort task)
      (processUserHistory sort task) := by
  refine par_guard (covers.judged.byId (by simp [command]) (by simp [command])) ?_
  intro userFrom rowFrom alikeFrom
  refine par_guardByName (fun never => by cases never) fun userTo rowTo alikeTo => ?_
  rw [comparison.id alikeFrom, comparison.selfChatId alikeFrom, comparison.id alikeTo,
    comparison.selfChatId alikeTo]
  refine par_db (.selectMessages _ _) (covers.selects command _ _) trivial fun msgsTo => ?_
  refine par_db (.selectMessages _ _) (covers.selects command _ _) trivial fun msgsFrom => ?_
  refine Parallel.bind (par_toApiFormat _) ?_
  rintro first second rfl
  exact par_answer _

theorem par_processMessageSend (command : task.cmd = .messageSend) :
    comparison.Par task (fun _ _ => True) (processMessageSend task) (processMessageSend task) := by
  refine par_guard (covers.judged.byId (by simp [command]) (by simp [command])) ?_
  intro user row alike
  refine par_usersByName fun users rows found _ => ?_
  rw [comparison.id alike]
  cases found with
  | nil => exact par_answer _
  | cons first remaining =>
      cases remaining with
      | cons => exact par_answer _
      | nil =>
          simp only [comparison.selfChatId first]
          exact par_storeMessage _ _ _

theorem par_processUserLogin (command : task.cmd = .userLogin) :
    comparison.Par task (fun _ _ => True) (processUserLogin task) (processUserLogin task) :=
  par_guardByName (fun _ => covers.judged.byName command) fun _ _ alike =>
    par_shown (.inr command) alike

theorem par_processChatCreate (command : task.cmd = .chatCreate) :
    comparison.Par task (fun _ _ => True) (processChatCreate task) (processChatCreate task) := by
  refine par_guard (covers.judged.byId (by simp [command]) (by simp [command])) fun _ _ _ => ?_
  refine par_common (.createChat _ _) trivial trivial fun chat => ?_
  exact par_ite (par_answer _) (par_timed _)

theorem par_processChatAdduser (command : task.cmd = .chatAdduser) :
    comparison.Par task (fun _ _ => True) (processChatAdduser task) (processChatAdduser task) := by
  refine par_guard (covers.judged.byId (by simp [command]) (by simp [command])) fun _ _ _ => ?_
  refine par_guardByName (fun never => by cases never) fun user row alike => ?_
  refine par_common (.lookupChatByName _) trivial trivial fun chats => ?_
  split
  · exact parallel_perform (.addUser alike) fun _ _ _ => par_answer _
  · exact par_answer _

theorem par_processMessageSendChat (command : task.cmd = .messageSendChat) :
    comparison.Par task (fun _ _ => True) (processMessageSendChat task)
      (processMessageSendChat task) := by
  refine par_guard (covers.judged.byId (by simp [command]) (by simp [command])) ?_
  intro user row alike
  refine par_common (.lookupChatByName _) trivial trivial fun chats => ?_
  rw [comparison.id alike]
  split
  · exact par_storeMessage _ _ _
  · exact par_answer _

theorem par_processLocation (guarded : task.cmd ≠ .userCreate ∧ task.cmd ≠ .userLogin)
    {lookup : Prog (List Bytes)} (key missing : Bytes)
    (looked : comparison.Par task Eq lookup lookup) :
    comparison.Par task (fun _ _ => True) (processLocation task lookup key missing)
      (processLocation task lookup key missing) := by
  refine par_guard (covers.judged.byId guarded.1 guarded.2) fun _ _ _ => ?_
  refine Parallel.bind looked ?_
  rintro items others rfl
  exact par_ite (par_answer _) (par_timed _)

omit covers in
theorem par_processUserCreate :
    comparison.Par task (fun _ _ => True) (processUserCreate task) (processUserCreate task) := by
  refine par_common (.createUser _ _ _ _ _) trivial trivial fun user => ?_
  exact par_ite (par_answer _) (par_timed _)

/-- The two sides process a task in parallel. -/
theorem par_processTask (sort : TimestampSort) :
    comparison.Par task (fun _ _ => True) (processTask sort task) (processTask sort task) := by
  have lookup : ∀ {op : DbOp}, comparison.mirrored op → (Effect.db op).Settled →
      comparison.Par task Eq (Prog.db op) (Prog.db op) :=
    fun mirrored settled => par_self (uses_perform.mpr ⟨mirrored, settled⟩)
  unfold processTask
  cases command : task.cmd with
  | idle => exact par_processIdle covers command
  | userStatus => exact par_processUserStatus covers command
  | userHistory => exact par_processUserHistory covers sort command
  | messageSend => exact par_processMessageSend covers command
  | userCreate => exact par_processUserCreate
  | userLogin => exact par_processUserLogin covers command
  | chatCreate => exact par_processChatCreate covers command
  | chatAdduser => exact par_processChatAdduser covers command
  | messageSendChat => exact par_processMessageSendChat covers command
  | getLocations =>
      have mirrored : comparison.mirrored .getAllDistinctLocations := comparison.common trivial
      exact par_processLocation covers (by simp [command]) _ _ (lookup mirrored trivial)
  | chatWithLocation =>
      exact par_processLocation covers (by simp [command]) _ _
        (lookup (covers.locates command _) trivial)
  | chatHistory | chatStatus | messageRecent | cmdLast => exact trivial

end DatabaseWorker

namespace Comparison

variable {comparison : Comparison} {task : Task}

/-- Answers that differ in no more than a user that is shown. -/
def AnswersAlike (comparison : Comparison) (task : Task) (one two : ClientCall) : Prop :=
  one = two ∨ ∃ first second, comparison.ShowsAlike task first second ∧
    one = .sendOkResponse first ∧ two = .sendOkResponse second

theorem Agree.clientCalls {one two : Exchange Effect Effect.Reply}
    (agrees : comparison.Agree task one two) :
    List.Forall₂ (comparison.AnswersAlike task) (GeoChat.clientCalls one)
      (GeoChat.clientCalls two) := by
  cases agrees with
  | same => exact List.forall₂_same.mpr fun _ _ => .inl rfl
  | time => exact .nil
  | userById => exact .nil
  | usersByName => exact .nil
  | heartbit => exact .nil
  | addUser => exact .nil
  | shown shows => exact .cons (.inr ⟨_, _, shows, rfl, rfl⟩) .nil

/-- Workers that are alike have told their clients the same, up to users that are
shown. -/
theorem answersAlike {one two : Worker Task Effect Effect.Reply}
    (alike : one.Alike comparison.Similar comparison.Agree two) :
    List.Forall₂ (comparison.AnswersAlike one.task) (one.history.flatMap GeoChat.clientCalls)
      (two.history.flatMap GeoChat.clientCalls) := by
  have history := alike.history
  generalize one.history = exchanges, two.history = others at history
  induction history with
  | nil => exact .nil
  | cons first _ inductionHypothesis =>
      rw [List.flatMap_cons, List.flatMap_cons]
      exact List.rel_append first.clientCalls inductionHypothesis

end Comparison

end GeoChat
