import GeoChat.Server.Store.Invariant

/-!
# Tasks one after another

What a task does when nothing interrupts it. Such runs are schedules of the
pool, so the invariants of the interleavings hold for them.
-/

namespace GeoChat

open Library Program

namespace InMemory

/-- The user that `lookup_check_pass` accepts, or the row of id `0`. -/
def checkPass (task : Task) (storage : Storage) : User :=
  let user := lookupUserById task.request.uid storage
  if user.id = 0 then {}
  else if encryptedPass task.request.password ≠ user.password then {}
  else user

/-- The user that `lookup_check_pass_by_name` accepts. -/
def checkPassByName (name : Bytes) (task : Task) (checkPass : Bool) (storage : Storage) : User :=
  match lookupUserByName name storage with
  | [user] =>
      if checkPass && encryptedPass task.request.password ≠ user.password then {} else user
  | _ => {}

variable (now : Int) (storage : Storage)

@[simp]
theorem handle_db (op : DbOp) : handle now (.db op) storage = exec op storage := rfl

@[simp]
theorem handle_time : handle now .time storage = (now, storage) := rfl

@[simp]
theorem handle_client (call : ClientCall) : handle now (.client call) storage = ((), storage) :=
  rfl

theorem run_lookupCheckPass (task : Task) :
    (DatabaseWorker.lookupCheckPass task).run (handle now) storage =
      (checkPass task storage, storage) := by
  simp only [DatabaseWorker.lookupCheckPass, checkPass, perform_bind, run_call, handle_db, exec]
  by_cases missing : (lookupUserById task.request.uid storage).id = 0
  · simp only [missing, if_true, run_call, run_pure, handle_client]
  · by_cases wrong : encryptedPass task.request.password ≠
      (lookupUserById task.request.uid storage).password
    · simp only [missing, if_false, wrong, if_true, run_call, run_pure, handle_client, ne_eq,
        not_false_eq_true]
    · simp only [missing, if_false, wrong, run_pure]

theorem run_lookupCheckPassByName (name : Bytes) (task : Task) (check : Bool) :
    (DatabaseWorker.lookupCheckPassByName name task check).run (handle now) storage =
      (checkPassByName name task check storage, storage) := by
  simp only [DatabaseWorker.lookupCheckPassByName, checkPassByName, perform_bind, run_call,
    handle_db, exec]
  split
  next empty =>
    simp only [empty]
    rfl
  next user single =>
    simp only [single]
    split <;> rfl
  next notEmpty notSingle =>
    split
    · exact absurd ‹_› (notSingle _)
    · rfl

theorem run_lookupEach {Row : Type} {lookup : Nat → Prog Row} {found : Nat → Row}
    (same : ∀ id, (lookup id).run (handle now) storage = (found id, storage)) (ids : List Nat) :
    (Prog.lookupEach lookup ids).run (handle now) storage = (ids.map found, storage) := by
  induction ids with
  | nil => rfl
  | cons id rest inductionHypothesis =>
      simp only [Prog.lookupEach, run_bind, same, inductionHypothesis, run_pure, List.map_cons]

theorem run_lookupChatsById (chatids : List Nat) :
    (Prog.lookupChatsById chatids).run (handle now) storage =
      (chatids.map (lookupChatById · storage), storage) :=
  run_lookupEach now storage (fun _ => rfl) chatids

/-- Without other workers the program is the call. -/
theorem run_lookupChatsForUserId (uid : Nat) :
    (Prog.lookupChatsForUserId uid).run (handle now) storage =
      (lookupChatsForUserId uid storage, storage) :=
  run_lookupChatsById now storage _

theorem run_lookupUsersForChatId (chatid : Nat) :
    (Prog.lookupUsersForChatId chatid).run (handle now) storage =
      (lookupUsersForChatId chatid storage, storage) :=
  run_lookupEach now storage (fun _ => rfl) _

theorem checkPass_accepts (task : Task) :
    (checkPass task storage).id ≠ 0 ↔
      (lookupUserById task.request.uid storage).id ≠ 0 ∧
        encryptedPass task.request.password =
          (lookupUserById task.request.uid storage).password := by
  unfold checkPass
  simp only
  split
  next missing => simp [missing]
  next present =>
    split
    next wrong => simp [wrong]
    next right => simp [present, not_not.mp right]

theorem checkPassByName_accepts {name : Bytes} {user : User} (task : Task)
    (single : lookupUserByName name storage = [user]) :
    (checkPassByName name task true storage).id ≠ 0 ↔
      user.id ≠ 0 ∧ encryptedPass task.request.password = user.password := by
  unfold checkPassByName
  simp only [single, Bool.true_and, decide_eq_true_eq]
  split
  next wrong => simp [wrong]
  next right => simp [not_not.mp right]

theorem checkPass_of_accepted {task : Task} (accepted : (checkPass task storage).id ≠ 0) :
    checkPass task storage = lookupUserById task.request.uid storage ∧
      encryptedPass task.request.password =
        (lookupUserById task.request.uid storage).password := by
  obtain ⟨present, right⟩ := (checkPass_accepts storage task).mp accepted
  refine ⟨?_, right⟩
  unfold checkPass
  simp only [if_neg present, if_neg (not_not.mpr right)]

/-- The user whom the id finds is accepted with the right password. -/
theorem checkPass_of_found {task : Task} {user : User}
    (found : lookupUserById task.request.uid storage = user) (present : user.id ≠ 0)
    (right : encryptedPass task.request.password = user.password) :
    checkPass task storage = user := by
  simp only [checkPass, found, present, right, if_false, ne_eq, not_true_eq_false]

/-- A user that `lookup_check_pass` accepts is stored under the id of the task. -/
theorem checkPass_mem {task : Task} (accepted : (checkPass task storage).id ≠ 0) :
    checkPass task storage ∈ storage.users ∧
      (checkPass task storage).id = task.request.uid := by
  obtain ⟨same, -⟩ := checkPass_of_accepted storage accepted
  rw [same] at accepted ⊢
  obtain missing | found := lookupUserById_cases task.request.uid storage
  · exact absurd (congrArg User.id missing) accepted
  · exact found

end InMemory

namespace DatabaseWorker

open InMemory

/-- The storage after an uninterrupted task. -/
def after (sort : TimestampSort) (now : Int) (task : Task) (storage : Storage) : Storage :=
  ((processTask sort task).run (handle now) storage).2

/-- One worker that processes tasks one after another. The clock stands still
during a task, in which it is read at most once. -/
def sequence (sort : TimestampSort) : System Storage (Task × Int) where
  step storage event := some (after sort event.2 event.1 storage)

/-- Every sequence of tasks is a schedule of the workers. -/
theorem workers_of_sequence {sort : TimestampSort} {condition : Storage → Task × Int → Prop}
    {start storage : Storage}
    (reached : (sequence sort).ReachesWithin condition start storage) :
    ∃ finished, (workers sort).Reaches ⟨start, []⟩ ⟨storage, finished⟩ := by
  induction reached with
  | start => exact ⟨[], .start⟩
  | @step middle next event _ _ stepped inductionHypothesis =>
      rcases inductionHypothesis with ⟨before, reachedBefore⟩
      cases Option.some.inj stepped
      rcases Pool.reaches_run (processTask sort) handle event.2 event.1 middle before with
        ⟨rest, further⟩
      exact ⟨_, reachedBefore.trans further⟩

theorem numbered_of_sequence {sort : TimestampSort} {condition : Storage → Task × Int → Prop}
    {storage : Storage} (reached : (sequence sort).ReachesWithin condition {} storage)
    (room : storage.creations + 1 < 2 ^ 64) : storage.Numbered := by
  rcases workers_of_sequence reached with ⟨finished, scheduled⟩
  exact numbered_of_reaches scheduled room

/-- A task never takes a chat away. -/
theorem after_creations (sort : TimestampSort) (now : Int) (task : Task) (storage : Storage) :
    storage.creations ≤ (after sort now task storage).creations :=
  (uses_trivial (processTask sort task)).run_related
    (fun before later => before.creations ≤ later.creations) (fun _ => le_rfl)
    (fun _ _ _ => le_trans)
    (fun effect storage _ => (handle_grows now effect storage).2.length_le) storage

section Storage

variable (sort : TimestampSort) (now : Int) {task : Task} (storage : Storage)

theorem after_userCreate (command : task.cmd = .userCreate) :
    after sort now task storage =
      (createUser task.request.user (encryptedPass task.request.password) task.storage
        task.request.ipAddress task.request.city storage).2 := by
  simp only [after, processTask, command, processUserCreate, perform_bind, run_call, handle_db,
    exec]
  by_cases failed : (createUser task.request.user (encryptedPass task.request.password)
    task.storage task.request.ipAddress task.request.city storage).1.id = 0
  · simp only [failed, if_true]
    rfl
  · simp only [failed, if_false]
    rfl

theorem after_chatCreate (command : task.cmd = .chatCreate) :
    after sort now task storage =
      if (checkPass task storage).id = 0 then storage
      else (createChat task.request.chat.name task.request.uid storage).2 := by
  simp only [after, processTask, command, processChatCreate, run_bind, run_lookupCheckPass]
  split
  · rfl
  · simp only [perform_bind, run_call, handle_db, exec]
    by_cases failed : (createChat task.request.chat.name task.request.uid storage).1.id = 0
    · simp only [failed, if_true]
      rfl
    · simp only [failed, if_false]
      rfl

theorem after_chatAdduser (command : task.cmd = .chatAdduser) :
    after sort now task storage =
      let toAdd := checkPassByName task.request.chat.adduser task false storage
      match lookupChatByName task.request.chat.name storage with
      | [chat] =>
          if (checkPass task storage).id = 0 ∨ toAdd.id = 0 then storage
          else addUserToChat chat toAdd storage
      | _ => storage := by
  simp only [after, processTask, command, processChatAdduser, run_bind, run_lookupCheckPass]
  by_cases denied : (checkPass task storage).id = 0
  · simp only [denied, if_true, run_pure, true_or]
    split <;> rfl
  · simp only [denied, if_false, run_bind, run_lookupCheckPassByName, false_or]
    by_cases missing : (checkPassByName task.request.chat.adduser task false storage).id = 0
    · simp only [missing, if_true, run_pure]
      split <;> rfl
    · simp only [missing, if_false, perform_bind, run_call, handle_db, exec]
      split
      next chat single =>
        have looked := congrArg Prod.fst
          (run_lookupCheckPassByName now storage task.request.chat.adduser task false)
        simp only [single]
        exact congrArg (addUserToChat chat · storage) looked
      next chats notSingle =>
        split
        · exact absurd ‹_› (notSingle _)
        · rfl

end Storage

end DatabaseWorker

end GeoChat
