import GeoChat.Server.Store.Serving

/-!
# Refused tasks

A task whose user id and password are wrong changes nothing and sends one error
at most. An error reply always means that nothing was changed, as long as the
storage does not give out the id `0`, which stands for a missing row.
-/

namespace GeoChat

open Library Program InMemory

/-- The storage is unchanged where an error was sent. -/
def Atomic (storage : Storage) (served : Served) : Prop :=
  (∃ reply ∈ served.1, reply.isError = true) → served.2 = storage

/-- Some user is stored under the id and with the password of the task. -/
def Authenticates (storage : Storage) (task : Task) : Prop :=
  ∃ user ∈ storage.users,
    user.id = task.request.uid ∧ user.password = encryptedPass task.request.password

namespace InMemory

variable {storage : Storage} {task : Task}

theorem refusal_isError (storage : Storage) (task : Task) :
    (refusal storage task).isError = true := by
  unfold refusal
  split <;> rfl

theorem refusalByName_isError {name : Bytes} {check : Bool} {error : ClientCall}
    (refused : refusalByName storage name task check = some error) : error.isError = true := by
  unfold refusalByName at refused
  split at refused
  · cases refused
    rfl
  · split at refused
    · cases refused
      rfl
    · cases refused
  · cases refused
    rfl

theorem atomic_unchanged (calls : List ClientCall) : Atomic storage (calls, storage) := fun _ => rfl

theorem atomic_accepted {reply : ClientCall} {later : Storage} (accepts : reply.isError = false) :
    Atomic storage ([reply], later) := by
  rintro ⟨other, member, error⟩
  rw [List.mem_singleton.mp member, accepts] at error
  cases error

theorem atomic_guarded {next : User → Served} (further : ∀ user, Atomic storage (next user)) :
    Atomic storage (guarded storage task next) := by
  unfold guarded
  split
  next => exact atomic_unchanged _
  next => exact further _

theorem atomic_guardedByName {name : Bytes} {check : Bool} {next : User → Served}
    (further : ∀ user, Atomic storage (next user)) :
    Atomic storage (guardedByName storage name task check next) := by
  unfold guardedByName
  split
  next => exact atomic_unchanged _
  next =>
    split
    next => exact atomic_unchanged _
    next => exact further _

/-- A user that is refused the row of id `0` exists already. -/
theorem createUser_refused {name pass stpath ip city : Bytes}
    (numbered : storage.userAutoincrement ≠ 0)
    (failed : (createUser name pass stpath ip city storage).1.id = 0) :
    (createUser name pass stpath ip city storage).2 = storage := by
  unfold createUser at failed ⊢
  split
  next => rfl
  next fresh =>
    rw [if_neg fresh] at failed
    exact absurd failed numbered

theorem createChat_refused {name : Bytes} {uid : Nat} (numbered : storage.chatAutoincrement ≠ 0)
    (failed : (createChat name uid storage).1.id = 0) :
    (createChat name uid storage).2 = storage := by
  unfold createChat at failed ⊢
  split
  next => rfl
  next fresh =>
    rw [if_neg fresh] at failed
    exact absurd failed numbered

/-- What a creation answers and leaves. -/
theorem atomic_created {failed : Prop} [Decidable failed] {error accepted : ClientCall}
    {later : Storage} (accepts : accepted.isError = false) (refused : failed → later = storage) :
    Atomic storage (if failed then [error] else [accepted], later) := by
  by_cases fails : failed
  · rw [if_pos fails, refused fails]
    exact atomic_unchanged _
  · rw [if_neg fails]
    exact atomic_accepted accepts

theorem checkPass_id_of_not_authenticates (wrong : ¬ Authenticates storage task) :
    (checkPass task storage).id = 0 := by
  by_contra accepted
  obtain ⟨stored, sameId⟩ := checkPass_mem storage accepted
  obtain ⟨same, right⟩ := checkPass_of_accepted storage accepted
  refine wrong ⟨checkPass task storage, stored, sameId, ?_⟩
  rw [same, right]

theorem guarded_of_denied {next : User → Served} (denied : (checkPass task storage).id = 0) :
    guarded storage task next = ([refusal storage task], storage) :=
  if_pos denied

end InMemory

namespace DatabaseWorker

variable (sort : TimestampSort) (now : Int) (storage : Storage) (task : Task)

/-- Every branch but two begins with the check of the user id and the password. -/
theorem serve_processTask_guarded (noCreate : task.cmd ≠ .userCreate)
    (noLogin : task.cmd ≠ .userLogin) :
    (∃ next, serve now storage (processTask sort task) = guarded storage task next) ∨
      serve now storage (processTask sort task) = ([], storage) := by
  unfold processTask
  split
  · obtain ⟨next, same, _⟩ := serve_processIdle now storage task
    exact .inl ⟨next, same⟩
  · exact .inl ⟨_, serve_processUserStatus now storage task⟩
  · exact .inl ⟨_, serve_processUserHistory now storage task sort⟩
  · exact .inl ⟨_, serve_processMessageSend now storage task⟩
  · contradiction
  · contradiction
  · exact .inl ⟨_, serve_processChatCreate now storage task⟩
  · exact .inl ⟨_, serve_processChatAdduser now storage task⟩
  · exact .inl ⟨_, serve_processMessageSendChat now storage task⟩
  · exact .inl ⟨_, serve_processGetLocations now storage task⟩
  · exact .inl ⟨_, serve_processChatWithLocation now storage task⟩
  all_goals exact .inr rfl

/-- An error is sent only where nothing was changed. -/
theorem atomic_processTask (users : task.cmd = .userCreate → storage.userAutoincrement ≠ 0)
    (chats : task.cmd = .chatCreate → storage.chatAutoincrement ≠ 0) :
    Atomic storage (serve now storage (processTask sort task)) := by
  unfold processTask
  split
  · obtain ⟨next, same, replies⟩ := serve_processIdle now storage task
    rw [same]
    refine atomic_guarded fun user => ?_
    rintro ⟨reply, member, error⟩
    obtain nothing | ⟨msgs, batch⟩ := replies user
    · rw [nothing] at member
      cases member
    · rw [batch] at member
      rw [List.mem_singleton.mp member] at error
      cases error
  · rw [serve_processUserStatus]
    exact atomic_guarded fun _ => atomic_guardedByName fun _ => atomic_accepted rfl
  · rw [serve_processUserHistory]
    exact atomic_guarded fun _ => atomic_guardedByName fun _ => atomic_accepted rfl
  · rw [serve_processMessageSend]
    refine atomic_guarded fun _ => ?_
    split
    · exact atomic_unchanged _
    · exact atomic_accepted rfl
    · exact atomic_unchanged _
  next command =>
    rw [serve_processUserCreate]
    exact atomic_created rfl (createUser_refused (users command))
  · rw [serve_processUserLogin]
    exact atomic_guardedByName fun _ => atomic_accepted rfl
  next command =>
    rw [serve_processChatCreate]
    exact atomic_guarded fun _ => atomic_created rfl (createChat_refused (chats command))
  · rw [serve_processChatAdduser]
    refine atomic_guarded fun _ => atomic_guardedByName fun _ => ?_
    split
    · exact atomic_accepted rfl
    · exact atomic_unchanged _
  · rw [serve_processMessageSendChat]
    refine atomic_guarded fun _ => ?_
    split
    · exact atomic_accepted rfl
    · exact atomic_unchanged _
  · rw [serve_processGetLocations]
    exact atomic_guarded fun _ => atomic_unchanged _
  · rw [serve_processChatWithLocation]
    exact atomic_guarded fun _ => atomic_unchanged _
  all_goals exact atomic_unchanged _

end DatabaseWorker

open DatabaseWorker in
/-- A task without the right credentials changes nothing and sends at most an
error. A task that sends an error changes nothing, where the next id of the row
it creates is not `0`. -/
theorem refused_tasks_change_nothing (sort : TimestampSort) (now : Int) (storage : Storage)
    (task : Task) :
    (task.cmd ≠ .userCreate → task.cmd ≠ .userLogin → ¬ Authenticates storage task →
      (serve now storage (processTask sort task)).2 = storage ∧
      (serve now storage (processTask sort task)).1.length ≤ 1 ∧
      ∀ reply ∈ (serve now storage (processTask sort task)).1, reply.isError = true) ∧
    ((task.cmd = .userCreate → storage.userAutoincrement ≠ 0) →
      (task.cmd = .chatCreate → storage.chatAutoincrement ≠ 0) →
      (∃ reply ∈ (serve now storage (processTask sort task)).1, reply.isError = true) →
      (serve now storage (processTask sort task)).2 = storage) := by
  constructor
  · intro noCreate noLogin wrong
    have denied := checkPass_id_of_not_authenticates wrong
    obtain ⟨next, same⟩ | same := serve_processTask_guarded sort now storage task noCreate noLogin
    · rw [same, guarded_of_denied denied]
      refine ⟨rfl, Nat.le_refl 1, fun reply member => ?_⟩
      rw [List.mem_singleton.mp member]
      exact refusal_isError storage task
    · rw [same]
      exact ⟨rfl, Nat.zero_le 1, fun reply member => absurd member List.not_mem_nil⟩
  · exact atomic_processTask sort now storage task

open DatabaseWorker in
/-- At the id `0` the new user is stored, and an error is sent. -/
theorem error_after_change :
    let storage : Storage := { userAutoincrement := 0 }
    let task : Task := { cmd := .userCreate, request := { user := bytes "alice" } }
    (∃ reply ∈ (serve 1 storage (processTask .stable task)).1, reply.isError = true) ∧
      (serve 1 storage (processTask .stable task)).2 ≠ storage := by
  decide +kernel

open DatabaseWorker in
theorem refused_tasks_change_nothing_twice :
    let storage : Storage := (createUser (bytes "alice") (encryptedPass (bytes "secret_pass")) [] []
      [] {}).2
    let task : Task := { cmd := .userCreate, request := { user := bytes "alice" } }
    (serve 1 storage (processTask .stable task)).2 = storage := by
  intro storage task
  exact (refused_tasks_change_nothing .stable 1 storage task).2 (fun _ => by decide +kernel)
    (fun command => by cases command) (by decide +kernel)

end GeoChat
