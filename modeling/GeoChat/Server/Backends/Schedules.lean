import GeoChat.Server.Backends.Simulation
import GeoChat.Server.Comparison
import GeoChat.Server.Store.Serving

/-!
# Workers over the production backend

What any number of workers do over the tables, call by call, they also do over
the vectors. Rows agree but for their heartbits.
-/

namespace GeoChat

open Library Program

/-- A call that both backends answer alike. Selection has its own limit on each,
and the test backend has no users of a location. -/
def DbOp.Mirrored : DbOp → Prop
  | .saveMessage msg => 0 ≤ msg.ts ∧ msg.ts < 2 ^ 32
  | .getMessages _ opt => 0 ≤ opt.ts ∧ opt.ts < 2 ^ 32
  | .selectMessages .. | .getAllUsersFromLocation _ | .lookupUserByCity _ => False
  | _ => True

/-- Rows correspond when they are equal but for the heartbit. -/
def byHeartbit : Comparison where
  alike user row := user.still = row.still
  clock now := 0 ≤ now ∧ now < 2 ^ 32
  mirrored := DbOp.Mirrored
  id {user row} same := show user.still.id = row.still.id by rw [same]
  selfChatId {user row} same := show user.still.selfChatId = row.still.selfChatId by rw [same]
  name {user row} same := show user.still.name = row.still.name by rw [same]
  none := rfl
  common {op} common := by cases op <;> trivial
  saves told := told

theorem byHeartbit_password {user row : User} (alike : byHeartbit.alike user row) :
    user.password = row.password :=
  show user.still.password = row.still.password from congrArg _ alike

/-- Users whose rows are equal but for heartbits correspond one by one. -/
theorem forall₂_of_still {users rows : List User}
    (same : users.map User.still = rows.map User.still) :
    List.Forall₂ byHeartbit.alike users rows := by
  induction users generalizing rows with
  | nil =>
      cases rows with
      | nil => exact .nil
      | cons row rest => cases same
  | cons user others inductionHypothesis =>
      cases rows with
      | nil => cases same
      | cons row rest =>
          rw [List.map_cons, List.map_cons, List.cons_eq_cons] at same
          exact .cons same.1 (inductionHypothesis same.2)

namespace Mirrors

variable {storage : Storage} {mysql : Mysql} (mirrors : Mirrors storage mysql)

include mirrors

theorem updateUserHeartBit {user row : User} (ts : Int) :
    Mirrors (InMemory.updateUserHeartBit user ts storage)
      (Mysql.updateUserHeartBit Mysql.never row ts mysql).2 := by
  refine ⟨?_, mirrors.chats, mirrors.chatuser, mirrors.messages, mirrors.userIds,
    mirrors.chatIds, mirrors.increasing, mirrors.below⟩
  have others : ((mysql.user.map fun user =>
      if user.id = row.id then { user with heartbit := toUint32 ts } else user).map User.still) =
      mysql.user.map User.still := by
    rw [List.map_map]
    refine List.map_congr_left fun user _ => ?_
    simp only [Function.comp_apply]
    split <;> rfl
  show (InMemory.setHeartBit user.id ts storage.users).map User.still = _
  rw [InMemory.setHeartBit_map User.still (fun _ _ => rfl), mirrors.users]
  exact others.symm

variable {task : Task} {now : Int}

/-- The two backends answer one call. -/
theorem answers_db {op : DbOp} (mirrored : op.Mirrored)
    (fits : (Mysql.exec Mysql.never now op mysql).2.Fits) :
    byHeartbit.Agree task ⟨.db op, (InMemory.exec op storage).1⟩
        ⟨.db op, (Mysql.exec Mysql.never now op mysql).1⟩ ∧
      Mirrors (InMemory.exec op storage).2 (Mysql.exec Mysql.never now op mysql).2 := by
  cases op with
  | updateUserHeartBit user ts => exact ⟨.same trivial, mirrors.updateUserHeartBit ts⟩
  | createUser name pass stpath ip city =>
      obtain ⟨same, kept⟩ := mirrors.createUser now name pass stpath ip city fits
      exact ⟨.of_eq trivial same, kept⟩
  | createChat name uid =>
      obtain ⟨same, kept⟩ := mirrors.createChat name uid fits
      exact ⟨.of_eq trivial same, kept⟩
  | lookupUserByName name =>
      refine ⟨.usersByName (forall₂_of_still (mirrors.filter_users rfl)) ?_, mirrors.counted⟩
      intro user member
      exact of_decide_eq_true (List.mem_filter.mp member).2
  | lookupUserById id =>
      refine ⟨.userById (mirrors.lookupUserById id) ?_, mirrors.counted⟩
      obtain missing | found := InMemory.lookupUserById_cases id storage
      · exact .inr (congrArg User.id missing)
      · exact .inl found.2
  | lookupUserByCity city => exact mirrored.elim
  | chatidsForUserId uid =>
      have same : InMemory.chatidsForUserId uid storage =
          (mysql.chatuser.filter fun row => row.uid = uid).map (·.chatid) := by
        rw [InMemory.chatidsForUserId, mirrors.chatuser]
      exact ⟨.of_eq trivial same, mirrors.counted⟩
  | lookupChatByName name =>
      have same : InMemory.lookupChatByName name storage =
          mysql.chat.filter fun chat => chat.name = name := by
        rw [InMemory.lookupChatByName, mirrors.chats]
      exact ⟨.of_eq trivial same, mirrors.counted⟩
  | lookupChatById chatid =>
      exact ⟨.of_eq trivial (mirrors.lookupChatById chatid), mirrors.counted⟩
  | uidsForChatId chatid =>
      have same : InMemory.uidsForChatId chatid storage =
          (mysql.chatuser.filter fun row => row.chatid = chatid).map (·.uid) := by
        rw [InMemory.uidsForChatId, mirrors.chatuser]
      exact ⟨.of_eq trivial same, mirrors.counted⟩
  | addUserToChat chat user => exact ⟨.same trivial, mirrors.addUserToChat chat user⟩
  | saveMessage msg => exact ⟨.same trivial, mirrors.saveMessage mirrored⟩
  | getMessages chatid opt =>
      obtain ⟨same, kept⟩ := mirrors.getMessages mirrored chatid
      exact ⟨.of_eq trivial same, kept⟩
  | selectMessages pred opt => exact mirrored.elim
  | getAllDistinctLocations =>
      obtain ⟨agree, kept⟩ := mirrors.step now .getAllDistinctLocations trivial fits
      cases agree with
      | locations same => exact ⟨.of_eq trivial same, kept⟩
  | getAllUsersFromLocation city => exact mirrored.elim

/-- Similar calls are answered in agreement. -/
theorem answers {one two : Effect} (told : byHeartbit.clock now)
    (similar : byHeartbit.Similar task one two)
    (fits : (Mysql.handle Mysql.never now two mysql).2.Fits) :
    byHeartbit.Agree task ⟨one, (InMemory.handle now one storage).1⟩
        ⟨two, (Mysql.handle Mysql.never now two mysql).1⟩ ∧
      Mirrors (InMemory.handle now one storage).2 (Mysql.handle Mysql.never now two mysql).2 := by
  cases similar with
  | same permitted =>
      cases one with
      | db op => exact mirrors.answers_db permitted fits
      | time => exact ⟨.time told, mirrors⟩
      | client call => exact ⟨.same trivial, mirrors⟩
  | heartbit alike => exact ⟨.heartbit alike, mirrors.updateUserHeartBit _⟩
  | @addUser chat user row alike =>
      refine ⟨.addUser alike, ?_⟩
      have same : InMemory.addUserToChat chat user storage =
          InMemory.addUserToChat chat row storage := by
        unfold InMemory.addUserToChat
        rw [byHeartbit.id alike]
      show Mirrors (InMemory.addUserToChat chat user storage) _
      rw [same]
      exact mirrors.addUserToChat chat row
  | shown shows => exact ⟨.shown shows, mirrors⟩

end Mirrors

open DatabaseWorker InMemory

/-- Any number of workers over the tables, where no statement raises. -/
abbrev DatabaseWorker.productionWorkers (sort : TimestampSort) :
    System (Pool Task Effect Effect.Reply Mysql) (PoolEvent Task Int) :=
  Pool.system (processTask sort) (Mysql.handle Mysql.never)

/-- A task that the two backends answer alike, with a cursor that fits into a
parameter. -/
structure Task.Mirrored (task : Task) : Prop where
  notHistory : task.cmd ≠ .userHistory
  notLocation : task.cmd ≠ .chatWithLocation
  cursor : task.cmd = .idle → 0 ≤ task.request.ts ∧ task.request.ts < 2 ^ 32

instance (task : Task) : Decidable task.Mirrored :=
  decidable_of_iff (task.cmd ≠ .userHistory ∧ task.cmd ≠ .chatWithLocation ∧
    (task.cmd = .idle → 0 ≤ task.request.ts ∧ task.request.ts < 2 ^ 32))
    ⟨fun ⟨notHistory, notLocation, cursor⟩ => ⟨notHistory, notLocation, cursor⟩,
      fun ⟨notHistory, notLocation, cursor⟩ => ⟨notHistory, notLocation, cursor⟩⟩

theorem Task.Mirrored.covers {task : Task} (mirrored : task.Mirrored) :
    byHeartbit.Covers task where
  judged :=
    { byId := fun _ _ _ _ alike _ => by rw [byHeartbit_password alike]
      byName := fun _ _ _ alike _ => by rw [byHeartbit_password alike] }
  reads idle _ := mirrored.cursor idle
  selects history := absurd history mirrored.notHistory
  locates location := absurd location mirrored.notLocation

/-- The same answer, but for the heartbit of a user who is shown. -/
def ClientCall.UpToHeartbit (one two : ClientCall) : Prop :=
  one = two ∨ ∃ (user row : User) (now : Int), user.still = row.still ∧
    one = .sendOkResponse (ApiclientUtils.okBodyOfUser user now) ∧
    two = .sendOkResponse (ApiclientUtils.okBodyOfUser row now)

/-- Every schedule of mirrored tasks over the tables is one over the vectors. It
leaves the same rows, and every worker has told its client the same; only where a
status or a login shows a user the heartbit may differ. -/
theorem schedules_agree (sort : TimestampSort) {events : List (PoolEvent Task Int)}
    {later : Pool Task Effect Effect.Reply Mysql}
    (expected : ∀ event ∈ events, event.Within Task.Mirrored fun now => 0 ≤ now ∧ now < 2 ^ 32)
    (ran : (productionWorkers sort).run events ⟨{}, []⟩ = some later)
    (fits : later.shared.Fits) :
    ∃ last, (workers sort).run events ⟨{}, []⟩ = some last ∧
      Mirrors last.shared later.shared ∧
      List.Forall₂ (fun one two => one.task = two.task ∧
        List.Forall₂ ClientCall.UpToHeartbit (one.history.flatMap clientCalls)
          (two.history.flatMap clientCalls) ∧
        (one.task.cmd ≠ .userStatus → one.task.cmd ≠ .userLogin →
          one.history.flatMap clientCalls = two.history.flatMap clientCalls))
        last.workers later.workers := by
  have start : Pool.Alike byHeartbit.Similar byHeartbit.Agree Mirrors
      (⟨{}, []⟩ : Pool Task Effect Effect.Reply Storage) ⟨{}, []⟩ := ⟨mirrors_empty, .nil⟩
  have earlier : ∀ now effect mysql, (Mysql.handle Mysql.never now effect mysql).2.Fits →
      mysql.Fits := by
    intro now effect mysql inside
    cases effect with
    | db op => exact (Mysql.growsTo_exec now op mysql).fits inside
    | _ => exact inside
  have starts : ∀ task : Task, task.Mirrored →
      byHeartbit.Par task (fun _ _ => True) (processTask sort task) (processTask sort task) :=
    fun task mirrored => par_processTask mirrored.covers sort
  have answers : ∀ (task : Task) (now : Int) (one two : Effect) (storage : Storage)
      (mysql : Mysql), 0 ≤ now ∧ now < 2 ^ 32 → Mirrors storage mysql →
      byHeartbit.Similar task one two → (Mysql.handle Mysql.never now two mysql).2.Fits →
      byHeartbit.Agree task ⟨one, (handle now one storage).1⟩
          ⟨two, (Mysql.handle Mysql.never now two mysql).1⟩ ∧
        Mirrors (handle now one storage).2 (Mysql.handle Mysql.never now two mysql).2 :=
    fun _ _ _ _ _ _ told mirrors similar inside => mirrors.answers told similar inside
  obtain ⟨last, replayed, alike⟩ := Pool.Alike.run starts answers start earlier expected ran fits
  refine ⟨last, replayed, alike.shared, alike.workers.imp fun one two same => ?_⟩
  have answers := Comparison.answersAlike same
  refine ⟨same.task, answers.imp ?_, fun notStatus notLogin => ?_⟩
  · rintro first second (equal | ⟨body, answer, ⟨_, user, row, now, still, rfl, rfl⟩, made, told⟩)
    · exact .inl equal
    · exact .inr ⟨user, row, now, still, made, told⟩
  · have equal : List.Forall₂ Eq (one.history.flatMap clientCalls)
        (two.history.flatMap clientCalls) := by
      refine answers.imp ?_
      rintro first second (equal | ⟨body, answer, ⟨shows, _⟩, _⟩)
      · exact equal
      · exact absurd shows (not_or.mpr ⟨notStatus, notLogin⟩)
    rwa [List.forall₂_eq_eq_eq] at equal

/-- Two users are created at the same time, one writes to the other, and the
other polls. -/
def overlapping : List (PoolEvent Task Int) :=
  [.take (createUserTask (bytes "alice")), .take (createUserTask (bytes "bob")), .call 0 1,
    .call 1 1, .call 1 2, .call 0 2, .call 0 2, .call 1 2,
    .take { cmd := .messageSend, request :=
      { uid := 1, password := bytes "Passw0rd", toUser := bytes "bob", message := bytes "hi" } },
    .take { cmd := .idle, request := { uid := 2, password := bytes "Passw0rd" } }] ++
  [.call 3 3, .call 2 3, .call 2 3, .call 3 3, .call 2 3, .call 2 3, .call 2 3] ++
  List.replicate 7 (.call 3 4)

theorem schedules_agree_overlapping :
    ∃ last later, (productionWorkers .stable).run overlapping ⟨{}, []⟩ = some later ∧
      later.shared.message.length = 1 ∧
      later.workers.map (fun worker => (worker.history.flatMap clientCalls).length) =
        [1, 1, 1, 1] ∧
      (workers .stable).run overlapping ⟨{}, []⟩ = some last ∧
      Mirrors last.shared later.shared := by
  have shape : ((productionWorkers .stable).run overlapping ⟨{}, []⟩).map
      (fun pool : Pool Task Effect Effect.Reply Mysql => (pool.shared.message.length,
        pool.shared.userAutoincrement, pool.shared.chatAutoincrement,
        pool.workers.map fun worker => (worker.history.flatMap clientCalls).length)) =
      some (1, 3, 3, [1, 1, 1, 1]) := by
    decide +kernel
  obtain ⟨later, ran, facts⟩ := Option.map_eq_some_iff.mp shape
  simp only [Prod.mk.injEq] at facts
  obtain ⟨saved, users, chats, answered⟩ := facts
  have expected : ∀ event ∈ overlapping,
      event.Within Task.Mirrored fun now => 0 ≤ now ∧ now < 2 ^ 32 := by
    decide +kernel
  obtain ⟨last, replayed, mirrors, -⟩ := schedules_agree .stable expected ran
    ⟨by rw [users]; decide, by rw [chats]; decide⟩
  exact ⟨last, later, ran, saved, answered, replayed, mirrors⟩

end GeoChat
