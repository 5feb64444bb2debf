import Mathlib.Data.List.Nodup
import GeoChat.Server.Request
import GeoChat.Server.Store.Sequence

/-!
# Authentication

A user is stored with the decimal text of the CRC-32 of the password, and a
password is checked by the text of its own checksum. So a password is accepted
when it has the checksum of the one that the user was created with. The check
by user id also needs ids that are distinct, and these come from a counter of
64 bits.
-/

namespace GeoChat

open Library Program

theorem encryptedPass_eq_iff (first second : Bytes) :
    encryptedPass first = encryptedPass second ↔ Utils.crc32 first = Utils.crc32 second :=
  decimalInt_injective.eq_iff

/-- The users that an exchange has created. A row of id `0` is a refusal. -/
def createdUsers : Exchange Effect Effect.Reply → List User
  | ⟨.db (.createUser ..), user⟩ => if user.id = 0 then [] else [user]
  | _ => []

/-- What a call of `createUser` has told its worker, and that the row is still
there. -/
def Registered (storage : Storage) : Exchange Effect Effect.Reply → Prop
  | ⟨.db (.createUser name pass _ _ _), user⟩ =>
      user.id = 0 ∨
        user.name = name ∧ user.password = pass ∧ user ∈ storage.users.map User.still
  | _ => True

/-- The ids are the values that the counter takes, from `1` on, and names are
not given twice. Nothing is said about the other tables. -/
structure Storage.Counted (storage : Storage) : Prop where
  counter : storage.userAutoincrement = (storage.users.length + 1) % 2 ^ 64
  ids : storage.users.map (·.id) =
    (List.range storage.users.length).map fun index => (index + 1) % 2 ^ 64
  names : (storage.users.map (·.name)).Nodup

/-- The counter takes `2 ^ 64` values before it repeats one. -/
theorem Storage.Counted.ids_nodup {storage : Storage} (counted : storage.Counted)
    (room : storage.users.length ≤ 2 ^ 64) : (storage.users.map (·.id)).Nodup := by
  rw [counted.ids]
  refine List.Nodup.map_on ?_ List.nodup_range
  intro first memberFirst second memberSecond same
  rw [List.mem_range] at memberFirst memberSecond
  omega

namespace InMemory

theorem createUser_counted {storage : Storage} (counted : storage.Counted)
    (name pass stpath ip city : Bytes) :
    (createUser name pass stpath ip city storage).2.Counted := by
  unfold createUser
  split
  · exact counted
  next free =>
    obtain ⟨counter, ids, names⟩ := counted
    constructor
    · simp only [List.length_append, List.length_singleton, counter]
      omega
    · simp only [List.map_append, ids, counter, List.map_cons, List.map_nil, List.length_append,
        List.length_singleton, List.range_succ]
    · rw [List.map_append]
      refine nodup_snoc names ?_
      intro member
      obtain ⟨user, memberUser, same⟩ := List.mem_map.mp member
      exact free (List.any_eq_true.mpr ⟨user, memberUser, decide_eq_true same⟩)

theorem handle_counted (now : Int) (effect : Effect) {storage : Storage}
    (counted : storage.Counted) : (handle now effect storage).2.Counted := by
  cases effect with
  | time => exact counted
  | client call => exact counted
  | db op =>
      cases op with
      | updateUserHeartBit user ts =>
          obtain ⟨counter, ids, names⟩ := counted
          simp only [handle, exec, updateUserHeartBit]
          constructor
          · rw [setHeartBit_length, counter]
          · rw [setHeartBit_length, setHeartBit_map _ fun _ _ => rfl, ids]
          · rwa [setHeartBit_map _ fun _ _ => rfl]
      | createUser name pass stpath ip city =>
          exact createUser_counted counted name pass stpath ip city
      | createChat name uid =>
          simp only [handle, exec, createChat]
          split
          · exact counted
          · exact ⟨counted.counter, counted.ids, counted.names⟩
      | addUserToChat chat user =>
          simp only [handle, exec, addUserToChat]
          split
          · exact counted
          · exact ⟨counted.counter, counted.ids, counted.names⟩
      | getMessages chatid opt =>
          obtain ⟨messages, result, -⟩ := getMessages_storage chatid opt storage
          simp only [handle, exec, result]
          exact ⟨counted.counter, counted.ids, counted.names⟩
      | saveMessage msg => exact ⟨counted.counter, counted.ids, counted.names⟩
      | _ => exact counted

/-- Of two users with one id the older one is found. -/
theorem lookupUserById_createUser {storage : Storage} {id : Nat}
    (held : id ∈ storage.users.map (·.id)) (name pass stpath ip city : Bytes) :
    lookupUserById id (createUser name pass stpath ip city storage).2 ∈ storage.users := by
  obtain ⟨user, member, same⟩ := List.mem_map.mp held
  cases found : storage.users.find? fun user => user.id = id with
  | none => exact absurd (List.find?_eq_none.mp found user member) (by simpa using same)
  | some first =>
      have older : lookupUserById id (createUser name pass stpath ip city storage).2 = first := by
        unfold createUser
        split
        · simp [lookupUserById, found]
        · simp [lookupUserById, List.find?_append, found]
      exact older ▸ List.mem_of_find?_eq_some found

theorem handle_registers (now : Int) (effect : Effect) (storage : Storage) :
    Registered (handle now effect storage).2 ⟨effect, (handle now effect storage).1⟩ := by
  cases effect with
  | time => trivial
  | client call => trivial
  | db op =>
      cases op with
      | createUser name pass stpath ip city =>
          simp only [handle, exec, createUser, Registered]
          split
          · exact .inl rfl
          · exact .inr ⟨rfl, rfl, by simp [User.still]⟩
      | _ => trivial

theorem handle_registered (now : Int) (effect : Effect) (storage : Storage)
    (exchange : Exchange Effect Effect.Reply) (registered : Registered storage exchange) :
    Registered (handle now effect storage).2 exchange := by
  unfold Registered at registered ⊢
  split
  · obtain refused | ⟨name, password, member⟩ := registered
    · exact .inl refused
    · exact .inr ⟨name, password, (handle_grows now effect storage).1.subset member⟩
  · trivial

end InMemory

open DatabaseWorker InMemory

theorem counted_of_reaches {sort : TimestampSort} {pool : Pool Task Effect Effect.Reply Storage}
    (reached : (workers sort).Reaches ⟨{}, []⟩ pool) :
    pool.shared.Counted ∧
      ∀ worker ∈ pool.workers, ∀ exchange ∈ worker.history, Registered pool.shared exchange := by
  have informed := Pool.informed Storage.Counted Registered reached
    ⟨rfl, rfl, List.nodup_nil⟩ (fun task => follows_trivial _ _) (fun _ _ _ => trivial)
    (fun now effect _ _ counted _ _ => handle_counted now effect counted)
    handle_registers handle_registered
  exact ⟨informed.1, fun worker member => (informed.2 worker member).2⟩

/-- A user of the storage whom all lookups find. -/
structure Storage.Findable (storage : Storage) (user : User) : Prop where
  member : user ∈ storage.users
  byId : lookupUserById user.id storage = user
  byName : lookupUserByName user.name storage = [user]
  password : encryptedPass (bytes "Passw0rd") = user.password
  selfRow : user.selfRow ∈ storage.chatuser

/-- A run that creates `2 ^ 64` users. The last of them has the id `0`. -/
theorem reaches_last_user (sort : TimestampSort) :
    ∃ pool first last, (workers sort).Reaches ⟨{}, []⟩ pool ∧ pool.shared.messages = [] ∧
      pool.shared.Findable first ∧ first.id = 1 ∧ pool.shared.Findable last ∧ last.id = 0 := by
  obtain ⟨pool, reached, -, users, -, messages, each⟩ := reaches_users sort (2 ^ 64)
  have counted := (counted_of_reaches reached).1
  have ids := counted.ids
  rw [users] at ids
  have held : ∀ index < 2 ^ 64,
      ∃ user, pool.shared.Findable user ∧ user.id = (index + 1) % 2 ^ 64 := by
    intro index bound
    have member : (index + 1) % 2 ^ 64 ∈ pool.shared.users.map (·.id) := by
      rw [ids]
      exact List.mem_map.mpr ⟨index, List.mem_range.mpr bound, rfl⟩
    obtain ⟨user, memberUser, same⟩ := List.mem_map.mp member
    obtain ⟨-, password, row⟩ := each user memberUser
    exact ⟨user, ⟨memberUser, lookupUserById_of_nodup (counted.ids_nodup users.le) memberUser,
      filter_of_nodup counted.names memberUser, password.symm, row⟩, same⟩
  obtain ⟨first, foundFirst, firstId⟩ := held 0 (by decide)
  obtain ⟨last, foundLast, lastId⟩ := held (2 ^ 64 - 1) (by decide)
  exact ⟨pool, first, last, reached, messages, foundFirst, firstId, foundLast, lastId⟩

/-- Whom a worker has created, the storage holds with the password of the
worker's task. -/
theorem created_stored {sort : TimestampSort} {pool : Pool Task Effect Effect.Reply Storage}
    {worker : Worker Task Effect Effect.Reply} {user : User}
    (reached : (workers sort).Reaches ⟨{}, []⟩ pool) (working : worker ∈ pool.workers)
    (created : user ∈ worker.history.flatMap createdUsers) :
    user.id ≠ 0 ∧ user.password = encryptedPass worker.task.request.password ∧
      ∃ row ∈ pool.shared.users, row.still = user := by
  obtain ⟨exchange, member, shown⟩ := List.mem_flatMap.mp created
  have known := (counted_of_reaches reached).2 worker working exchange member
  have own := (Pool.uses_of_reaches (own_processTask sort) reached worker working).2
    exchange member
  unfold createdUsers at shown
  split at shown
  next name pass stpath ip city reply =>
    split at shown
    next => simp at shown
    next present =>
      cases List.mem_singleton.mp shown
      obtain refused | ⟨_, password, memberUser⟩ := known
      · exact absurd refused present
      · exact ⟨present, password.trans own.2.2, List.mem_map.mp memberUser⟩
  next => simp at shown

/-- The password check compares checksums: a user is let in with every password
whose CRC-32 is that of the password the user was created with, and with no
other. By name this is so in every schedule, by id until an id is given to a
second user. -/
theorem authenticates_iff_crc32 {sort : TimestampSort}
    {pool : Pool Task Effect Effect.Reply Storage} {worker : Worker Task Effect Effect.Reply}
    {user : User} (reached : (workers sort).Reaches ⟨{}, []⟩ pool)
    (working : worker ∈ pool.workers) (created : user ∈ worker.history.flatMap createdUsers)
    (now : Int) (later : Task) :
    (pool.shared.users.length ≤ 2 ^ 64 → later.request.uid = user.id →
      (((lookupCheckPass later).run (handle now) pool.shared).1.id ≠ 0 ↔
        Utils.crc32 later.request.password = Utils.crc32 worker.task.request.password)) ∧
    (later.request.user = user.name →
      (((lookupCheckPassByName later.request.user later true).run (handle now)
          pool.shared).1.id ≠ 0 ↔
        Utils.crc32 later.request.password = Utils.crc32 worker.task.request.password)) := by
  obtain ⟨present, password, row, member, rfl⟩ := created_stored reached working created
  have counted := (counted_of_reaches reached).1
  rw [← encryptedPass_eq_iff, ← password, run_lookupCheckPass, run_lookupCheckPassByName]
  constructor
  · intro room same
    have found : lookupUserById later.request.uid pool.shared = row := by
      rw [same]
      exact lookupUserById_of_nodup (counted.ids_nodup room) member
    rw [checkPass_accepts, found]
    exact and_iff_right present
  · intro same
    have found : lookupUserByName later.request.user pool.shared = [row] := by
      rw [same]
      exact filter_of_nodup counted.names member
    rw [checkPassByName_accepts _ _ found]
    exact and_iff_right present

/-- The creation of a user. -/
def registration (name password : Bytes) : Task :=
  { cmd := .userCreate, request := { user := name, password } }

/-- A request of the user with the id, who is called `name`. -/
def attempt (uid : Nat) (name password : Bytes) : Task :=
  { cmd := .userLogin, request := { uid, user := name, password } }

/-- From any storage a free name can be registered. -/
theorem reaches_registration (sort : TimestampSort) (storage : Storage)
    (working : List (Worker Task Effect Effect.Reply)) (name password : Bytes)
    (free : (storage.users.any fun user => user.name = name) = false)
    (counting : storage.userAutoincrement ≠ 0) :
    ∃ pool worker user, (workers sort).Reaches ⟨storage, working⟩ pool ∧
      pool.shared = (createUser name (encryptedPass password) [] [] [] storage).2 ∧
      worker ∈ pool.workers ∧ worker.task = registration name password ∧
      user ∈ worker.history.flatMap createdUsers ∧ user.id = storage.userAutoincrement ∧
      user.name = name := by
  obtain ⟨rest, further⟩ := Pool.reaches_run (processTask sort) handle 0
    (registration name password) storage working
  have ran : after sort 0 (registration name password) storage = _ :=
    after_userCreate sort 0 storage rfl
  refine ⟨_, _, (createUser name (encryptedPass password) [] [] [] storage).1, further, ran,
    List.mem_append_right _ (List.mem_singleton.mpr rfl), rfl, ?_, ?_⟩
  · apply List.mem_flatMap.mpr
    refine ⟨_, List.mem_cons_self, ?_⟩
    change _ ∈ if (createUser name (encryptedPass password) [] [] [] storage).1.id = 0 then []
      else [(createUser name (encryptedPass password) [] [] [] storage).1]
    simp [createUser, free, counting]
  · simp [createUser, free]

/-- After `2 ^ 64` users the id `1` is given again, and its second holder is
refused with the right password. -/
theorem repeated_id_refused :
    ∃ pool worker user, (workers .stable).Reaches ⟨{}, []⟩ pool ∧ worker ∈ pool.workers ∧
      user ∈ worker.history.flatMap createdUsers ∧
      passwordCheck worker.task.request.password 8 = true ∧
      ∃ later : Task, later.request.uid = user.id ∧
        later.request.password = worker.task.request.password ∧
        ((lookupCheckPass later).run (handle 0) pool.shared).1.id = 0 := by
  obtain ⟨⟨storage, working⟩, reached, -, users, counter, -, each⟩ :=
    reaches_users .stable (2 ^ 64)
  have free : (storage.users.any fun user => user.name = List.replicate (2 ^ 64) 97) = false := by
    rw [List.any_eq_false]
    intro stored memberStored same
    have shorter := (each stored memberStored).1
    rw [of_decide_eq_true same, List.length_replicate] at shorter
    exact lt_irrefl _ shorter
  have again : storage.userAutoincrement = 1 := counter
  have held : 1 ∈ storage.users.map (·.id) := by
    rw [(counted_of_reaches reached).1.ids, users]
    exact List.mem_map.mpr ⟨0, List.mem_range.mpr (by decide), rfl⟩
  obtain ⟨pool, worker, user, further, shared, member, task, created, id, -⟩ :=
    reaches_registration .stable storage working (List.replicate (2 ^ 64) 97)
      (bytes "RJKBY4dq") free (by simp [again])
  refine ⟨pool, worker, user, reached.trans further, member, created, ?_,
    attempt 1 [] (bytes "RJKBY4dq"), (id.trans again).symm, ?_, ?_⟩
  · rw [task]
    decide
  · rw [task]
    rfl
  · have first := lookupUserById_createUser held (List.replicate (2 ^ 64) 97)
      (encryptedPass (bytes "RJKBY4dq")) [] [] []
    rw [run_lookupCheckPass, shared]
    by_contra accepted
    obtain ⟨-, right⟩ := (checkPass_accepts _ _).mp accepted
    exact absurd (right.trans (each _ first).2.1) (by decide +kernel)

/-- A second password of the checksum is accepted by id and by name. And after
`2 ^ 64` users the id `1` is given again, and its second holder is refused with
the right password. -/
theorem wrong_password_accepted :
    (∃ pool worker user, (workers .stable).Reaches ⟨{}, []⟩ pool ∧ worker ∈ pool.workers ∧
      user ∈ worker.history.flatMap createdUsers ∧
      passwordCheck worker.task.request.password 8 = true ∧
      ∃ later : Task, later.request.uid = user.id ∧ later.request.user = user.name ∧
        later.request.password ≠ worker.task.request.password ∧
        ((lookupCheckPass later).run (handle 0) pool.shared).1.id ≠ 0 ∧
        ((lookupCheckPassByName later.request.user later true).run (handle 0)
          pool.shared).1.id ≠ 0) ∧
    ∃ pool worker user, (workers .stable).Reaches ⟨{}, []⟩ pool ∧ worker ∈ pool.workers ∧
      user ∈ worker.history.flatMap createdUsers ∧
      passwordCheck worker.task.request.password 8 = true ∧
      ∃ later : Task, later.request.uid = user.id ∧
        later.request.password = worker.task.request.password ∧
        ((lookupCheckPass later).run (handle 0) pool.shared).1.id = 0 := by
  constructor
  · obtain ⟨pool, worker, user, reached, shared, working, task, created, id, name⟩ :=
      reaches_registration .stable {} [] (bytes "bob") (bytes "MnO_q40A") rfl (by decide)
    refine ⟨pool, worker, user, reached, working, created, ?_,
      attempt 1 (bytes "bob") (bytes "RJKBY4dq"), id.symm, name.symm, ?_, ?_, ?_⟩
    · rw [task]
      decide
    · rw [task]
      decide
    · rw [shared]
      decide +kernel
    · rw [shared]
      decide +kernel
  · exact repeated_id_refused

/-- The user is let in with the password of the creation. -/
theorem authenticates_after_registration :
    ∃ pool worker user, (workers .stable).Reaches ⟨{}, []⟩ pool ∧ worker ∈ pool.workers ∧
      user ∈ worker.history.flatMap createdUsers ∧
      ((lookupCheckPass (attempt user.id (bytes "bob") (bytes "MnO_q40A"))).run (handle 0)
        pool.shared).1.id ≠ 0 ∧
      ¬ ((lookupCheckPassByName (bytes "bob") (attempt user.id (bytes "bob") (bytes "Passw0rd"))
        true).run (handle 0) pool.shared).1.id ≠ 0 := by
  obtain ⟨pool, worker, user, reached, shared, working, task, created, id, name⟩ :=
    reaches_registration .stable {} [] (bytes "bob") (bytes "MnO_q40A") rfl (by decide)
  refine ⟨pool, worker, user, reached, working, created, ?_, ?_⟩
  · refine ((authenticates_iff_crc32 reached working created 0 _).1 ?_ rfl).mpr ?_
    · rw [shared]
      decide +kernel
    · rw [task]
      rfl
  · intro accepted
    have equal := ((authenticates_iff_crc32 reached working created 0
      (attempt user.id (bytes "bob") (bytes "Passw0rd"))).2 name.symm).mp accepted
    rw [task] at equal
    have differ : Utils.crc32 (bytes "Passw0rd") ≠ Utils.crc32 (bytes "MnO_q40A") := by
      decide +kernel
    exact differ equal

end GeoChat
