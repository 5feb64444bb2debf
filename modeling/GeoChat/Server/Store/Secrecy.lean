import GeoChat.Server.Comparison
import GeoChat.Server.Store.History

/-!
# What the replies tell of a password

Two storages that differ in the password of one user are run side by side. As
long as nobody gives that user with a password that one of them accepts, every
client is told the same on both sides, in every schedule.
-/

namespace GeoChat

open Library Program InMemory DatabaseWorker

/-- A user with the checksums that two storages hold for them. -/
structure Secret where
  id : Nat
  name : Bytes
  one : Bytes
  two : Bytes

namespace Secret

variable (secret : Secret)

/-- The same row, or the two versions of the row of the user. -/
def Alike (user row : User) : Prop :=
  row = user ∨ user.id = secret.id ∧ user.name = secret.name ∧ user.password = secret.one ∧
    row = { user with password := secret.two }

/-- Two storages that differ in no more than the password. -/
structure Versions (storage other : Storage) : Prop where
  users : List.Forall₂ secret.Alike storage.users other.users
  others : other = { storage with users := other.users }

/-- Whoever sends the task does not give the user with a password that one of the
storages accepts. -/
structure Blind (task : Task) : Prop where
  byId : task.cmd ≠ .userCreate → task.cmd ≠ .userLogin → task.request.uid = secret.id →
    encryptedPass task.request.password ≠ secret.one ∧
      encryptedPass task.request.password ≠ secret.two
  byName : task.cmd = .userLogin → task.request.user = secret.name →
    encryptedPass task.request.password ≠ secret.one ∧
      encryptedPass task.request.password ≠ secret.two

variable {secret} {user row : User} {storage other : Storage} {task : Task}

theorem Alike.still (alike : secret.Alike user row) :
    user.id = row.id ∧ user.selfChatId = row.selfChatId ∧ user.name = row.name ∧
      user.city = row.city ∧ ∀ now,
        ApiclientUtils.okBodyOfUser user now = ApiclientUtils.okBodyOfUser row now := by
  rcases alike with rfl | ⟨_, _, _, rfl⟩
  · exact ⟨rfl, rfl, rfl, rfl, fun _ => rfl⟩
  · exact ⟨rfl, rfl, rfl, rfl, fun _ => rfl⟩

/-- A call that tasks make. -/
def answered : DbOp → Prop
  | .lookupUserByCity _ => False
  | _ => True

/-- The two versions of the row correspond. -/
def comparison (secret : Secret) : Comparison where
  alike := secret.Alike
  clock _ := True
  mirrored := answered
  id alike := alike.still.1
  selfChatId alike := alike.still.2.1
  name alike := alike.still.2.2.1
  none := .inl rfl
  common {op} common := by cases op <;> trivial
  saves _ := trivial

instance (task : Task) : Decidable (secret.Blind task) :=
  decidable_of_iff
    ((task.cmd ≠ .userCreate → task.cmd ≠ .userLogin → task.request.uid = secret.id →
        encryptedPass task.request.password ≠ secret.one ∧
          encryptedPass task.request.password ≠ secret.two) ∧
      (task.cmd = .userLogin → task.request.user = secret.name →
        encryptedPass task.request.password ≠ secret.one ∧
          encryptedPass task.request.password ≠ secret.two))
    ⟨fun ⟨byId, byName⟩ => ⟨byId, byName⟩, fun ⟨byId, byName⟩ => ⟨byId, byName⟩⟩

theorem Blind.covers (blind : secret.Blind task) : secret.comparison.Covers task where
  judged :=
    { byId := by
        intro notCreate notLogin user row alike own
        rcases alike with rfl | ⟨isSecret, _, password, rfl⟩
        · exact Iff.rfl
        · obtain ⟨notOne, notTwo⟩ := blind.byId notCreate notLogin (own.symm.trans isSecret)
          rw [password]
          exact iff_of_false notOne notTwo
      byName := by
        intro login user row alike own
        rcases alike with rfl | ⟨_, isSecret, password, rfl⟩
        · exact Iff.rfl
        · obtain ⟨notOne, notTwo⟩ := blind.byName login (own.symm.trans isSecret)
          rw [password]
          exact iff_of_false notOne notTwo }
  reads _ _ := trivial
  selects _ _ _ := trivial
  locates _ _ := trivial

section Lists

variable {users rows : List User} (alike : List.Forall₂ secret.Alike users rows)

include alike

theorem filter_alike {pred : User → Bool} (blindTo : ∀ user row, secret.Alike user row →
    pred user = pred row) :
    List.Forall₂ secret.Alike (users.filter pred) (rows.filter pred) := by
  induction alike with
  | nil => exact .nil
  | @cons user row _ _ first _ inductionHypothesis =>
      rw [List.filter_cons, List.filter_cons, blindTo user row first]
      split
      · exact .cons first inductionHypothesis
      · exact inductionHypothesis

theorem setHeartBit_alike (id : Nat) (ts : Int) :
    List.Forall₂ secret.Alike (setHeartBit id ts users) (setHeartBit id ts rows) := by
  induction alike with
  | nil => exact .nil
  | @cons user row _ _ first rest inductionHypothesis =>
      unfold setHeartBit
      rw [first.still.1]
      split
      · refine .cons ?_ rest
        rcases first with rfl | ⟨id, name, password, rfl⟩
        · exact .inl rfl
        · exact .inr ⟨id, name, password, rfl⟩
      · exact .cons first inductionHypothesis

theorem any_alike (name : Bytes) :
    (users.any fun user => user.name = name) = rows.any fun user => user.name = name := by
  induction alike with
  | nil => rfl
  | cons first _ inductionHypothesis =>
      rw [List.any_cons, List.any_cons, inductionHypothesis, first.still.2.2.1]

theorem find_alike (id : Nat) :
    secret.Alike ((users.find? fun user => user.id = id).getD {})
      ((rows.find? fun user => user.id = id).getD {}) := by
  induction alike with
  | nil => exact .inl rfl
  | @cons user row _ _ first _ inductionHypothesis =>
      rw [List.find?_cons, List.find?_cons, ← first.still.1]
      split
      · exact first
      · exact inductionHypothesis

theorem cities_alike (cities : List Bytes) :
    users.foldl (fun cities user => insertOrdered user.city cities) cities =
      rows.foldl (fun cities user => insertOrdered user.city cities) cities := by
  induction alike generalizing cities with
  | nil => rfl
  | cons first _ inductionHypothesis =>
      rw [List.foldl_cons, List.foldl_cons, first.still.2.2.2.1, inductionHypothesis]

end Lists

namespace Versions

variable {users : List User} {now : Int}

/-- A call is answered alike by the two storages. -/
theorem answers_db (alike : List.Forall₂ secret.Alike storage.users users) {op : DbOp}
    (shows : answered op) :
    secret.comparison.Agree task ⟨.db op, (exec op storage).1⟩
        ⟨.db op, (exec op { storage with users }).1⟩ ∧
      secret.Versions (exec op storage).2 (exec op { storage with users }).2 := by
  cases op with
  | updateUserHeartBit user ts => exact ⟨.same trivial, setHeartBit_alike alike user.id ts, rfl⟩
  | createUser name pass stpath ip city =>
      simp only [exec, createUser, any_alike alike name]
      split
      · exact ⟨.same trivial, alike, rfl⟩
      · exact ⟨.same trivial, List.rel_append alike (.cons (.inl rfl) .nil), rfl⟩
  | createChat name uid =>
      simp only [exec, createChat]
      split
      · exact ⟨.same trivial, alike, rfl⟩
      · exact ⟨.same trivial, alike, rfl⟩
  | lookupUserByName name =>
      refine ⟨.usersByName (filter_alike alike ?_) ?_, alike, rfl⟩
      · intro user row same
        rw [same.still.2.2.1]
      · intro user member
        exact of_decide_eq_true (List.mem_filter.mp member).2
  | lookupUserById id =>
      refine ⟨.userById (find_alike alike id) ?_, alike, rfl⟩
      obtain missing | found := lookupUserById_cases id storage
      · exact .inr (congrArg User.id missing)
      · exact .inl found.2
  | lookupUserByCity city => exact shows.elim
  | addUserToChat chat user =>
      simp only [exec, addUserToChat]
      split
      · exact ⟨.same trivial, alike, rfl⟩
      · exact ⟨.same trivial, alike, rfl⟩
  | getMessages chatid opt =>
      simp only [exec, getMessages]
      split
      · exact ⟨.same trivial, alike, rfl⟩
      · exact ⟨.same trivial, alike, rfl⟩
  | getAllDistinctLocations => exact ⟨.of_eq trivial (cities_alike alike []), alike, rfl⟩
  | _ => exact ⟨.same trivial, alike, rfl⟩

/-- Similar calls are answered in agreement. -/
theorem answers (versions : secret.Versions storage other) {one two : Effect}
    (similar : secret.comparison.Similar task one two) :
    secret.comparison.Agree task ⟨one, (handle now one storage).1⟩
        ⟨two, (handle now two other).1⟩ ∧
      secret.Versions (handle now one storage).2 (handle now two other).2 := by
  rcases versions with ⟨alike, others⟩
  rw [others]
  cases similar with
  | same permitted =>
      cases one with
      | db op => exact answers_db alike permitted
      | time => exact ⟨.time trivial, alike, rfl⟩
      | client call => exact ⟨.same trivial, alike, rfl⟩
  | @heartbit user row ts same =>
      refine ⟨.heartbit same, ?_⟩
      show secret.Versions (updateUserHeartBit user ts storage) (updateUserHeartBit row ts _)
      unfold updateUserHeartBit
      rw [← secret.comparison.id same]
      exact ⟨setHeartBit_alike alike user.id ts, rfl⟩
  | @addUser chat user row same =>
      refine ⟨.addUser same, ?_⟩
      show secret.Versions (addUserToChat chat user storage) (addUserToChat chat row _)
      unfold addUserToChat
      rw [← secret.comparison.id same]
      split
      · exact ⟨alike, rfl⟩
      · exact ⟨alike, rfl⟩
  | shown shows => exact ⟨.shown shows, alike, rfl⟩

end Versions

end Secret

/-- What the server tells its clients depends on the password of a user only
through the guesses that it accepts: two storages that differ in a password run
through every schedule alike, if no task gives the user with a password that one
of them accepts. -/
theorem password_unobservable (sort : TimestampSort) (secret : Secret) {storage other : Storage}
    (versions : secret.Versions storage other) {events : List (PoolEvent Task Int)}
    {later : Pool Task Effect Effect.Reply Storage}
    (blind : ∀ event ∈ events, event.Within secret.Blind fun _ => True)
    (ran : (workers sort).run events ⟨other, []⟩ = some later) :
    ∃ last, (workers sort).run events ⟨storage, []⟩ = some last ∧
      secret.Versions last.shared later.shared ∧
      List.Forall₂ (fun one two => one.task = two.task ∧
        one.history.flatMap clientCalls = two.history.flatMap clientCalls)
        last.workers later.workers := by
  have start : Pool.Alike secret.comparison.Similar secret.comparison.Agree secret.Versions
      (⟨storage, []⟩ : Pool Task Effect Effect.Reply Storage) ⟨other, []⟩ := ⟨versions, .nil⟩
  have starts : ∀ task : Task, secret.Blind task →
      secret.comparison.Par task (fun _ _ => True) (processTask sort task)
        (processTask sort task) :=
    fun task blind => par_processTask blind.covers sort
  have answers : ∀ (task : Task) (now : Int) (one two : Effect) (storage other : Storage), True →
      secret.Versions storage other → secret.comparison.Similar task one two → True →
      secret.comparison.Agree task ⟨one, (handle now one storage).1⟩
          ⟨two, (handle now two other).1⟩ ∧
        secret.Versions (handle now one storage).2 (handle now two other).2 :=
    fun _ _ _ _ _ _ _ versions similar _ => versions.answers similar
  obtain ⟨last, replayed, alike⟩ := Pool.Alike.run starts answers start (fun _ _ _ _ => trivial)
    blind ran trivial
  refine ⟨last, replayed, alike.shared, alike.workers.imp fun one two same => ⟨same.task, ?_⟩⟩
  have equal : List.Forall₂ Eq (one.history.flatMap clientCalls)
      (two.history.flatMap clientCalls) := by
    refine (Comparison.answersAlike same).imp ?_
    rintro first second (equal | ⟨_, _, ⟨_, user, row, now, alike, rfl, rfl⟩, rfl, rfl⟩)
    · exact equal
    · rw [Secret.Alike.still alike |>.2.2.2.2]
  rwa [List.forall₂_eq_eq_eq] at equal

/-- Two users, the second of whom has the password. -/
def withPassword (password : Bytes) : Storage := twoUsers (bytes "Passw0rd") password

theorem versions_withPassword (one two : Bytes) :
    Secret.Versions ⟨2, bytes "bob", encryptedPass one, encryptedPass two⟩ (withPassword one)
      (withPassword two) :=
  ⟨.cons (.inl rfl) (.cons (.inr ⟨rfl, rfl, rfl, rfl⟩) .nil), rfl⟩

/-- Somebody guesses, and the first user writes to the second and asks for their
status. -/
def guessing : List (PoolEvent Task Int) :=
  [.take { cmd := .userLogin, request := { user := bytes "bob", password := bytes "guess" } },
    .take { cmd := .messageSend, request :=
      { uid := 1, password := bytes "Passw0rd", toUser := bytes "bob", message := bytes "hi" } },
    .take { cmd := .userStatus, request :=
      { uid := 1, password := bytes "Passw0rd", user := bytes "bob" } }] ++
  [.call 0 1, .call 1 1, .call 2 1, .call 0 1, .call 1 2, .call 2 2, .call 1 2, .call 1 2,
    .call 1 2, .call 2 3, .call 2 3]

theorem password_unobservable_bob :
    ∃ last later,
      (workers .stable).run guessing ⟨withPassword (bytes "first_one"), []⟩ = some last ∧
      (workers .stable).run guessing ⟨withPassword (bytes "other_one"), []⟩ = some later ∧
      later.workers.map (fun worker => (worker.history.flatMap clientCalls).length) = [1, 1, 1] ∧
      last.workers.map (fun worker => worker.history.flatMap clientCalls) =
        later.workers.map (fun worker => worker.history.flatMap clientCalls) := by
  have shape : ((workers .stable).run guessing ⟨withPassword (bytes "other_one"), []⟩).map
      (fun pool : Pool Task Effect Effect.Reply Storage =>
        pool.workers.map fun worker => (worker.history.flatMap clientCalls).length) =
      some [1, 1, 1] := by
    decide +kernel
  obtain ⟨later, ran, answered⟩ := Option.map_eq_some_iff.mp shape
  obtain ⟨last, replayed, -, same⟩ := password_unobservable .stable
    _ (versions_withPassword (bytes "first_one") (bytes "other_one")) (by decide +kernel) ran
  refine ⟨last, later, replayed, ran, answered, ?_⟩
  rw [← List.forall₂_eq_eq_eq, List.forall₂_map_left_iff, List.forall₂_map_right_iff]
  exact same.imp fun _ _ both => both.2

end GeoChat
