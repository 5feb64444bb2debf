import GeoChat.Server.Store.Serving

/-!
# Names of chats

Chats are found by name, and a name that two chats have names none. Two calls
make chats. `createChat` asks the chats for the name. `createUser`, which makes
the self chat of the user, asks the users only, so a user who takes the name of
a group makes the group unreachable.
-/

namespace GeoChat

open Library Program

namespace InMemory

/-- The calls of a connection, one after another. -/
def calls : System Storage DbOp where
  step storage op := some (exec op storage).2

/-- The name of the chat that a call makes, if it makes one. -/
def addedNames (storage : Storage) : DbOp → List Bytes
  | .createUser name _ _ _ _ =>
      if storage.users.any fun user => user.name = name then [] else [name]
  | .createChat name _ => if storage.chats.any fun chat => chat.name = name then [] else [name]
  | _ => []

/-- A new user takes the name of a chat. -/
def Clashes (storage : Storage) : DbOp → Prop
  | .createUser name _ _ _ _ =>
      (∀ user ∈ storage.users, user.name ≠ name) ∧ ∃ chat ∈ storage.chats, chat.name = name
  | _ => False

/-- What a call does to the names of the chats. -/
theorem exec_chatNames (op : DbOp) (storage : Storage) :
    (exec op storage).2.chats.map (·.name) =
      storage.chats.map (·.name) ++ addedNames storage op := by
  cases op with
  | createUser name pass stpath ip city =>
      simp only [exec, createUser, addedNames]
      split
      · exact (List.append_nil _).symm
      · exact List.map_append
  | createChat name uid =>
      simp only [exec, createChat, addedNames]
      split
      · exact (List.append_nil _).symm
      · exact List.map_append
  | addUserToChat chat user =>
      simp only [exec, addUserToChat, addedNames, List.append_nil]
      split <;> rfl
  | getMessages chatid opt =>
      obtain ⟨messages, result, -⟩ := getMessages_storage chatid opt storage
      simp only [exec, result, addedNames, List.append_nil]
  | _ => exact (List.append_nil _).symm

/-- Only a user who takes the name of a chat makes a second chat of a name. -/
theorem clashes_iff (storage : Storage) (op : DbOp) :
    Clashes storage op ↔ ∃ name ∈ addedNames storage op, name ∈ storage.chats.map (·.name) := by
  cases op with
  | createUser name pass stpath ip city =>
      simp only [Clashes, addedNames]
      split
      next taken =>
        obtain ⟨user, member, same⟩ := List.any_eq_true.mp taken
        constructor
        · intro clash
          exact absurd (of_decide_eq_true same) (clash.1 user member)
        · simp
      next free =>
        have unused : ∀ user ∈ storage.users, user.name ≠ name := by
          intro user member same
          exact free (List.any_eq_true.mpr ⟨user, member, decide_eq_true same⟩)
        simp only [List.mem_singleton, exists_eq_left, List.mem_map]
        exact and_iff_right unused
  | createChat name uid =>
      simp only [Clashes, addedNames, false_iff]
      split
      next taken => simp
      next free =>
        rintro ⟨added, member, inUse⟩
        cases List.mem_singleton.mp member
        obtain ⟨chat, memberChat, same⟩ := List.mem_map.mp inUse
        exact free (List.any_eq_true.mpr ⟨chat, memberChat, decide_eq_true same⟩)
  | _ => simp [Clashes, addedNames]

theorem addedNames_nodup (storage : Storage) (op : DbOp) : (addedNames storage op).Nodup := by
  unfold addedNames
  split
  · split <;> simp
  · split <;> simp
  · simp

/-- One call keeps the names of the chats distinct when it does not clash, and
only then. -/
theorem exec_nodup_iff {storage : Storage} (distinct : (storage.chats.map (·.name)).Nodup)
    (op : DbOp) :
    ((exec op storage).2.chats.map (·.name)).Nodup ↔ ¬ Clashes storage op := by
  rw [exec_chatNames, List.nodup_append, clashes_iff]
  constructor
  · rintro ⟨-, -, apart⟩ ⟨name, added, inUse⟩
    exact apart name inUse name added rfl
  · intro fresh
    refine ⟨distinct, addedNames_nodup storage op, ?_⟩
    rintro name inUse added member rfl
    exact fresh ⟨name, member, inUse⟩

/-- The steps of a run in which no new user takes the name of a chat. -/
abbrev Apart (storage : Storage) (op : DbOp) : Prop := ¬ Clashes storage op

theorem chatNames_nodup {start storage : Storage}
    (reached : calls.ReachesWithin Apart start storage)
    (distinct : (start.chats.map (·.name)).Nodup) : (storage.chats.map (·.name)).Nodup := by
  refine reached.invariant (fun storage => (storage.chats.map (·.name)).Nodup) distinct ?_
  intro before op next held apart stepped
  cases Option.some.inj stepped
  exact (exec_nodup_iff held op).mpr apart

theorem chatNames_kept {condition : Storage → DbOp → Prop} {start storage : Storage} {name : Bytes}
    (reached : calls.ReachesWithin condition start storage)
    (named : name ∈ start.chats.map (·.name)) : name ∈ storage.chats.map (·.name) := by
  refine reached.invariant (fun storage => name ∈ storage.chats.map (·.name)) named ?_
  intro before op next held _ stepped
  cases Option.some.inj stepped
  rw [exec_chatNames]
  exact List.mem_append_left _ held

theorem lookupChatByName_single {storage : Storage} {name : Bytes}
    (distinct : (storage.chats.map (·.name)).Nodup) (named : name ∈ storage.chats.map (·.name)) :
    ∃ chat, lookupChatByName name storage = [chat] := by
  obtain ⟨chat, member, rfl⟩ := List.mem_map.mp named
  exact ⟨chat, filter_of_nodup distinct member⟩

theorem createChat_named {name : Bytes} {uid : Nat} {storage : Storage}
    (created : (createChat name uid storage).1.id ≠ 0) :
    name ∈ (createChat name uid storage).2.chats.map (·.name) := by
  unfold createChat at created ⊢
  split at created
  next => exact absurd rfl created
  next free =>
    rw [if_neg free]
    simp

end InMemory

/-- The reply that `CHAT_ADDUSER` and `MESSAGE_SEND_CHAT` give for the name of
no chat, or of several. -/
def chatMissing : ClientCall :=
  .sendErrorResponse 404 .errNotFound (bytes "chat does not exist")

/-- A reply that one of the storages gives. -/
def AnsweredIn (storages : Storage → Prop) (effect : Effect) (reply : effect.Reply) : Prop :=
  ∃ now storage, storages storage ∧ reply = (InMemory.handle now effect storage).1

/-- The program never answers that the chat is missing, when each of its calls
is made on one of the storages. Other workers can change the storage between
the calls. -/
def FindsChat (storages : Storage → Prop) (program : Prog Unit) : Prop :=
  program.Follows (AnsweredIn storages) (fun _ effect => effect ≠ .client chatMissing)
    (fun _ _ => True) []

namespace DatabaseWorker

open InMemory

theorem finds_lookupCheckPass (task : Task) :
    (lookupCheckPass task).Uses fun effect => effect ≠ .client chatMissing :=
  uses_lookupCheckPass (by simp) (by simp [chatMissing]) (by simp [chatMissing])

theorem finds_lookupCheckPassByName (name : Bytes) (task : Task) (check : Bool) :
    (lookupCheckPassByName name task check).Uses fun effect => effect ≠ .client chatMissing := by
  have otherText : bytes "user does not exist" ≠ bytes "chat does not exist" := by decide
  apply uses_lookupCheckPassByName
  · simp
  · simp [chatMissing, otherText]
  · simp [chatMissing]
  · simp [chatMissing]

section Answers

variable {storages : Storage → Prop} {task : Task}

/-- A lookup that is answered by one of the storages finds one chat. -/
theorem finds_lookup {history : History} {next : List Chat → Prog Unit}
    (found : ∀ storage, storages storage →
      ∃ chat, lookupChatByName task.request.chat.name storage = [chat])
    (further : ∀ chat, (next [chat]).Uses fun effect => effect ≠ .client chatMissing) :
    (Prog.db (.lookupChatByName task.request.chat.name) >>= next).Follows (AnsweredIn storages)
      (fun _ effect => effect ≠ .client chatMissing) (fun _ _ => True) history := by
  refine .perform (by simp) ?_
  rintro chats ⟨now, storage, member, rfl⟩
  obtain ⟨chat, single⟩ := found storage member
  have answered : (handle now (.db (.lookupChatByName task.request.chat.name)) storage).1 =
      [chat] := single
  rw [answered]
  exact ((further chat).follows (fun _ _ other => other) _).mono fun _ _ _ => trivial

theorem findsChat_processChatAdduser
    (found : ∀ storage, storages storage →
      ∃ chat, lookupChatByName task.request.chat.name storage = [chat]) :
    FindsChat storages (processChatAdduser task) := by
  refine (finds_lookupCheckPass task).follows_bind (fun _ _ other => other) fun _ user => ?_
  split
  · trivial
  · refine (finds_lookupCheckPassByName _ task false).follows_bind (fun _ _ other => other)
      fun _ toAdd => ?_
    split
    · trivial
    · refine finds_lookup found fun chat => ?_
      exact .bind (by simp) fun _ => by simp [chatMissing]

theorem findsChat_processMessageSendChat
    (found : ∀ storage, storages storage →
      ∃ chat, lookupChatByName task.request.chat.name storage = [chat]) :
    FindsChat storages (processMessageSendChat task) := by
  refine (finds_lookupCheckPass task).follows_bind (fun _ _ other => other) fun _ user => ?_
  split
  · trivial
  · refine finds_lookup found fun chat => ?_
    exact .bind (by simp) fun _ => .bind (by simp) fun _ => by simp [chatMissing]

end Answers

end DatabaseWorker

open InMemory DatabaseWorker

/-- As long as no new user takes the name of a chat, no two chats have the same
name, and this is the condition: the first such user ends it. A chat that has
been created is the only one of its name from then on, and no task misses it. -/
theorem chatNames_unambiguous {storage : Storage}
    (reached : calls.ReachesWithin Apart {} storage) :
    (storage.chats.map (·.name)).Nodup ∧
    (∀ op, ((exec op storage).2.chats.map (·.name)).Nodup ↔ Apart storage op) ∧
    ∀ name uid, (createChat name uid storage).1.id ≠ 0 →
      (∀ later, calls.ReachesWithin Apart (createChat name uid storage).2 later →
        ∃ chat, lookupChatByName name later = [chat]) ∧
      ∀ task : Task, task.request.chat.name = name →
        FindsChat (calls.ReachesWithin Apart (createChat name uid storage).2)
          (processChatAdduser task) ∧
        FindsChat (calls.ReachesWithin Apart (createChat name uid storage).2)
          (processMessageSendChat task) := by
  have distinct := chatNames_nodup reached List.nodup_nil
  refine ⟨distinct, exec_nodup_iff distinct, ?_⟩
  intro name uid created
  have distinctAfter := (exec_nodup_iff distinct (.createChat name uid)).mpr id
  have single : ∀ later, calls.ReachesWithin Apart (createChat name uid storage).2 later →
      ∃ chat, lookupChatByName name later = [chat] := by
    intro later further
    exact lookupChatByName_single (chatNames_nodup further distinctAfter)
      (chatNames_kept further (createChat_named created))
  refine ⟨single, ?_⟩
  rintro task rfl
  exact ⟨findsChat_processChatAdduser single, findsChat_processMessageSendChat single⟩

/-- The call that creates a user for the request of a client. -/
def newUser (name : Bytes) : DbOp :=
  .createUser name (encryptedPass (bytes "Passw0rd")) [] [] []

/-- One user. -/
def aliceAlone : Storage := (exec (newUser (bytes "alice")) {}).2

/-- A request of the first user about the group. -/
def teamTask (cmd : Cmd) : Task :=
  { cmd, request := { uid := 1, password := bytes "Passw0rd", message := bytes "hello"
                      chat := { name := bytes "team", adduser := bytes "alice" } } }

/-- The group is found while another user joins under a name of their own. -/
theorem chatNames_unambiguous_team :
    (createChat (bytes "team") 1 aliceAlone).1.id ≠ 0 ∧
      (∃ chat, lookupChatByName (bytes "team")
        (exec (newUser (bytes "bob")) (createChat (bytes "team") 1 aliceAlone).2).2 = [chat]) ∧
      FindsChat (calls.ReachesWithin Apart (createChat (bytes "team") 1 aliceAlone).2)
        (processChatAdduser (teamTask .chatAdduser)) := by
  have apartAlice : Apart {} (newUser (bytes "alice")) := by
    intro clash
    obtain ⟨chat, member, -⟩ := clash.2
    exact List.not_mem_nil member
  have apartBob : Apart (createChat (bytes "team") 1 aliceAlone).2 (newUser (bytes "bob")) := by
    change ¬ ((∀ user ∈ (createChat (bytes "team") 1 aliceAlone).2.users, user.name ≠ bytes "bob") ∧
      ∃ chat ∈ (createChat (bytes "team") 1 aliceAlone).2.chats, chat.name = bytes "bob")
    decide +kernel
  have created : (createChat (bytes "team") 1 aliceAlone).1.id ≠ 0 := by decide
  have unambiguous := (chatNames_unambiguous (.step .start apartAlice rfl)).2.2
    (bytes "team") 1 created
  exact ⟨created, unambiguous.1 _ (.step .start apartBob rfl),
    (unambiguous.2 (teamTask .chatAdduser) rfl).1⟩

/-- A user takes the name of the group. From then on two chats have it, and the
members of the group can neither add to it nor write to it. -/
theorem chatNames_ambiguous :
    (createChat (bytes "team") 1 aliceAlone).1.id ≠ 0 ∧
      ∃ storage, calls.Reaches {} aliceAlone ∧
        calls.Reaches (createChat (bytes "team") 1 aliceAlone).2 storage ∧
        ¬ (storage.chats.map (·.name)).Nodup ∧
        (lookupChatByName (bytes "team") storage).length = 2 ∧
        (serve 0 storage (processChatAdduser (teamTask .chatAdduser))).1 = [chatMissing] ∧
        (serve 0 storage (processMessageSendChat (teamTask .messageSendChat))).1 =
          [chatMissing] := by
  refine ⟨by decide, _, System.reaches_step (newUser (bytes "alice")) rfl,
    System.reaches_step (newUser (bytes "team")) rfl, ?_, ?_, ?_, ?_⟩
  · decide +kernel
  · decide +kernel
  · decide +kernel
  · decide +kernel

end GeoChat
