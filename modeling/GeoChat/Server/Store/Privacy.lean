import Mathlib.Data.List.Nodup
import GeoChat.Server.Store.Sequence

/-!
# Privacy of direct messages

A direct message is stored in the self chat of its recipient, and an idle
connection gets the messages of the chats its user is a member of. Self chats
lie in the same name space as groups, and `CHAT_ADDUSER` finds a chat by its
name, so it opens a self chat to another user. No other task does.
-/

namespace GeoChat

open Library Program

/-- Every user is the only member of their own chat. -/
def Storage.Private (storage : Storage) : Prop :=
  ∀ user ∈ storage.users,
    storage.chatuser.filter (fun row => row.chatid = user.selfChatId) =
      [⟨user.selfChatId, user.id⟩]

/-- A user with the right password adds someone to the self chat of another
user, which goes by the name of that user. -/
def Leaks (storage : Storage) (task : Task) : Prop :=
  task.cmd = .chatAdduser ∧ (InMemory.checkPass task storage).id ≠ 0 ∧
    task.request.chat.name ≠ task.request.chat.adduser ∧
    (∃ owner ∈ storage.users, owner.name = task.request.chat.name) ∧
    (∃ added ∈ storage.users, added.name = task.request.chat.adduser) ∧
    (InMemory.lookupChatByName task.request.chat.name storage).length = 1

instance (storage : Storage) : Decidable storage.Private :=
  inferInstanceAs (Decidable (∀ user ∈ storage.users, _))

instance (storage : Storage) (task : Task) : Decidable (Leaks storage task) :=
  inferInstanceAs (Decidable (_ ∧ _))

/-- The messages that an exchange has stored. -/
def savedMessages : Exchange Effect Effect.Reply → List Message
  | ⟨.db (.saveMessage msg), _⟩ => [msg]
  | _ => []

/-- Privacy in the form that the calls keep. -/
def Storage.Closed (storage : Storage) : Prop :=
  ∀ own ∈ storage.users.map User.selfRow, ∀ row ∈ storage.chatuser,
    row.chatid = own.chatid → row = own

theorem Storage.Numbered.privacy {storage : Storage} (numbered : storage.Numbered)
    (closed : storage.Closed) : storage.Private := by
  intro user member
  have own : user.selfRow ∈ storage.users.map User.selfRow := List.mem_map_of_mem member
  have only : ∀ row ∈ storage.chatuser, row.chatid = user.selfChatId ↔ row = user.selfRow :=
    fun row memberRow => ⟨closed _ own row memberRow, fun same => same ▸ rfl⟩
  calc storage.chatuser.filter (fun row => row.chatid = user.selfChatId)
      = storage.chatuser.filter (fun row => id row = id user.selfRow) :=
        List.filter_congr fun row memberRow => by simpa using only row memberRow
    _ = [user.selfRow] :=
        InMemory.filter_of_nodup (by simpa using numbered.rows) (numbered.selfRows own)

namespace InMemory

/-- An effect that changes neither the users nor their memberships. -/
def KeepsMembers : Effect → Prop
  | .db (.createUser ..) => False
  | .db (.createChat ..) => False
  | .db (.addUserToChat ..) => False
  | _ => True

def SameMembers (before later : Storage) : Prop :=
  later.users.map User.selfRow = before.users.map User.selfRow ∧
    later.chatuser = before.chatuser

theorem handle_sameMembers (now : Int) (effect : Effect) (storage : Storage)
    (keeps : KeepsMembers effect) : SameMembers storage (handle now effect storage).2 := by
  cases effect with
  | time => exact ⟨rfl, rfl⟩
  | client call => exact ⟨rfl, rfl⟩
  | db op =>
      cases op with
      | updateUserHeartBit user ts =>
          exact ⟨setHeartBit_map User.selfRow (fun _ _ => rfl) user.id ts storage.users, rfl⟩
      | createUser name pass stpath ip city => exact keeps.elim
      | createChat name uid => exact keeps.elim
      | addUserToChat chat user => exact keeps.elim
      | getMessages chatid opt =>
          rcases getMessages_storage chatid opt storage with ⟨messages, result, -⟩
          simp only [SameMembers, handle_db, exec, result, and_self]
      | _ => exact ⟨rfl, rfl⟩

theorem closed_of_uses {program : Prog Unit} (uses : program.Uses KeepsMembers) (now : Int)
    {storage : Storage} (closed : storage.Closed) :
    (program.run (handle now) storage).2.Closed := by
  have same : SameMembers storage (program.run (handle now) storage).2 :=
    uses.run_related SameMembers (fun _ => ⟨rfl, rfl⟩)
      (fun _ _ _ first second => ⟨second.1.trans first.1, second.2.trans first.2⟩)
      (handle_sameMembers now) storage
  unfold Storage.Closed
  rw [same.1, same.2]
  exact closed

theorem createUser_closed {storage : Storage} (numbered : storage.Numbered)
    (closed : storage.Closed) (name pass stpath ip city : Bytes) :
    (createUser name pass stpath ip city storage).2.Closed := by
  unfold createUser
  split
  · exact closed
  · have freshRow : ∀ row ∈ storage.chatuser, row.chatid ≠ storage.chatAutoincrement := by
      intro row member
      have existing := numbered.chat_lt (numbered.rowChats (List.mem_map_of_mem member))
      omega
    have freshOwn : ∀ own ∈ storage.users.map User.selfRow,
        own.chatid ≠ storage.chatAutoincrement := fun own member =>
      freshRow own (numbered.selfRows member)
    intro own memberOwn row memberRow same
    simp only [List.map_append, List.mem_append, List.map_cons, List.map_nil,
      List.mem_singleton] at memberOwn memberRow
    rcases memberOwn with oldOwn | rfl <;> rcases memberRow with oldRow | rfl
    · exact closed own oldOwn row oldRow same
    · exact absurd same.symm (freshOwn own oldOwn)
    · exact absurd same (freshRow row oldRow)
    · rfl

theorem createChat_closed {storage : Storage} (numbered : storage.Numbered)
    (closed : storage.Closed) (name : Bytes) (uid : Nat) :
    (createChat name uid storage).2.Closed := by
  unfold createChat
  split
  · exact closed
  · intro own memberOwn row memberRow same
    rcases List.mem_append.mp memberRow with oldRow | newRow
    · exact closed own memberOwn row oldRow same
    · have fresh : row.chatid = storage.chatAutoincrement := by
        split at newRow
        · exact congrArg Chatuser.chatid (List.mem_singleton.mp newRow)
        · simp at newRow
      have existing := numbered.chat_lt
        (numbered.rowChats (List.mem_map_of_mem (numbered.selfRows memberOwn)))
      omega

/-- A row of a self chat that is not the row of its owner ends the privacy, and
nothing else that `addUserToChat` adds does. -/
theorem addUserToChat_closed {storage : Storage} (closed : storage.Closed) (chat : Chat)
    (user : User) :
    (addUserToChat chat user storage).Closed ↔
      ∀ own ∈ storage.users.map User.selfRow, chat.id = own.chatid → user.id = own.uid := by
  have adds : ∀ row, row ∈ (addUserToChat chat user storage).chatuser ↔
      row ∈ storage.chatuser ∨ row = ⟨chat.id, user.id⟩ := by
    intro row
    unfold addUserToChat
    split
    next present =>
      rcases List.any_eq_true.mp present with ⟨old, member, same⟩
      simp only [Bool.and_eq_true, decide_eq_true_eq] at same
      constructor
      · exact .inl
      · rintro (memberRow | rfl)
        · exact memberRow
        · rw [← same.1, ← same.2]
          exact member
    next absent => simp
  have users : (addUserToChat chat user storage).users = storage.users := by
    unfold addUserToChat
    split <;> rfl
  unfold Storage.Closed
  rw [users]
  constructor
  · intro after own memberOwn same
    have added := after own memberOwn ⟨chat.id, user.id⟩ ((adds _).mpr (.inr rfl)) same
    exact congrArg Chatuser.uid added
  · intro harmless own memberOwn row memberRow same
    rcases (adds row).mp memberRow with old | rfl
    · exact closed own memberOwn row old same
    · have owner := harmless own memberOwn same
      cases own
      simp_all

end InMemory

namespace DatabaseWorker

open InMemory

/-- Three commands change who is a member of what. -/
theorem uses_processTask {task : Task} (sort : TimestampSort)
    (noCreate : task.cmd ≠ .userCreate) (noChat : task.cmd ≠ .chatCreate)
    (noMember : task.cmd ≠ .chatAdduser) : (processTask sort task).Uses KeepsMembers := by
  refine (own_processTask sort task).mono fun effect own => ?_
  unfold KeepsMembers
  split
  · exact noCreate own.1
  · exact noChat own.1
  · exact noMember own
  · trivial

theorem lookupUserByName_single {storage : Storage} (numbered : storage.Numbered) {user : User}
    (member : user ∈ storage.users) : lookupUserByName user.name storage = [user] :=
  filter_of_nodup numbered.names member

/-- The only chat of a name that a user has is the self chat of the user. -/
theorem single_selfChat {storage : Storage} (numbered : storage.Numbered) {owner : User}
    (member : owner ∈ storage.users) {chat : Chat}
    (single : lookupChatByName owner.name storage = [chat]) : chat = owner.selfChat := by
  have found : owner.selfChat ∈ lookupChatByName owner.name storage :=
    List.mem_filter.mpr ⟨numbered.selfChat_mem member, by simp [User.selfChat]⟩
  rw [single] at found
  exact (List.mem_singleton.mp found).symm

theorem checkPassByName_mem {storage : Storage} {name : Bytes} {task : Task}
    (found : (checkPassByName name task false storage).id ≠ 0) :
    checkPassByName name task false storage ∈ storage.users ∧
      (checkPassByName name task false storage).name = name := by
  have member : checkPassByName name task false storage ∈ lookupUserByName name storage := by
    unfold checkPassByName at found ⊢
    split
    next user single => simp [single]
    next notSingle =>
      split at found
      · exact absurd ‹_› (notSingle _)
      · exact absurd rfl found
  simpa [lookupUserByName] using member

theorem checkPassByName_single {storage : Storage} (numbered : storage.Numbered) {user : User}
    (member : user ∈ storage.users) (task : Task) :
    checkPassByName user.name task false storage = user := by
  simp only [checkPassByName, lookupUserByName_single numbered member, Bool.false_and,
    Bool.false_eq_true, if_false]

/-- Who is added to a chat that was found by name: a member of the self chat
of another user exactly when the task leaks. -/
theorem harmless_iff {storage : Storage} (numbered : storage.Numbered) {task : Task} {chat : Chat}
    (command : task.cmd = .chatAdduser) (accepted : (checkPass task storage).id ≠ 0)
    (found : (checkPassByName task.request.chat.adduser task false storage).id ≠ 0)
    (single : lookupChatByName task.request.chat.name storage = [chat]) :
    (∀ own ∈ storage.users.map User.selfRow, chat.id = own.chatid →
      (checkPassByName task.request.chat.adduser task false storage).id = own.uid) ↔
      ¬ Leaks storage task := by
  have consistent := numbered.consistent
  rcases checkPassByName_mem found with ⟨memberAdded, nameAdded⟩
  generalize checkPassByName task.request.chat.adduser task false storage = toAdd at *
  constructor
  · rintro harmless ⟨_, _, differ, ⟨owner, memberOwner, named⟩, _, _⟩
    have own := single_selfChat numbered memberOwner (named ▸ single)
    have sameId := harmless owner.selfRow (List.mem_map_of_mem memberOwner)
      (congrArg Chat.id own)
    have same : toAdd = owner :=
      List.inj_on_of_nodup_map consistent.userIdsDistinct memberAdded memberOwner sameId
    exact differ (by rw [← named, ← nameAdded, same])
  · intro safe own memberOwn sameChat
    rcases List.mem_map.mp memberOwn with ⟨owner, memberOwner, rfl⟩
    by_contra different
    have memberChat : chat ∈ storage.chats ∧ chat.name = task.request.chat.name := by
      have listed : chat ∈ lookupChatByName task.request.chat.name storage := by simp [single]
      simpa [lookupChatByName] using listed
    have isSelf : chat = owner.selfChat :=
      List.inj_on_of_nodup_map consistent.chatIdsDistinct memberChat.1
        (numbered.selfChat_mem memberOwner) sameChat
    have named : owner.name = task.request.chat.name := by
      rw [← memberChat.2, isSelf, User.selfChat]
    refine safe ⟨command, accepted, ?_, ⟨owner, memberOwner, named⟩,
      ⟨toAdd, memberAdded, nameAdded⟩, by rw [single, List.length_singleton]⟩
    intro sameName
    have same : toAdd = owner :=
      List.inj_on_of_nodup_map consistent.userNamesDistinct memberAdded memberOwner
        (by rw [nameAdded, named, sameName])
    exact different (congrArg User.id same)

theorem adduser_closed_iff {storage : Storage} (numbered : storage.Numbered)
    (closed : storage.Closed) {task : Task} (command : task.cmd = .chatAdduser)
    (sort : TimestampSort) (now : Int) :
    (after sort now task storage).Closed ↔ ¬ Leaks storage task := by
  rw [after_chatAdduser sort now storage command]
  simp only
  split
  next chat single =>
    split
    next denied =>
      refine iff_of_true closed ?_
      rintro ⟨_, accepted, _, _, ⟨added, member, named⟩, _⟩
      rcases denied with wrong | missing
      · exact accepted wrong
      · rw [← named, checkPassByName_single numbered member] at missing
        have positive := (numbered.user_lt (List.mem_map_of_mem member)).1
        omega
    next accepted =>
      rw [not_or] at accepted
      rw [addUserToChat_closed closed]
      exact harmless_iff numbered command accepted.1 accepted.2 single
  next notSingle =>
    refine iff_of_true closed ?_
    rintro ⟨_, _, _, _, _, single⟩
    rcases List.length_eq_one_iff.mp single with ⟨chat, isSingle⟩
    exact notSingle chat isSingle

/-- One task keeps the self chats closed exactly when it does not leak. -/
theorem after_closed_iff {storage : Storage} (numbered : storage.Numbered)
    (closed : storage.Closed) (sort : TimestampSort) (now : Int) (task : Task) :
    (after sort now task storage).Closed ↔ ¬ Leaks storage task := by
  by_cases adds : task.cmd = .chatAdduser
  · exact adduser_closed_iff numbered closed adds sort now
  · refine iff_of_true ?_ fun leaks => adds leaks.1
    by_cases creates : task.cmd = .userCreate
    · rw [after_userCreate sort now storage creates]
      exact createUser_closed numbered closed _ _ _ _ _
    · by_cases chat : task.cmd = .chatCreate
      · rw [after_chatCreate sort now storage chat]
        split
        · exact closed
        · exact createChat_closed numbered closed _ _
      · exact closed_of_uses (uses_processTask sort creates chat adds) now closed

theorem lookup_reads (exchange : Exchange Effect Effect.Reply) (lookup : exchange.1.Lookup) :
    readMessages exchange = [] := by
  unfold readMessages
  split
  · exact lookup.elim
  · rfl

theorem lookup_saves (exchange : Exchange Effect Effect.Reply) (lookup : exchange.1.Lookup) :
    savedMessages exchange = [] := by
  unfold savedMessages
  split
  · exact lookup.elim
  · rfl

theorem getMessages_chatTo {chatid : Nat} {opt : GetMsgOpt} {storage : Storage} {msg : Message}
    (read : msg ∈ (getMessages chatid opt storage).1) : msg.chatTo = chatid := by
  rw [getMessages_result] at read
  have newer := cutAt_subset _ _ read
  simp only [List.mem_reverse, List.mem_filter, Message.newer, Bool.and_eq_true,
    decide_eq_true_eq] at newer
  exact newer.2.1

theorem readChats_reads (now ts : Int) (chats : List Chat) (storage : Storage) {msg : Message}
    (read : msg ∈ ((readChats ts chats).trace (handle now) storage).flatMap readMessages) :
    ∃ chat ∈ chats, msg.chatTo = chat.id := by
  induction chats generalizing storage with
  | nil => simp [readChats] at read
  | cons chat rest inductionHypothesis =>
      simp only [readChats, perform_bind, trace_call, trace_bind, trace_pure, List.append_nil,
        List.flatMap_cons, List.mem_append] at read
      rcases read with here | later
      · exact ⟨chat, List.mem_cons_self, getMessages_chatTo here⟩
      · rcases inductionHypothesis _ later with ⟨other, member, same⟩
        exact ⟨other, List.mem_cons_of_mem _ member, same⟩

/-- The chats that the idle branch reads are those the user is a member of. -/
theorem idle_reads {task : Task} (command : task.cmd = .idle) (sort : TimestampSort) (now : Int)
    {storage : Storage} {msg : Message}
    (read : msg ∈ ((processTask sort task).trace (handle now) storage).flatMap readMessages) :
    ∃ chatid ∈ chatidsForUserId task.request.uid storage,
      msg.chatTo = (lookupChatById chatid storage).id := by
  simp only [processTask, command, processIdle, trace_bind, run_lookupCheckPass,
    List.flatMap_append, (lookup_lookupCheckPass task).flatMap_trace lookup_reads,
    List.nil_append] at read
  by_cases denied : (checkPass task storage).id = 0
  · simp [denied] at read
  · simp only [denied, if_false, perform_bind, trace_call, handle_time, handle_db, exec,
      trace_bind, List.flatMap_cons, List.flatMap_append, run_lookupChatsForUserId,
      lookupChatsForUserId,
      (lookup_lookupChatsForUserId _).flatMap_trace lookup_reads,
      (lookup_sendBatch _ _).flatMap_trace lookup_reads,
      List.nil_append, List.append_nil] at read
    rcases readChats_reads _ _ _ _ (by simpa [readMessages] using read) with
      ⟨chat, member, same⟩
    rcases List.mem_map.mp member with ⟨chatid, memberId, rfl⟩
    rw [(checkPass_mem storage denied).2] at memberId
    exact ⟨chatid, memberId, same⟩

/-- A direct message goes to the self chat of its recipient. -/
theorem send_saves {storage : Storage} (numbered : storage.Numbered) {task : Task} {user : User}
    (command : task.cmd = .messageSend) (recipient : user ∈ storage.users)
    (named : task.request.toUser = user.name) (sort : TimestampSort) (now : Int) {msg : Message}
    (saved : msg ∈ ((processTask sort task).trace (handle now) storage).flatMap savedMessages) :
    msg.chatTo = user.selfChatId := by
  simp only [processTask, command, processMessageSend, trace_bind, run_lookupCheckPass,
    List.flatMap_append, (lookup_lookupCheckPass task).flatMap_trace lookup_saves,
    List.nil_append] at saved
  by_cases denied : (checkPass task storage).id = 0
  · simp [denied] at saved
  · have single := lookupUserByName_single numbered recipient
    rw [← named] at single
    simp only [denied, if_false, perform_bind, trace_call, handle_db, exec, single,
      storeMessage, handle_time, trace_perform, List.flatMap_cons, savedMessages,
      List.flatMap_nil, List.nil_append, List.append_nil, List.mem_singleton] at saved
    exact congrArg Message.chatTo saved

end DatabaseWorker

open DatabaseWorker

theorem empty_closed : Storage.Closed {} := by
  intro own member
  simp at member

theorem closed_of_sequence {sort : TimestampSort} {storage : Storage}
    (reached : (sequence sort).ReachesWithin (fun storage event => ¬ Leaks storage event.1)
      {} storage)
    (room : storage.creations + 1 < 2 ^ 64) : storage.Closed := by
  induction reached with
  | start => exact empty_closed
  | @step middle next event reachedMiddle safe stepped inductionHypothesis =>
      cases Option.some.inj stepped
      have before := after_creations sort event.2 event.1 middle
      have roomBefore : middle.creations + 1 < 2 ^ 64 := by
        have roomAfter : (after sort event.2 event.1 middle).creations + 1 < 2 ^ 64 := room
        omega
      exact (after_closed_iff (numbered_of_sequence reachedMiddle roomBefore)
        (inductionHypothesis roomBefore) sort event.2 event.1).mpr safe

/-- In every sequence of tasks in which none opens a self chat, every user is
the only member of their own chat: a direct message goes to this chat, and only
the idle connections of its owner get it. -/
theorem directMessages_private {sort : TimestampSort} {storage : Storage}
    (reached : (sequence sort).ReachesWithin (fun storage event => ¬ Leaks storage event.1)
      {} storage)
    (room : storage.creations < 2 ^ 64 - 1) :
    storage.Private ∧ ∀ user ∈ storage.users, ∀ now task,
      (task.cmd = .messageSend → task.request.toUser = user.name →
        ∀ msg ∈ ((processTask sort task).trace (InMemory.handle now) storage).flatMap
          savedMessages, msg.chatTo = user.selfChatId) ∧
      (task.cmd = .idle →
        ∀ msg ∈ ((processTask sort task).trace (InMemory.handle now) storage).flatMap
          readMessages, msg.chatTo = user.selfChatId → task.request.uid = user.id) := by
  have closed := closed_of_sequence reached (by omega)
  have numbered := numbered_of_sequence reached (by omega)
  refine ⟨numbered.privacy closed, fun user member now task => ⟨?_, ?_⟩⟩
  · intro command named msg saved
    exact send_saves numbered command member named sort now saved
  · intro command msg read same
    rcases idle_reads command sort now read with ⟨chatid, memberId, sameChat⟩
    simp only [InMemory.chatidsForUserId, List.mem_map, List.mem_filter, decide_eq_true_eq]
      at memberId
    rcases memberId with ⟨row, ⟨memberRow, uid⟩, rfl⟩
    have found : (InMemory.lookupChatById row.chatid storage).id = row.chatid :=
      InMemory.lookupChatById_id (numbered.rowChats (List.mem_map_of_mem memberRow))
    have own := closed user.selfRow (List.mem_map_of_mem member) row memberRow
      (by rw [← found, ← sameChat, same]; rfl)
    rw [← uid, own]
    rfl

/-- The request of the user `uid` with the password of `createUserTask`. -/
def requestOf (uid : Nat) : Params := { uid, password := bytes "Passw0rd" }

/-- Alice adds a user to the chat. -/
def aliceAdds (chat adduser : Bytes) : Task :=
  { cmd := .chatAdduser, request := { requestOf 1 with chat := { name := chat, adduser } } }

/-- Alice joins the self chat of Bob, then Carol writes to Bob. -/
def leakingTasks : List (Task × Int) :=
  [(createUserTask (bytes "alice"), 1), (createUserTask (bytes "bob"), 2),
    (createUserTask (bytes "carol"), 3), (aliceAdds (bytes "bob") (bytes "alice"), 4),
    ({ cmd := .messageSend,
       request := { requestOf 3 with toUser := bytes "bob", message := bytes "secret" } }, 5)]

/-- The idle connection of Alice gets the message of Carol to Bob. -/
theorem directMessages_leak :
    ∃ storage, (sequence .stable).run leakingTasks {} = some storage ∧
      storage.creations < 2 ^ 64 - 1 ∧ ¬ storage.Private ∧
      ∃ user ∈ storage.users, ∃ msg ∈ ((processTask .stable
          { cmd := .idle, request := requestOf 1 }).trace (InMemory.handle 6) storage).flatMap
          readMessages,
        msg.chatTo = user.selfChatId ∧ user.id ≠ 1 := by
  refine ⟨_, rfl, ?_⟩
  decide +kernel

/-- Alice makes a group with Bob in it, which leaks nothing. -/
def harmlessTasks : List (Task × Int) :=
  [(createUserTask (bytes "alice"), 1), (createUserTask (bytes "bob"), 2),
    ({ cmd := .chatCreate, request := { requestOf 1 with chat := { name := bytes "all" } } }, 3),
    (aliceAdds (bytes "all") (bytes "bob"), 4)]

theorem directMessages_private_in_group :
    ∃ storage, (sequence .stable).runWithin (fun storage event => ¬ Leaks storage event.1)
        harmlessTasks {} = some storage ∧
      storage.chatuser.length = 4 ∧ storage.Private := by
  have shape : ((sequence .stable).runWithin (fun storage event => ¬ Leaks storage event.1)
      harmlessTasks {}).map
        (fun storage : Storage => (storage.chatuser.length, storage.creations)) =
      some (4, 3) := by
    decide +kernel
  rcases Option.map_eq_some_iff.mp shape with ⟨storage, replayed, sizes⟩
  simp only [Prod.mk.injEq] at sizes
  exact ⟨storage, replayed, sizes.1,
    (directMessages_private (System.reachesWithin_of_run replayed) (by omega)).1⟩

end GeoChat
