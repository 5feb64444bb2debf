import GeoChat.Server.Calls
import GeoChat.Server.Store.Scan

/-!
# The representation invariant of the storage

Any number of workers process tasks over one storage, one locked call at a
time. Rows are numbered in the order of their creation, so what a worker has
looked up stays in the tables, and every row it inserts later refers to rows
that exist.
-/

namespace GeoChat

open Library

/-- The chat that `createUser` makes for the user. -/
def User.selfChat (user : User) : Chat := { id := user.selfChatId, name := user.name }

/-- The membership of a user in their own chat. -/
def User.selfRow (user : User) : Chatuser := { chatid := user.selfChatId, uid := user.id }

/-- The number of successful calls of `createUser` and `createChat`. Each of
them makes one chat. -/
def Storage.creations (storage : Storage) : Nat := storage.chats.length

/-- The representation invariant over the four tables. -/
structure Storage.Consistent (storage : Storage) : Prop where
  userIdsDistinct : (storage.users.map (·.id)).Nodup
  userIdsRange : ∀ user ∈ storage.users, 1 ≤ user.id ∧ user.id < storage.userAutoincrement
  chatIdsDistinct : (storage.chats.map (·.id)).Nodup
  chatIdsRange : ∀ chat ∈ storage.chats, 1 ≤ chat.id ∧ chat.id < storage.chatAutoincrement
  userNamesDistinct : (storage.users.map (·.name)).Nodup
  selfChatsDistinct : (storage.users.map (·.selfChatId)).Nodup
  selfChatsExist : ∀ user ∈ storage.users,
    ∃ chat ∈ storage.chats, chat.id = user.selfChatId ∧ chat.name = user.name
  selfRowsExist : ∀ user ∈ storage.users, ⟨user.selfChatId, user.id⟩ ∈ storage.chatuser
  rowsDistinct : storage.chatuser.Nodup
  rowsExist : ∀ row ∈ storage.chatuser,
    (∃ chat ∈ storage.chats, chat.id = row.chatid) ∧ ∃ user ∈ storage.users, user.id = row.uid
  messagesExist : ∀ msg ∈ storage.messages,
    (∃ user ∈ storage.users, user.id = msg.userFrom) ∧
      ∃ chat ∈ storage.chats, chat.id = msg.chatTo

/-- Both tables of named rows are numbered from `1`, and the counters have not
wrapped. -/
structure Storage.Numbered (storage : Storage) : Prop where
  userCounter : storage.userAutoincrement = storage.users.length + 1
  chatCounter : storage.chatAutoincrement = storage.chats.length + 1
  fewerUsers : storage.users.length ≤ storage.chats.length
  userIds : storage.users.map (·.id) = List.range' 1 storage.users.length
  chatIds : storage.chats.map (·.id) = List.range' 1 storage.chats.length
  names : (storage.users.map (·.name)).Nodup
  selfChatIds : (storage.users.map (·.selfChatId)).Nodup
  selfChats : storage.users.map User.selfChat ⊆ storage.chats
  selfRows : storage.users.map User.selfRow ⊆ storage.chatuser
  rows : storage.chatuser.Nodup
  rowChats : storage.chatuser.map (·.chatid) ⊆ storage.chats.map (·.id)
  rowUsers : storage.chatuser.map (·.uid) ⊆ storage.users.map (·.id)
  messageUsers : storage.messages.map (·.userFrom) ⊆ storage.users.map (·.id)
  messageChats : storage.messages.map (·.chatTo) ⊆ storage.chats.map (·.id)

namespace Storage.Numbered

variable {storage : Storage}

theorem chat_lt (numbered : storage.Numbered) {chatid : Nat}
    (exists_ : chatid ∈ storage.chats.map (·.id)) :
    1 ≤ chatid ∧ chatid < storage.chatAutoincrement := by
  rw [numbered.chatIds, List.mem_range'_1] at exists_
  rw [numbered.chatCounter]
  omega

theorem user_lt (numbered : storage.Numbered) {uid : Nat}
    (exists_ : uid ∈ storage.users.map (·.id)) :
    1 ≤ uid ∧ uid < storage.userAutoincrement := by
  rw [numbered.userIds, List.mem_range'_1] at exists_
  rw [numbered.userCounter]
  omega

theorem selfChat_mem (numbered : storage.Numbered) {user : User}
    (member : user ∈ storage.users) : user.selfChat ∈ storage.chats :=
  numbered.selfChats (List.mem_map_of_mem member)

theorem consistent (numbered : storage.Numbered) : storage.Consistent where
  userIdsDistinct := numbered.userIds ▸ List.nodup_range'
  userIdsRange user member := numbered.user_lt (List.mem_map_of_mem member)
  chatIdsDistinct := numbered.chatIds ▸ List.nodup_range'
  chatIdsRange chat member := numbered.chat_lt (List.mem_map_of_mem member)
  userNamesDistinct := numbered.names
  selfChatsDistinct := numbered.selfChatIds
  selfChatsExist user member := ⟨user.selfChat, numbered.selfChat_mem member, rfl, rfl⟩
  selfRowsExist user member := numbered.selfRows (List.mem_map_of_mem member)
  rowsDistinct := numbered.rows
  rowsExist row member :=
    ⟨List.mem_map.mp (numbered.rowChats (List.mem_map_of_mem member)),
      List.mem_map.mp (numbered.rowUsers (List.mem_map_of_mem member))⟩
  messagesExist msg member :=
    ⟨List.mem_map.mp (numbered.messageUsers (List.mem_map_of_mem member)),
      List.mem_map.mp (numbered.messageChats (List.mem_map_of_mem member))⟩

end Storage.Numbered

/-- The form of the invariant that the calls keep, as long as there are fewer
than `2 ^ 64` chats: the rows are numbered from `1`, and only the counters may
have wrapped. -/
structure Storage.Linked (storage : Storage) : Prop where
  userCounter : storage.userAutoincrement = (storage.users.length + 1) % 2 ^ 64
  chatCounter : storage.chatAutoincrement = (storage.chats.length + 1) % 2 ^ 64
  fewerUsers : storage.users.length ≤ storage.chats.length
  userIds : storage.users.map (·.id) = List.range' 1 storage.users.length
  chatIds : storage.chats.map (·.id) = List.range' 1 storage.chats.length
  names : (storage.users.map (·.name)).Nodup
  selfChatIds : (storage.users.map (·.selfChatId)).Nodup
  selfChats : storage.users.map User.selfChat ⊆ storage.chats
  selfRows : storage.users.map User.selfRow ⊆ storage.chatuser
  rows : storage.chatuser.Nodup
  rowChats : storage.chatuser.map (·.chatid) ⊆ storage.chats.map (·.id)
  rowUsers : storage.chatuser.map (·.uid) ⊆ storage.users.map (·.id)
  messageUsers : storage.messages.map (·.userFrom) ⊆ storage.users.map (·.id)
  messageChats : storage.messages.map (·.chatTo) ⊆ storage.chats.map (·.id)

namespace Storage.Linked

variable {storage : Storage}

theorem user_ne_zero (linked : storage.Linked) {uid : Nat}
    (exists_ : uid ∈ storage.users.map (·.id)) : 0 < uid := by
  rw [linked.userIds, List.mem_range'_1] at exists_
  exact exists_.1

theorem userIds_nodup (linked : storage.Linked) : (storage.users.map (·.id)).Nodup :=
  linked.userIds ▸ List.nodup_range'

theorem chatIds_nodup (linked : storage.Linked) : (storage.chats.map (·.id)).Nodup :=
  linked.chatIds ▸ List.nodup_range'

/-- The next chat gets an id that no chat has. -/
theorem fresh_chat (linked : storage.Linked) (room : storage.chats.length + 1 < 2 ^ 64) :
    storage.chatAutoincrement ∉ storage.chats.map (·.id) := by
  rw [linked.chatIds, linked.chatCounter, Nat.mod_eq_of_lt room, List.mem_range'_1]
  omega

theorem selfChat_mem (linked : storage.Linked) {user : User}
    (member : user ∈ storage.users) : user.selfChat ∈ storage.chats :=
  linked.selfChats (List.mem_map_of_mem member)

theorem selfChatId_mem (linked : storage.Linked) {user : User}
    (member : user ∈ storage.users) : user.selfChatId ∈ storage.chats.map (·.id) :=
  List.mem_map.mpr ⟨user.selfChat, linked.selfChat_mem member, rfl⟩

/-- Before the last value of the counters nothing has wrapped. -/
theorem numbered (linked : storage.Linked) (room : storage.creations + 1 < 2 ^ 64) :
    storage.Numbered := by
  have fewer := linked.fewerUsers
  unfold Storage.creations at room
  exact { linked with
    userCounter := by rw [linked.userCounter, Nat.mod_eq_of_lt (by omega)]
    chatCounter := by rw [linked.chatCounter, Nat.mod_eq_of_lt room] }

end Storage.Linked

theorem empty_linked : Storage.Linked {} := by
  constructor <;> simp

namespace InMemory

/-- A heartbit changes no other field. -/
theorem setHeartBit_map {Alpha : Type} (field : User → Alpha)
    (other : ∀ (user : User) (ts : Int), field { user with heartbit := ts } = field user)
    (id : Nat) (ts : Int) (users : List User) :
    (setHeartBit id ts users).map field = users.map field := by
  induction users with
  | nil => rfl
  | cons user rest inductionHypothesis =>
      unfold setHeartBit
      split
      · simp [other]
      · simp [inductionHypothesis]

theorem setHeartBit_length (id : Nat) (ts : Int) (users : List User) :
    (setHeartBit id ts users).length = users.length := by
  simpa using congrArg List.length (setHeartBit_map (fun _ => ()) (fun _ _ => rfl) id ts users)

theorem updateUserHeartBit_linked {storage : Storage} (linked : storage.Linked)
    (user : User) (ts : Int) : (updateUserHeartBit user ts storage).Linked := by
  have unchanged : ∀ {Alpha : Type} (field : User → Alpha),
      (∀ (user : User) (ts : Int), field { user with heartbit := ts } = field user) →
      (updateUserHeartBit user ts storage).users.map field = storage.users.map field :=
    fun field other => setHeartBit_map field other user.id ts storage.users
  have length : (updateUserHeartBit user ts storage).users.length = storage.users.length :=
    setHeartBit_length user.id ts storage.users
  rcases linked with ⟨userCounter, chatCounter, fewerUsers, userIds, chatIds, names,
    selfChatIds, selfChats, selfRows, rows, rowChats, rowUsers, messageUsers, messageChats⟩
  constructor <;>
    first
      | rw [unchanged _ fun _ _ => rfl, length]
      | rw [unchanged _ fun _ _ => rfl]
      | rw [length]
      | skip
  all_goals assumption

theorem numbered_snoc {Alpha : Type} {id : Alpha → Nat} {rows : List Alpha} {row : Alpha}
    (ids : rows.map id = List.range' 1 rows.length) (next : id row = rows.length + 1) :
    (rows ++ [row]).map id = List.range' 1 (rows ++ [row]).length := by
  rw [List.map_append, ids, List.length_append, List.length_singleton, List.range'_concat]
  simp [next, Nat.add_comm]

theorem nodup_snoc {Alpha : Type} {rows : List Alpha} {row : Alpha} (distinct : rows.Nodup)
    (fresh : row ∉ rows) : (rows ++ [row]).Nodup := by
  rw [List.nodup_append]
  refine ⟨distinct, by simp, ?_⟩
  rintro old member new memberNew rfl
  exact fresh (List.mem_singleton.mp memberNew ▸ member)

/-- The only row with the value of a field that no two rows share. -/
theorem filter_of_nodup {Alpha Beta : Type} [DecidableEq Beta] {field : Alpha → Beta}
    {rows : List Alpha} {row : Alpha} (distinct : (rows.map field).Nodup) (member : row ∈ rows) :
    rows.filter (fun other => field other = field row) = [row] := by
  induction rows with
  | nil => simp at member
  | cons head rest inductionHypothesis =>
      rw [List.map_cons, List.nodup_cons] at distinct
      rcases List.mem_cons.mp member with rfl | later
      · have none : ∀ other ∈ rest, ¬ decide (field other = field row) = true := by
          intro other memberOther same
          exact distinct.1 (List.mem_map.mpr ⟨other, memberOther, of_decide_eq_true same⟩)
        rw [List.filter_cons_of_pos (by simp), List.filter_eq_nil_iff.mpr none]
      · have other : ¬ decide (field head = field row) = true := by
          intro same
          exact distinct.1 (List.mem_map.mpr ⟨row, later, (of_decide_eq_true same).symm⟩)
        rw [List.filter_cons_of_neg (by simpa using other), inductionHypothesis distinct.2 later]

/-- The user of the id, among users of distinct ids. -/
theorem lookupUserById_of_nodup {storage : Storage} {user : User}
    (distinct : (storage.users.map (·.id)).Nodup) (member : user ∈ storage.users) :
    lookupUserById user.id storage = user := by
  unfold lookupUserById
  rw [← List.head?_filter, filter_of_nodup distinct member]
  rfl

theorem lookupChatById_of_nodup {storage : Storage} {chat : Chat}
    (distinct : (storage.chats.map (·.id)).Nodup) (member : chat ∈ storage.chats) :
    lookupChatById chat.id storage = chat := by
  unfold lookupChatById
  rw [← List.head?_filter, filter_of_nodup distinct member]
  rfl

theorem map_snoc_subset {Alpha Beta : Type} {field : Alpha → Beta} {rows : List Alpha}
    {row : Alpha} {values : List Beta} (old : rows.map field ⊆ values)
    (new : field row ∈ values) : (rows ++ [row]).map field ⊆ values := by
  rw [List.map_append, List.append_subset]
  exact ⟨old, by simpa using new⟩

theorem createUser_linked {storage : Storage} (linked : storage.Linked)
    (name pass stpath ip city : Bytes)
    (room : (createUser name pass stpath ip city storage).2.creations < 2 ^ 64) :
    (createUser name pass stpath ip city storage).2.Linked := by
  unfold createUser at room ⊢
  split
  next taken => exact linked
  next free =>
    simp only [free, Bool.false_eq_true, if_false, Storage.creations, List.length_append,
      List.length_singleton] at room
    have freshName : name ∉ storage.users.map (·.name) := by
      intro member
      rcases List.mem_map.mp member with ⟨user, memberUser, same⟩
      exact free (List.any_eq_true.mpr ⟨user, memberUser, by simpa using same⟩)
    have freshChat := linked.fresh_chat room
    have fewer := linked.fewerUsers
    have userCounter : storage.userAutoincrement = storage.users.length + 1 :=
      linked.userCounter.trans (Nat.mod_eq_of_lt (by omega))
    have chatCounter : storage.chatAutoincrement = storage.chats.length + 1 :=
      linked.chatCounter.trans (Nat.mod_eq_of_lt room)
    constructor
    case userCounter => rw [List.length_append, List.length_singleton, userCounter]
    case chatCounter => rw [List.length_append, List.length_singleton, chatCounter]
    case fewerUsers => simpa using fewer
    case userIds => exact numbered_snoc linked.userIds userCounter
    case chatIds => exact numbered_snoc linked.chatIds chatCounter
    case names =>
      rw [List.map_append]
      exact nodup_snoc linked.names freshName
    case selfChatIds =>
      rw [List.map_append]
      refine nodup_snoc linked.selfChatIds fun member => ?_
      rcases List.mem_map.mp member with ⟨user, memberUser, same⟩
      have existing := linked.selfChatId_mem memberUser
      rw [same] at existing
      exact freshChat existing
    case selfChats =>
      exact map_snoc_subset (List.subset_append_of_subset_left _ linked.selfChats)
        (List.mem_append_right _ (List.mem_singleton.mpr rfl))
    case selfRows =>
      exact map_snoc_subset (List.subset_append_of_subset_left _ linked.selfRows)
        (List.mem_append_right _ (List.mem_singleton.mpr rfl))
    case rows =>
      refine nodup_snoc linked.rows fun member => freshChat ?_
      exact linked.rowChats (List.mem_map_of_mem (f := (·.chatid)) member)
    case rowChats =>
      rw [List.map_append (f := Chat.id)]
      exact map_snoc_subset (List.subset_append_of_subset_left _ linked.rowChats) (by simp)
    case rowUsers =>
      rw [List.map_append (f := User.id)]
      exact map_snoc_subset (List.subset_append_of_subset_left _ linked.rowUsers) (by simp)
    case messageUsers =>
      rw [List.map_append]
      exact List.subset_append_of_subset_left _ linked.messageUsers
    case messageChats =>
      rw [List.map_append]
      exact List.subset_append_of_subset_left _ linked.messageChats

/-- A membership between an existing chat and an existing user can be added. -/
theorem addRow_linked {storage : Storage} (linked : storage.Linked) {row : Chatuser}
    (fresh : row ∉ storage.chatuser) (chat : row.chatid ∈ storage.chats.map (·.id))
    (user : row.uid ∈ storage.users.map (·.id)) :
    Storage.Linked { storage with chatuser := storage.chatuser ++ [row] } :=
  { linked with
    selfRows := List.subset_append_of_subset_left _ linked.selfRows
    rows := nodup_snoc linked.rows fresh
    rowChats := map_snoc_subset linked.rowChats chat
    rowUsers := map_snoc_subset linked.rowUsers user }

theorem addUserToChat_linked {storage : Storage} (linked : storage.Linked) {chat : Chat}
    {user : User} (chatExists : chat ∈ storage.chats)
    (userExists : user.id ∈ storage.users.map (·.id)) :
    (addUserToChat chat user storage).Linked := by
  unfold addUserToChat
  split
  next present => exact linked
  next absent =>
    refine addRow_linked linked ?_ (List.mem_map_of_mem chatExists) userExists
    intro member
    exact absent (List.any_eq_true.mpr ⟨_, member, by simp⟩)

/-- A chat without members can be added. -/
theorem addChat_linked {storage : Storage} (linked : storage.Linked) (name : Bytes)
    (room : storage.chats.length + 1 < 2 ^ 64) :
    Storage.Linked { storage with
      chatAutoincrement := (storage.chatAutoincrement + 1) % 2 ^ 64
      chats := storage.chats ++ [{ id := storage.chatAutoincrement, name }] } := by
  have chatCounter : storage.chatAutoincrement = storage.chats.length + 1 :=
    linked.chatCounter.trans (Nat.mod_eq_of_lt room)
  exact { linked with
    chatCounter := by rw [List.length_append, List.length_singleton, chatCounter]
    fewerUsers := by
      rw [List.length_append]
      exact Nat.le_add_right_of_le linked.fewerUsers
    chatIds := numbered_snoc linked.chatIds chatCounter
    selfChats := List.subset_append_of_subset_left _ linked.selfChats
    rowChats := by
      rw [List.map_append]
      exact List.subset_append_of_subset_left _ linked.rowChats
    messageChats := by
      rw [List.map_append]
      exact List.subset_append_of_subset_left _ linked.messageChats }

theorem createChat_linked {storage : Storage} (linked : storage.Linked) (name : Bytes)
    {uid : Nat} (owner : uid ∈ storage.users.map (·.id))
    (room : (createChat name uid storage).2.creations < 2 ^ 64) :
    (createChat name uid storage).2.Linked := by
  unfold createChat at room ⊢
  split
  next taken => exact linked
  next free =>
    simp only [free, Bool.false_eq_true, if_false, Storage.creations, List.length_append,
      List.length_singleton] at room
    have added := addChat_linked linked name room
    have positive : 0 < uid := linked.user_ne_zero owner
    simp only [positive, if_true]
    refine addRow_linked added ?_ (by simp) owner
    intro member
    exact linked.fresh_chat room (linked.rowChats (List.mem_map_of_mem (f := (·.chatid)) member))

theorem saveMessage_linked {storage : Storage} (linked : storage.Linked) {msg : Message}
    (sender : msg.userFrom ∈ storage.users.map (·.id))
    (chat : msg.chatTo ∈ storage.chats.map (·.id)) : (saveMessage msg storage).Linked :=
  { linked with
    messageUsers := map_snoc_subset linked.messageUsers sender
    messageChats := map_snoc_subset linked.messageChats chat }

theorem getMessages_linked {storage : Storage} (linked : storage.Linked) (chatid : Nat)
    (opt : GetMsgOpt) : (getMessages chatid opt storage).2.Linked := by
  rcases getMessages_storage chatid opt storage with ⟨messages, result, unflagged⟩
  have senders := congrArg (List.map (·.userFrom)) unflagged
  have chats := congrArg (List.map (·.chatTo)) unflagged
  simp only [List.map_map, Function.comp_def, Message.unflagged_userFrom,
    Message.unflagged_chatTo] at senders chats
  rw [result]
  exact { linked with
    messageUsers := senders ▸ linked.messageUsers
    messageChats := chats ▸ linked.messageChats }

end InMemory

/-- The users that an exchange has shown to its worker. -/
def shownUsers : Exchange Effect Effect.Reply → List User
  | ⟨.db (.lookupUserById _), user⟩ => if user.id = 0 then [] else [user]
  | ⟨.db (.lookupUserByName _), users⟩ => users
  | _ => []

theorem shownUsers_subset (id : Nat) (user : User) :
    shownUsers ⟨.db (.lookupUserById id), user⟩ ⊆ [user] := by
  simp only [shownUsers]
  split <;> simp

/-- The chats that an exchange has shown to its worker. -/
def shownChats : Exchange Effect Effect.Reply → List Chat
  | ⟨.db (.lookupChatByName _), chats⟩ => chats
  | _ => []

/-- Before a worker inserts a row it has been shown what the row refers to. -/
def Grounded (history : History) : Effect → Prop
  | .db (.createChat _ uid) => ∃ user ∈ history.flatMap shownUsers, user.id = uid
  | .db (.addUserToChat chat user) =>
      chat ∈ history.flatMap shownChats ∧ user ∈ history.flatMap shownUsers
  | .db (.saveMessage msg) =>
      (∃ user ∈ history.flatMap shownUsers, user.id = msg.userFrom) ∧
        ((∃ user ∈ history.flatMap shownUsers, user.selfChatId = msg.chatTo) ∨
          ∃ chat ∈ history.flatMap shownChats, chat.id = msg.chatTo)
  | _ => True

theorem grounded_of_quiet (history : History) (effect : Effect) (quiet : effect.Quiet) :
    Grounded history effect := by
  unfold Grounded
  split <;> first | exact quiet.elim | trivial

/-- A user that is found by id has this id. -/
def Answered : (effect : Effect) → effect.Reply → Prop
  | .db (.lookupUserById id), user => user.id = 0 ∨ user.id = id
  | _, _ => True

namespace DatabaseWorker

open Program

/-- A program that is grounded and leaves what `accepted` says. -/
abbrev GroundedProg {Result : Type} (accepted : History → Result → Prop) (history : History)
    (program : Prog Result) : Prop :=
  program.Follows Answered Grounded accepted history

theorem grounded_quiet {Result : Type} {program : Prog Result} (quiet : program.Quiet)
    (history : History) : GroundedProg (fun _ _ => True) history program :=
  (quiet.follows grounded_of_quiet history).mono fun _ _ _ => trivial

/-- The guard of a task: the rest runs only for a user that was shown. -/
theorem grounded_guard {task : Task} {next : User → Prog Unit} {history : History}
    (further : ∀ later user, user ∈ later.flatMap shownUsers → user.id = task.request.uid →
      GroundedProg (fun _ _ => True) later (next user)) :
    GroundedProg (fun _ _ => True) history
      (do let user ← lookupCheckPass task; if user.id = 0 then pure () else next user) := by
  unfold lookupCheckPass
  simp only [Program.bind_assoc]
  refine .perform trivial fun user answered => ?_
  split
  next missing =>
    simp only [Program.bind_assoc]
    exact .perform trivial fun _ _ => trivial
  next present =>
    split
    next wrong =>
      simp only [Program.bind_assoc]
      exact .perform trivial fun _ _ => trivial
    next right =>
      simp only [Program.pure_bind, present, if_false]
      refine further _ user ?_ (answered.resolve_left present)
      simp [shownUsers, present]

theorem grounded_guardByName {name : Bytes} {task : Task} {checkPass : Bool}
    {next : User → Prog Unit} {history : History}
    (further : ∀ later user, user ∈ later.flatMap shownUsers →
      GroundedProg (fun _ _ => True) later (next user)) :
    GroundedProg (fun _ _ => True) history
      (do
        let user ← lookupCheckPassByName name task checkPass
        if user.id = 0 then pure () else next user) := by
  unfold lookupCheckPassByName
  simp only [Program.bind_assoc]
  refine .perform trivial fun users _ => ?_
  split
  · simp only [Program.bind_assoc]
    exact .perform trivial fun _ _ => trivial
  next user _ =>
    split
    · simp only [Program.bind_assoc]
      exact .perform trivial fun _ _ => trivial
    · simp only [Program.pure_bind]
      split
      · exact trivial
      · exact further _ user (by simp [shownUsers])
  · simp only [Program.bind_assoc]
    exact .perform trivial fun _ _ => trivial

theorem grounded_storeMessage {userFrom chatTo : Nat} {text : Bytes} {history : History}
    (sender : ∃ user ∈ history.flatMap shownUsers, user.id = userFrom)
    (chat : (∃ user ∈ history.flatMap shownUsers, user.selfChatId = chatTo) ∨
      ∃ chat ∈ history.flatMap shownChats, chat.id = chatTo) :
    GroundedProg (fun _ _ => True) history (storeMessage userFrom chatTo text) := by
  refine .perform trivial fun now _ => .perform ?_ fun _ _ => ⟨trivial, fun _ _ => trivial⟩
  simp only [Grounded, List.flatMap_append]
  rcases sender with ⟨user, member, same⟩
  refine ⟨⟨user, List.mem_append_left _ member, same⟩, ?_⟩
  rcases chat with ⟨user, member, same⟩ | ⟨chat, member, same⟩
  · exact .inl ⟨user, List.mem_append_left _ member, same⟩
  · exact .inr ⟨chat, List.mem_append_left _ member, same⟩

theorem grounded_processMessageSend (task : Task) :
    GroundedProg (fun _ _ => True) [] (processMessageSend task) := by
  refine grounded_guard fun later user shown _ => .perform trivial fun usersTo _ => ?_
  split
  · exact grounded_quiet (lookup_client _).quiet _
  next userTo _ =>
    refine grounded_storeMessage ⟨user, ?_, rfl⟩ (.inl ⟨userTo, ?_, rfl⟩)
    · simp only [List.flatMap_append]
      exact List.mem_append_left _ shown
    · simp [shownUsers]
  · exact grounded_quiet (lookup_client _).quiet _

theorem grounded_processMessageSendChat (task : Task) :
    GroundedProg (fun _ _ => True) [] (processMessageSendChat task) := by
  refine grounded_guard fun later user shown _ => .perform trivial fun chats _ => ?_
  split
  next chat _ =>
    refine grounded_storeMessage ⟨user, ?_, rfl⟩ (.inr ⟨chat, ?_, rfl⟩)
    · simp only [List.flatMap_append]
      exact List.mem_append_left _ shown
    · simp [shownChats]
  · exact grounded_quiet (lookup_client _).quiet _

theorem grounded_processChatCreate (task : Task) :
    GroundedProg (fun _ _ => True) [] (processChatCreate task) := by
  refine grounded_guard fun later user shown own => ?_
  refine .perform ⟨user, shown, own⟩ fun chat _ => grounded_quiet ?_ _
  split
  · exact (lookup_client _).quiet
  · exact (lookup_answer _).quiet

theorem grounded_processChatAdduser (task : Task) :
    GroundedProg (fun _ _ => True) [] (processChatAdduser task) := by
  refine grounded_guard fun _ _ _ _ => grounded_guardByName fun later toAdd shown => ?_
  refine .perform trivial fun chats _ => ?_
  split
  next chat _ =>
    refine .perform ⟨?_, ?_⟩ fun _ _ => grounded_quiet (lookup_client _).quiet _
    · simp [shownChats]
    · simp only [List.flatMap_append]
      exact List.mem_append_left _ shown
  · exact grounded_quiet (lookup_client _).quiet _

theorem grounded_processUserCreate (task : Task) :
    GroundedProg (fun _ _ => True) [] (processUserCreate task) := by
  refine .perform trivial fun user _ => grounded_quiet ?_ _
  split
  · exact (lookup_client _).quiet
  · exact (lookup_answer _).quiet

theorem grounded_processTask (sort : TimestampSort) (task : Task) :
    GroundedProg (fun _ _ => True) [] (processTask sort task) := by
  cases command : task.cmd with
  | messageSend =>
      simpa only [processTask, command] using grounded_processMessageSend task
  | messageSendChat =>
      simpa only [processTask, command] using grounded_processMessageSendChat task
  | userCreate => simpa only [processTask, command] using grounded_processUserCreate task
  | chatCreate => simpa only [processTask, command] using grounded_processChatCreate task
  | chatAdduser => simpa only [processTask, command] using grounded_processChatAdduser task
  | _ =>
      refine grounded_quiet (quiet_processTask sort ?_ ?_ ?_ ?_ ?_) []
      all_goals simp [command]

end DatabaseWorker

/-- What an exchange has shown is still in the tables. -/
def StillThere (storage : Storage) (exchange : Exchange Effect Effect.Reply) : Prop :=
  (shownUsers exchange).map User.selfRow ⊆ storage.users.map User.selfRow ∧
    shownChats exchange ⊆ storage.chats

namespace InMemory

theorem lookupUserById_cases (id : Nat) (storage : Storage) :
    lookupUserById id storage = {} ∨
      lookupUserById id storage ∈ storage.users ∧ (lookupUserById id storage).id = id := by
  unfold lookupUserById
  cases found : storage.users.find? fun user => user.id = id with
  | none => exact .inl rfl
  | some user =>
      exact .inr ⟨List.mem_of_find?_eq_some found, by simpa using List.find?_some found⟩

/-- A chat that exists is found under its id. -/
theorem lookupChatById_id {storage : Storage} {chatid : Nat}
    (existing : chatid ∈ storage.chats.map (·.id)) :
    (lookupChatById chatid storage).id = chatid := by
  unfold lookupChatById
  cases found : storage.chats.find? fun chat => chat.id = chatid with
  | none =>
      rcases List.mem_map.mp existing with ⟨chat, member, same⟩
      exact absurd (List.find?_eq_none.mp found chat member) (by simpa using same)
  | some chat => simpa using List.find?_some found

/-- No call removes a chat or a user, or changes more of a user than the
heartbit. -/
theorem handle_grows (now : Int) (effect : Effect) (storage : Storage) :
    storage.users.map User.still <+: (handle now effect storage).2.users.map User.still ∧
      storage.chats <+: (handle now effect storage).2.chats := by
  cases effect with
  | time => exact ⟨List.prefix_rfl, List.prefix_rfl⟩
  | client call => exact ⟨List.prefix_rfl, List.prefix_rfl⟩
  | db op =>
      cases op with
      | updateUserHeartBit user ts =>
          simp only [handle, exec, updateUserHeartBit]
          rw [setHeartBit_map User.still fun _ _ => rfl]
          exact ⟨List.prefix_rfl, List.prefix_rfl⟩
      | createUser name pass stpath ip city =>
          simp only [handle, exec, createUser]
          split
          · exact ⟨List.prefix_rfl, List.prefix_rfl⟩
          · exact ⟨by simp, by simp⟩
      | createChat name uid =>
          simp only [handle, exec, createChat]
          split
          · exact ⟨List.prefix_rfl, List.prefix_rfl⟩
          · exact ⟨List.prefix_rfl, by simp⟩
      | addUserToChat chat user =>
          simp only [handle, exec, addUserToChat]
          split <;> exact ⟨List.prefix_rfl, List.prefix_rfl⟩
      | getMessages chatid opt =>
          rcases getMessages_storage chatid opt storage with ⟨messages, result, -⟩
          simp only [handle, exec, result]
          exact ⟨List.prefix_rfl, List.prefix_rfl⟩
      | _ => exact ⟨List.prefix_rfl, List.prefix_rfl⟩

theorem handle_stillThere (now : Int) (effect : Effect) (storage : Storage)
    (exchange : Exchange Effect Effect.Reply) (there : StillThere storage exchange) :
    StillThere (handle now effect storage).2 exchange := by
  obtain ⟨users, chats⟩ := handle_grows now effect storage
  have rows := (users.map User.selfRow).subset
  rw [List.map_map, List.map_map] at rows
  exact ⟨List.Subset.trans there.1 rows, List.Subset.trans there.2 chats.subset⟩

/-- What a call shows comes from the tables. -/
theorem handle_shows (now : Int) (effect : Effect) (storage : Storage) :
    StillThere (handle now effect storage).2 ⟨effect, (handle now effect storage).1⟩ := by
  cases effect with
  | time => exact ⟨List.nil_subset _, List.nil_subset _⟩
  | client call => exact ⟨List.nil_subset _, List.nil_subset _⟩
  | db op =>
      cases op with
      | lookupUserById id =>
          refine ⟨?_, List.nil_subset _⟩
          rcases lookupUserById_cases id storage with missing | ⟨member, _⟩
          · simp [handle, exec, shownUsers, missing]
          · exact List.map_subset _ (List.Subset.trans (shownUsers_subset id _) (by simpa))
      | lookupUserByName name =>
          exact ⟨List.map_subset _ List.filter_sublist.subset, List.nil_subset _⟩
      | lookupChatByName name => exact ⟨List.nil_subset _, List.filter_sublist.subset⟩
      | _ => exact ⟨List.nil_subset _, List.nil_subset _⟩

theorem handle_answered (now : Int) (effect : Effect) (storage : Storage) :
    Answered effect (handle now effect storage).1 := by
  cases effect with
  | time => trivial
  | client call => trivial
  | db op =>
      cases op with
      | lookupUserById id =>
          rcases lookupUserById_cases id storage with missing | ⟨_, found⟩
          · exact .inl (congrArg User.id missing)
          · exact .inr found
      | _ => trivial

/-- A grounded call keeps the tables linked, until the `2 ^ 64`th chat. -/
theorem handle_linked {history : History} {effect : Effect} {storage : Storage} (now : Int)
    (linked : storage.Linked) (shown : ∀ exchange ∈ history, StillThere storage exchange)
    (grounded : Grounded history effect)
    (room : (handle now effect storage).2.creations < 2 ^ 64) :
    (handle now effect storage).2.Linked := by
  have users : ∀ user ∈ history.flatMap shownUsers,
      user.selfRow ∈ storage.users.map User.selfRow := by
    intro user member
    rcases List.mem_flatMap.mp member with ⟨exchange, memberExchange, shownUser⟩
    exact (shown exchange memberExchange).1 (List.mem_map_of_mem shownUser)
  have chats : ∀ chat ∈ history.flatMap shownChats, chat ∈ storage.chats := by
    intro chat member
    rcases List.mem_flatMap.mp member with ⟨exchange, memberExchange, shownChat⟩
    exact (shown exchange memberExchange).2 shownChat
  have userIds : ∀ user ∈ history.flatMap shownUsers, user.id ∈ storage.users.map (·.id) := by
    intro user member
    rcases List.mem_map.mp (users user member) with ⟨stored, memberStored, same⟩
    exact List.mem_map.mpr ⟨stored, memberStored, congrArg Chatuser.uid same⟩
  cases effect with
  | time => exact linked
  | client call => exact linked
  | db op =>
      cases op with
      | updateUserHeartBit user ts => exact updateUserHeartBit_linked linked user ts
      | createUser name pass stpath ip city =>
          exact createUser_linked linked name pass stpath ip city room
      | createChat name uid =>
          rcases grounded with ⟨user, member, same⟩
          exact createChat_linked linked name (same ▸ userIds user member) room
      | addUserToChat chat user =>
          rcases grounded with ⟨memberChat, memberUser⟩
          exact addUserToChat_linked linked (chats chat memberChat)
            (userIds user memberUser)
      | saveMessage msg =>
          rcases grounded with ⟨⟨sender, member, same⟩, target⟩
          refine saveMessage_linked linked (same ▸ userIds sender member) ?_
          rcases target with ⟨user, memberUser, sameChat⟩ | ⟨chat, memberChat, sameChat⟩
          · rcases List.mem_map.mp (users user memberUser) with ⟨stored, memberStored, sameRow⟩
            have sameId : stored.selfChatId = user.selfChatId := congrArg Chatuser.chatid sameRow
            rw [← sameChat, ← sameId]
            exact linked.selfChatId_mem memberStored
          · exact sameChat ▸ List.mem_map_of_mem (chats chat memberChat)
      | getMessages chatid opt => exact getMessages_linked linked chatid opt
      | _ => exact linked

end InMemory

/-- The interleavings of any number of workers over the storage. -/
abbrev DatabaseWorker.workers (sort : TimestampSort) :
    System (Pool Task Effect Effect.Reply Storage) (PoolEvent Task Int) :=
  Pool.system (DatabaseWorker.processTask sort) InMemory.handle

/-- In every interleaving the tables are linked, until the `2 ^ 64`th chat. -/
theorem linked_of_reaches {sort : TimestampSort} {pool : Pool Task Effect Effect.Reply Storage}
    (reached : (DatabaseWorker.workers sort).Reaches ⟨{}, []⟩ pool)
    (room : pool.shared.creations < 2 ^ 64) : pool.shared.Linked := by
  revert room
  refine (Pool.informed (fun storage => storage.creations < 2 ^ 64 → storage.Linked)
    StillThere reached (fun _ => empty_linked) (DatabaseWorker.grounded_processTask sort)
    InMemory.handle_answered ?_ InMemory.handle_shows InMemory.handle_stillThere).1
  intro now effect history storage held shown grounded room
  have before : storage.creations ≤ (InMemory.handle now effect storage).2.creations :=
    (InMemory.handle_grows now effect storage).2.length_le
  exact InMemory.handle_linked now (held (before.trans_lt room)) shown grounded room

theorem numbered_of_reaches {sort : TimestampSort} {pool : Pool Task Effect Effect.Reply Storage}
    (reached : (DatabaseWorker.workers sort).Reaches ⟨{}, []⟩ pool)
    (room : pool.shared.creations + 1 < 2 ^ 64) : pool.shared.Numbered :=
  (linked_of_reaches reached (Nat.lt_of_succ_lt room)).numbered room

/-- The tables are consistent in every interleaving, as long as the counters
have not come to their last value. -/
theorem storage_consistent {sort : TimestampSort} {pool : Pool Task Effect Effect.Reply Storage}
    (reached : (DatabaseWorker.workers sort).Reaches ⟨{}, []⟩ pool)
    (room : pool.shared.creations < 2 ^ 64 - 1) : pool.shared.Consistent :=
  (numbered_of_reaches reached (by omega)).consistent

/-- The task that creates the user called `name`. -/
def createUserTask (name : Bytes) : Task :=
  { cmd := .userCreate, request := { user := name, password := bytes "Passw0rd" } }

theorem run_createUserTask (sort : TimestampSort) (now : Int) (name : Bytes)
    (storage : Storage) :
    ((DatabaseWorker.processTask sort (createUserTask name)).run
        (InMemory.handle now) storage).2 =
      (InMemory.createUser name (encryptedPass (bytes "Passw0rd")) [] [] [] storage).2 := by
  simp only [DatabaseWorker.processTask, createUserTask, DatabaseWorker.processUserCreate,
    Program.perform_bind, Program.run_call]
  split <;> rfl

/-- A run that creates `count` users, each with a longer name. -/
theorem reaches_users (sort : TimestampSort) (count : Nat) :
    ∃ pool, (DatabaseWorker.workers sort).Reaches ⟨{}, []⟩ pool ∧
      pool.shared.chats.length = count ∧ pool.shared.users.length = count ∧
      pool.shared.userAutoincrement = (count + 1) % 2 ^ 64 ∧ pool.shared.messages = [] ∧
      ∀ user ∈ pool.shared.users, user.name.length < count ∧
        user.password = encryptedPass (bytes "Passw0rd") ∧ user.selfRow ∈ pool.shared.chatuser := by
  induction count with
  | zero => exact ⟨⟨{}, []⟩, .start, rfl, rfl, rfl, rfl, by simp⟩
  | succ count inductionHypothesis =>
      rcases inductionHypothesis with
        ⟨⟨storage, workers⟩, reached, chats, users, counter, messages, names⟩
      rcases Pool.reaches_run (DatabaseWorker.processTask sort) InMemory.handle 0
        (createUserTask (List.replicate count 97)) storage workers with ⟨rest, further⟩
      rw [run_createUserTask] at further
      have free : ¬ (storage.users.any fun user => user.name = List.replicate count 97) = true := by
        intro taken
        rcases List.any_eq_true.mp taken with ⟨user, member, same⟩
        have shorter := (names user member).1
        rw [of_decide_eq_true same, List.length_replicate] at shorter
        exact lt_irrefl _ shorter
      refine ⟨_, reached.trans further, ?_⟩
      simp only [InMemory.createUser, free, Bool.false_eq_true, if_false, List.length_append,
        List.length_singleton]
      refine ⟨by rw [chats], by rw [users], ?_, messages, ?_⟩
      · rw [counter]
        omega
      · intro user member
        rcases List.mem_append.mp member with old | new
        · obtain ⟨shorter, password, row⟩ := names user old
          exact ⟨Nat.lt_succ_of_lt shorter, password, List.mem_append_left _ row⟩
        · cases List.mem_singleton.mp new
          simp [User.selfRow]

/-- With one creation less than `2 ^ 64` the counters are back at `0`, and no
id is below them. -/
theorem storage_inconsistent_at_wrap :
    ∃ pool, (DatabaseWorker.workers .stable).Reaches ⟨{}, []⟩ pool ∧
      pool.shared.creations < 2 ^ 64 ∧ ¬ pool.shared.Consistent := by
  rcases reaches_users .stable (2 ^ 64 - 1) with ⟨pool, reached, chats, users, counter, _⟩
  refine ⟨pool, reached, ?_, ?_⟩
  · rw [Storage.creations, chats]
    omega
  · intro consistent
    have nonempty : pool.shared.users ≠ [] := List.ne_nil_of_length_pos (by omega)
    rcases List.exists_mem_of_ne_nil _ nonempty with ⟨user, member⟩
    have below := (consistent.userIdsRange user member).2
    rw [counter] at below
    omega

/-- After one user is created the tables are consistent. -/
theorem storage_consistent_one_user :
    ∃ pool, (DatabaseWorker.workers .stable).Reaches ⟨{}, []⟩ pool ∧
      pool.shared.users.length = 1 ∧ pool.shared.Consistent := by
  rcases reaches_users .stable 1 with ⟨pool, reached, chats, users, _⟩
  refine ⟨pool, reached, users, storage_consistent reached ?_⟩
  rw [Storage.creations, chats]
  decide

end GeoChat
