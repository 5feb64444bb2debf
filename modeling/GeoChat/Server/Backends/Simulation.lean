import GeoChat.Server.Backends.Passing
import GeoChat.Server.Store.Sequence

/-!
# The test backend and the production backend

`InMemoryConnection` keeps vectors, `MysqlConnection` keeps tables. Where no
statement fails they hold the same rows after the same calls, heartbits apart,
and every call returns the same. The message table has no automatic update of
its timestamp.
-/

namespace GeoChat

open Library Program

universe u

/-- Mark the first elements that match, at most `budget` of them. -/
def markFirst {Alpha : Type u} (pred : Alpha → Bool) (mark : Alpha → Alpha) :
    Nat → List Alpha → List Alpha
  | 0, items => items
  | _ + 1, [] => []
  | budget + 1, item :: rest =>
      if pred item then mark item :: markFirst pred mark budget rest
      else item :: markFirst pred mark (budget + 1) rest

@[simp]
theorem markFirst_nil {Alpha : Type u} (pred : Alpha → Bool) (mark : Alpha → Alpha)
    (budget : Nat) : markFirst pred mark budget [] = [] := by
  cases budget <;> rfl

theorem map_markFirst {Alpha Beta : Type u} {pred : Alpha → Bool} {mark : Alpha → Alpha}
    {other : Beta → Bool} {markOther : Beta → Beta} (shown : Alpha → Beta)
    (marks : ∀ item, shown (mark item) = markOther (shown item)) (budget : Nat)
    (items : List Alpha) (agree : ∀ item ∈ items, pred item = other (shown item)) :
    (markFirst pred mark budget items).map shown =
      markFirst other markOther budget (items.map shown) := by
  induction items generalizing budget with
  | nil => simp
  | cons item rest inductionHypothesis =>
      have first := agree item List.mem_cons_self
      have others := fun budget => inductionHypothesis budget fun next member =>
        agree next (List.mem_cons_of_mem _ member)
      cases budget with
      | zero => rfl
      | succ budget =>
          simp only [markFirst, List.map_cons, first]
          split
          next => rw [List.map_cons, marks, others]
          next => rw [List.map_cons, others]

namespace InMemory

/-- The first messages that match, from the newest on, are at the first of the
hits. -/
theorem markFirst_reverse (pred : Message → Bool) (budget : Nat) (messages : List Message) :
    (markFirst pred Message.markRead budget messages.reverse).reverse =
      markAt ((hitsBelow pred messages messages.length).take budget) messages := by
  induction messages using List.reverseRecOn generalizing budget with
  | nil => simp [markAt]
  | append_singleton messages last inductionHypothesis =>
      have newest : (messages ++ [last])[messages.length]? = some last :=
        List.getElem?_concat_length
      have outside : ∀ budget,
          messages.length ∉ (hitsBelow pred messages messages.length).take budget :=
        fun budget hit => (lt_of_mem_hitsBelow (List.mem_of_mem_take hit)).ne rfl
      rw [List.reverse_concat, List.length_append, List.length_singleton, hitsBelow_succ, newest,
        Option.any_some, hitsBelow_append]
      cases budget with
      | zero => simp [markFirst, markAt_nil]
      | succ budget =>
          rw [markFirst]
          by_cases hit : pred last = true
          · rw [if_pos hit, if_pos hit, List.reverse_cons, inductionHypothesis,
              List.singleton_append, List.take_succ_cons, markAt_append_singleton,
              markAt_cons_length, if_pos List.mem_cons_self]
          · rw [if_neg hit, if_neg hit, List.reverse_cons, inductionHypothesis, List.nil_append,
              markAt_append_singleton, if_neg (outside _)]

theorem getMessages_marks (chatid : Nat) (opt : GetMsgOpt) (storage : Storage) :
    (getMessages chatid opt storage).2 =
      { storage with messages := (markFirst (Message.newer chatid opt.ts) Message.markRead
        (if opt.maxCount = 0 then storage.messages.length else opt.maxCount)
        storage.messages.reverse).reverse } := by
  rw [getMessages_marked, markFirst_reverse, hits, cutAt]
  split
  next => rw [List.take_of_length_le (hitsBelow_length_le _ _ _)]
  next => rfl

end InMemory

namespace Mysql

theorem markRows_congr {ids others : List Nat} {rows : List MessageRow}
    (same : ∀ row ∈ rows, row.id ∈ ids ↔ row.id ∈ others) :
    markRows ids rows = markRows others rows := by
  refine List.map_congr_left fun row member => ?_
  simp only [same row member]

@[simp]
theorem markRows_ids (ids : List Nat) (rows : List MessageRow) :
    (markRows ids rows).map (·.id) = rows.map (·.id) := by
  unfold markRows
  rw [List.map_map]
  refine List.map_congr_left fun row _ => ?_
  by_cases marked : row.id ∈ ids <;> simp [marked]

theorem markRows_increasing {ids : List Nat} {rows : List MessageRow}
    (increasing : rows.Pairwise fun first second => first.id < second.id) :
    (markRows ids rows).Pairwise fun first second => first.id < second.id := by
  have sameIds : ((markRows ids rows).map (·.id)).Pairwise (· < ·) := by
    rw [markRows_ids]
    exact List.pairwise_map.mpr increasing
  exact List.pairwise_map.mp sameIds

theorem markRows_below {ids : List Nat} {rows : List MessageRow} {bound : Nat}
    (below : ∀ row ∈ rows, row.id < bound) : ∀ row ∈ markRows ids rows, row.id < bound := by
  intro row member
  have sameId : row.id ∈ rows.map (·.id) := by
    rw [← markRows_ids ids rows]
    exact List.mem_map.mpr ⟨row, member, rfl⟩
  obtain ⟨before, stored, same⟩ := List.mem_map.mp sameId
  rw [← same]
  exact below before stored

theorem markRows_reverse (ids : List Nat) (rows : List MessageRow) :
    markRows ids rows.reverse = (markRows ids rows).reverse :=
  List.map_reverse

/-- An update for each of the first rows that match marks these. -/
theorem markRows_first (pred : MessageRow → Bool) (budget : Nat) (rows : List MessageRow)
    (distinct : (rows.map (·.id)).Nodup) :
    markRows (((rows.filter pred).take budget).map (·.id)) rows =
      markFirst pred (fun row => { row with flags := .read }) budget rows := by
  induction rows generalizing budget with
  | nil => simp [markRows]
  | cons row rest inductionHypothesis =>
      obtain ⟨other, distinctRest⟩ := List.nodup_cons.mp distinct
      cases budget with
      | zero => simp [markRows, markFirst]
      | succ budget =>
          rw [markFirst]
          by_cases hit : pred row = true
          · rw [if_pos hit, ← inductionHypothesis budget distinctRest,
              List.filter_cons_of_pos hit, List.take_succ_cons, List.map_cons]
            refine List.cons_eq_cons.mpr ⟨?_, ?_⟩
            · simp
            · refine markRows_congr fun next member => ?_
              have differs : next.id ≠ row.id := by
                intro same
                exact other (List.mem_map.mpr ⟨next, member, same⟩)
              rw [List.mem_cons, or_iff_right differs]
          · rw [if_neg hit, ← inductionHypothesis (budget + 1) distinctRest,
              List.filter_cons_of_neg hit]
            refine List.cons_eq_cons.mpr ⟨if_neg ?_, rfl⟩
            intro selected
            obtain ⟨next, member, same⟩ := List.mem_map.mp selected
            have inRest := List.mem_of_mem_filter (List.mem_of_mem_take member)
            exact other (List.mem_map.mpr ⟨next, inRest, same⟩)

end Mysql

/-- The vectors hold what the tables hold. -/
structure Mirrors (storage : Storage) (mysql : Mysql) : Prop where
  users : storage.users.map User.still = mysql.user.map User.still
  chats : storage.chats = mysql.chat
  chatuser : storage.chatuser = mysql.chatuser
  messages : storage.messages = mysql.message.map MessageRow.toMessage
  userIds : storage.userAutoincrement = mysql.userAutoincrement % 2 ^ 64
  chatIds : storage.chatAutoincrement = mysql.chatAutoincrement % 2 ^ 64
  increasing : mysql.message.Pairwise fun first second => first.id < second.id
  below : ∀ row ∈ mysql.message, row.id < mysql.messageAutoincrement

/-- The ids given out so far fit into the columns `BIGINT UNSIGNED`. -/
structure Mysql.Fits (mysql : Mysql) : Prop where
  users : mysql.userAutoincrement ≤ 2 ^ 64
  chats : mysql.chatAutoincrement ≤ 2 ^ 64

theorem mirrors_empty : Mirrors {} {} where
  users := rfl
  chats := rfl
  chatuser := rfl
  messages := rfl
  userIds := rfl
  chatIds := rfl
  increasing := .nil
  below := fun _ member => absurd member List.not_mem_nil

namespace Mirrors

variable {storage : Storage} {mysql : Mysql} (mirrors : Mirrors storage mysql)

include mirrors

/-- A statement that only reads. -/
theorem counted : Mirrors storage mysql.counted :=
  ⟨mirrors.users, mirrors.chats, mirrors.chatuser, mirrors.messages, mirrors.userIds,
    mirrors.chatIds, mirrors.increasing, mirrors.below⟩

theorem any_name (name : Bytes) :
    (storage.users.any fun user => user.name = name) =
      mysql.user.any fun user => user.name = name := by
  have byName : ∀ users : List User, (users.any fun user => user.name = name) =
      (users.map User.still).any fun user => user.name = name := by
    intro users
    rw [List.any_map]
    rfl
  rw [byName, mirrors.users, ← byName]

theorem lookupUserById (id : Nat) :
    (InMemory.lookupUserById id storage).still =
      ((mysql.user.filter fun user => user.id = id).headD {}).still := by
  have byId : (fun user : User => decide (user.id = id)) ∘ User.still =
      fun user => decide (user.id = id) := rfl
  rw [InMemory.lookupUserById_still, mirrors.users, List.find?_map, byId, ← List.head?_filter]
  cases (mysql.user.filter fun user => user.id = id) <;> rfl

/-- A query over users that does not look at the heartbit. -/
theorem filter_users {pred : User → Bool} (still : pred ∘ User.still = pred) :
    (storage.users.filter pred).map User.still = (mysql.user.filter pred).map User.still := by
  have filtered : ∀ users : List User,
      (users.filter pred).map User.still = (users.map User.still).filter pred := by
    intro users
    rw [List.filter_map, still]
  rw [filtered, filtered, mirrors.users]

theorem lookupChatById (chatid : Nat) :
    InMemory.lookupChatById chatid storage =
      (mysql.chat.filter fun chat => chat.id = chatid).headD {} := by
  rw [InMemory.lookupChatById, mirrors.chats, ← List.head?_filter]
  cases (mysql.chat.filter fun chat => chat.id = chatid) <;> rfl

theorem createUser (now : Int) (name pass stpath ip city : Bytes)
    (fits : (Mysql.createUser Mysql.never now name pass stpath ip city mysql).2.Fits) :
    (InMemory.createUser name pass stpath ip city storage).1 =
        (Mysql.createUser Mysql.never now name pass stpath ip city mysql).1 ∧
      Mirrors (InMemory.createUser name pass stpath ip city storage).2
        (Mysql.createUser Mysql.never now name pass stpath ip city mysql).2 := by
  unfold InMemory.createUser
  cases existing : mysql.user.any fun user => user.name = name with
  | true =>
      rw [Mysql.createUser_existing mysql now pass stpath ip city existing, mirrors.any_name,
        existing]
      exact ⟨rfl, mirrors.counted⟩
  | false =>
      rw [Mysql.createUser_fresh mysql now pass stpath ip city existing] at fits ⊢
      have userId : storage.userAutoincrement = mysql.userAutoincrement := by
        rw [mirrors.userIds]
        exact Nat.mod_eq_of_lt fits.users
      have chatId : storage.chatAutoincrement = mysql.chatAutoincrement := by
        rw [mirrors.chatIds]
        exact Nat.mod_eq_of_lt fits.chats
      rw [mirrors.any_name, existing]
      simp only [Bool.false_eq_true, if_false, userId, chatId]
      refine ⟨trivial, ?_, ?_, ?_, mirrors.messages, rfl, rfl, mirrors.increasing, mirrors.below⟩
      · rw [List.map_append, List.map_append, mirrors.users]
        rfl
      · rw [mirrors.chats]
      · rw [mirrors.chatuser]

theorem createChat (name : Bytes) (uid : Nat)
    (fits : (Mysql.createChat Mysql.never name uid mysql).2.Fits) :
    (InMemory.createChat name uid storage).1 = (Mysql.createChat Mysql.never name uid mysql).1 ∧
      Mirrors (InMemory.createChat name uid storage).2
        (Mysql.createChat Mysql.never name uid mysql).2 := by
  unfold InMemory.createChat
  rw [mirrors.chats]
  cases existing : mysql.chat.any fun chat => chat.name = name with
  | true =>
      rw [Mysql.createChat_existing mysql uid existing]
      exact ⟨rfl, mirrors.counted⟩
  | false =>
      rw [Mysql.createChat_fresh mysql uid existing] at fits ⊢
      have chatId : storage.chatAutoincrement = mysql.chatAutoincrement := by
        rw [mirrors.chatIds]
        exact Nat.mod_eq_of_lt fits.chats
      simp only [Bool.false_eq_true, if_false, chatId, mirrors.chatuser]
      exact ⟨trivial, mirrors.users, rfl, rfl, mirrors.messages, mirrors.userIds, rfl,
        mirrors.increasing, mirrors.below⟩

theorem addUserToChat (chat : Chat) (user : User) :
    Mirrors (InMemory.addUserToChat chat user storage)
      (Mysql.addUserToChat Mysql.never chat user mysql).2 := by
  have sameRow : (fun row : Chatuser => row.chatid = chat.id && row.uid = user.id) =
      fun row => row.uid = user.id && row.chatid = chat.id := by
    funext row
    exact Bool.and_comm _ _
  unfold InMemory.addUserToChat
  rw [mirrors.chatuser, sameRow]
  cases existing : mysql.chatuser.any fun row => row.uid = user.id && row.chatid = chat.id with
  | true =>
      rw [Mysql.addUserToChat_existing mysql existing]
      exact mirrors.counted
  | false =>
      rw [Mysql.addUserToChat_fresh mysql existing]
      exact ⟨mirrors.users, mirrors.chats, rfl, mirrors.messages, mirrors.userIds,
        mirrors.chatIds, mirrors.increasing, mirrors.below⟩

theorem saveMessage {msg : Message} (inRange : 0 ≤ msg.ts ∧ msg.ts < 2 ^ 32) :
    Mirrors (InMemory.saveMessage msg storage) (Mysql.saveMessage Mysql.never msg mysql).2 := by
  rw [Mysql.saveMessage_never]
  refine ⟨mirrors.users, mirrors.chats, mirrors.chatuser, ?_, mirrors.userIds, mirrors.chatIds,
    ?_, ?_⟩
  · simp only [InMemory.saveMessage, List.map_append, List.map_singleton, mirrors.messages,
      Mysql.toMessage_rowOf _ inRange]
  · refine List.pairwise_append.mpr ⟨mirrors.increasing, List.pairwise_singleton _ _, ?_⟩
    intro row member last isLast
    rw [List.mem_singleton.mp isLast]
    exact mirrors.below row member
  · intro row member
    obtain old | new := List.mem_append.mp member
    · exact Nat.lt_succ_of_lt (mirrors.below row old)
    · rw [List.mem_singleton.mp new]
      exact Nat.lt_succ_self _

omit mirrors in
/-- The rows that a query for messages of a chat selects. -/
theorem newer_row {opt : GetMsgOpt} (inRange : 0 ≤ opt.ts ∧ opt.ts < 2 ^ 32) (chatid : Nat)
    (row : MessageRow) :
    (decide (row.chatId = chatid) && decide (toUint32 opt.ts < row.time)) =
      Message.newer chatid opt.ts row.toMessage := by
  have newer : toUint32 opt.ts < row.time ↔ opt.ts < row.time := by
    unfold toUint32
    omega
  rw [decide_eq_decide.mpr newer]
  rfl

theorem getMessages {opt : GetMsgOpt} (inRange : 0 ≤ opt.ts ∧ opt.ts < 2 ^ 32) (chatid : Nat) :
    (InMemory.getMessages chatid opt storage).1 =
        (Mysql.getMessages Mysql.never chatid opt mysql).1 ∧
      Mirrors (InMemory.getMessages chatid opt storage).2
        (Mysql.getMessages Mysql.never chatid opt mysql).2 := by
  obtain ⟨executed, rows, selected, got⟩ :=
    Mysql.getMessages_never chatid opt mirrors.increasing
  have distinct : (mysql.message.reverse.map (·.id)).Nodup := by
    rw [List.map_reverse, List.nodup_reverse]
    exact (List.pairwise_map.mpr mirrors.increasing).imp Nat.ne_of_lt
  have first : rows = ((mysql.message.reverse.filter fun row =>
      decide (row.chatId = chatid) && decide (toUint32 opt.ts < row.time)).take
        (if opt.maxCount = 0 then mysql.message.length else opt.maxCount)) := by
    rw [selected, ← List.filter_reverse, cutAt]
    split
    next => exact (List.take_of_length_le (by simpa using List.length_filter_le _ _)).symm
    next => rfl
  refine ⟨?_, ?_⟩
  · rw [got, InMemory.getMessages_result, mirrors.messages, selected, map_cutAt,
      List.filter_map, List.map_reverse]
    congr 3
    refine List.filter_congr fun row _ => ?_
    exact (newer_row inRange chatid row).symm
  · rw [got, InMemory.getMessages_marks]
    refine ⟨mirrors.users, mirrors.chats, mirrors.chatuser, ?_, mirrors.userIds, mirrors.chatIds,
      ?_, ?_⟩
    · have newestFirst : (Mysql.markRows (rows.map (·.id)) mysql.message).reverse =
          markFirst (fun row => decide (row.chatId = chatid) && decide (toUint32 opt.ts < row.time))
            (fun row => { row with flags := .read })
            (if opt.maxCount = 0 then mysql.message.length else opt.maxCount)
            mysql.message.reverse := by
        rw [← Mysql.markRows_reverse, first]
        exact Mysql.markRows_first _ _ _ distinct
      have shown := congrArg (List.map MessageRow.toMessage) newestFirst
      rw [@map_markFirst _ _ _ _ (Message.newer chatid opt.ts) Message.markRead
        MessageRow.toMessage (fun _ => rfl) _ _ fun row _ => newer_row inRange chatid row,
        List.map_reverse, List.map_reverse] at shown
      show (markFirst _ _ _ storage.messages.reverse).reverse =
        (Mysql.markRows (rows.map (·.id)) mysql.message).map MessageRow.toMessage
      rw [mirrors.messages, List.length_map, List.reverse_eq_iff]
      exact shown.symm
    · exact Mysql.markRows_increasing mirrors.increasing
    · exact Mysql.markRows_below mirrors.below

section Programs

variable (now : Int)

theorem run_lookupChatsById (chatids : List Nat) :
    ((Prog.lookupChatsById chatids).run (Mysql.handle Mysql.never now) mysql).1 =
        chatids.map (InMemory.lookupChatById · storage) ∧
      Mirrors storage
        ((Prog.lookupChatsById chatids).run (Mysql.handle Mysql.never now) mysql).2 := by
  induction chatids generalizing mysql with
  | nil => exact ⟨rfl, mirrors⟩
  | cons chatid rest inductionHypothesis =>
      obtain ⟨chats, kept⟩ := inductionHypothesis mirrors.counted
      simp only [Prog.lookupEach, perform_bind, run_call, run_bind, run_pure, List.map_cons]
      exact ⟨List.cons_eq_cons.mpr ⟨(mirrors.lookupChatById chatid).symm, chats⟩, kept⟩

theorem run_lookupUsersById (uids : List Nat) :
    ((Prog.lookupUsersById uids).run (Mysql.handle Mysql.never now) mysql).1.map User.still =
        uids.map (fun uid => (InMemory.lookupUserById uid storage).still) ∧
      Mirrors storage ((Prog.lookupUsersById uids).run (Mysql.handle Mysql.never now) mysql).2 := by
  induction uids generalizing mysql with
  | nil => exact ⟨rfl, mirrors⟩
  | cons uid rest inductionHypothesis =>
      obtain ⟨users, kept⟩ := inductionHypothesis mirrors.counted
      simp only [Prog.lookupEach, perform_bind, run_call, run_bind, run_pure, List.map_cons]
      exact ⟨List.cons_eq_cons.mpr ⟨(mirrors.lookupUserById uid).symm, users⟩, kept⟩

end Programs

end Mirrors

/-- A call of either backend. -/
inductive StorageCall where
  | createUser (name pass stpath ip city : Bytes)
  | createChat (name : Bytes) (uid : Nat)
  | addUserToChat (chat : Chat) (user : User)
  | saveMessage (msg : Message)
  | getMessages (chatid : Nat) (opt : GetMsgOpt)
  | lookupUserByName (name : Bytes)
  | lookupUserById (id : Nat)
  | lookupUserByCity (city : Bytes)
  | lookupChatByName (name : Bytes)
  | lookupChatById (chatid : Nat)
  | lookupChatsForUserId (uid : Nat)
  | lookupUsersForChatId (chatid : Nat)
  | getAllDistinctLocations

/-- What a call returns. -/
inductive StorageResult where
  | nothing
  | user (user : User)
  | users (users : List User)
  | chat (chat : Chat)
  | chats (chats : List Chat)
  | messages (messages : List Message)
  | locations (cities : List Bytes)
  deriving DecidableEq, Repr

namespace StorageCall

def program : StorageCall → Prog StorageResult
  | .createUser name pass stpath ip city => do
      let user ← Prog.db (.createUser name pass stpath ip city)
      pure (.user user)
  | .createChat name uid => do
      let chat ← Prog.db (.createChat name uid)
      pure (.chat chat)
  | .addUserToChat chat user => do
      Prog.db (.addUserToChat chat user)
      pure .nothing
  | .saveMessage msg => do
      Prog.db (.saveMessage msg)
      pure .nothing
  | .getMessages chatid opt => do
      let messages ← Prog.db (.getMessages chatid opt)
      pure (.messages messages)
  | .lookupUserByName name => do
      let users ← Prog.db (.lookupUserByName name)
      pure (.users users)
  | .lookupUserById id => do
      let user ← Prog.db (.lookupUserById id)
      pure (.user user)
  | .lookupUserByCity city => do
      let users ← Prog.db (.lookupUserByCity city)
      pure (.users users)
  | .lookupChatByName name => do
      let chats ← Prog.db (.lookupChatByName name)
      pure (.chats chats)
  | .lookupChatById chatid => do
      let chat ← Prog.db (.lookupChatById chatid)
      pure (.chat chat)
  | .lookupChatsForUserId uid => do
      let chats ← Prog.lookupChatsForUserId uid
      pure (.chats chats)
  | .lookupUsersForChatId chatid => do
      let users ← Prog.lookupUsersForChatId chatid
      pure (.users users)
  | .getAllDistinctLocations => do
      let cities ← Prog.db .getAllDistinctLocations
      pure (.locations cities)

/-- The timestamps fit into a parameter of 32 bits. -/
def InRange : StorageCall → Prop
  | .saveMessage msg => 0 ≤ msg.ts ∧ msg.ts < 2 ^ 32
  | .getMessages _ opt => 0 ≤ opt.ts ∧ opt.ts < 2 ^ 32
  | _ => True

end StorageCall

/-- The same result: heartbits do not count, nor does the order of a lookup. -/
inductive StorageResult.Agree : StorageResult → StorageResult → Prop
  | nothing : Agree .nothing .nothing
  | user {first second : User} : first.still = second.still → Agree (.user first) (.user second)
  | users {first second : List User} :
      (first.map User.still).Perm (second.map User.still) → Agree (.users first) (.users second)
  | chat {first second : Chat} : first = second → Agree (.chat first) (.chat second)
  | chats {first second : List Chat} : first.Perm second → Agree (.chats first) (.chats second)
  | messages {first second : List Message} :
      first = second → Agree (.messages first) (.messages second)
  | locations {first second : List Bytes} :
      first = second → Agree (.locations first) (.locations second)

/-- Make calls one after the other, each at a time of the clock. -/
def runCalls {State : Type} (handle : Int → Handler Effect Effect.Reply State) :
    List (Int × StorageCall) → State → List StorageResult × State
  | [], state => ([], state)
  | (now, made) :: rest, state =>
      let first := made.program.run (handle now) state
      let others := runCalls handle rest first.2
      (first.1 :: others.1, others.2)

/-- One call on both backends. -/
theorem Mirrors.step {storage : Storage} {mysql : Mysql} (mirrors : Mirrors storage mysql)
    (now : Int) (made : StorageCall) (inRange : made.InRange)
    (fits : (made.program.run (Mysql.handle Mysql.never now) mysql).2.Fits) :
    (made.program.run (InMemory.handle now) storage).1.Agree
        (made.program.run (Mysql.handle Mysql.never now) mysql).1 ∧
      Mirrors (made.program.run (InMemory.handle now) storage).2
        (made.program.run (Mysql.handle Mysql.never now) mysql).2 := by
  cases made with
  | createUser name pass stpath ip city =>
      obtain ⟨same, kept⟩ := mirrors.createUser now name pass stpath ip city fits
      exact ⟨.user (congrArg User.still same), kept⟩
  | createChat name uid =>
      obtain ⟨same, kept⟩ := mirrors.createChat name uid fits
      exact ⟨.chat same, kept⟩
  | addUserToChat chat user => exact ⟨.nothing, mirrors.addUserToChat chat user⟩
  | saveMessage msg => exact ⟨.nothing, mirrors.saveMessage inRange⟩
  | getMessages chatid opt =>
      obtain ⟨same, kept⟩ := mirrors.getMessages inRange chatid
      exact ⟨.messages same, kept⟩
  | lookupUserByName name =>
      exact ⟨.users (.of_eq (mirrors.filter_users rfl)), mirrors.counted⟩
  | lookupUserById id => exact ⟨.user (mirrors.lookupUserById id), mirrors.counted⟩
  | lookupUserByCity city =>
      exact ⟨.users (.of_eq (mirrors.filter_users rfl)), mirrors.counted⟩
  | lookupChatByName name =>
      have same : InMemory.lookupChatByName name storage =
          mysql.chat.filter fun chat => chat.name = name := by
        rw [InMemory.lookupChatByName, mirrors.chats]
      exact ⟨.chats (.of_eq same), mirrors.counted⟩
  | lookupChatById chatid => exact ⟨.chat (mirrors.lookupChatById chatid), mirrors.counted⟩
  | lookupChatsForUserId uid =>
      obtain ⟨chats, kept⟩ := mirrors.counted.run_lookupChatsById now
        (InMemory.chatidsForUserId uid storage)
      have links : InMemory.chatidsForUserId uid storage =
          (mysql.chatuser.filter fun row => row.uid = uid).map (·.chatid) := by
        rw [InMemory.chatidsForUserId, mirrors.chatuser]
      simp only [StorageCall.program, run_bind, InMemory.run_lookupChatsForUserId,
        InMemory.lookupChatsForUserId]
      rw [links] at chats kept ⊢
      exact ⟨.chats (.of_eq chats.symm), kept⟩
  | lookupUsersForChatId chatid =>
      obtain ⟨users, kept⟩ := mirrors.counted.run_lookupUsersById now
        (InMemory.uidsForChatId chatid storage)
      have links : InMemory.uidsForChatId chatid storage =
          (mysql.chatuser.filter fun row => row.chatid = chatid).map (·.uid) := by
        rw [InMemory.uidsForChatId, mirrors.chatuser]
      simp only [StorageCall.program, run_bind, InMemory.run_lookupUsersForChatId,
        InMemory.lookupUsersForChatId]
      rw [links] at users kept ⊢
      refine ⟨.users (.of_eq ?_), kept⟩
      rw [List.map_map]
      exact users.symm
  | getAllDistinctLocations =>
      have same : InMemory.getAllDistinctLocations storage =
          (mysql.user.filter fun _ => true).foldl
            (fun cities user => insertOrdered user.city cities) [] := by
        have byCity : ∀ users : List User,
            users.foldl (fun cities user => insertOrdered user.city cities) [] =
              (users.map User.still).foldl (fun cities user => insertOrdered user.city cities)
                [] := by
          intro users
          rw [List.foldl_map]
          rfl
        rw [InMemory.getAllDistinctLocations, List.filter_true, byCity, mirrors.users, ← byCity]
      exact ⟨.locations same, mirrors.counted⟩

/-- Ids are given out in increasing order. -/
def Mysql.GrowsTo (before later : Mysql) : Prop :=
  before.userAutoincrement ≤ later.userAutoincrement ∧
    before.chatAutoincrement ≤ later.chatAutoincrement

namespace Mysql

theorem GrowsTo.fits {before later : Mysql} (grows : before.GrowsTo later) (fits : later.Fits) :
    before.Fits :=
  ⟨grows.1.trans fits.users, grows.2.trans fits.chats⟩

theorem growsTo_exec (now : Int) (op : DbOp) (mysql : Mysql) :
    mysql.GrowsTo (exec never now op mysql).2 := by
  have unchanged : mysql.GrowsTo mysql.counted := ⟨Nat.le_refl _, Nat.le_refl _⟩
  cases op with
  | createUser name pass stpath ip city =>
      show mysql.GrowsTo (createUser never now name pass stpath ip city mysql).2
      cases existing : mysql.user.any fun user => user.name = name with
      | true =>
          rw [createUser_existing mysql now pass stpath ip city existing]
          exact unchanged
      | false =>
          rw [createUser_fresh mysql now pass stpath ip city existing]
          exact ⟨Nat.le_succ _, Nat.le_succ _⟩
  | createChat name uid =>
      show mysql.GrowsTo (createChat never name uid mysql).2
      cases existing : mysql.chat.any fun chat => chat.name = name with
      | true =>
          rw [createChat_existing mysql uid existing]
          exact unchanged
      | false =>
          rw [createChat_fresh mysql uid existing]
          exact ⟨Nat.le_refl _, Nat.le_succ _⟩
  | addUserToChat chat user =>
      show mysql.GrowsTo (addUserToChat never chat user mysql).2
      cases existing : mysql.chatuser.any fun row => row.uid = user.id && row.chatid = chat.id with
      | true =>
          rw [addUserToChat_existing mysql existing]
          exact unchanged
      | false =>
          rw [addUserToChat_fresh mysql existing]
          exact ⟨Nat.le_refl _, Nat.le_refl _⟩
  | getMessages chatid opt =>
      show mysql.GrowsTo (getMessages never chatid opt mysql).2
      unfold getMessages selectMessageRows
      rw [statement_passing never _ rfl]
      simp only
      rw [readRows_never]
      exact unchanged
  | _ => exact unchanged

/-- A program gives out ids in increasing order too. -/
theorem growsTo_run {Result : Type} (now : Int) (program : Prog Result) (mysql : Mysql) :
    mysql.GrowsTo (program.run (handle never now) mysql).2 := by
  refine (uses_trivial program).run_related GrowsTo ?_ ?_ ?_ mysql
  · exact fun state => ⟨Nat.le_refl _, Nat.le_refl _⟩
  · exact fun first second third grows further =>
      ⟨grows.1.trans further.1, grows.2.trans further.2⟩
  · intro effect state _
    cases effect with
    | db op => exact growsTo_exec now op state
    | _ => exact ⟨Nat.le_refl _, Nat.le_refl _⟩

theorem growsTo_runCalls (calls : List (Int × StorageCall)) (mysql : Mysql) :
    mysql.GrowsTo (runCalls (handle never) calls mysql).2 := by
  induction calls generalizing mysql with
  | nil => exact ⟨Nat.le_refl _, Nat.le_refl _⟩
  | cons first rest inductionHypothesis =>
      have grows := growsTo_run first.1 first.2.program mysql
      have further := inductionHypothesis (first.2.program.run (handle never first.1) mysql).2
      exact ⟨grows.1.trans further.1, grows.2.trans further.2⟩

end Mysql

theorem Mirrors.run {storage : Storage} {mysql : Mysql} (mirrors : Mirrors storage mysql)
    (calls : List (Int × StorageCall)) (inRange : ∀ made ∈ calls, made.2.InRange)
    (fits : (runCalls (Mysql.handle Mysql.never) calls mysql).2.Fits) :
    List.Forall₂ StorageResult.Agree (runCalls InMemory.handle calls storage).1
      (runCalls (Mysql.handle Mysql.never) calls mysql).1 := by
  induction calls generalizing storage mysql with
  | nil => exact .nil
  | cons first rest inductionHypothesis =>
      have fitsFirst := (Mysql.growsTo_runCalls rest _).fits fits
      obtain ⟨agree, kept⟩ := mirrors.step first.1 first.2 (inRange first List.mem_cons_self)
        fitsFirst
      refine .cons agree (inductionHypothesis kept ?_ fits)
      exact fun made member => inRange made (List.mem_cons_of_mem _ member)

/-- Every sequence of calls, from empty storage and from empty tables, returns
the same on both backends, if the timestamps fit into the parameters and the
ids into the columns. -/
theorem backends_agree (calls : List (Int × StorageCall))
    (inRange : ∀ made ∈ calls, made.2.InRange)
    (fits : (runCalls (Mysql.handle Mysql.never) calls {}).2.Fits) :
    List.Forall₂ StorageResult.Agree (runCalls InMemory.handle calls {}).1
      (runCalls (Mysql.handle Mysql.never) calls {}).1 :=
  mirrors_empty.run calls inRange fits

/-- A message that is read twice. -/
def readTwice : List (Int × StorageCall) :=
  [(100, .createUser (bytes "alice") (bytes "1") [] [] (bytes "Moscow")),
    (100, .createChat (bytes "friends") 1),
    (101, .saveMessage { userFrom := 1, chatTo := 2, ts := 101, message := bytes "hello" }),
    (102, .getMessages 2 {}),
    (103, .lookupUsersForChatId 2),
    (104, .getMessages 2 {})]

/-- The second time it is marked, on both backends. -/
theorem backends_agree_readTwice :
    (runCalls InMemory.handle readTwice {}).1.getLast? =
        some (.messages
          [{ flags := .read, userFrom := 1, chatTo := 2, ts := 101, message := bytes "hello" }]) ∧
      List.Forall₂ StorageResult.Agree (runCalls InMemory.handle readTwice {}).1
        (runCalls (Mysql.handle Mysql.never) readTwice {}).1 := by
  refine ⟨by decide +kernel, backends_agree readTwice ?_ ⟨by decide +kernel, by decide +kernel⟩⟩
  simp [readTwice, StorageCall.InRange]

end GeoChat
