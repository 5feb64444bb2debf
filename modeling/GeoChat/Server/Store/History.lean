import GeoChat.Library.Ranking
import GeoChat.Server.Store.Authentication
import GeoChat.Server.Store.Serving

/-!
# The history of two users

`USER_HISTORY` takes the newest messages of each direction of a conversation,
up to a limit of twice the number asked for, sorts both together by time and
cuts the result. The limit is 32 bits wide and `0` stands for none. The two
directions are one and the same when a user asks for the history with
themselves.
-/

namespace GeoChat

open Library Program

/-- A message from one user to the own chat of another. -/
def Message.sentTo (sender recipient : User) (msg : Message) : Bool :=
  msg.userFrom = sender.id && msg.chatTo = recipient.selfChatId

/-- The messages between two users. -/
def Storage.conversation (storage : Storage) (first second : User) : List Message :=
  storage.messages.filter fun msg => msg.sentTo first second || msg.sentTo second first

/-- Two users that differ in what a history knows of them. -/
def User.Differ (first second : User) : Prop :=
  first.id ≠ second.id ∨ first.selfChatId ≠ second.selfChatId

instance (first second : User) : Decidable (first.Differ second) :=
  inferInstanceAs (Decidable (_ ∨ _))

/-- No message goes in both directions between two users that differ. -/
theorem Message.sentTo_disjoint {first second : User} (differ : first.Differ second)
    (msg : Message) : ¬ (msg.sentTo second first = true ∧ msg.sentTo first second = true) := by
  unfold sentTo
  rintro ⟨back, forth⟩
  simp only [Bool.and_eq_true, decide_eq_true_eq] at back forth
  rcases differ with ids | chats
  · exact ids (forth.1.symm.trans back.1)
  · exact chats (back.2.symm.trans forth.2)

theorem length_cutAt {Alpha : Type} (limit : Nat) (items : List Alpha) :
    (cutAt limit items).length = if limit = 0 then items.length else min limit items.length := by
  unfold cutAt
  split
  · rfl
  · exact List.length_take

namespace DatabaseWorker

open InMemory

variable {storage : Storage} {sort : TimestampSort} {userFrom userTo : User} {count : Nat}

theorem mixFromAndToMessages_eq_take (sort : TimestampSort) (fromMsgs toMsgs : List Message)
    (max : Nat) :
    mixFromAndToMessages sort fromMsgs toMsgs max =
      (sort.sort (fromMsgs ++ toMsgs)).take max := by
  unfold mixFromAndToMessages
  simp only
  split
  next short => rw [List.take_of_length_le short]
  next => rfl

/-- The newest messages from one user to the other, up to the limit of a history. -/
def direction (storage : Storage) (sender recipient : User) (count : Nat) : List Message :=
  cutAt (historyOpt count).maxCount
    (storage.messages.filter (Message.sentTo sender recipient)).reverse

theorem history_eq (storage : Storage) (sort : TimestampSort) (userFrom userTo : User)
    (count : Nat) :
    history storage sort userFrom userTo count =
      (sort.sort (direction storage userTo userFrom count ++
        direction storage userFrom userTo count)).take count := by
  unfold history
  rw [mixFromAndToMessages_eq_take, selectMessages_result, selectMessages_result]
  rfl

/-- A request for a history that passes the checks: of the user that its id and
password belong to, with the one user of the name. -/
structure AsksHistory (storage : Storage) (task : Task) (userFrom userTo : User) : Prop where
  command : task.cmd = .userHistory
  accepted : checkPass task storage = userFrom
  present : userFrom.id ≠ 0
  named : lookupUserByName task.request.user storage = [userTo]
  found : userTo.id ≠ 0

theorem AsksHistory.serve {task : Task} (asks : AsksHistory storage task userFrom userTo)
    (sort : TimestampSort) (now : Int) :
    serve now storage (processTask sort task) =
      ([.sendMessages ((history storage sort userFrom userTo task.request.count).map
        storage.apiForm)], storage) := by
  unfold processTask
  rw [asks.command]
  simp only
  rw [serve_processUserHistory]
  unfold guarded
  rw [asks.accepted, if_neg asks.present]
  unfold guardedByName refusalByName checkPassByName
  simp only [asks.named, Bool.false_and, Bool.false_eq_true, if_false, if_neg asks.found]

/-- Both directions make up the conversation. -/
theorem perm_conversation (storage : Storage) (differ : userFrom.Differ userTo) :
    ((storage.messages.filter (Message.sentTo userTo userFrom)).reverse ++
      (storage.messages.filter (Message.sentTo userFrom userTo)).reverse).Perm
        (storage.conversation userFrom userTo) := by
  have both := perm_filter_or (Message.sentTo_disjoint differ) storage.messages
  refine ((List.reverse_perm _).append (List.reverse_perm _)).trans (both.trans ?_)
  refine List.Perm.of_eq (List.filter_congr fun msg _ => ?_)
  exact Bool.or_comm _ _

/-- The limit of a history, for the numbers that a request can have. -/
theorem historyOpt_maxCount (fits : count < 2 ^ 32) :
    (historyOpt count).maxCount =
      if count < 2 ^ 31 then 2 * count else 2 * count - 2 ^ 32 := by
  simp only [historyOpt]
  split <;> omega

/-- The limit is none or large enough up to the number `2 ^ 31`. -/
theorem historyOpt_enough_iff (fits : count < 2 ^ 32) :
    ((historyOpt count).maxCount = 0 ∨ count ≤ (historyOpt count).maxCount) ↔ count ≤ 2 ^ 31 := by
  rw [historyOpt_maxCount fits]
  split <;> omega

theorem history_length (storage : Storage) (sort : TimestampSort) (userFrom userTo : User)
    (count : Nat) :
    (history storage sort userFrom userTo count).length =
      min count ((direction storage userTo userFrom count).length +
        (direction storage userFrom userTo count).length) := by
  rw [history_eq, List.length_take, (sort.perm _).length_eq, List.length_append]

/-- With a limit that is large enough, as many messages are sent as were asked
for, or all there are. -/
theorem history_length_of_enough (differ : userFrom.Differ userTo)
    (enough : (historyOpt count).maxCount = 0 ∨ count ≤ (historyOpt count).maxCount) :
    (history storage sort userFrom userTo count).length =
      min count (storage.conversation userFrom userTo).length := by
  have whole := (perm_conversation storage differ).length_eq
  rw [List.length_append] at whole
  rw [history_length, ← whole, direction, direction, length_cutAt, length_cutAt]
  split
  · rfl
  next limited =>
    have large := enough.resolve_left limited
    omega

/-- In the order of their times, the messages that match are found newest first. -/
theorem descending_filter
    (ordered : storage.messages.Pairwise fun earlier later => earlier.ts ≤ later.ts)
    (pred : Message → Bool) : Descending Message.ts (storage.messages.filter pred).reverse := by
  unfold Descending
  rw [List.pairwise_reverse]
  exact ordered.sublist List.filter_sublist

/-- The limit leaves enough of each direction. -/
theorem direction_suffices
    (ordered : storage.messages.Pairwise fun earlier later => earlier.ts ≤ later.ts)
    (small : count < 2 ^ 31) (sender recipient : User) :
    Suffices Message.ts count (direction storage sender recipient count)
      (storage.messages.filter (Message.sentTo sender recipient)).reverse := by
  unfold direction cutAt
  rw [historyOpt_maxCount (small.trans (by decide)), if_pos small]
  split
  · exact suffices_whole _ _
  · exact (descending_filter ordered _).suffices_take (Nat.le_mul_of_pos_left _ (by decide))

/-- A history is the newest part of the conversation. -/
theorem history_largest (differ : userFrom.Differ userTo)
    (ordered : storage.messages.Pairwise fun earlier later => earlier.ts ≤ later.ts)
    (small : count < 2 ^ 31) :
    Largest Message.ts count (history storage sort userFrom userTo count)
      (storage.conversation userFrom userTo) := by
  rw [history_eq]
  refine Largest.of_perm ?_ (perm_conversation storage differ)
  exact (direction_suffices ordered small userTo userFrom).largest
    (direction_suffices ordered small userFrom userTo) (sort.perm _) (sort.sorted _)

theorem conversation_of_mem {msg : Message}
    (member : msg ∈ history storage sort userFrom userTo count) :
    msg.sentTo userFrom userTo = true ∨ msg.sentTo userTo userFrom = true := by
  have selected : msg ∈ direction storage userTo userFrom count ++
      direction storage userFrom userTo count :=
    (sort.perm _).subset
      (List.mem_of_mem_take (history_eq storage sort userFrom userTo count ▸ member))
  have sent : ∀ sender recipient, msg ∈ direction storage sender recipient count →
      msg.sentTo sender recipient = true := by
    intro sender recipient found
    have kept := cutAt_subset _ _ found
    rw [List.mem_reverse] at kept
    exact (List.mem_filter.mp kept).2
  rcases List.mem_append.mp selected with back | forth
  · exact .inr (sent userTo userFrom back)
  · exact .inl (sent userFrom userTo forth)

section Linked

variable (linked : storage.Linked)

include linked

/-- A stored user with the right password who names another one is answered. -/
theorem asksHistory_of_linked {task : Task} (requester : userFrom ∈ storage.users)
    (other : userTo ∈ storage.users) (command : task.cmd = .userHistory)
    (uid : task.request.uid = userFrom.id)
    (password : encryptedPass task.request.password = userFrom.password)
    (user : task.request.user = userTo.name) : AsksHistory storage task userFrom userTo := by
  have present : userFrom.id ≠ 0 := (linked.user_ne_zero (List.mem_map_of_mem requester)).ne'
  refine ⟨command, checkPass_of_found storage ?_ present password, present, ?_,
    (linked.user_ne_zero (List.mem_map_of_mem other)).ne'⟩
  · rw [uid]
    exact lookupUserById_of_nodup linked.userIds_nodup requester
  · rw [lookupUserByName, user]
    exact filter_of_nodup linked.names other

/-- A message from one stored user to another is shown with their names. -/
theorem apiForm_sentTo {sender recipient : User} {msg : Message}
    (memberSender : sender ∈ storage.users) (memberRecipient : recipient ∈ storage.users)
    (sent : msg.sentTo sender recipient = true) :
    storage.apiForm msg = ⟨toUint64 msg.ts, sender.name, recipient.name, msg.message⟩ := by
  unfold Message.sentTo at sent
  simp only [Bool.and_eq_true, decide_eq_true_eq] at sent
  have chat : lookupChatById recipient.selfChatId storage = recipient.selfChat :=
    lookupChatById_of_nodup linked.chatIds_nodup (linked.selfChat_mem memberRecipient)
  rw [Storage.apiForm, sent.1, sent.2, lookupUserById_of_nodup linked.userIds_nodup memberSender,
    chat]
  rfl

end Linked

end DatabaseWorker

open DatabaseWorker InMemory

/-- A message of two users, as either of them gets it. -/
def Message.shownBetween (first second : User) (msg : Message) : ApiMessage :=
  if msg.sentTo first second then ⟨toUint64 msg.ts, first.name, second.name, msg.message⟩
  else ⟨toUint64 msg.ts, second.name, first.name, msg.message⟩

@[simp]
theorem Message.shownBetween_ts (first second : User) (msg : Message) :
    (msg.shownBetween first second).ts = toUint64 msg.ts := by
  unfold shownBetween
  split <;> rfl

/-- Times that a `time_t` can have since the epoch keep their order on the way. -/
theorem shownBetween_descending {included messages : List Message}
    (descending : Descending Message.ts included) (stored : included ⊆ messages)
    (first second : User) (range : ∀ msg ∈ messages, 0 ≤ msg.ts ∧ msg.ts < 2 ^ 63) :
    (included.map (Message.shownBetween first second)).Pairwise
      fun earlier later => later.ts ≤ earlier.ts := by
  rw [List.pairwise_map]
  refine List.Pairwise.imp_of_mem ?_ descending
  intro earlier later memberEarlier memberLater older
  obtain ⟨earlierLow, earlierHigh⟩ := range earlier (stored memberEarlier)
  obtain ⟨laterLow, laterHigh⟩ := range later (stored memberLater)
  have earlierTs := toUint64_of_range earlierLow earlierHigh
  have laterTs := toUint64_of_range laterLow laterHigh
  rw [Message.shownBetween_ts, Message.shownBetween_ts]
  omega

/-- In every storage that any schedule of fewer than `2 ^ 64` creations reaches,
if its messages were saved in the order of their times, the history of two users
is the newest part of their conversation, shown with their names. -/
theorem history_newest {sort : TimestampSort} {pool : Pool Task Effect Effect.Reply Storage}
    {first second : User} {task : Task} (reached : (workers sort).Reaches ⟨{}, []⟩ pool)
    (room : pool.shared.creations < 2 ^ 64)
    (ordered : pool.shared.messages.Pairwise fun earlier later => earlier.ts ≤ later.ts)
    (requester : first ∈ pool.shared.users) (other : second ∈ pool.shared.users)
    (distinct : first ≠ second) (command : task.cmd = .userHistory)
    (uid : task.request.uid = first.id)
    (password : encryptedPass task.request.password = first.password)
    (user : task.request.user = second.name) (small : task.request.count < 2 ^ 31) (now : Int) :
    ∃ included, Largest Message.ts task.request.count included
        (pool.shared.conversation first second) ∧
      serve now pool.shared (processTask sort task) =
        ([.sendMessages (included.map (Message.shownBetween first second))], pool.shared) ∧
      ((∀ msg ∈ pool.shared.messages, 0 ≤ msg.ts ∧ msg.ts < 2 ^ 63) →
        (included.map (Message.shownBetween first second)).Pairwise
          fun earlier later => later.ts ≤ earlier.ts) := by
  have linked := linked_of_reaches reached room
  have asks := asksHistory_of_linked linked requester other command uid password user
  have differ : first.Differ second := by
    refine .inl fun same => distinct ?_
    exact List.inj_on_of_nodup_map linked.userIds_nodup requester other same
  have largest := @history_largest pool.shared sort first second _ differ ordered small
  refine ⟨_, largest, ?_, shownBetween_descending largest.descending ?_ first second⟩
  · rw [asks.serve sort now]
    congr 3
    refine List.map_congr_left fun msg member => ?_
    unfold Message.shownBetween
    split
    next forth => exact apiForm_sentTo linked requester other forth
    next notForth =>
      have back := (conversation_of_mem member).resolve_left notForth
      exact apiForm_sentTo linked other requester back
  · obtain ⟨omitted, perm, -⟩ := largest.rest
    intro msg member
    exact (List.mem_filter.mp (perm.subset (List.mem_append_left _ member))).1

/-- A task of the user with the id and the password of `createUserTask`. -/
def asUser (uid : Nat) (cmd : Cmd) (params : Params) : Task :=
  { cmd, request := { params with uid, password := bytes "Passw0rd" } }

/-- Two users are created and write to each other. -/
def chatting : List (Task × Int) :=
  [(createUserTask (bytes "alice"), 1), (createUserTask (bytes "bob"), 2),
    (asUser 1 .messageSend { toUser := bytes "bob", message := bytes "hello" }, 5),
    (asUser 2 .messageSend { toUser := bytes "alice", message := bytes "hi" }, 6),
    (asUser 1 .messageSend { toUser := bytes "bob", message := bytes "bye" }, 6)]

/-- The user of `createUserTask` with the id. -/
def created (id : Nat) (name : Bytes) : User :=
  { id, selfChatId := id, name, password := encryptedPass (bytes "Passw0rd") }

/-- Of three messages the two newest are sent. -/
theorem history_newest_two :
    ∃ storage, (sequence .stable).run chatting {} = some storage ∧
      storage.messages.length = 3 ∧
      ∃ included, included.length = 2 ∧ Descending Message.ts included ∧
        serve 7 storage (processTask .stable
          (asUser 1 .userHistory { user := bytes "bob", count := 2 })) =
            ([.sendMessages (included.map (Message.shownBetween (created 1 (bytes "alice"))
              (created 2 (bytes "bob"))))], storage) := by
  have shape : ((sequence .stable).run chatting {}).map (fun storage : Storage =>
      (storage.users, storage.messages.map Message.ts, storage.creations,
        (storage.conversation (created 1 (bytes "alice")) (created 2 (bytes "bob"))).length)) =
      some ([created 1 (bytes "alice"), created 2 (bytes "bob")], [5, 6, 6], 2, 3) := by
    decide +kernel
  obtain ⟨storage, replayed, facts⟩ := Option.map_eq_some_iff.mp shape
  simp only [Prod.mk.injEq] at facts
  obtain ⟨users, times, creations, talked⟩ := facts
  obtain ⟨finished, reached⟩ := workers_of_sequence (System.reaches_of_run replayed)
  have ordered : storage.messages.Pairwise fun earlier later => earlier.ts ≤ later.ts := by
    have increasing : (storage.messages.map Message.ts).Pairwise (· ≤ ·) := by
      rw [times]
      decide
    exact List.pairwise_map.mp increasing
  obtain ⟨included, largest, served, -⟩ := @history_newest .stable ⟨storage, finished⟩
    (created 1 (bytes "alice")) (created 2 (bytes "bob"))
    (asUser 1 .userHistory { user := bytes "bob", count := 2 }) reached
    (by rw [creations]; decide) ordered (by simp [users]) (by simp [users]) (by decide) rfl rfl
    (by simp only [asUser, created]) rfl (by decide) 7
  refine ⟨storage, replayed, ?_, included, ?_, largest.descending, served⟩
  · simpa using congrArg List.length times
  · rw [largest.length, talked]
    decide

/-- With `2 ^ 64` users the last one has the id `0`: the history with that user
is not answered at all. -/
theorem history_of_last_unanswered :
    ∃ (pool : Pool Task Effect Effect.Reply Storage) (first second : User) (task : Task),
      (workers .stable).Reaches ⟨{}, []⟩ pool ∧
      (pool.shared.messages.Pairwise fun earlier later => earlier.ts ≤ later.ts) ∧
      first ∈ pool.shared.users ∧ second ∈ pool.shared.users ∧ first ≠ second ∧
      task.cmd = .userHistory ∧ task.request.uid = first.id ∧
      encryptedPass task.request.password = first.password ∧ task.request.user = second.name ∧
      task.request.count < 2 ^ 31 ∧
      (serve 0 pool.shared (processTask .stable task)).1 = [] := by
  obtain ⟨pool, first, last, reached, messages, foundFirst, firstId, foundLast, lastId⟩ :=
    reaches_last_user .stable
  refine ⟨pool, first, last, asUser first.id .userHistory { user := last.name }, reached, ?_,
    foundFirst.member, foundLast.member, ?_, rfl, rfl, foundFirst.password, rfl, ?_, ?_⟩
  · rw [messages]
    exact .nil
  · rintro rfl
    exact absurd (firstId.symm.trans lastId) (by decide)
  · exact Nat.two_pow_pos 31
  · have accepted : checkPass (asUser first.id .userHistory { user := last.name }) pool.shared =
        first :=
      checkPass_of_found _ foundFirst.byId (by rw [firstId]; decide) foundFirst.password
    show (serve 0 pool.shared (processUserHistory .stable _)).1 = []
    rw [serve_processUserHistory]
    unfold guarded
    rw [accepted, if_neg (by rw [firstId]; decide)]
    unfold guardedByName refusalByName checkPassByName
    have named : lookupUserByName
        (asUser first.id .userHistory { user := last.name }).request.user pool.shared = [last] :=
      foundLast.byName
    simp only [named, Bool.false_and, Bool.false_eq_true, if_false, lastId, if_true]

/-- Two users with their passwords. -/
def twoUsers (alicePass bobPass : Bytes) : Storage :=
  { userAutoincrement := 3, chatAutoincrement := 3
    chats := [{ id := 1, name := bytes "alice" }, { id := 2, name := bytes "bob" }]
    users :=
      [{ id := 1, selfChatId := 1, name := bytes "alice", password := encryptedPass alicePass },
        { id := 2, selfChatId := 2, name := bytes "bob", password := encryptedPass bobPass }]
    chatuser := [{ chatid := 1, uid := 1 }, { chatid := 2, uid := 2 }] }

/-- Two users, the first of whom has sent the given messages. -/
def talk (messages : List Message) : Storage := { twoUsers [] [] with messages }

def alice : User :=
  { id := 1, selfChatId := 1, name := bytes "alice", password := encryptedPass [] }

def bob : User := { id := 2, selfChatId := 2, name := bytes "bob", password := encryptedPass [] }

/-- A request of the first of them for the history with the user of the name. -/
def aliceAsks (user : Bytes) (count : Nat) : Task :=
  { cmd := .userHistory, request := { uid := 1, password := [], user, count } }

theorem aliceAsks_accepted (messages : List Message) (user : Bytes) (count : Nat) :
    checkPass (aliceAsks user count) (talk messages) = alice :=
  checkPass_of_found (talk messages) rfl (by decide) (by simp only [aliceAsks, alice])

theorem asksHistory_bob (messages : List Message) (count : Nat) :
    AsksHistory (talk messages) (aliceAsks (bytes "bob") count) alice bob :=
  ⟨rfl, aliceAsks_accepted messages _ count, by decide, rfl, by decide⟩

/-- A message from the first of the two users to the second. -/
def greeting : Message := { userFrom := 1, chatTo := 2, message := bytes "hello", ts := 1 }

/-- The second of the users has sent nothing. -/
theorem history_greetings (sort : TimestampSort) (size count : Nat) :
    (history (talk (List.replicate size greeting)) sort alice bob count).length =
        min count (cutAt (historyOpt count).maxCount (List.replicate size greeting)).length ∧
      ((talk (List.replicate size greeting)).conversation alice bob).length = size := by
  have forth : (List.replicate size greeting).filter (Message.sentTo alice bob) =
      List.replicate size greeting := by
    rw [List.filter_replicate, if_pos (by decide)]
  have back : (List.replicate size greeting).filter (Message.sentTo bob alice) = [] := by
    rw [List.filter_replicate, if_neg (by decide)]
  have whole : (List.replicate size greeting).filter (fun msg =>
      msg.sentTo alice bob || msg.sentTo bob alice) = List.replicate size greeting := by
    rw [List.filter_replicate, if_pos (by decide)]
  constructor
  · rw [history_length]
    simp only [direction, talk, forth, back, List.reverse_nil, List.reverse_replicate]
    rw [length_cutAt _ []]
    simp
  · rw [Storage.conversation, talk, whole, List.length_replicate]

/-- Every reply to a request for the given number of messages between two users
who differ has as many, or all there are. -/
def RepliesInFull (count : Nat) : Prop :=
  ∀ (sort : TimestampSort) (now : Int) (storage : Storage) (task : Task) (userFrom userTo : User),
    AsksHistory storage task userFrom userTo → userFrom.Differ userTo →
      task.request.count = count →
      ∃ msgs, serve now storage (processTask sort task) = ([.sendMessages msgs], storage) ∧
        msgs.length = min count (storage.conversation userFrom userTo).length

/-- For every number that a request can have, the limit is none or at least the
number, and every reply is in full, exactly up to the number `2 ^ 31`. -/
theorem historyLimit_survives_iff (count : Nat) (fits : count < 2 ^ 32) :
    (((historyOpt count).maxCount = 0 ∨ count ≤ (historyOpt count).maxCount) ↔
        count ≤ 2 ^ 31) ∧
      (RepliesInFull count ↔ count ≤ 2 ^ 31) := by
  refine ⟨historyOpt_enough_iff fits, ?_, ?_⟩
  · intro inFull
    by_contra large
    -- one message more than the limit lets through
    have limit := historyOpt_maxCount fits
    rw [if_neg (by omega)] at limit
    obtain ⟨msgs, served, length⟩ := inFull .stable 0
      (talk (List.replicate (2 * count - 2 ^ 32 + 1) greeting)) (aliceAsks (bytes "bob") count)
      alice bob (asksHistory_bob _ count) (by decide) rfl
    rw [(asksHistory_bob _ count).serve] at served
    obtain ⟨short, whole⟩ := history_greetings .stable (2 * count - 2 ^ 32 + 1) count
    simp only [Prod.mk.injEq, List.cons.injEq, ClientCall.sendMessages.injEq, and_true] at served
    rw [← served, List.length_map, whole] at length
    rw [show (aliceAsks (bytes "bob") count).request.count = count from rfl, short,
      length_cutAt, limit, List.length_replicate] at length
    split at length <;> omega
  · rintro small sort now storage task userFrom userTo asks differ rfl
    refine ⟨_, asks.serve sort now, ?_⟩
    rw [List.length_map]
    exact history_length_of_enough differ ((historyOpt_enough_iff fits).mpr small)

theorem historyLimit_survives_ten : RepliesInFull 10 :=
  (historyLimit_survives_iff 10 (by decide)).2.mpr (by decide)

/-- Three messages, of which a request for `2 ^ 31 + 1` gets two. -/
theorem historyLimit_short :
    let storage := talk (List.replicate 3 greeting)
    let count := 2 ^ 31 + 1
    AsksHistory storage (aliceAsks (bytes "bob") count) alice bob ∧ alice.Differ bob ∧
      (historyOpt count).maxCount = 2 ∧ (storage.conversation alice bob).length = 3 ∧
      ∃ msgs, serve 0 storage (processTask .stable (aliceAsks (bytes "bob") count)) =
          ([.sendMessages msgs], storage) ∧ msgs.length = 2 := by
  intro storage count
  obtain ⟨short, whole⟩ := history_greetings .stable 3 count
  have limit : (historyOpt count).maxCount = 2 := by decide
  refine ⟨asksHistory_bob _ count, by decide, limit, whole, _,
    (asksHistory_bob _ count).serve .stable 0, ?_⟩
  have asked : (aliceAsks (bytes "bob") count).request.count = count := rfl
  rw [List.length_map, asked, short, length_cutAt, limit, List.length_replicate]
  decide

end GeoChat
