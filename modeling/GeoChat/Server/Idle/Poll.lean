import GeoChat.Server.Idle.Batch
import GeoChat.Server.Store.History

/-!
# What one poll returns

An idle task that nothing interrupts reads each chat of its user with the
default options: the messages that are newer than the cursor, newest first, and
not more than three. Two stored messages can be equal, so a message of a batch
is taken together with its position in the storage.
-/

namespace GeoChat

open Library Program

/-- The stored messages, each with its position. -/
abbrev Entry := Message × Nat

namespace Storage

/-- What a scan of `getMessages` takes. -/
def newest (storage : Storage) (chatid : Nat) (opt : GetMsgOpt) : List Entry :=
  cutAt opt.maxCount
    (storage.messages.zipIdx.filter fun entry => entry.1.newer chatid opt.ts).reverse

/-- What an idle task of the user takes from the chats of the user. -/
def pollBatch (storage : Storage) (uid : Nat) (ts : Int) : List Entry :=
  (storage.chatPlan uid).flatMap fun chatid => storage.newest chatid { ts }

/-- The messages are the same, flags apart. -/
def SameMessages (start storage : Storage) : Prop :=
  storage.messages.map Message.unflagged = start.messages.map Message.unflagged

end Storage

/-- An entry without the flags of its message. -/
def Entry.unflagged (entry : Entry) : Entry := (entry.1.unflagged, entry.2)

namespace InMemory

variable {start storage : Storage}

theorem getMessages_newest (chatid : Nat) (opt : GetMsgOpt) (storage : Storage) :
    (getMessages chatid opt storage).1 = (storage.newest chatid opt).map Prod.fst := by
  rw [getMessages_result, Storage.newest, map_cutAt, List.map_reverse]
  congr 2
  have parts := List.filter_map (f := (Prod.fst : Entry → Message))
    (p := Message.newer chatid opt.ts) (l := storage.messages.zipIdx)
  rw [List.zipIdx_map_fst] at parts
  exact parts

/-- A scan takes the same messages, whatever their flags. -/
theorem newest_unflagged (same : start.SameMessages storage) (chatid : Nat) (opt : GetMsgOpt) :
    (storage.newest chatid opt).map Entry.unflagged =
      (start.newest chatid opt).map Entry.unflagged := by
  have taken : ∀ messages : List Message,
      (cutAt opt.maxCount (messages.zipIdx.filter fun entry =>
          entry.1.newer chatid opt.ts).reverse).map Entry.unflagged =
        cutAt opt.maxCount ((messages.map Message.unflagged).zipIdx.filter fun entry =>
          entry.1.newer chatid opt.ts).reverse := by
    intro messages
    rw [map_cutAt, List.map_reverse]
    congr 2
    rw [List.zipIdx_map, List.filter_map]
    rfl
  rw [Storage.newest, Storage.newest, taken, taken, same]

theorem getMessages_same (chatid : Nat) (opt : GetMsgOpt) (storage : Storage) :
    storage.SameRows (getMessages chatid opt storage).2 ∧
      storage.SameMessages (getMessages chatid opt storage).2 := by
  obtain ⟨messages, result, unflagged⟩ := getMessages_storage chatid opt storage
  rw [result]
  exact ⟨⟨rfl, rfl, rfl⟩, unflagged⟩

end InMemory

namespace DatabaseWorker

open InMemory

variable (now : Int)

theorem run_toApiFormatBatch (batch : List (List Message)) (storage : Storage) :
    (toApiFormatBatch batch).run (handle now) storage =
      (batch.flatten.map storage.apiForm, storage) := by
  induction batch with
  | nil => rfl
  | cons msgs rest inductionHypothesis =>
      simp only [toApiFormatBatch, run_bind, run_toApiFormat, inductionHypothesis, run_pure,
        List.flatten_cons, List.map_append]

/-- The loop over the chats reads from each what a scan takes. The marks of the
scans before it do not matter. -/
theorem run_readChats (ts : Int) (chats : List Chat) {start storage : Storage}
    (rows : start.SameRows storage) (same : start.SameMessages storage) :
    ∃ batch later, (readChats ts chats).run (handle now) storage = (batch, later) ∧
      start.SameRows later ∧ [] ∉ batch ∧
      batch.flatten.map Message.unflagged =
        (chats.flatMap fun chat => start.newest chat.id { ts }).map fun entry =>
          entry.1.unflagged := by
  induction chats generalizing storage with
  | nil => exact ⟨[], storage, rfl, rows, by simp, rfl⟩
  | cons chat rest inductionHypothesis =>
      obtain ⟨readRows, readSame⟩ := getMessages_same chat.id { ts } storage
      obtain ⟨batch, later, ran, laterRows, full, taken⟩ :=
        inductionHypothesis (rows.trans readRows) (readSame.trans same)
      have first : (getMessages chat.id { ts } storage).1.map Message.unflagged =
          (start.newest chat.id { ts }).map fun entry => entry.1.unflagged := by
        rw [getMessages_newest, List.map_map]
        have entries := congrArg (List.map Prod.fst) (newest_unflagged same chat.id { ts })
        rwa [List.map_map, List.map_map] at entries
      have joined : (readChats ts (chat :: rest)).run (handle now) storage =
          (if (getMessages chat.id { ts } storage).1.isEmpty then batch
            else (getMessages chat.id { ts } storage).1 :: batch, later) := by
        simp only [readChats, perform_bind, run_call, handle_db, exec, run_bind, ran, run_pure]
      refine ⟨_, later, joined, laterRows, ?_, ?_⟩
      · split
        · exact full
        next nonempty =>
          rw [List.mem_cons, not_or]
          refine ⟨fun empty => nonempty ?_, full⟩
          rw [← empty]
          rfl
      · rw [List.flatMap_cons, List.map_append, ← taken, ← first]
        split
        next empty => rw [List.isEmpty_iff.mp empty, List.map_nil, List.nil_append]
        next => rw [List.flatten_cons, List.map_append]

/-- What an accepted idle task tells its client: nothing, when there is nothing
to tell and the timer has not asked for a sign of life. -/
def pollReply (ping : Bool) (msgs : List ApiMessage) : List ClientCall :=
  if msgs.isEmpty && !ping then [] else [.sendMessagesToIdleConn msgs]

theorem serve_sendBatch (ping : Bool) (batch : List (List Message)) (full : [] ∉ batch)
    (storage : Storage) :
    serve now storage (sendBatch ping batch) =
      (pollReply ping (batch.flatten.map storage.apiForm), storage) := by
  unfold sendBatch pollReply
  cases batch with
  | nil => cases ping <;> rfl
  | cons msgs rest =>
      have nonempty : msgs ≠ [] := fun empty => full (by simp [empty])
      have some : ((msgs :: rest).flatten.map storage.apiForm).isEmpty = false := by
        simp [nonempty]
      simp only [List.isEmpty_cons, Bool.not_false, if_true, some, Bool.false_and,
        Bool.false_eq_true, if_false]
      rw [serve_mute_bind _ _ (mute_toApiFormatBatch _), run_toApiFormatBatch]
      rfl

/-- The reply to an idle task of the user whom its id and password belong to is
the batch. -/
theorem serve_poll (sort : TimestampSort) {task : Task} {storage : Storage}
    (command : task.cmd = .idle) (accepted : (checkPass task storage).id ≠ 0) :
    (serve now storage (processTask sort task)).1 =
      pollReply task.ping
        ((storage.pollBatch task.request.uid task.request.ts).map fun entry =>
          storage.apiForm entry.1) := by
  unfold processTask
  rw [command]
  simp only
  unfold processIdle
  rw [serve_guard]
  unfold guarded
  rw [if_neg accepted]
  beta_reduce
  rw [serve_time, serve_db, Prog.lookupChatsForUserId, bind_assoc, serve_db,
    serve_mute_bind _ _ (mute_lookupChatsById _), run_lookupChatsById,
    serve_mute_bind _ _ (mute_readChats _ _)]
  simp only [exec]
  have own := (checkPass_mem storage accepted).2
  have rows : storage.SameRows (updateUserHeartBit (checkPass task storage) now storage) :=
    exec_sameRows (.updateUserHeartBit (checkPass task storage) now) storage (.inl trivial)
  have chats : (chatidsForUserId (checkPass task storage).id
      (updateUserHeartBit (checkPass task storage) now storage)).map
        (lookupChatById · (updateUserHeartBit (checkPass task storage) now storage)) =
      (chatidsForUserId task.request.uid storage).map (lookupChatById · storage) := by
    simp only [chatidsForUserId_sameRows rows, lookupChatById_sameRows rows, own]
  obtain ⟨batch, later, ran, laterRows, full, taken⟩ := run_readChats now task.request.ts
    ((chatidsForUserId task.request.uid storage).map (lookupChatById · storage)) rows rfl
  rw [chats, ran, serve_sendBatch now _ _ full]
  have plan : ((chatidsForUserId task.request.uid storage).map (lookupChatById · storage)).flatMap
      (fun chat => storage.newest chat.id { ts := task.request.ts }) =
        storage.pollBatch task.request.uid task.request.ts := by
    rw [Storage.pollBatch, Storage.chatPlan, List.flatMap_map, List.flatMap_map]
  have shown := congrArg (List.map storage.apiForm) taken
  rw [plan, List.map_map, List.map_map] at shown
  have sent : batch.flatten.map later.apiForm = batch.flatten.map storage.apiForm :=
    List.map_congr_left fun msg _ => laterRows.apiForm msg
  rw [sent]
  exact congrArg (pollReply task.ping) shown

end DatabaseWorker

namespace Storage

variable {storage : Storage} {uid chatid : Nat} {ts : Int} {entry : Entry}

theorem mem_newest {opt : GetMsgOpt} (member : entry ∈ storage.newest chatid opt) :
    entry ∈ storage.messages.zipIdx ∧ entry.1.chatTo = chatid := by
  have scanned := cutAt_subset _ _ member
  rw [List.mem_reverse, List.mem_filter] at scanned
  refine ⟨scanned.1, ?_⟩
  have newer := scanned.2
  simp only [Message.newer, Bool.and_eq_true, decide_eq_true_eq] at newer
  exact newer.1

theorem mem_pollBatch (member : entry ∈ storage.pollBatch uid ts) :
    entry ∈ storage.newest entry.1.chatTo { ts } ∧ entry.1.chatTo ∈ storage.chatPlan uid := by
  obtain ⟨chatid, planned, taken⟩ := List.mem_flatMap.mp member
  rw [(mem_newest taken).2]
  exact ⟨taken, planned⟩

theorem zipIdx_nodup (messages : List Message) : messages.zipIdx.Nodup := by
  refine List.Nodup.of_map Prod.snd ?_
  rw [List.zipIdx_map_snd]
  exact List.nodup_range'

/-- The batch holds every newer message of the chats of the user. -/
def PollComplete (storage : Storage) (uid : Nat) (ts : Int) : Prop :=
  ∀ entry ∈ storage.messages.zipIdx, ∀ chat ∈ storage.chats, ⟨chat.id, uid⟩ ∈ storage.chatuser →
    entry.1.chatTo = chat.id → ts < entry.1.ts → entry ∈ storage.pollBatch uid ts

/-- A batch is complete exactly when no chat of the user has more than three
newer messages. -/
theorem pollComplete_iff (storage : Storage) (uid : Nat) (ts : Int) :
    storage.PollComplete uid ts ↔
      ∀ chat ∈ storage.chats, ⟨chat.id, uid⟩ ∈ storage.chatuser →
        storage.messages.countP (Message.newer chat.id ts) ≤ 3 := by
  have counted : ∀ chatid, (storage.messages.zipIdx.filter fun entry =>
      entry.1.newer chatid ts).length = storage.messages.countP (Message.newer chatid ts) := by
    intro chatid
    rw [← List.countP_eq_length_filter, ← List.zipIdx_map_fst 0 storage.messages, List.countP_map,
      List.zipIdx_map_fst]
    rfl
  constructor
  · intro complete chat exists_ row
    -- all of them are among the three that the scan takes
    have among : storage.messages.zipIdx.filter (fun entry => entry.1.newer chat.id ts) ⊆
        storage.newest chat.id { ts } := by
      intro entry member
      obtain ⟨stored, newer⟩ := List.mem_filter.mp member
      simp only [Message.newer, Bool.and_eq_true, decide_eq_true_eq] at newer
      have taken := (mem_pollBatch (complete entry stored chat exists_ row newer.1 newer.2)).1
      rwa [newer.1] at taken
    have distinct := (zipIdx_nodup storage.messages).filter fun entry =>
      entry.1.newer chat.id ts
    have fewer := (List.subperm_of_subset distinct among).length_le
    rw [counted] at fewer
    exact fewer.trans (List.length_take_le _ _)
  · intro few entry stored chat exists_ row target newer
    refine List.mem_flatMap.mpr ⟨chat.id, mem_chatPlan exists_ row, ?_⟩
    rw [newest, cutAt_of_le]
    · rw [List.mem_reverse, List.mem_filter]
      exact ⟨stored, by simp [Message.newer, target, newer]⟩
    · rw [List.length_reverse, counted]
      exact few chat exists_ row

end Storage

open DatabaseWorker InMemory

/-- The batch of an accepted idle task is complete exactly when no chat of the
user has more than three newer messages. -/
theorem poll_complete_iff {sort : TimestampSort} {task : Task} {storage : Storage}
    (command : task.cmd = .idle) (accepted : (checkPass task storage).id ≠ 0) (now : Int) :
    (serve now storage (processTask sort task)).1 =
        pollReply task.ping
          ((storage.pollBatch task.request.uid task.request.ts).map fun entry =>
            storage.apiForm entry.1) ∧
      (storage.PollComplete task.request.uid task.request.ts ↔
        ∀ chat ∈ storage.chats, ⟨chat.id, task.request.uid⟩ ∈ storage.chatuser →
          storage.messages.countP (Message.newer chat.id task.request.ts) ≤ 3) :=
  ⟨serve_poll now sort command accepted, storage.pollComplete_iff _ _⟩

/-- An idle task of the second of two users. -/
def bobPolls : Task := { cmd := .idle, request := { uid := 2, password := [] } }

theorem bobPolls_accepted (messages : List Message) :
    checkPass bobPolls (talk messages) = bob :=
  checkPass_of_found (talk messages) rfl (by decide) (by simp only [bobPolls, bob])

theorem poll_complete_three : (talk (List.replicate 3 greeting)).PollComplete 2 0 := by
  refine (@poll_complete_iff .stable bobPolls (talk (List.replicate 3 greeting))
    rfl ?_ 0).2.mpr ?_
  · rw [bobPolls_accepted]
    decide
  · decide

/-- Of four messages the oldest is left out. -/
theorem poll_leaves_oldest :
    let storage := talk ([1, 2, 3, 4].map fun ts => { greeting with ts })
    (checkPass bobPolls storage).id ≠ 0 ∧
      (serve 5 storage (processTask .stable bobPolls)).1 =
        [.sendMessagesToIdleConn
          ([4, 3, 2].map fun ts => ⟨ts, bytes "alice", bytes "bob", bytes "hello"⟩)] ∧
      ¬ storage.PollComplete 2 0 := by
  intro storage
  have accepted : (checkPass bobPolls storage).id ≠ 0 := by
    rw [bobPolls_accepted]
    decide
  refine ⟨accepted, ?_, ?_⟩
  · rw [serve_poll 5 .stable rfl accepted]
    decide
  · intro complete
    have taken := complete (greeting, 0) (by decide) { id := 2, name := bytes "bob" } (by decide)
      (by decide) rfl (by decide)
    exact absurd taken (by decide)

end GeoChat
