import GeoChat.Server.Idle.Batch

/-!
# Runs of an idle connection

The timer of an idle connection makes one idle task after another, others store
messages, and no request is read. The rows of users, chats and memberships stay
as they are, and every task is an idle task of the same user.
-/

namespace GeoChat

open Library Program
open InMemory (backend)

/-- A value of `time_t`. -/
def isTime (ts : Int) : Bool := -2 ^ 63 ≤ ts && ts < 2 ^ 63

/-- A cursor: a timestamp that is not negative. -/
def IsCursor (ts : Int) : Prop := 0 ≤ ts ∧ ts < 2 ^ 63

theorem isCursor_of_lt {ts later : Int} (cursor : IsCursor ts) (newer : ts < later)
    (time : isTime later = true) : IsCursor later := by
  simp only [isTime, Bool.and_eq_true, decide_eq_true_eq] at time
  unfold IsCursor at cursor ⊢
  omega

theorem maxTimestamp_fold (msgs : List ApiMessage) (start : Nat) :
    start ≤ msgs.foldl (fun ts msg => if ts < msg.ts then msg.ts else ts) start ∧
      (∀ msg ∈ msgs, msg.ts ≤
        msgs.foldl (fun ts msg => if ts < msg.ts then msg.ts else ts) start) ∧
      (msgs.foldl (fun ts msg => if ts < msg.ts then msg.ts else ts) start = start ∨
        ∃ msg ∈ msgs,
          msgs.foldl (fun ts msg => if ts < msg.ts then msg.ts else ts) start = msg.ts) := by
  induction msgs generalizing start with
  | nil => simp
  | cons msg rest inductionHypothesis =>
      rw [List.foldl_cons]
      rcases inductionHypothesis (if start < msg.ts then msg.ts else start) with
        ⟨grown, each, last⟩
      generalize rest.foldl (fun ts msg => if ts < msg.ts then msg.ts else ts)
        (if start < msg.ts then msg.ts else start) = result at grown each last ⊢
      refine ⟨by split at grown <;> omega, ?_, ?_⟩
      · intro other member
        rcases List.mem_cons.mp member with rfl | later
        · split at grown <;> omega
        · exact each other later
      · rcases last with same | ⟨other, member, same⟩
        · split at same
          · exact .inr ⟨msg, List.mem_cons_self, same⟩
          · exact .inl same
        · exact .inr ⟨other, List.mem_cons_of_mem _ member, same⟩

theorem le_maxTimestamp {msgs : List ApiMessage} {msg : ApiMessage} (member : msg ∈ msgs) :
    msg.ts ≤ maxTimestamp msgs :=
  (maxTimestamp_fold msgs 0).2.1 msg member

theorem maxTimestamp_cases (msgs : List ApiMessage) :
    maxTimestamp msgs = 0 ∨ ∃ msg ∈ msgs, maxTimestamp msgs = msg.ts :=
  (maxTimestamp_fold msgs 0).2.2

/-- The maximum that the completion of a batch brings. -/
def Completion.maxTs? : Completion → Option Nat
  | .batchWrote maxTs => some maxTs
  | _ => none

/-- The maxima of the batches that are being written. -/
def ApiClient.pendingBatches (client : ApiClient) : List Nat :=
  client.writes.filterMap (·.2.maxTs?)

theorem pendingBatches_asyncRequest (response : Bytes) (completion : Completion)
    (client : ApiClient) :
    (client.asyncRequest response completion).pendingBatches =
      client.pendingBatches ++ completion.maxTs?.toList := by
  unfold ApiClient.asyncRequest ApiClient.pendingBatches
  rw [List.filterMap_append]
  cases completion <;> rfl

/-- The cursor of the connection. -/
abbrev Connection.cursor (connection : Connection Storage) : Int :=
  connection.client.requestDetails.params.ts

/-- A client that has begun to wait for messages. -/
structure ApiClient.IdleStart (client : ApiClient) : Prop where
  command : client.requestDetails.command = .idle
  cursor : IsCursor client.requestDetails.params.ts
  newest : client.newestMsgTimestamp = 0
  unwritten : client.pendingBatches = []

/-- A request for `/v1/idle` on a connection that has sent no batch begins to
wait, with the heartbit of the request as its cursor. -/
theorem idleHandler_begins {parse : Bytes → Option Json} {passLen : Int} {req : HttpReply}
    {now : Int} {expired : Nat} {client later : ApiClient} {tasks : List Task}
    (cursor : IsCursor client.requestDetails.params.ts)
    (newest : client.newestMsgTimestamp = 0) (unwritten : client.pendingBatches = [])
    (handled : client.idleHandler parse passLen req now expired = .ok (later, tasks)) :
    later.IdleStart := by
  rcases Checked.bind_ok handled with ⟨⟨details, err⟩, parsed, rest⟩
  rcases parseMeta_onlyParams parse passLen _ _ _ details err parsed with ⟨params, rfl, range⟩
  have inRange : IsCursor params.ts := by
    rcases range with same | ⟨number, bound, same⟩
    · exact same ▸ cursor
    · rw [same]
      exact ⟨by omega, by omega⟩
  simp only at rest
  split at rest
  · cases rest
    exact ⟨rfl, inRange, newest,
      (pendingBatches_asyncRequest _ _ _).trans (congrArg (· ++ []) unwritten)⟩
  · cases rest
    exact ⟨rfl, inRange, newest,
      (pendingBatches_asyncRequest _ _ _).trans (congrArg (· ++ []) unwritten)⟩

/-- The events of an idle connection: no request is read, and others store
messages. -/
def idleEvent : ConnectionEvent → Bool
  | .request .. => false
  | .other _ (.saveMessage msg) => isTime msg.ts
  | .other _ _ => false
  | _ => true

/-- A task that the timer of an idle connection makes. -/
structure Task.Idle (uid : Nat) (task : Task) : Prop where
  cmd : task.cmd = .idle
  user : task.request.uid = uid
  cursor : IsCursor task.request.ts

/-- A worker with such a task. -/
structure IdleWorker (start : Storage) (uid : Nat) (worker : TaskWorker) : Prop where
  task : worker.task.Idle uid
  keeps : worker.Keeps (Faithful start) (IdleCall start worker.task)
  newer : ∀ msg ∈ messagesRead worker.history,
    worker.task.request.ts < msg.ts ∧ isTime msg.ts = true

/-- What holds in every run of an idle connection. -/
structure Connection.Idling (start : Storage) (uid : Nat) (connection : Connection Storage) :
    Prop where
  rows : start.SameRows connection.storage
  times : ∀ msg ∈ connection.storage.messages, isTime msg.ts = true
  command : connection.client.requestDetails.command = .idle
  user : connection.client.requestDetails.params.uid = uid
  cursor : IsCursor connection.cursor
  newest : connection.client.newestMsgTimestamp < 2 ^ 63
  pending : ∀ maxTs ∈ connection.client.pendingBatches, maxTs < 2 ^ 63
  queue : ∀ task ∈ connection.queue, task.Idle uid
  workers : ∀ worker ∈ connection.workers, IdleWorker start uid worker

/-- The timestamp of the form that a client gets. -/
theorem apiForm_ts (storage : Storage) {msg : Message} (cursor : IsCursor msg.ts) :
    ((storage.apiForm msg).ts : Int) = msg.ts :=
  toUint64_of_range cursor.1 cursor.2

namespace IdleWorker

variable {start : Storage} {uid : Nat} {worker : TaskWorker}

theorem cursor_of_read (idle : IdleWorker start uid worker) {msg : Message}
    (read : msg ∈ messagesRead worker.history) : IsCursor msg.ts :=
  isCursor_of_lt idle.task.cursor (idle.newer msg read).1 (idle.newer msg read).2

/-- The largest timestamp of the batch of a worker. -/
theorem maxTimestamp_lt (idle : IdleWorker start uid worker) :
    maxTimestamp ((messagesRead worker.history).map start.apiForm) < 2 ^ 63 := by
  rcases maxTimestamp_cases ((messagesRead worker.history).map start.apiForm) with
    zero | ⟨apiMsg, member, same⟩
  · rw [zero]
    decide
  · rcases List.mem_map.mp member with ⟨msg, read, rfl⟩
    have form := apiForm_ts start (idle.cursor_of_read read)
    have bound := (idle.cursor_of_read read).2
    omega

end IdleWorker

/-- The batch that a call sends. -/
def Effect.batch : Effect → List (List ApiMessage)
  | .client sent => sent.batch
  | _ => []

/-- The stored messages, flags apart. -/
def Storage.contents (storage : Storage) : List Message :=
  storage.messages.map Message.unflagged

/-- What a call of an idle task leaves as it is, and what its batch adds. -/
structure Shared.After (effect : Effect) (before after : Shared Storage) : Prop where
  contents : after.storage.contents = before.storage.contents
  details : after.client.requestDetails = before.client.requestDetails
  newest : after.client.newestMsgTimestamp = before.client.newestMsgTimestamp
  timers : after.client.timers = before.client.timers
  batches : after.batches = before.batches ++ effect.batch
  pending : after.client.pendingBatches =
    before.client.pendingBatches ++ effect.batch.map maxTimestamp

namespace Shared

theorem handle_after (now : Int) {start : Storage} {task : Task} {history : History}
    {effect : Effect} (idleCall : IdleCall start task history effect) (shared : Shared Storage) :
    After effect shared (handle backend now effect shared).2 := by
  cases idleCall with
  | plain _ plain =>
      unfold Effect.plain at plain
      split at plain
      all_goals first | contradiction | skip
      case h_6 =>
        exact ⟨rfl, rfl, rfl, rfl, rfl, pendingBatches_asyncRequest _ _ _⟩
      all_goals
        exact ⟨rfl, rfl, rfl, rfl, (List.append_nil _).symm, (List.append_nil _).symm⟩
  | read chatid _ _ =>
      refine ⟨?_, rfl, rfl, rfl, (List.append_nil _).symm, (List.append_nil _).symm⟩
      rcases InMemory.getMessages_storage chatid { ts := task.request.ts } shared.storage with
        ⟨messages, result, same⟩
      simp only [handle, backend, InMemory.exec, result, Storage.contents, same]
  | send _ _ =>
      exact ⟨rfl, rfl, rfl, rfl, rfl, pendingBatches_asyncRequest _ _ _⟩

theorem quiet_of_plain {effect : Effect} (plain : effect.plain = true) : effect.Quiet := by
  unfold Effect.plain at plain
  split at plain <;> first | contradiction | trivial

theorem handle_sameRows (now : Int) {effect : Effect} (quiet : effect.Quiet)
    (shared : Shared Storage) :
    shared.storage.SameRows (handle backend now effect shared).2.storage := by
  cases effect with
  | db op => exact InMemory.exec_sameRows op shared.storage (.inl quiet)
  | time => exact ⟨rfl, rfl, rfl⟩
  | client sent => exact ⟨rfl, rfl, rfl⟩

theorem handle_faithful (now : Int) (effect : Effect) {start : Storage} {shared : Shared Storage}
    (same : start.SameRows shared.storage) :
    Faithful start effect (handle backend now effect shared).1 := by
  cases effect with
  | time => trivial
  | client sent => trivial
  | db op =>
      cases op with
      | lookupUserById id => exact InMemory.lookupUserById_sameRows same id
      | lookupChatById chatid => exact InMemory.lookupChatById_sameRows same chatid
      | chatidsForUserId uid => exact InMemory.chatidsForUserId_sameRows same uid
      | getMessages chatid opt =>
          intro msg member
          simp only [handle, backend, InMemory.exec, InMemory.getMessages_result] at member
          have found := cutAt_subset _ _ member
          exact List.of_mem_filter (List.mem_reverse.mp found)
      | _ => trivial

end Shared

theorem IdleCall.quiet {start : Storage} {task : Task} {history : History} {effect : Effect}
    (idleCall : IdleCall start task history effect) : effect.Quiet := by
  cases idleCall with
  | plain _ plain => exact Shared.quiet_of_plain plain
  | read => trivial
  | send => trivial

/-- A task sends nothing but all that it has read. -/
theorem IdleCall.batch_cases {start : Storage} {task : Task} {history : History} {effect : Effect}
    (idleCall : IdleCall start task history effect) :
    effect.batch = [] ∨
      effect.batch = [(messagesRead history).map start.apiForm] ∧
        chatsRead history = start.chatPlan task.request.uid := by
  cases idleCall with
  | plain _ plain =>
      left
      unfold Effect.plain at plain
      split at plain <;> first | contradiction | rfl
  | read => exact .inl rfl
  | send _ all => exact .inr ⟨rfl, all⟩

/-- What the end of a write does to an idle client. -/
theorem complete_cases {client : ApiClient} {write : Bytes × Completion}
    {writes : List (Bytes × Completion)} (first : client.writes = write :: writes) (failed : Bool)
    (expired : Nat) :
    ∃ after, { client with writes }.complete write.2 failed expired = after ∧
      after.requestDetails = client.requestDetails ∧
      ((after.pendingBatches = client.pendingBatches ∧
          after.newestMsgTimestamp = client.newestMsgTimestamp ∧ after.timers = client.timers) ∨
        ∃ maxTs, write.2 = .batchWrote maxTs ∧
          client.pendingBatches = maxTs :: after.pendingBatches ∧
          ((failed = true ∧ after.newestMsgTimestamp = client.newestMsgTimestamp ∧
              after.timers = min expired client.timers) ∨
            (failed = false ∧ after.newestMsgTimestamp = maxTs ∧
              after.timers = client.timers))) := by
  rcases write with ⟨response, completion⟩
  refine ⟨_, rfl, ?_⟩
  cases completion with
  | responseToClientWrote =>
      refine ⟨rfl, .inl ⟨?_, rfl, rfl⟩⟩
      simp [ApiClient.complete, ApiClient.responseToClientWroteHandler, ApiClient.readCmd,
        ApiClient.pendingBatches, first, Completion.maxTs?]
  | idleStarted =>
      refine ⟨rfl, .inl ⟨?_, rfl, rfl⟩⟩
      simp [ApiClient.complete, ApiClient.pendingBatches, first, Completion.maxTs?]
  | batchWrote maxTs =>
      cases failed with
      | true =>
          refine ⟨rfl, .inr ⟨maxTs, rfl, ?_, .inl ⟨rfl, rfl, rfl⟩⟩⟩
          simp [ApiClient.complete, ApiClient.batchWroteHandler, ApiClient.pendingBatches, first,
            Completion.maxTs?]
      | false =>
          refine ⟨rfl, .inr ⟨maxTs, rfl, ?_, .inr ⟨rfl, rfl, rfl⟩⟩⟩
          simp [ApiClient.complete, ApiClient.batchWroteHandler, ApiClient.pendingBatches, first,
            Completion.maxTs?]

/-- What the timer does: the cursor moves up to the newest timestamp, and the
new task has it. -/
structure Ticked (connection : Connection Storage) (client : ApiClient) (task : Task) : Prop where
  waiting : connection.client.timers ≠ 0
  command : client.requestDetails.command = connection.client.requestDetails.command
  user : client.requestDetails.params.uid = connection.client.requestDetails.params.uid
  cursor : client.requestDetails.params.ts =
    max connection.cursor connection.client.newestMsgTimestamp
  newest : client.newestMsgTimestamp = connection.client.newestMsgTimestamp
  pending : client.pendingBatches = connection.client.pendingBatches
  taskCommand : task.cmd = connection.client.requestDetails.command
  taskUser : task.request.uid = connection.client.requestDetails.params.uid
  taskCursor : task.request.ts = client.requestDetails.params.ts

theorem ticked_of_tick {connection next : Connection Storage} {now : Int} {expired : Nat}
    (cursor : IsCursor connection.cursor)
    (newest : connection.client.newestMsgTimestamp < 2 ^ 63)
    (stepped : connection.tick now expired = some next) :
    ∃ client task, next = (connection.setClient client).putTasks [task] ∧
      Ticked connection client task := by
  rcases Connection.tick_cases stepped with ⟨timers, waiting, rfl⟩
  refine ⟨_, _, rfl, ?_⟩
  have value : (toUint64 connection.client.requestDetails.params.ts : Int) =
      connection.client.requestDetails.params.ts := toUint64_of_range cursor.1 cursor.2
  have isWaiting : connection.client.timers ≠ 0 := by omega
  unfold ApiClient.timerWaitTaskResultHandler
  by_cases moves : toUint64 connection.client.requestDetails.params.ts <
      connection.client.newestMsgTimestamp
  · have larger : toTime connection.client.newestMsgTimestamp =
        max connection.cursor connection.client.newestMsgTimestamp := by
      simp only [toTime, newest, if_true, Connection.cursor]
      omega
    simp only [moves, if_true]
    exact ⟨isWaiting, rfl, rfl, larger, rfl, rfl, rfl, rfl, rfl⟩
  · have same : connection.client.requestDetails.params.ts =
        max connection.cursor connection.client.newestMsgTimestamp := by
      simp only [Connection.cursor]
      omega
    simp only [moves, if_false]
    exact ⟨isWaiting, rfl, rfl, same, rfl, rfl, rfl, rfl, rfl⟩

theorem isCursor_max {ts : Int} {newest : Nat} (cursor : IsCursor ts) (bound : newest < 2 ^ 63) :
    IsCursor (max ts newest) := by
  unfold IsCursor at cursor ⊢
  omega

/-- A read returns stored messages. -/
theorem messages_of_read {now : Int} {chatid : Nat} {opt : GetMsgOpt} {shared : Shared Storage}
    {msg : Message}
    (read : msg ∈ (Shared.handle backend now (.db (.getMessages chatid opt)) shared).1) :
    msg ∈ shared.storage.messages := by
  simp only [Shared.handle, backend, InMemory.exec, InMemory.getMessages_result] at read
  exact List.mem_of_mem_filter (List.mem_reverse.mp (cutAt_subset _ _ read))

theorem times_of_contents {before after : Storage} (same : after.contents = before.contents)
    (times : ∀ msg ∈ before.messages, isTime msg.ts = true) :
    ∀ msg ∈ after.messages, isTime msg.ts = true := by
  intro msg member
  have stored : msg.unflagged ∈ before.contents := same ▸ List.mem_map_of_mem member
  rcases List.mem_map.mp stored with ⟨other, memberOther, equal⟩
  have sameTs := congrArg Message.ts equal
  simp only [Message.unflagged_ts] at sameTs
  exact sameTs ▸ times other memberOther

namespace Connection.Idling

variable {start : Storage} {uid : Nat} {connection next : Connection Storage}

/-- The next call of a worker, and the worker after it. -/
theorem worker_step (idling : connection.Idling start uid) {worker : TaskWorker}
    (member : worker ∈ connection.workers) {op : Effect} {rest : op.Reply → Prog Unit}
    (shape : worker.program = .call op rest) (now : Int) :
    IdleCall start worker.task worker.history op ∧
      IdleWorker start uid ⟨worker.task,
        worker.history ++ [⟨op, (Shared.handle backend now op connection.pool.shared).1⟩],
        rest (Shared.handle backend now op connection.pool.shared).1⟩ := by
  rcases idling.workers worker member with ⟨task, keeps, newer⟩
  have advanced := keeps.advance shape _
    (Shared.handle_faithful now op idling.rows)
  refine ⟨advanced.1, task, advanced.2, ?_⟩
  have faithful := Shared.handle_faithful now op idling.rows
  intro msg read
  simp only [messagesRead, List.flatMap_append, List.flatMap_singleton] at read
  rcases List.mem_append.mp read with old | new
  · exact newer msg old
  · cases advanced.1 with
    | plain _ plain =>
        have nothing := progress_plain [] plain
          (Shared.handle backend now op connection.pool.shared).1
        have none := congrArg (·.2.1) nothing
        simp only [progress, messagesRead, List.nil_append, List.flatMap_singleton,
          List.flatMap_nil] at none
        rw [none] at new
        cases new
    | read chatid _ _ =>
        have newerMsg := faithful msg new
        simp only [Message.newer, Bool.and_eq_true, decide_eq_true_eq] at newerMsg
        exact ⟨newerMsg.2, idling.times msg (messages_of_read new)⟩
    | send => cases new

/-- What a call of a worker does. -/
theorem work_cases (idling : connection.Idling start uid) {setup : Setup} {index : Nat} {now : Int}
    (stepped : connection.work backend setup index now = some next) :
    ∃ (worker : TaskWorker) (op : Effect) (rest : op.Reply → Prog Unit) (reply : op.Reply)
      (shared : Shared Storage),
      connection.workers[index]? = some worker ∧ worker.program = .call op rest ∧
      Shared.handle backend now op connection.pool.shared = (reply, shared) ∧
      IdleCall start worker.task worker.history op ∧
      Shared.After op connection.pool.shared shared ∧ start.SameRows shared.storage ∧
      IdleWorker start uid ⟨worker.task, worker.history ++ [⟨op, reply⟩], rest reply⟩ ∧
      next = { connection with pool :=
        { shared
          workers := connection.workers.set index
            ⟨worker.task, worker.history ++ [⟨op, reply⟩], rest reply⟩ } } := by
  rcases Connection.work_cases stepped with ⟨worker, op, rest, found, shape, rfl⟩
  rcases idling.worker_step (List.mem_of_getElem? found) shape now with ⟨idleCall, later⟩
  exact ⟨worker, op, rest, _, _, found, shape, rfl, idleCall,
    Shared.handle_after now idleCall connection.pool.shared,
    idling.rows.trans (Shared.handle_sameRows now idleCall.quiet connection.pool.shared),
    later, rfl⟩

theorem step_tick (idling : connection.Idling start uid) {now : Int} {expired : Nat}
    (stepped : connection.tick now expired = some next) : next.Idling start uid := by
  rcases ticked_of_tick idling.cursor idling.newest stepped with ⟨client, task, rfl, ticked⟩
  have moved : IsCursor client.requestDetails.params.ts :=
    ticked.cursor ▸ isCursor_max idling.cursor idling.newest
  refine ⟨idling.rows, idling.times, ticked.command.trans idling.command,
    ticked.user.trans idling.user, moved, ?_, ?_, ?_, idling.workers⟩
  · exact ticked.newest ▸ idling.newest
  · exact ticked.pending ▸ idling.pending
  · intro other member
    rcases List.mem_append.mp member with old | new
    · exact idling.queue other old
    · cases List.mem_singleton.mp new
      exact ⟨ticked.taskCommand.trans idling.command, ticked.taskUser.trans idling.user,
        ticked.taskCursor ▸ moved⟩

theorem step_take (idling : connection.Idling start uid) {setup : Setup}
    (stepped : connection.takeTask backend setup = some next) : next.Idling start uid := by
  rcases takeTask_cases stepped with ⟨task, queue, waiting, rfl⟩
  have idle : task.Idle uid := idling.queue task (by simp [waiting])
  refine ⟨idling.rows, idling.times, idling.command, idling.user, idling.cursor, idling.newest,
    idling.pending, ?_, ?_⟩
  · intro other member
    exact idling.queue other (by simp [waiting, member])
  · intro worker member
    rcases List.mem_append.mp member with old | new
    · exact idling.workers worker old
    · cases List.mem_singleton.mp new
      refine ⟨idle, ?_, by simp [messagesRead]⟩
      simp only [Worker.Keeps, DatabaseWorker.processTask, idle.cmd]
      exact DatabaseWorker.idle_processIdle start task

theorem step_work (idling : connection.Idling start uid) {setup : Setup} {index : Nat} {now : Int}
    (stepped : connection.work backend setup index now = some next) : next.Idling start uid := by
  rcases idling.work_cases stepped with
    ⟨worker, op, rest, reply, shared, found, _, _, idleCall, after, rows, later, rfl⟩
  have idle := idling.workers worker (List.mem_of_getElem? found)
  refine ⟨rows, times_of_contents after.contents idling.times, ?_, ?_, ?_, ?_, ?_, idling.queue, ?_⟩
  · exact (congrArg RequestDetails.command after.details).trans idling.command
  · exact (congrArg (·.params.uid) after.details).trans idling.user
  · exact (congrArg (IsCursor ·.params.ts) after.details).mpr idling.cursor
  · exact (congrArg (· < 2 ^ 63) after.newest).mpr idling.newest
  · intro maxTs member
    rw [after.pending] at member
    rcases List.mem_append.mp member with old | new
    · exact idling.pending maxTs old
    · rcases idleCall.batch_cases with none | ⟨batch, _⟩
      · simp [none] at new
      · rw [batch, List.map_singleton, List.mem_singleton] at new
        exact new ▸ idle.maxTimestamp_lt
  · intro other member
    rcases List.mem_or_eq_of_mem_set member with old | rfl
    · exact idling.workers other old
    · exact later

theorem step_written (idling : connection.Idling start uid) {failed : Bool} {expired : Nat}
    (stepped : connection.written failed expired = some next) : next.Idling start uid := by
  rcases written_cases stepped with ⟨write, writes, first, rfl⟩
  rcases complete_cases first failed expired with ⟨after, result, details, effect⟩
  rw [result]
  have bounds : after.newestMsgTimestamp < 2 ^ 63 ∧
      ∀ maxTs ∈ after.pendingBatches, maxTs < 2 ^ 63 := by
    have newest := idling.newest
    have pending := idling.pending
    rcases effect with ⟨samePending, same, _⟩ | ⟨maxTs, _, shift, ⟨_, same, _⟩ | ⟨_, same, _⟩⟩
    · rw [same, samePending]
      exact ⟨newest, pending⟩
    · rw [shift] at pending
      exact ⟨same ▸ newest, fun other member => pending other (List.mem_cons_of_mem _ member)⟩
    · rw [shift] at pending
      exact ⟨same ▸ pending maxTs List.mem_cons_self,
        fun other member => pending other (List.mem_cons_of_mem _ member)⟩
  refine ⟨idling.rows, idling.times, ?_, ?_, ?_, bounds.1, bounds.2, idling.queue,
    idling.workers⟩
  · exact (congrArg RequestDetails.command details).trans idling.command
  · exact (congrArg (·.params.uid) details).trans idling.user
  · exact (congrArg (IsCursor ·.params.ts) details).mpr idling.cursor

/-- Every event of an idle connection keeps it idle. -/
theorem step (idling : connection.Idling start uid) {setup : Setup} {event : ConnectionEvent}
    (admitted : idleEvent event = true)
    (stepped : (system backend setup).step connection event = some next) :
    next.Idling start uid := by
  cases event with
  | request => cases admitted
  | readError =>
      rcases readError_cases stepped with ⟨reads, _, rfl⟩
      exact ⟨idling.rows, idling.times, idling.command, idling.user, idling.cursor,
        idling.newest, idling.pending, idling.queue, idling.workers⟩
  | tick now expired => exact idling.step_tick stepped
  | take => exact idling.step_take stepped
  | work index now => exact idling.step_work stepped
  | written failed expired => exact idling.step_written stepped
  | other now op =>
      cases op with
      | saveMessage msg =>
          cases stepped
          refine ⟨idling.rows.trans (InMemory.exec_sameRows _ _ (.inr ⟨msg, rfl⟩)), ?_,
            idling.command, idling.user, idling.cursor, idling.newest, idling.pending,
            idling.queue, idling.workers⟩
          intro other member
          rcases List.mem_append.mp member with old | new
          · exact idling.times other old
          · exact List.mem_singleton.mp new ▸ admitted
      | _ => cases admitted

/-- An idle connection at its start. -/
theorem of_start {storage : Storage} {client : ApiClient} (begins : client.IdleStart)
    (times : ∀ msg ∈ storage.messages, isTime msg.ts = true) :
    (opened storage client).Idling storage client.requestDetails.params.uid where
  rows := ⟨rfl, rfl, rfl⟩
  times := times
  command := begins.command
  user := rfl
  cursor := begins.cursor
  newest := by
    simp only [opened]
    rw [begins.newest]
    decide
  pending := by
    simp only [opened]
    rw [begins.unwritten]
    simp
  queue := by simp [opened]
  workers := fun worker member => absurd member List.not_mem_nil

end Connection.Idling

/-- The connection of the user after `/v1/idle` with the heartbit `0`. -/
def aliceIdle : ApiClient :=
  { requestDetails :=
      { command := .idle, params := { uid := 1, password := bytes "Passw0rd" } }
    writes := [(buildApiOkResponse (ApiclientUtils.okBodyOfCommand .idle 100), .idleStarted)]
    timers := 1 }

theorem aliceIdle_begins : aliceIdle.IdleStart :=
  ⟨rfl, ⟨by decide, by decide⟩, rfl, rfl⟩

def aliceSetup : Setup := ⟨fun _ => none, 8, .stable⟩

end GeoChat
