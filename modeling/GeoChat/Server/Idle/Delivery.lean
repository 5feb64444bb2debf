import GeoChat.Server.Idle.Run

/-!
# Batches that miss nothing

The cursor of a connection stands for all chats of its user, while a task reads
the chats one after another. A message that comes into a chat the task has
already read is not in its batch, and is passed over when the batch has a newer
message. A batch is complete up to its newest message where that does not
happen.
-/

namespace GeoChat

open Library Program
open InMemory (backend)

/-- The chats that the worker is still to read. -/
def toRead (plan : List Nat) (worker : TaskWorker) : List Nat :=
  plan.drop (chatsRead worker.history).length

/-- The messages newer than the cursor that the worker has passed by: it has
read their chat without them. -/
def overlooked (plan : List Nat) (contents : List Message) (worker : TaskWorker) :
    List Message :=
  contents.filter fun msg =>
    worker.task.request.ts < msg.ts ∧ msg.chatTo ∈ plan ∧ msg.chatTo ∉ toRead plan worker ∧
      msg ∉ (messagesRead worker.history).map Message.unflagged

namespace Connection

/-- The read that the worker at `index` is about to make, if it is one, finds
no more messages than it may return. -/
def readsAll (connection : Connection Storage) (index : Nat) : Bool :=
  match connection.workers[index]? with
  | some ⟨_, _, .call (.db (.getMessages chatid opt)) _⟩ =>
      (connection.storage.messages.filter (Message.newer chatid opt.ts)).length ≤ opt.maxCount
  | _ => true

/-- The runs in question: messages come with increasing timestamps, reads find
no more than they return, and writes succeed. -/
def idleRun (connection : Connection Storage) : ConnectionEvent → Bool
  | .tick _ _ => true
  | .take => true
  | .work index _ => connection.readsAll index
  | .written failed _ => !failed
  | .other _ (.saveMessage msg) =>
      isTime msg.ts && connection.storage.messages.all fun other => other.ts < msg.ts
  | _ => false

/-- No message comes into a chat that a task is still to read when that task
has already overlooked one. -/
def undisturbed (connection : Connection Storage) : ConnectionEvent → Bool
  | .other _ (.saveMessage msg) => connection.workers.all fun worker =>
      let plan := connection.storage.chatPlan worker.task.request.uid
      msg.chatTo ∉ toRead plan worker ||
        (overlooked plan connection.storage.contents worker).isEmpty
  | _ => true

end Connection

section Reading

variable {plan : List Nat} {contents : List Message} {worker : TaskWorker}

theorem mem_overlooked {msg : Message} :
    msg ∈ overlooked plan contents worker ↔
      msg ∈ contents ∧ worker.task.request.ts < msg.ts ∧ msg.chatTo ∈ plan ∧
        msg.chatTo ∉ toRead plan worker ∧
        msg ∉ (messagesRead worker.history).map Message.unflagged := by
  simp only [overlooked, List.mem_filter, decide_eq_true_eq]

/-- What the worker has overlooked is newer than all that it has read and all
that it is still to read. -/
structure Attentive (plan : List Nat) (contents : List Message) (worker : TaskWorker) : Prop where
  stored : ∀ msg ∈ messagesRead worker.history, msg.unflagged ∈ contents
  afterRead : ∀ msg ∈ overlooked plan contents worker, ∀ read ∈ messagesRead worker.history,
    read.ts < msg.ts
  afterRest : ∀ msg ∈ overlooked plan contents worker, ∀ other ∈ contents,
    worker.task.request.ts < other.ts → other.chatTo ∈ toRead plan worker → other.ts < msg.ts

theorem attentive_new (plan : List Nat) (contents : List Message) (task : Task)
    (program : Prog Unit) : Attentive plan contents { task, program } := by
  have nothing : overlooked plan contents { task, program } = [] := by
    rw [List.eq_nil_iff_forall_not_mem]
    intro msg member
    rcases mem_overlooked.mp member with ⟨_, _, planned, read, _⟩
    exact read planned
  refine ⟨fun msg member => absurd member List.not_mem_nil, ?_, ?_⟩
  · simp [nothing]
  · simp [nothing]

/-- A message newer than all others comes. -/
theorem Attentive.save (attentive : Attentive plan contents worker) {msg : Message}
    (newest : ∀ other ∈ contents, other.ts < msg.ts)
    (admitted : msg.chatTo ∈ toRead plan worker → overlooked plan contents worker = []) :
    Attentive plan (contents ++ [msg]) worker := by
  have overlookedBefore : ∀ other ∈ overlooked plan (contents ++ [msg]) worker,
      other ∈ overlooked plan contents worker ∨
        other = msg ∧ msg.chatTo ∉ toRead plan worker := by
    intro other member
    rcases mem_overlooked.mp member with ⟨stored, newer, planned, read, missing⟩
    rcases List.mem_append.mp stored with old | new
    · exact .inl (mem_overlooked.mpr ⟨old, newer, planned, read, missing⟩)
    · cases List.mem_singleton.mp new
      exact .inr ⟨rfl, read⟩
  refine ⟨?_, ?_, ?_⟩
  · intro other member
    exact List.mem_append_left _ (attentive.stored other member)
  · intro other member read memberRead
    rcases overlookedBefore other member with old | ⟨rfl, _⟩
    · exact attentive.afterRead other old read memberRead
    · exact newest read.unflagged (attentive.stored read memberRead)
  · intro other member rest memberRest newer remains
    rcases overlookedBefore other member with old | ⟨rfl, hasRead⟩
    · rcases List.mem_append.mp memberRest with oldRest | newRest
      · exact attentive.afterRest other old rest oldRest newer remains
      · cases List.mem_singleton.mp newRest
        rw [admitted remains] at old
        cases old
    · rcases List.mem_append.mp memberRest with oldRest | newRest
      · exact newest rest oldRest
      · cases List.mem_singleton.mp newRest
        exact absurd remains hasRead

/-- A call that neither reads a chat nor stores a message. -/
theorem Attentive.call (attentive : Attentive plan contents worker) {history : History}
    {program : Prog Unit} (chats : chatsRead history = chatsRead worker.history)
    (messages : messagesRead history = messagesRead worker.history) :
    Attentive plan contents ⟨worker.task, history, program⟩ := by
  have sameRest : toRead plan ⟨worker.task, history, program⟩ = toRead plan worker := by
    rw [toRead, chats]
    rfl
  have sameOverlooked : overlooked plan contents ⟨worker.task, history, program⟩ =
      overlooked plan contents worker := by
    simp only [overlooked, sameRest, messages]
  refine ⟨?_, ?_, ?_⟩
  · simpa only [messages] using attentive.stored
  · simpa only [messages, sameOverlooked] using attentive.afterRead
  · simpa only [sameRest, sameOverlooked] using attentive.afterRest

/-- The worker reads the next chat and gets all that is newer than its cursor. -/
theorem Attentive.read (attentive : Attentive plan contents worker) {history : History}
    {program : Prog Unit} {chatid : Nat} {msgs : List Message}
    (next : chatsRead worker.history ++ [chatid] <+: plan)
    (chats : chatsRead history = chatsRead worker.history ++ [chatid])
    (messages : messagesRead history = messagesRead worker.history ++ msgs)
    (found : ∀ msg, msg ∈ msgs.map Message.unflagged ↔
      msg ∈ contents ∧ msg.chatTo = chatid ∧ worker.task.request.ts < msg.ts) :
    Attentive plan contents ⟨worker.task, history, program⟩ := by
  have rest : toRead plan worker = chatid :: toRead plan ⟨worker.task, history, program⟩ := by
    rcases next with ⟨others, rfl⟩
    simp [toRead, chats]
  have overlookedBefore : ∀ msg ∈ overlooked plan contents ⟨worker.task, history, program⟩,
      msg ∈ overlooked plan contents worker := by
    intro msg member
    rcases mem_overlooked.mp member with ⟨stored, newer, planned, read, missing⟩
    simp only [messages, List.map_append, List.mem_append, not_or] at missing
    refine mem_overlooked.mpr ⟨stored, newer, planned, ?_, missing.1⟩
    rw [rest, List.mem_cons, not_or]
    exact ⟨fun same => missing.2 ((found msg).mpr ⟨stored, same, newer⟩), read⟩
  refine ⟨?_, ?_, ?_⟩
  · intro msg member
    simp only [messages, List.mem_append] at member
    rcases member with old | new
    · exact attentive.stored msg old
    · exact ((found _).mp (List.mem_map_of_mem new)).1
  · intro msg member read memberRead
    simp only [messages, List.mem_append] at memberRead
    rcases memberRead with old | new
    · exact attentive.afterRead msg (overlookedBefore msg member) read old
    · rcases (found _).mp (List.mem_map_of_mem new) with ⟨stored, same, newer⟩
      refine attentive.afterRest msg (overlookedBefore msg member) read.unflagged stored newer ?_
      rw [rest, same]
      exact List.mem_cons_self
  · intro msg member other stored newer remains
    refine attentive.afterRest msg (overlookedBefore msg member) other stored newer ?_
    rw [rest]
    exact List.mem_cons_of_mem _ remains

end Reading

/-- All that is stored up to `ts` has been sent, and whatever comes is newer. -/
structure Settled (start : Storage) (uid : Nat) (since : Int) (contents : List Message)
    (batches : List (List ApiMessage)) (ts : Int) : Prop where
  sent : ∀ msg ∈ contents, msg.chatTo ∈ start.chatPlan uid → since < msg.ts → msg.ts ≤ ts →
    ∃ batch ∈ batches, start.apiForm msg ∈ batch
  reached : ts ≤ since ∨ ∃ msg ∈ contents, ts ≤ msg.ts

section Settled

variable {start : Storage} {uid : Nat} {since ts : Int} {contents : List Message}
  {batches : List (List ApiMessage)}

theorem Settled.append (settled : Settled start uid since contents batches ts)
    (more : List (List ApiMessage)) : Settled start uid since contents (batches ++ more) ts := by
  refine ⟨?_, settled.reached⟩
  intro msg stored planned newer older
  rcases settled.sent msg stored planned newer older with ⟨batch, member, shown⟩
  exact ⟨batch, List.mem_append_left _ member, shown⟩

/-- A message newer than all others is newer than what is settled. -/
theorem Settled.save (settled : Settled start uid since contents batches ts) {msg : Message}
    (newest : ∀ other ∈ contents, other.ts < msg.ts) :
    Settled start uid since (contents ++ [msg]) batches ts := by
  refine ⟨?_, ?_⟩
  · intro other stored planned newer older
    rcases List.mem_append.mp stored with old | new
    · exact settled.sent other old planned newer older
    · cases List.mem_singleton.mp new
      rcases settled.reached with notYet | ⟨last, memberLast, le⟩
      · omega
      · have lt := newest last memberLast
        omega
  · rcases settled.reached with notYet | ⟨last, memberLast, le⟩
    · exact .inl notYet
    · exact .inr ⟨last, List.mem_append_left _ memberLast, le⟩

theorem Settled.max {other : Int} (settled : Settled start uid since contents batches ts)
    (settledOther : Settled start uid since contents batches other) :
    Settled start uid since contents batches (max ts other) := by
  rcases le_total ts other with le | le
  · rwa [max_eq_right le]
  · rwa [max_eq_left le]

/-- What a worker sends after it has read all chats is complete up to its
newest message. -/
theorem Settled.batch {worker : TaskWorker} (nonnegative : 0 ≤ since)
    (settled : Settled start uid since contents batches worker.task.request.ts)
    (idle : IdleWorker start uid worker)
    (attentive : Attentive (start.chatPlan uid) contents worker)
    (all : chatsRead worker.history = start.chatPlan uid) :
    Settled start uid since contents
      (batches ++ [(messagesRead worker.history).map start.apiForm])
      (maxTimestamp ((messagesRead worker.history).map start.apiForm)) := by
  have greatest := maxTimestamp_cases ((messagesRead worker.history).map start.apiForm)
  refine ⟨?_, ?_⟩
  · intro msg stored planned newer older
    by_cases old : msg.ts ≤ worker.task.request.ts
    · exact (settled.append _).sent msg stored planned newer old
    · by_cases read : msg ∈ (messagesRead worker.history).map Message.unflagged
      · rcases List.mem_map.mp read with ⟨original, memberOriginal, rfl⟩
        exact ⟨_, List.mem_append_right _ (List.mem_singleton.mpr rfl),
          List.mem_map.mpr ⟨original, memberOriginal, rfl⟩⟩
      · -- the message is newer than all of the batch
        have passed : msg ∈ overlooked (start.chatPlan uid) contents worker := by
          refine mem_overlooked.mpr ⟨stored, by omega, planned, ?_, read⟩
          simp [toRead, all]
        exfalso
        rcases greatest with zero | ⟨apiMsg, memberApi, same⟩
        · rw [zero] at older
          omega
        · rcases List.mem_map.mp memberApi with ⟨last, memberLast, rfl⟩
          have form := apiForm_ts start (idle.cursor_of_read memberLast)
          have lt := attentive.afterRead msg passed last memberLast
          rw [same] at older
          omega
  · rcases greatest with zero | ⟨apiMsg, memberApi, same⟩
    · left
      rw [zero]
      exact nonnegative
    · rcases List.mem_map.mp memberApi with ⟨last, memberLast, rfl⟩
      have form := apiForm_ts start (idle.cursor_of_read memberLast)
      refine .inr ⟨last.unflagged, attentive.stored last memberLast, ?_⟩
      rw [same, Message.unflagged_ts]
      omega

end Settled

namespace Connection

/-- Every cursor that the connection has or will have is settled, and every
worker is attentive. -/
structure Delivering (start : Storage) (uid : Nat) (since : Int) (connection : Connection Storage) :
    Prop where
  idling : connection.Idling start uid
  cursor : Settled start uid since connection.storage.contents connection.batches
    connection.cursor
  newest : Settled start uid since connection.storage.contents connection.batches
    connection.client.newestMsgTimestamp
  pending : ∀ maxTs ∈ connection.client.pendingBatches,
    Settled start uid since connection.storage.contents connection.batches maxTs
  queue : ∀ task ∈ connection.queue,
    Settled start uid since connection.storage.contents connection.batches task.request.ts
  workers : ∀ worker ∈ connection.workers,
    Settled start uid since connection.storage.contents connection.batches
        worker.task.request.ts ∧
      Attentive (start.chatPlan uid) connection.storage.contents worker

namespace Delivering

variable {start : Storage} {uid : Nat} {since : Int} {connection next : Connection Storage}
  {setup : Setup}

theorem step_tick (delivering : connection.Delivering start uid since) {now : Int} {expired : Nat}
    (stepped : connection.tick now expired = some next) : next.Delivering start uid since := by
  have idling := delivering.idling.step_tick stepped
  rcases ticked_of_tick delivering.idling.cursor delivering.idling.newest stepped with
    ⟨client, task, rfl, ticked⟩
  have moved : Settled start uid since connection.storage.contents connection.batches
      client.requestDetails.params.ts :=
    ticked.cursor ▸ delivering.cursor.max delivering.newest
  refine ⟨idling, moved, ?_, ?_, ?_, delivering.workers⟩
  · exact (congrArg (fun newest : Nat => Settled start uid since connection.storage.contents
      connection.batches newest) ticked.newest).mpr delivering.newest
  · intro maxTs member
    exact delivering.pending maxTs (ticked.pending ▸ member)
  · intro other member
    rcases List.mem_append.mp member with old | new
    · exact delivering.queue other old
    · cases List.mem_singleton.mp new
      exact ticked.taskCursor ▸ moved

theorem step_take (delivering : connection.Delivering start uid since)
    (stepped : connection.takeTask backend setup = some next) :
    next.Delivering start uid since := by
  have idling := delivering.idling.step_take stepped
  rcases takeTask_cases stepped with ⟨task, queue, waiting, rfl⟩
  refine ⟨idling, delivering.cursor, delivering.newest, delivering.pending, ?_, ?_⟩
  · intro other member
    exact delivering.queue other (by simp [waiting, member])
  · intro worker member
    rcases List.mem_append.mp member with old | new
    · exact delivering.workers worker old
    · cases List.mem_singleton.mp new
      exact ⟨delivering.queue task (by simp [waiting]), attentive_new _ _ _ _⟩

theorem step_written (delivering : connection.Delivering start uid since) {expired : Nat}
    (stepped : connection.written false expired = some next) :
    next.Delivering start uid since := by
  have idling := delivering.idling.step_written stepped
  rcases written_cases stepped with ⟨write, writes, first, rfl⟩
  rcases complete_cases first false expired with ⟨after, result, details, effect⟩
  rw [result] at idling ⊢
  have cursor : after.requestDetails.params.ts = connection.cursor :=
    congrArg (·.params.ts) details
  have bounds : Settled start uid since connection.storage.contents connection.batches
        after.newestMsgTimestamp ∧
      ∀ maxTs ∈ after.pendingBatches,
        Settled start uid since connection.storage.contents connection.batches maxTs := by
    have pending := delivering.pending
    rcases effect with ⟨samePending, same, _⟩ | ⟨maxTs, _, shift, ⟨failed, _⟩ | ⟨_, same, _⟩⟩
    · rw [same, samePending]
      exact ⟨delivering.newest, pending⟩
    · cases failed
    · rw [shift] at pending
      exact ⟨same ▸ pending maxTs List.mem_cons_self,
        fun other member => pending other (List.mem_cons_of_mem _ member)⟩
  have moved : Settled start uid since connection.storage.contents connection.batches
      after.requestDetails.params.ts := cursor ▸ delivering.cursor
  exact ⟨idling, moved, bounds.1, bounds.2, delivering.queue, delivering.workers⟩

/-- A read that finds no more than it may return gets all that is newer. -/
theorem read_complete {now : Int} {chatid : Nat} {opt : GetMsgOpt} {before after : Shared Storage}
    {msgs : List Message}
    (handled : Shared.handle backend now (.db (.getMessages chatid opt)) before = (msgs, after))
    (bounded : (before.storage.messages.filter (Message.newer chatid opt.ts)).length ≤
      opt.maxCount) (msg : Message) :
    msg ∈ msgs.map Message.unflagged ↔
      msg ∈ before.storage.contents ∧ msg.chatTo = chatid ∧ opt.ts < msg.ts := by
  have result : msgs = (before.storage.messages.filter (Message.newer chatid opt.ts)).reverse := by
    have returned := congrArg Prod.fst handled
    simp only [Shared.handle, backend, InMemory.exec, InMemory.getMessages_result] at returned
    rw [← returned, cutAt_of_le (by simpa using bounded)]
  rw [result, Storage.contents]
  simp only [List.mem_map, List.mem_reverse, List.mem_filter, Message.newer, Bool.and_eq_true,
    decide_eq_true_eq]
  constructor
  · rintro ⟨original, ⟨stored, same, newer⟩, rfl⟩
    exact ⟨⟨original, stored, rfl⟩, same, newer⟩
  · rintro ⟨⟨original, stored, rfl⟩, same, newer⟩
    exact ⟨original, ⟨stored, same, newer⟩, rfl⟩

/-- The worker after its call. -/
theorem attentive_advance {worker : TaskWorker} {op : Effect} {rest : op.Reply → Prog Unit}
    {reply : op.Reply} {now : Int} {shared : Shared Storage} {index : Nat}
    (found : connection.workers[index]? = some worker) (shape : worker.program = .call op rest)
    (bounded : connection.readsAll index = true)
    (handled : Shared.handle backend now op connection.pool.shared = (reply, shared))
    (idleCall : IdleCall start worker.task worker.history op)
    (user : worker.task.request.uid = uid)
    (attentive : Attentive (start.chatPlan uid) connection.storage.contents worker) :
    Attentive (start.chatPlan uid) connection.storage.contents
      ⟨worker.task, worker.history ++ [⟨op, reply⟩], rest reply⟩ := by
  cases idleCall with
  | plain _ plain =>
      have same := progress_plain worker.history plain reply
      exact attentive.call (congrArg (·.1) same) (congrArg (·.2.1) same)
  | read chatid _ next =>
      rcases worker with ⟨task, history, program⟩
      simp only at shape
      rw [shape] at found
      have enough : (connection.storage.messages.filter
          (Message.newer chatid task.request.ts)).length ≤ 3 := by
        simpa [readsAll, found] using bounded
      refine attentive.read (user ▸ next) ?_ ?_ (read_complete handled enough)
      · simp [chatsRead]
      · simp [messagesRead, readMessages]
  | send _ _ =>
      refine attentive.call ?_ ?_
      · simp [chatsRead]
      · simp [messagesRead, readMessages]

theorem step_work (delivering : connection.Delivering start uid since) (nonnegative : 0 ≤ since)
    {index : Nat} {now : Int} (bounded : connection.readsAll index = true)
    (stepped : connection.work backend setup index now = some next) :
    next.Delivering start uid since := by
  have idling := delivering.idling.step_work stepped
  rcases delivering.idling.work_cases stepped with
    ⟨worker, op, rest, reply, shared, found, shape, handled, idleCall, after, _, _, rfl⟩
  have member := List.mem_of_getElem? found
  have idle := delivering.idling.workers worker member
  rcases delivering.workers worker member with ⟨settled, attentive⟩
  have kept : ∀ {ts : Int},
      Settled start uid since connection.storage.contents connection.batches ts →
      Settled start uid since shared.storage.contents shared.batches ts := by
    intro ts before
    rw [after.contents, after.batches]
    exact before.append _
  have keptAttentive : ∀ {other : TaskWorker},
      Attentive (start.chatPlan uid) connection.storage.contents other →
      Attentive (start.chatPlan uid) shared.storage.contents other := by
    intro other before
    rwa [after.contents]
  refine ⟨idling, ?_, ?_, ?_, ?_, ?_⟩
  · have cursor : shared.client.requestDetails.params.ts = connection.cursor :=
      congrArg (·.params.ts) after.details
    have moved : Settled start uid since connection.storage.contents connection.batches
        shared.client.requestDetails.params.ts := by
      rw [cursor]
      exact delivering.cursor
    exact kept moved
  · refine kept ?_
    rw [after.newest]
    exact delivering.newest
  · intro maxTs memberMax
    rw [after.pending] at memberMax
    rcases List.mem_append.mp memberMax with old | new
    · exact kept (delivering.pending maxTs old)
    · rcases idleCall.batch_cases with none | ⟨batch, all⟩
      · simp [none] at new
      · rw [batch, List.map_singleton, List.mem_singleton] at new
        subst new
        simp only [storage, batches, after.contents, after.batches, batch]
        rw [idle.task.user] at all
        exact settled.batch nonnegative idle attentive all
  · intro task waiting
    exact kept (delivering.queue task waiting)
  · intro other memberOther
    rcases List.mem_or_eq_of_mem_set memberOther with old | rfl
    · exact ⟨kept (delivering.workers other old).1,
        keptAttentive (delivering.workers other old).2⟩
    · exact ⟨kept settled, keptAttentive (attentive_advance found shape bounded handled idleCall
        idle.task.user attentive)⟩

theorem step_save (delivering : connection.Delivering start uid since) {msg : Message}
    (admitted : connection.idleRun (.other now (.saveMessage msg)) = true)
    (undisturbed : connection.undisturbed (.other now (.saveMessage msg)) = true)
    (stepped : (system backend setup).step connection (.other now (.saveMessage msg)) = some next) :
    next.Delivering start uid since := by
  simp only [idleRun, Bool.and_eq_true, List.all_eq_true, decide_eq_true_eq] at admitted
  have idling := delivering.idling.step
    (show idleEvent (.other now (.saveMessage msg)) = true from admitted.1) stepped
  cases stepped
  have newest : ∀ other ∈ connection.storage.contents, other.ts < msg.unflagged.ts := by
    intro other stored
    rcases List.mem_map.mp stored with ⟨original, memberOriginal, rfl⟩
    exact admitted.2 original memberOriginal
  have contents : (InMemory.saveMessage msg connection.storage).contents =
      connection.storage.contents ++ [msg.unflagged] := by
    simp [Storage.contents, InMemory.saveMessage]
  have kept : ∀ {ts : Int},
      Settled start uid since connection.storage.contents connection.batches ts →
      Settled start uid since (InMemory.saveMessage msg connection.storage).contents
        connection.batches ts := by
    intro ts before
    rw [contents]
    exact before.save newest
  refine ⟨idling, kept delivering.cursor, kept delivering.newest,
    fun maxTs member => kept (delivering.pending maxTs member),
    fun task member => kept (delivering.queue task member), fun worker member => ?_⟩
  rcases delivering.workers worker member with ⟨settled, attentive⟩
  refine ⟨kept settled, ?_⟩
  change Attentive _ (InMemory.saveMessage msg connection.storage).contents worker
  rw [contents]
  refine attentive.save newest fun remains => ?_
  have free := List.all_eq_true.mp undisturbed worker member
  rw [delivering.idling.rows.chatPlan, (delivering.idling.workers worker member).task.user] at free
  simpa [show msg.chatTo ∈ toRead (start.chatPlan uid) worker from remains] using free

/-- Every step of such a run keeps every cursor settled. -/
theorem step (delivering : connection.Delivering start uid since) (nonnegative : 0 ≤ since)
    {event : ConnectionEvent} (admitted : connection.idleRun event = true)
    (undisturbed : connection.undisturbed event = true)
    (stepped : (system backend setup).step connection event = some next) :
    next.Delivering start uid since := by
  cases event with
  | request => cases admitted
  | readError => cases admitted
  | tick now expired => exact delivering.step_tick stepped
  | take => exact delivering.step_take stepped
  | work index now => exact delivering.step_work nonnegative admitted stepped
  | written failed expired =>
      cases failed with
      | true => cases admitted
      | false => exact delivering.step_written stepped
  | other now op =>
      cases op with
      | saveMessage msg => exact delivering.step_save admitted undisturbed stepped
      | _ => cases admitted

end Delivering

end Connection

open Connection in
/-- In every run without the disturbance, each stored message of a chat of the
user between the first cursor and the present one is in a batch. -/
theorem idle_loses_nothing (setup : Setup) (storage : Storage) (client : ApiClient)
    (connection : Connection Storage) (begins : client.IdleStart)
    (times : ∀ msg ∈ storage.messages, isTime msg.ts = true)
    (rows : ∀ row ∈ storage.chatuser, ∃ chat ∈ storage.chats, chat.id = row.chatid)
    (reached : (system backend setup).ReachesWithin
      (fun state event => (state.idleRun event && state.undisturbed event) = true)
      (opened storage client) connection) :
    ∀ msg ∈ connection.storage.messages,
      ⟨msg.chatTo, client.requestDetails.params.uid⟩ ∈ storage.chatuser →
      client.requestDetails.params.ts < msg.ts → msg.ts ≤ connection.cursor →
      ∃ batch ∈ connection.batches, connection.storage.apiForm msg ∈ batch := by
  have nonnegative := begins.cursor.1
  have delivering : connection.Delivering storage client.requestDetails.params.uid
      client.requestDetails.params.ts := by
    refine System.ReachesWithin.invariant (Delivering storage client.requestDetails.params.uid
      client.requestDetails.params.ts) reached ?_ ?_
    · have nothing : ∀ {ts : Int}, ts ≤ client.requestDetails.params.ts →
          Settled storage client.requestDetails.params.uid client.requestDetails.params.ts
            storage.contents [] ts := fun le => ⟨fun _ _ _ newer older => by omega, .inl le⟩
      refine ⟨Idling.of_start begins times, nothing le_rfl, nothing ?_, ?_, by simp [opened],
        fun worker member => absurd member List.not_mem_nil⟩
      · change (client.newestMsgTimestamp : Int) ≤ _
        rw [begins.newest]
        exact nonnegative
      · change ∀ maxTs ∈ client.pendingBatches, _
        rw [begins.unwritten]
        exact fun maxTs member => absurd member List.not_mem_nil
    · intro state event next held admitted stepped
      rw [Bool.and_eq_true] at admitted
      exact held.step nonnegative admitted.1 admitted.2 stepped
  intro msg stored member newer older
  obtain ⟨chat, exists_, same⟩ := rows _ member
  dsimp only at same
  rw [← same] at member
  have planned : msg.chatTo ∈ storage.chatPlan client.requestDetails.params.uid :=
    same ▸ Storage.mem_chatPlan exists_ member
  have shown := delivering.cursor.sent msg.unflagged (List.mem_map_of_mem stored) planned newer
    older
  rwa [delivering.idling.rows.apiForm]

section Scenario

/-- A user with a group besides the chat of their own. -/
def groupStore : Storage :=
  (InMemory.createChat (bytes "team") 1
    (InMemory.createUser (bytes "alice") (encryptedPass (bytes "Passw0rd")) [] [] [] {}).2).2

/-- A message of the user. -/
def aliceMessage (chatTo : Nat) (ts : Int) : Message :=
  { userFrom := 1, chatTo, ts, message := bytes "hello" }

/-- The first message comes after its chat was read, the second before. The
batch has the second, and the cursor passes the first. -/
theorem idle_loses_message :
    aliceIdle.IdleStart ∧ ∃ connection, (Connection.system backend aliceSetup).ReachesWithin
        (fun state event => state.idleRun event = true) (.opened groupStore aliceIdle) connection ∧
      ∃ msg ∈ connection.storage.messages, ⟨msg.chatTo, 1⟩ ∈ groupStore.chatuser ∧
        0 < msg.ts ∧ msg.ts ≤ connection.cursor ∧
        ∀ batch ∈ connection.batches, connection.storage.apiForm msg ∉ batch := by
  let events : List ConnectionEvent := List.flatten
    [[.tick 100 0, .take], List.replicate 7 (.work 0 100),
      [.other 1 (.saveMessage (aliceMessage 1 10)), .other 1 (.saveMessage (aliceMessage 2 11))],
      List.replicate 4 (.work 0 100), [.written false 0, .written false 0, .tick 100 0]]
  have replayed : ((Connection.system backend aliceSetup).runWithin
      (fun state event => state.idleRun event = true) events (.opened groupStore aliceIdle)).map
      (fun connection => decide (∃ msg ∈ connection.storage.messages,
        ⟨msg.chatTo, 1⟩ ∈ groupStore.chatuser ∧ 0 < msg.ts ∧ msg.ts ≤ connection.cursor ∧
        ∀ batch ∈ connection.batches, connection.storage.apiForm msg ∉ batch)) = some true := by
    decide +kernel
  rcases Option.map_eq_some_iff.mp replayed with ⟨connection, ended, lost⟩
  exact ⟨aliceIdle_begins, connection, System.reachesWithin_of_run ended, of_decide_eq_true lost⟩

/-- Messages that come before the task are in its batch. -/
theorem idle_loses_nothing_group :
    ∃ connection, (Connection.system backend aliceSetup).ReachesWithin
        (fun state event => (state.idleRun event && state.undisturbed event) = true)
        (.opened groupStore aliceIdle) connection ∧
      connection.cursor = 11 ∧
      ∀ msg ∈ connection.storage.messages, ⟨msg.chatTo, 1⟩ ∈ groupStore.chatuser →
        0 < msg.ts → msg.ts ≤ connection.cursor →
        ∃ batch ∈ connection.batches, connection.storage.apiForm msg ∈ batch := by
  let events : List ConnectionEvent := List.flatten
    [[.other 1 (.saveMessage (aliceMessage 1 10)), .other 1 (.saveMessage (aliceMessage 2 11)),
      .tick 100 0, .take], List.replicate 13 (.work 0 100),
      [.written false 0, .written false 0, .tick 100 0]]
  have replayed : ((Connection.system backend aliceSetup).runWithin
      (fun state event => (state.idleRun event && state.undisturbed event) = true) events
      (.opened groupStore aliceIdle)).map (fun connection => connection.cursor) = some 11 := by
    decide +kernel
  rcases Option.map_eq_some_iff.mp replayed with ⟨connection, ended, cursor⟩
  have reached := System.reachesWithin_of_run ended
  exact ⟨connection, reached, cursor, idle_loses_nothing aliceSetup groupStore aliceIdle connection
    aliceIdle_begins (by decide) (by decide) reached⟩

end Scenario

end GeoChat
