import GeoChat.Server.Connection.Sends
import GeoChat.Server.Routing
import GeoChat.Server.Store.Serving

/-!
# One operation in each direction

A socket must not have two writes or two reads under way. Requests and replies
take turns, so there is one thing to do at a time: to read a request, to process
its task or to write its reply. The timer of an idle connection adds tasks of its
own, whatever the connection is doing.
-/

namespace GeoChat

open Library Program

/-- A call on the client. -/
def Effect.Answers (effect : Effect) : Prop := ¬ effect.Mute

theorem Prog.mute_uses {Result : Type} {program : Prog Result}
    (mute : program.Uses Effect.Mute) : program.Uses fun effect => ¬ effect.Answers :=
  mute.mono fun _ => not_not_intro

namespace DatabaseWorker

/-- A program that does nothing after it has called the client. -/
abbrev Concludes {Result : Type} (program : Prog Result) : Prop :=
  program.EndsWith Effect.Answers

theorem concludes_client (made : ClientCall) : Concludes (Prog.client made) :=
  .perform _ _

/-- A call on the database or the clock before the rest. -/
theorem concludes_perform {Result : Type} {effect : Effect} {next : effect.Reply → Prog Result}
    (mute : effect.Mute) (further : ∀ reply, Concludes (next reply)) :
    Concludes (Program.perform effect >>= next) :=
  .bind (uses_perform.mpr (not_not_intro mute)) further

/-- An error that a check sends, after which the task is over. -/
theorem concludes_error {Result : Type} (made : ClientCall) (result : Result) :
    Concludes (Program.perform (.client made) >>= fun _ => (pure result : Prog Result)) :=
  fun _ => ⟨fun _ => ⟨result, rfl⟩, trivial⟩

theorem concludes_guard {task : Task} {next : User → Prog Unit}
    (further : ∀ user, Concludes (next user)) :
    Concludes (do let user ← lookupCheckPass task; if user.id = 0 then pure () else next user) := by
  unfold lookupCheckPass
  simp only [bind_assoc]
  refine concludes_perform trivial fun user => ?_
  split
  · exact concludes_error _ ()
  · split
    · exact concludes_error _ ()
    next present _ =>
      simp only [pure_bind, present, if_false]
      exact further user

theorem concludes_guardByName {name : Bytes} {task : Task} {checkPass : Bool}
    {next : User → Prog Unit} (further : ∀ user, Concludes (next user)) :
    Concludes (do
      let user ← lookupCheckPassByName name task checkPass
      if user.id = 0 then pure () else next user) := by
  unfold lookupCheckPassByName
  simp only [bind_assoc]
  refine concludes_perform trivial fun users => ?_
  split
  · exact concludes_error _ ()
  next user =>
    split
    · exact concludes_error _ ()
    · simp only [pure_bind]
      split
      · trivial
      · exact further user
  · exact concludes_error _ ()

/-- Answer with the time of the clock. -/
theorem concludes_answer (body : Int → Bytes) :
    Concludes (do let now ← Prog.time; Prog.client (.sendOkResponse (body now))) :=
  concludes_perform trivial fun _ => concludes_client _

theorem concludes_sendBatch (ping : Bool) (msgsBatch : List (List Message)) :
    Concludes (sendBatch ping msgsBatch) := by
  unfold sendBatch
  split
  · exact .bind (Prog.mute_uses (mute_toApiFormatBatch _)) fun _ => concludes_client _
  · split
    · exact concludes_client _
    · trivial

theorem mute_lookupChatsForUserId (uid : Nat) : (Prog.lookupChatsForUserId uid).Uses Effect.Mute :=
  .bind (uses_perform.mpr trivial) mute_lookupChatsById

theorem concludes_processIdle (task : Task) : Concludes (processIdle task) := by
  refine concludes_guard fun user => ?_
  refine concludes_perform trivial fun now => concludes_perform trivial fun _ => ?_
  refine .bind (Prog.mute_uses (mute_lookupChatsForUserId _)) fun chats => ?_
  exact .bind (Prog.mute_uses (mute_readChats _ _)) fun batch => concludes_sendBatch _ _

theorem concludes_processUserHistory (sort : TimestampSort) (task : Task) :
    Concludes (processUserHistory sort task) := by
  refine concludes_guard fun userFrom => concludes_guardByName fun userTo => ?_
  refine concludes_perform trivial fun msgsTo => concludes_perform trivial fun msgsFrom => ?_
  exact .bind (Prog.mute_uses (mute_toApiFormat _)) fun _ => concludes_client _

theorem concludes_storeMessage (userFrom chatTo : Nat) (text : Bytes) :
    Concludes (storeMessage userFrom chatTo text) :=
  concludes_perform trivial fun _ => concludes_perform trivial fun _ => concludes_client _

theorem concludes_processMessageSend (task : Task) : Concludes (processMessageSend task) := by
  refine concludes_guard fun user => concludes_perform trivial fun usersTo => ?_
  split
  · exact concludes_client _
  · exact concludes_storeMessage _ _ _
  · exact concludes_client _

theorem concludes_processMessageSendChat (task : Task) :
    Concludes (processMessageSendChat task) := by
  refine concludes_guard fun user => concludes_perform trivial fun chats => ?_
  split
  · exact concludes_storeMessage _ _ _
  · exact concludes_client _

theorem concludes_processUserCreate (task : Task) : Concludes (processUserCreate task) := by
  refine concludes_perform trivial fun user => ?_
  split
  · exact concludes_client _
  · exact concludes_answer _

theorem concludes_processChatCreate (task : Task) : Concludes (processChatCreate task) := by
  refine concludes_guard fun user => concludes_perform trivial fun chat => ?_
  split
  · exact concludes_client _
  · exact concludes_answer _

theorem concludes_processChatAdduser (task : Task) : Concludes (processChatAdduser task) := by
  refine concludes_guard fun user => concludes_guardByName fun toAdd => ?_
  refine concludes_perform trivial fun chats => ?_
  split
  · exact concludes_perform trivial fun _ => concludes_client _
  · exact concludes_client _

theorem concludes_processLocation (task : Task) {lookup : Prog (List Bytes)} (key missing : Bytes)
    (mute : lookup.Uses Effect.Mute) : Concludes (processLocation task lookup key missing) := by
  refine concludes_guard fun user => .bind (Prog.mute_uses mute) fun items => ?_
  split
  · exact concludes_client _
  · exact concludes_answer _

/-- No task calls its client twice, or goes on after it. -/
theorem concludes_processTask (sort : TimestampSort) (task : Task) :
    Concludes (processTask sort task) := by
  unfold processTask
  split
  · exact concludes_processIdle task
  · exact concludes_guard fun _ => concludes_guardByName fun _ => concludes_answer _
  · exact concludes_processUserHistory sort task
  · exact concludes_processMessageSend task
  · exact concludes_processUserCreate task
  · exact concludes_guardByName fun _ => concludes_answer _
  · exact concludes_processChatCreate task
  · exact concludes_processChatAdduser task
  · exact concludes_processMessageSendChat task
  · exact concludes_processLocation task _ _ (uses_perform.mpr trivial)
  · exact concludes_processLocation task _ _ (uses_perform.mpr trivial)
  all_goals trivial

end DatabaseWorker

namespace ApiClient

/-- The reads and writes under way. -/
def busy (client : ApiClient) : Nat := client.reads + client.writes.length

variable (client : ApiClient)

@[simp]
theorem busy_asyncRequest (response : Bytes) (completion : Completion) :
    (client.asyncRequest response completion).busy = client.busy + 1 := by
  unfold busy asyncRequest
  rw [List.length_append]
  rfl

@[simp]
theorem busy_waitTimer (expired : Nat) : (client.waitTimer expired).busy = client.busy := rfl

theorem busy_receive (now : Int) (made : ClientCall) :
    (client.receive now made).busy = client.busy + 1 := by
  cases made <;> exact busy_asyncRequest _ _ _

/-- A write at its end starts at most one read. -/
theorem busy_complete_le (completion : Completion) (failed : Bool) (expired : Nat) :
    (client.complete completion failed expired).busy ≤ client.busy + 1 := by
  cases completion with
  | responseToClientWrote =>
      unfold busy
      simp only [complete, responseToClientWroteHandler, readCmd]
      omega
  | idleStarted => exact Nat.le_succ _
  | batchWrote maxTs => cases failed <;> exact Nat.le_succ _

/-- A request is answered at once or makes a task, if it does anything. -/
theorem Handled.busy {lookup : Lookup} {now : Int} {expired : Nat} {resource : Bytes}
    {client later : ApiClient} {tasks : List Task}
    (handled : Handled lookup now expired resource client later tasks) :
    later.busy + tasks.length ≤ client.busy + 1 := by
  cases handled with
  | refused => exact (busy_asyncRequest _ _ _).le
  | idle =>
      unfold sendOkResponseAndStartIdle
      rw [busy_waitTimer, busy_asyncRequest]
      rfl
  | queued => exact Nat.le_refl _
  | unanswered => exact Nat.le_succ _

end ApiClient

namespace Connection

variable {Store : Type}

/-- The tasks that are not finished. -/
def unfinished (workers : List TaskWorker) : Nat := workers.countP fun worker => !worker.finished

/-- The reads and writes under way, and the tasks that wait or run. -/
def outstandingWork (connection : Connection Store) : Nat :=
  connection.client.busy + connection.queue.length + unfinished connection.workers

/-- No write was started before the last one had ended, and no read. -/
def Exclusive (connection : Connection Store) : Prop :=
  connection.client.writes.length ≤ 1 ∧ connection.client.reads ≤ 1

/-- The connection does one thing at a time. -/
structure TakesTurns (connection : Connection Store) : Prop where
  single : connection.outstandingWork ≤ 1
  concludes : ∀ worker ∈ connection.workers, DatabaseWorker.Concludes worker.program

theorem TakesTurns.exclusive {connection : Connection Store} (turns : connection.TakesTurns) :
    connection.Exclusive := by
  have single := turns.single
  unfold outstandingWork ApiClient.busy at single
  constructor <;> omega

/-- The condition that the timer fires only while nothing is under way. -/
def timerAlone (connection : Connection Store) : ConnectionEvent → Bool
  | .tick _ _ => connection.outstandingWork = 0
  | _ => true

theorem unfinished_append_le (workers : List TaskWorker) (worker : TaskWorker) :
    unfinished (workers ++ [worker]) ≤ unfinished workers + 1 := by
  unfold unfinished
  rw [List.countP_append]
  exact Nat.add_le_add_left List.countP_le_length _

/-- A worker that makes a call was not finished before it. -/
theorem unfinished_set {workers : List TaskWorker} {index : Nat} {worker : TaskWorker}
    (found : workers[index]? = some worker) (goesOn : worker.finished = false)
    (later : TaskWorker) :
    unfinished (workers.set index later) + 1 =
      unfinished workers + if later.finished then 0 else 1 := by
  obtain ⟨bound, rfl⟩ := List.getElem?_eq_some_iff.mp found
  have counted : 0 < unfinished workers :=
    List.countP_pos_iff.mpr ⟨workers[index], List.getElem_mem bound, by simp [goesOn]⟩
  unfold unfinished at counted ⊢
  rw [List.countP_set bound, goesOn]
  cases later.finished <;> simp <;> omega

section Steps

variable {backend : Backend Store} {setup : Setup} {connection next : Connection Store}

/-- A worker that calls its client has nothing else to do, and any other call
is part of the same task. -/
theorem TakesTurns.work {index : Nat} {now : Int} (turns : connection.TakesTurns)
    (stepped : connection.work backend setup index now = some next) : next.TakesTurns := by
  obtain ⟨worker, op, rest, found, shape, rfl⟩ := work_cases stepped
  have concludes := turns.concludes worker (List.mem_of_getElem? found)
  rw [shape] at concludes
  have ends := concludes (Shared.handle backend now op connection.pool.shared).1
  refine ⟨?_, ?_⟩
  · have single := turns.single
    unfold outstandingWork at single
    have counted := unfinished_set found (Worker.not_finished shape)
      ⟨worker.task,
        worker.history ++ [⟨op, (Shared.handle backend now op connection.pool.shared).1⟩],
        rest (Shared.handle backend now op connection.pool.shared).1⟩
    show (Shared.handle backend now op connection.pool.shared).2.client.busy +
      connection.queue.length + unfinished (connection.workers.set index _) ≤ 1
    cases op with
    | client made =>
        obtain ⟨result, done⟩ := ends.1 id
        have isOver : Worker.finished (⟨worker.task, worker.history ++ [⟨.client made, ()⟩],
          rest ()⟩ : TaskWorker) = true := Worker.finished_of_done done
        have started :
            (Shared.handle backend now (.client made) connection.pool.shared).2.client.busy =
              connection.client.busy + 1 := ApiClient.busy_receive _ now made
        rw [if_pos isOver] at counted
        omega
    | db op =>
        have same : (Shared.handle backend now (.db op) connection.pool.shared).2.client.busy =
          connection.client.busy := rfl
        split at counted <;> omega
    | time =>
        have same : (Shared.handle backend now .time connection.pool.shared).2.client.busy =
          connection.client.busy := rfl
        split at counted <;> omega
  · intro other member
    obtain old | rfl := List.mem_or_eq_of_mem_set member
    · exact turns.concludes other old
    · exact ends.2

end Steps

theorem TakesTurns.step {backend : Backend Store} {setup : Setup}
    {connection next : Connection Store} {event : ConnectionEvent} (turns : connection.TakesTurns)
    (admitted : connection.timerAlone event = true)
    (stepped : (system backend setup).step connection event = some next) : next.TakesTurns := by
  have single := turns.single
  unfold outstandingWork at single
  cases event with
  | request reply lookup now expired =>
      obtain ⟨reads, client, tasks, reading, handled, rfl⟩ := readRequest_cases stepped
      have counted := (ApiClient.requestFromClientReadHandler_handled handled).busy
      refine ⟨?_, turns.concludes⟩
      show client.busy + (connection.queue ++ tasks).length + unfinished connection.workers ≤ 1
      rw [List.length_append]
      unfold ApiClient.busy at single counted ⊢
      simp only at counted
      omega
  | readError =>
      obtain ⟨reads, reading, rfl⟩ := readError_cases stepped
      refine ⟨?_, turns.concludes⟩
      show reads + connection.client.writes.length + connection.queue.length +
        unfinished connection.workers ≤ 1
      unfold ApiClient.busy at single
      omega
  | tick now expired =>
      obtain ⟨timers, _, rfl⟩ := tick_cases stepped
      refine ⟨?_, turns.concludes⟩
      have nothing : connection.outstandingWork = 0 := by simpa [timerAlone] using admitted
      show connection.client.busy + (connection.queue ++ [_]).length +
        unfinished connection.workers ≤ 1
      unfold outstandingWork at nothing
      rw [List.length_append, List.length_singleton]
      omega
  | take =>
      obtain ⟨task, queue, waiting, rfl⟩ := takeTask_cases stepped
      refine ⟨?_, ?_⟩
      · show connection.client.busy + queue.length + unfinished (connection.workers ++ [_]) ≤ 1
        rw [waiting, List.length_cons] at single
        have counted := unfinished_append_le connection.workers
          { task, program := DatabaseWorker.processTask setup.sort task }
        omega
      · intro worker member
        obtain old | new := List.mem_append.mp member
        · exact turns.concludes worker old
        · rw [List.mem_singleton.mp new]
          exact DatabaseWorker.concludes_processTask setup.sort task
  | work index now => exact turns.work stepped
  | written failed expired =>
      obtain ⟨write, writes, pending, rfl⟩ := written_cases stepped
      refine ⟨?_, turns.concludes⟩
      have counted := ApiClient.busy_complete_le { connection.client with writes } write.2 failed
        expired
      show (ApiClient.complete _ _ _ _).busy + connection.queue.length +
        unfinished connection.workers ≤ 1
      refine Nat.le_trans ?_ single
      gcongr
      refine counted.trans_eq ?_
      unfold ApiClient.busy
      rw [pending, List.length_cons]
      rfl
  | other now op =>
      cases stepped
      exact ⟨turns.single, turns.concludes⟩

end Connection

open Connection in
/-- In every run of an accepted connection in which the timer fires only while
nothing else is under way, no write and no read overlaps with another. -/
theorem operations_exclusive {Store : Type} (backend : Backend Store) (setup : Setup)
    (storage : Store) (details : RequestDetails) (remoteAddr : Bytes)
    (connection : Connection Store)
    (reached : (system backend setup).ReachesWithin
      (fun state event => state.timerAlone event = true)
      (opened storage { requestDetails := details, remoteAddr, reads := 1 }) connection) :
    connection.Exclusive := by
  have turns : connection.TakesTurns := by
    refine System.ReachesWithin.invariant TakesTurns reached ?_ ?_
    · exact ⟨Nat.le_refl _, fun worker member => absurd member List.not_mem_nil⟩
    · intro state event next held admitted stepped
      exact held.step admitted stepped
  exact turns.exclusive

/-- A tick, and the task it makes, which finds the password of `waitDocument`
to be wrong. -/
def refusedTick (index : Nat) : List ConnectionEvent :=
  [.tick 100 0, .take, .work index 100, .work index 100]

/-- The reply that starts the idle mode is still being written when the error
of the first tick is sent. The reply to a second error starts a second read. -/
theorem operations_overlap :
    (∃ connection, (Connection.system InMemory.backend resendSetup).Reaches resendStart connection ∧
      connection.client.writes.length = 2) ∧
    ∃ connection, (Connection.system InMemory.backend resendSetup).Reaches resendStart connection ∧
      connection.client.reads = 2 := by
  let waiting : ConnectionEvent := .request (postRequest (bytes "/v1/idle") waitDocument) none 100 0
  let written : ConnectionEvent := .written false 0
  refine ⟨?_, ?_⟩
  · have replayed : ((Connection.system InMemory.backend resendSetup).run (waiting :: refusedTick 0)
        resendStart).map (fun connection => connection.client.writes.length) = some 2 := by
      decide +kernel
    obtain ⟨connection, ended, count⟩ := Option.map_eq_some_iff.mp replayed
    exact ⟨connection, System.reaches_of_run ended, count⟩
  · have replayed : ((Connection.system InMemory.backend resendSetup).run
        ([waiting, written] ++ refusedTick 0 ++ [written] ++ refusedTick 1 ++ [written])
        resendStart).map (fun connection => connection.client.reads) = some 2 := by
      decide +kernel
    obtain ⟨connection, ended, count⟩ := Option.map_eq_some_iff.mp replayed
    exact ⟨connection, System.reaches_of_run ended, count⟩

/-- One tick after the reply has been written, and the error it leads to. -/
theorem operations_exclusive_refused :
    ∃ connection, (Connection.system InMemory.backend resendSetup).ReachesWithin
        (fun state event => state.timerAlone event = true) resendStart connection ∧
      connection.client.reads = 1 ∧ connection.Exclusive := by
  let waiting : ConnectionEvent := .request (postRequest (bytes "/v1/idle") waitDocument) none 100 0
  let written : ConnectionEvent := .written false 0
  have replayed : ((Connection.system InMemory.backend resendSetup).runWithin
      (fun state event => state.timerAlone event = true)
      ([waiting, written] ++ refusedTick 0 ++ [written]) resendStart).map
      (fun connection => connection.client.reads) = some 1 := by
    decide +kernel
  obtain ⟨connection, ended, count⟩ := Option.map_eq_some_iff.mp replayed
  have reached := System.reachesWithin_of_run ended
  exact ⟨connection, reached, count, operations_exclusive _ resendSetup _ _ _ connection reached⟩

end GeoChat
