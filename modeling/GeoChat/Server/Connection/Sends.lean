import GeoChat.Server.Calls
import GeoChat.Server.Connection
import GeoChat.Server.InMemory
import GeoChat.Server.Routing

/-!
# Messages stored by a connection

Each task of a send command stores at most one message, and no other task
stores any. A request makes at most one task. The timer makes tasks too, from
whatever command the connection has last read.
-/

namespace GeoChat

open Library Program

/-- A call of `saveMessage`. -/
def Effect.saves : Effect → Bool
  | .db (.saveMessage _) => true
  | _ => false

/-- The commands whose tasks store a message. -/
def Cmd.sends : Cmd → Bool
  | .messageSend | .messageSendChat => true
  | _ => false

theorem Effect.Quiet.not_saves {effect : Effect} (quiet : effect.Quiet) :
    effect.saves = false := by
  unfold saves
  split
  · exact quiet.elim
  · rfl

theorem Prog.Quiet.atMost {Result : Type} {program : Prog Result} (quiet : program.Quiet) :
    program.AtMost Effect.saves 0 :=
  (quiet.mono fun _ => Effect.Quiet.not_saves).atMost

namespace DatabaseWorker

/-- A guard stores nothing. -/
theorem atMost_guard {bound : Nat} {lookup : Prog User} {next : User → Prog Unit}
    (quiet : lookup.Quiet) (further : ∀ user, (next user).AtMost Effect.saves bound) :
    (do let user ← lookup; if user.id = 0 then pure () else next user).AtMost
      Effect.saves bound := by
  have guarded := quiet.atMost.bind fun user =>
    show (if user.id = 0 then pure () else next user).AtMost Effect.saves bound by
      split
      · trivial
      · exact further user
  rwa [Nat.zero_add] at guarded

theorem atMost_storeMessage (userFrom chatTo : Nat) (text : Bytes) :
    (storeMessage userFrom chatTo text).AtMost Effect.saves 1 :=
  .uncounted rfl fun _ => .counted fun _ => (lookup_client _).quiet.atMost

theorem atMost_processMessageSend (task : Task) :
    (processMessageSend task).AtMost Effect.saves 1 := by
  refine atMost_guard (lookup_lookupCheckPass task).quiet fun user => ?_
  refine .uncounted rfl fun usersTo => ?_
  split
  · exact (lookup_client _).quiet.atMost.mono (Nat.zero_le _)
  · exact atMost_storeMessage _ _ _
  · exact (lookup_client _).quiet.atMost.mono (Nat.zero_le _)

theorem atMost_processMessageSendChat (task : Task) :
    (processMessageSendChat task).AtMost Effect.saves 1 := by
  refine atMost_guard (lookup_lookupCheckPass task).quiet fun user => ?_
  refine .uncounted rfl fun chats => ?_
  split
  · exact atMost_storeMessage _ _ _
  · exact (lookup_client _).quiet.atMost.mono (Nat.zero_le _)

/-- A task stores one message at most, and only for a send command. -/
theorem atMost_processTask (sort : TimestampSort) (task : Task) :
    (processTask sort task).AtMost Effect.saves (if task.cmd.sends then 1 else 0) := by
  cases command : task.cmd with
  | messageSend =>
      simp only [processTask, command]
      exact atMost_processMessageSend task
  | messageSendChat =>
      simp only [processTask, command]
      exact atMost_processMessageSendChat task
  | _ =>
      have silent : (processTask sort task).Uses fun effect => effect.saves = false := by
        refine (own_processTask sort task).mono fun effect own => ?_
        unfold Effect.saves
        split
        · simp [Effect.OwnOf, command] at own
        · rfl
      exact silent.atMost

end DatabaseWorker

/-- The resources of the two send requests. -/
def sendResource (resource : Bytes) : Bool :=
  resource = bytes "/v1/message/send" || resource = bytes "/v1/message/sendchat"

namespace ApiClient

theorem route_sends {resource : Bytes} {cmd : Cmd} (routed : route resource = some cmd)
    (sends : cmd.sends = true) : sendResource resource = true := by
  have table : ∀ branch ∈ routes, branch.2.sends = true → sendResource branch.1 = true := by
    decide
  rcases Option.map_eq_some_iff.mp routed with ⟨branch, found, rfl⟩
  have same : branch.1 = resource := by simpa using List.find?_some found
  exact same ▸ table branch (List.mem_of_find?_eq_some found) sends

variable {parse : Bytes → Option Json} {passLen : Int} {req : HttpReply} {client later : ApiClient}
  {tasks : List Task}

/-- The tasks of a request that send are no more than the request. -/
theorem requestFromClientReadHandler_sends {lookup : Lookup} {now : Int} {expired : Nat}
    (handled : requestFromClientReadHandler parse passLen req lookup now expired client =
      .ok (later, tasks)) :
    tasks.countP (·.cmd.sends) ≤ if sendResource later.requestDetails.resource then 1 else 0 := by
  cases requestFromClientReadHandler_handled handled with
  | refused => simp
  | idle => simp
  | unanswered => simp
  | @queued details storage resource routed =>
      rw [List.countP_singleton]
      by_cases sends : details.command.sends = true
      · have sending := route_sends routed sends
        rw [← resource] at sending
        rw [if_pos sending]
        split <;> omega
      · simp [RequestDetails.task, sends]

end ApiClient

/-- The calls of `saveMessage` that the worker has made. -/
def savesOf (worker : TaskWorker) : Nat := worker.history.countP (·.1.saves)

namespace Connection

variable {Store : Type}

/-- The calls of `saveMessage` made by tasks of the connection. -/
def saves (connection : Connection Store) : Nat := (connection.workers.map savesOf).sum

/-- The send requests received on the connection. -/
def sendRequests (connection : Connection Store) : Nat := connection.received.countP sendResource

/-- The tasks that send, waiting, running and done. -/
def sendTasks (connection : Connection Store) : Nat :=
  connection.queue.countP (·.cmd.sends) + connection.workers.countP (·.task.cmd.sends)

/-- What the worker has stored and can still store is at most one message, for
a task that sends. -/
def Sparing (worker : TaskWorker) : Prop :=
  ∃ left, worker.program.AtMost Effect.saves left ∧
    savesOf worker + left ≤ if worker.task.cmd.sends then 1 else 0

/-- Every task that sends is paid for by a request. -/
structure Accounted (connection : Connection Store) : Prop where
  paid : connection.sendTasks ≤ connection.sendRequests
  sparing : ∀ worker ∈ connection.workers, Sparing worker

theorem Accounted.saves_le {connection : Connection Store} (accounted : connection.Accounted) :
    connection.saves ≤ connection.sendRequests := by
  have each : ∀ workers : List TaskWorker, (∀ worker ∈ workers, Sparing worker) →
      (workers.map savesOf).sum ≤ workers.countP (·.task.cmd.sends) := by
    intro workers sparing
    induction workers with
    | nil => simp
    | cons worker rest inductionHypothesis =>
        rcases sparing worker List.mem_cons_self with ⟨left, _, bound⟩
        have later := inductionHypothesis fun other member =>
          sparing other (List.mem_cons_of_mem _ member)
        rw [List.map_cons, List.sum_cons, List.countP_cons]
        omega
  have made := each connection.workers accounted.sparing
  have paid := accounted.paid
  unfold sendTasks at paid
  unfold saves
  omega

/-- A call is taken from what the worker may still store. -/
theorem Sparing.advance {worker : TaskWorker} {op : Effect} {rest : op.Reply → Prog Unit}
    (sparing : Sparing worker) (shape : worker.program = .call op rest) (reply : op.Reply) :
    Sparing ⟨worker.task, worker.history ++ [⟨op, reply⟩], rest reply⟩ := by
  rcases sparing with ⟨left, atMost, bound⟩
  rw [shape] at atMost
  rcases atMost with ⟨remaining, within, further⟩
  refine ⟨remaining, further reply, ?_⟩
  simp only [savesOf, List.countP_append, List.countP_singleton] at bound ⊢
  omega

/-- The condition under which the timer makes no task that sends. -/
def timerIdle (connection : Connection Store) : ConnectionEvent → Bool
  | .tick _ _ => !connection.client.requestDetails.command.sends
  | _ => true

/-- The command of the task of the timer. -/
theorem timer_command (now : Int) (expired : Nat) (client : ApiClient) :
    (client.timerWaitTaskResultHandler now expired).2.cmd = client.requestDetails.command := by
  simp only [ApiClient.timerWaitTaskResultHandler, RequestDetails.task]
  split <;> rfl

theorem Accounted.step {backend : Backend Store} {setup : Setup}
    {connection next : Connection Store} {event : ConnectionEvent}
    (accounted : connection.Accounted) (admitted : connection.timerIdle event = true)
    (stepped : (system backend setup).step connection event = some next) : next.Accounted := by
  rcases accounted with ⟨paid, sparing⟩
  unfold sendTasks sendRequests at paid
  cases event with
  | request reply lookup now expired =>
      rcases readRequest_cases stepped with ⟨reads, client, tasks, _, handled, rfl⟩
      have bound := ApiClient.requestFromClientReadHandler_sends handled
      refine ⟨?_, sparing⟩
      simp only [sendTasks, sendRequests, putTasks, setClient, List.countP_append,
        List.countP_singleton]
      simp only [workers] at paid ⊢
      omega
  | readError =>
      rcases readError_cases stepped with ⟨reads, _, rfl⟩
      exact ⟨paid, sparing⟩
  | tick now expired =>
      rcases tick_cases stepped with ⟨timers, _, rfl⟩
      refine ⟨?_, sparing⟩
      have quiet : connection.client.requestDetails.command.sends = false := by
        simpa [timerIdle] using admitted
      simp only [sendTasks, sendRequests, putTasks, setClient, List.countP_append,
        List.countP_singleton, timer_command, quiet]
      simpa using paid
  | take =>
      rcases takeTask_cases stepped with ⟨task, queue, waiting, rfl⟩
      refine ⟨?_, ?_⟩
      · simp only [waiting, List.countP_cons] at paid
        simp only [sendTasks, sendRequests, workers, List.countP_append, List.countP_singleton]
          at paid ⊢
        omega
      · intro worker member
        rcases List.mem_append.mp member with old | new
        · exact sparing worker old
        · cases List.mem_singleton.mp new
          exact ⟨_, DatabaseWorker.atMost_processTask setup.sort task, by simp [savesOf]⟩
  | work index now =>
      rcases work_cases stepped with ⟨worker, op, rest, found, shape, rfl⟩
      have member := List.mem_of_getElem? found
      refine ⟨?_, ?_⟩
      · have sameTasks := congrArg (List.countP fun task : Task => task.cmd.sends)
          (Pool.tasks_set ⟨worker.task,
            worker.history ++ [⟨op, (Shared.handle backend now op connection.pool.shared).1⟩],
            rest (Shared.handle backend now op connection.pool.shared).1⟩ found rfl)
        simp only [List.countP_map] at sameTasks
        simp only [sendTasks, sendRequests]
        exact (congrArg (connection.queue.countP (·.cmd.sends) + ·) sameTasks).trans_le paid
      · intro other memberOther
        rcases List.mem_or_eq_of_mem_set memberOther with old | rfl
        · exact sparing other old
        · exact (sparing worker member).advance shape _
  | written failed expired =>
      rcases written_cases stepped with ⟨write, writes, _, rfl⟩
      exact ⟨paid, sparing⟩
  | other now op =>
      cases stepped
      exact ⟨paid, sparing⟩

end Connection

open Connection in
/-- In every run in which the timer never fires while the command of the
connection is a send, no more messages are stored than were sent to it. -/
theorem saves_le_sendRequests {Store : Type} (backend : Backend Store) (setup : Setup)
    (storage : Store) (client : ApiClient) (connection : Connection Store)
    (reached : (system backend setup).ReachesWithin
      (fun state event => state.timerIdle event = true) (opened storage client) connection) :
    connection.saves ≤ connection.sendRequests := by
  have accounted : connection.Accounted := by
    refine System.ReachesWithin.invariant Accounted reached ?_ ?_
    · exact ⟨Nat.le_refl _, fun worker member => absurd member List.not_mem_nil⟩
    · intro state event next held admitted stepped
      exact held.step admitted stepped
  exact accounted.saves_le

/-- The members that every command but two requires. -/
def credentials (uid : Nat) (password : Bytes) : List (Bytes × Json) :=
  [(bytes "uid", .int uid), (bytes "password", .string password)]

/-- A parser that knows the given documents by the text the writer makes. -/
def parseWritten (documents : List Json) (text : Bytes) : Option Json :=
  documents.find? fun document => document.write = text

/-- A request as it is read. -/
def postRequest (resource : Bytes) (document : Json) : HttpReply :=
  { method := bytes "post", resource, body := document.write
    parsedHeaders := [(bytes "Content-Type", bytes "application/json")] }

section Resend

/-- A request that waits for messages, with a wrong password. -/
def waitDocument : Json := .object (credentials 1 (bytes "guess"))

/-- A message of the user to themselves. -/
def sendDocument : Json :=
  .object (credentials 1 (bytes "Passw0rd") ++
    [(bytes "message", .string (bytes "hello")), (bytes "to", .string (bytes "alice"))])

def resendSetup : Setup := ⟨parseWritten [waitDocument, sendDocument], 8, .stable⟩

/-- A new connection to a server with one user. -/
def resendStart : Connection Storage :=
  .opened (InMemory.createUser (bytes "alice") (encryptedPass (bytes "Passw0rd")) [] [] [] {}).2
    { requestDetails := { command := .cmdLast }, reads := 1 }

/-- The password is found to be wrong after the first tick, and the reply opens
the connection for another request, which is a send. -/
def resendOpening : List ConnectionEvent :=
  [.request (postRequest (bytes "/v1/idle") waitDocument) none 100 0, .tick 100 0, .take,
    .work 0 100, .work 0 100, .written false 0, .written false 0,
    .request (postRequest (bytes "/v1/message/send") sendDocument) none 101 0]

/-- The timer still runs and makes a second task of the send. -/
theorem saves_exceed_sendRequests :
    ∃ connection, (Connection.system InMemory.backend resendSetup).Reaches resendStart connection ∧
      connection.sendRequests = 1 ∧ connection.saves = 2 := by
  let events := resendOpening ++ [.tick 101 0, .take, .take] ++
    List.replicate 5 (.work 1 101) ++ List.replicate 5 (.work 2 101)
  have replayed : ((Connection.system InMemory.backend resendSetup).run events resendStart).map
      (fun connection => (connection.sendRequests, connection.saves)) = some (1, 2) := by
    decide +kernel
  rcases Option.map_eq_some_iff.mp replayed with ⟨connection, ended, counts⟩
  exact ⟨connection, System.reaches_of_run ended, congrArg Prod.fst counts,
    congrArg Prod.snd counts⟩

/-- Without that tick the message is stored once. -/
theorem saves_le_sendRequests_one :
    ∃ connection, (Connection.system InMemory.backend resendSetup).ReachesWithin
        (fun state event => state.timerIdle event = true) resendStart connection ∧
      connection.saves = 1 ∧ connection.saves ≤ connection.sendRequests := by
  let events := resendOpening ++ [.take] ++ List.replicate 5 (.work 1 101)
  have replayed : ((Connection.system InMemory.backend resendSetup).runWithin
      (fun state event => state.timerIdle event = true) events resendStart).map
      Connection.saves = some 1 := by
    decide +kernel
  rcases Option.map_eq_some_iff.mp replayed with ⟨connection, ended, count⟩
  have reached := System.reachesWithin_of_run ended
  exact ⟨connection, reached, count, saves_le_sendRequests _ resendSetup _ _ connection reached⟩

end Resend

end GeoChat
