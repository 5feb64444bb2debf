import GeoChat.Common.Queue
import GeoChat.Library.Ownership
import GeoChat.Server.Connection.Overlap

/-!
# `Server`

All connections over one queue and one storage, whatever backend it is of. A task
carries the number of the connection that `task.client` is. Seen from the storage
the server is a pool of workers, and seen from one connection it is that
connection among others.
-/

namespace GeoChat

open Library

/-- The interleavings of any number of workers over a backend. -/
abbrev Backend.workers {Store : Type} (backend : Backend Store) (sort : TimestampSort) :
    System (Pool Task Effect Effect.Reply Store) (PoolEvent Task Int) :=
  Pool.system (DatabaseWorker.processTask sort) backend.handle

/-- What the network and the clock do to one connection. -/
inductive NetworkEvent where
  /-- A request is read. -/
  | request (reply : HttpReply) (lookup : Lookup) (now : Int) (expired : Nat)
  /-- A read ends with an error. -/
  | readError
  /-- A wait of the timer ends. -/
  | tick (now : Int) (expired : Nat)
  /-- The first write ends. -/
  | written (failed : Bool) (expired : Nat)

/-- The request waits for a lookup that does not return. -/
def NetworkEvent.holds : NetworkEvent → Bool
  | .request reply none _ _ => Utils.lowercased reply.resource = bytes "/v1/user/create"
  | _ => false

/-- `Server`: the storage behind `m_Db`, its queue, the connections that were
accepted, each with the number of its I/O thread, the threads that a lookup
holds, and the tasks that the workers have taken. -/
structure Server (Store : Type) where
  storage : Store
  clients : List ApiClient := []
  threads : List Nat := []
  held : List Nat := []
  queue : Queue (Nat × Task) := {}
  workers : List (Worker (Nat × Task) Effect Effect.Reply) := []

inductive ServerEvent where
  /-- A connection is accepted on an I/O thread, and its handshake ends. `command`
  is what the uninitialized field holds. -/
  | accept (command : Cmd) (remoteAddr : Bytes) (thread : Nat) (handshaken : Bool)
  | network (number : Nat) (event : NetworkEvent)
  /-- A worker takes the first task. -/
  | take
  /-- The worker at `index` makes its next call. -/
  | work (index : Nat) (now : Int)

/-- The handlers of one connection, with the tasks that they put into the queue.
An aborted process takes no further step. -/
def ApiClient.handleNetwork (setup : Setup) (client : ApiClient) :
    NetworkEvent → Option (ApiClient × List Task)
  | .request reply lookup now expired =>
      match client.reads with
      | 0 => none
      | reads + 1 =>
          match requestFromClientReadHandler setup.parse setup.passLen reply lookup now expired
              { client with reads } with
          | .error _ => none
          | .ok handled => some handled
  | .readError =>
      match client.reads with
      | 0 => none
      | reads + 1 => some ({ client with reads }, [])
  | .tick now expired =>
      match client.timers with
      | 0 => none
      | timers + 1 =>
          let handled := timerWaitTaskResultHandler now expired { client with timers }
          some (handled.1, [handled.2])
  | .written failed expired =>
      match client.writes with
      | [] => none
      | write :: writes => some ({ client with writes }.complete write.2 failed expired, [])

namespace Server

variable {Store : Type}

/-- The server before its first connection. -/
def started (storage : Store) : Server Store := { storage }

/-- The handler of `startAccept` with `serveSslClient` and
`processClientRequest`. -/
def accept (command : Cmd) (remoteAddr : Bytes) (thread : Nat) (handshaken : Bool)
    (server : Server Store) : Server Store :=
  let client : ApiClient := { requestDetails := { command }, remoteAddr }
  { server with
    clients := server.clients ++ [if handshaken then client.readCmd else client]
    threads := server.threads ++ [thread] }

/-- The thread on which the handlers of a connection run. -/
def thread (number : Nat) (server : Server Store) : Nat := server.threads.getD number 0

/-- The threads that are held after an event. -/
def hold (number : Nat) (event : NetworkEvent) (server : Server Store) : List Nat :=
  if event.holds then server.thread number :: server.held else server.held

/-- `putTask` for each task. -/
def putTasks (number : Nat) (tasks : List Task) (server : Server Store) : Server Store :=
  { server with
    queue := tasks.foldl (fun queue task => queue.push (number, task)) server.queue }

/-- The calls of a worker whose task is from the connection. -/
def handle (backend : Backend Store) (number : Nat) (now : Int) :
    Program.Handler Effect Effect.Reply (Server Store)
  | .db op, server =>
      let answered := backend now op server.storage
      (answered.1, { server with storage := answered.2 })
  | .time, server => (now, server)
  | .client call, server =>
      ((), { server with
        clients := server.clients.modify number fun client => client.receive now call })

section Steps

variable (backend : Backend Store) (setup : Setup)

/-- A thread that a lookup holds calls no further handler. -/
def network (number : Nat) (event : NetworkEvent) (server : Server Store) :
    Option (Server Store) :=
  match server.clients[number]? with
  | none => none
  | some client =>
      if server.thread number ∈ server.held then none
      else
        (client.handleNetwork setup event).map fun handled =>
          putTasks number handled.2 { server with
            clients := server.clients.set number handled.1
            held := server.hold number event }

/-- `getTask` at the head of the loop of `processQueue`. -/
def take (server : Server Store) : Option (Server Store) :=
  server.queue.getTask.map fun taken =>
    { server with
      queue := taken.2
      workers := server.workers ++
        [{ task := taken.1, program := DatabaseWorker.processTask setup.sort taken.1.2 }] }

def work (index : Nat) (now : Int) (server : Server Store) : Option (Server Store) :=
  match server.workers[index]? with
  | none => none
  | some worker =>
      (worker.advance (handle backend worker.task.1 now) server).map fun advanced =>
        { advanced.2 with workers := advanced.2.workers.set index advanced.1 }

def system : System (Server Store) ServerEvent where
  step server
    | .accept command remoteAddr thread handshaken =>
        some (server.accept command remoteAddr thread handshaken)
    | .network number event => server.network setup number event
    | .take => server.take setup
    | .work index now => server.work backend index now

end Steps

section Cases

variable {backend : Backend Store} {setup : Setup} {server next : Server Store}

/-- A handler of a connection runs, and its tasks are put into the queue. -/
theorem network_cases {number : Nat} {event : NetworkEvent}
    (stepped : server.network setup number event = some next) :
    ∃ client later tasks, server.clients[number]? = some client ∧
      server.thread number ∉ server.held ∧
      client.handleNetwork setup event = some (later, tasks) ∧
      next = putTasks number tasks { server with
        clients := server.clients.set number later
        held := server.hold number event } := by
  unfold network at stepped
  split at stepped
  next => cases stepped
  next client found =>
    split at stepped
    next => cases stepped
    next free =>
      obtain ⟨⟨later, tasks⟩, handled, rfl⟩ := Option.map_eq_some_iff.mp stepped
      exact ⟨client, later, tasks, found, free, handled, rfl⟩

theorem take_cases (stepped : server.take setup = some next) :
    ∃ number task rest, server.queue.items = (number, task) :: rest ∧
      next = { server with
        queue := ⟨rest⟩
        workers := server.workers ++ [{
          task := (number, task)
          program := DatabaseWorker.processTask setup.sort task }] } := by
  obtain ⟨⟨⟨number, task⟩, rest⟩, taken, rfl⟩ := Option.map_eq_some_iff.mp stepped
  unfold Queue.getTask at taken
  split at taken
  next => cases taken
  next items =>
    cases taken
    exact ⟨number, task, _, items, rfl⟩

theorem work_cases {index : Nat} {now : Int}
    (stepped : server.work backend index now = some next) :
    ∃ (worker : Worker (Nat × Task) Effect Effect.Reply) (op : Effect)
      (rest : op.Reply → Prog Unit),
      server.workers[index]? = some worker ∧ worker.program = .call op rest ∧
      next = { (handle backend worker.task.1 now op server).2 with
        workers := server.workers.set index
          ⟨worker.task, worker.history ++ [⟨op, (handle backend worker.task.1 now op server).1⟩],
            rest (handle backend worker.task.1 now op server).1⟩ } := by
  unfold work at stepped
  split at stepped
  next => cases stepped
  next worker found =>
    obtain ⟨⟨later, server'⟩, advanced, rfl⟩ := Option.map_eq_some_iff.mp stepped
    obtain ⟨op, rest, shape, rfl, rfl⟩ := Worker.advance_cases advanced
    refine ⟨worker, op, rest, found, shape, ?_⟩
    cases op with
    | _ => rfl

@[simp]
theorem putTasks_queue (number : Nat) (tasks : List Task) (server : Server Store) :
    (putTasks number tasks server).queue.items =
      server.queue.items ++ tasks.map ((number, ·)) := by
  obtain ⟨storage, clients, threads, held, ⟨items⟩, workers⟩ := server
  induction tasks generalizing items with
  | nil => exact (List.append_nil _).symm
  | cons task rest inductionHypothesis =>
      have further := inductionHypothesis (items ++ [(number, task)])
      rw [List.append_assoc] at further
      exact further

end Cases

section Storage

/-- The server as the storage sees it. -/
def pool (server : Server Store) : Pool Task Effect Effect.Reply Store :=
  ⟨server.storage, server.workers.map Worker.forTask⟩

variable {backend : Backend Store} {setup : Setup} {server next : Server Store} {storage : Store}

/-- A step of the server is a step of its pool, or none. -/
theorem pool_step {event : ServerEvent}
    (stepped : (system backend setup).step server event = some next) :
    (backend.workers setup.sort).Reaches server.pool next.pool := by
  cases event with
  | accept command remoteAddr thread handshaken =>
      cases stepped
      exact .start
  | network number event =>
      obtain ⟨client, later, tasks, -, -, -, rfl⟩ := network_cases stepped
      exact .start
  | take =>
      obtain ⟨number, task, rest, -, rfl⟩ := take_cases stepped
      refine System.reaches_step (.take task) ?_
      simp [Pool.system, pool, Worker.forTask]
  | work index now =>
      obtain ⟨worker, op, rest, found, shape, rfl⟩ := work_cases stepped
      refine System.reaches_step (.call index now) ?_
      have held : server.pool.workers[index]? = some worker.forTask := by
        simp [pool, found]
      have answers : backend.handle now op server.pool.shared =
          ((handle backend worker.task.1 now op server).1,
            (handle backend worker.task.1 now op server).2.storage) := by
        cases op with
        | _ => rfl
      simp only [Pool.system, held, Worker.advance, Worker.forTask, shape, Option.map_some, answers]
      simp [pool, List.map_set, Worker.forTask]

/-- Seen from the storage, the server is a pool of workers. -/
theorem pool_reaches (reached : (system backend setup).Reaches (started storage) server) :
    (backend.workers setup.sort).Reaches ⟨storage, []⟩ server.pool := by
  refine System.Reaches.invariant
    (fun server : Server Store =>
      (backend.workers setup.sort).Reaches ⟨storage, []⟩ server.pool) reached .start ?_
  intro server event next held stepped
  exact System.ReachesWithin.trans held (pool_step stepped)

end Storage

section Connections

variable {server : Server Store} {number : Nat} {connection : Connection Store}

/-- The server as one of its connections sees it. -/
structure Seen (server : Server Store) (number : Nat) (connection : Connection Store) :
    Prop where
  storage : connection.storage = server.storage
  client : server.clients[number]? = some connection.client
  queue : connection.queue = own number server.queue.items
  workers : connection.workers = Worker.own number server.workers

end Connections

end Server

/-- The event of the network as the connection has it. -/
def NetworkEvent.onConnection : NetworkEvent → ConnectionEvent
  | .request reply lookup now expired => .request reply lookup now expired
  | .readError => .readError
  | .tick now expired => .tick now expired
  | .written failed expired => .written failed expired

/-- What an event of a connection has from the network. -/
def ConnectionEvent.network : ConnectionEvent → List NetworkEvent
  | .request reply lookup now expired => [.request reply lookup now expired]
  | .readError => [.readError]
  | .tick now expired => [.tick now expired]
  | .written failed expired => [.written failed expired]
  | _ => []

/-- An event of the network, with the bytes of the write that has ended. -/
abbrev Observed := NetworkEvent × List Bytes

def NetworkEvent.observe (client : ApiClient) (event : NetworkEvent) : Observed :=
  (event, match event with
    | .written _ _ => (client.writes.take 1).map (·.1)
    | _ => [])

def Connection.observe {Store : Type} (connection : Connection Store) (event : ConnectionEvent) :
    List Observed :=
  event.network.map fun event => event.observe connection.client

/-- What is observed of one connection. -/
def Server.observe {Store : Type} (number : Nat) (server : Server Store) :
    ServerEvent → List Observed
  | .network other event =>
      if other = number then server.clients[number]?.toList.map fun client => event.observe client
      else []
  | _ => []

/-- The timer has fired. -/
def NetworkEvent.isTick : NetworkEvent → Bool
  | .tick _ _ => true
  | _ => false

@[simp]
theorem NetworkEvent.network_onConnection (event : NetworkEvent) :
    event.onConnection.network = [event] := by
  cases event <;> rfl

/-- A handler of the server is a step of its connection. -/
theorem Connection.step_onConnection {Store : Type} {backend : Backend Store} {setup : Setup}
    {connection : Connection Store} {event : NetworkEvent} {later : ApiClient} {tasks : List Task}
    (handled : connection.client.handleNetwork setup event = some (later, tasks)) :
    ∃ received, (system backend setup).step connection event.onConnection =
      some { (connection.setClient later).putTasks tasks with received } := by
  have same : ∀ connection : Connection Store, connection.putTasks [] = connection := by
    intro connection
    unfold putTasks
    rw [List.append_nil]
  cases event with
  | request reply lookup now expired =>
      simp only [ApiClient.handleNetwork] at handled
      split at handled
      next => cases handled
      next reads outstanding =>
        split at handled
        next => cases handled
        next made =>
          cases handled
          refine ⟨connection.received ++ [later.requestDetails.resource], ?_⟩
          simp only [system, NetworkEvent.onConnection, readRequest, outstanding, made]
  | readError =>
      simp only [ApiClient.handleNetwork] at handled
      split at handled
      next => cases handled
      next reads outstanding =>
        cases handled
        refine ⟨connection.received, ?_⟩
        simp only [system, NetworkEvent.onConnection, Connection.readError, outstanding, same]
        rfl
  | tick now expired =>
      simp only [ApiClient.handleNetwork] at handled
      split at handled
      next => cases handled
      next timers waiting =>
        cases handled
        refine ⟨connection.received, ?_⟩
        simp only [system, NetworkEvent.onConnection, Connection.tick, waiting]
        rfl
  | written failed expired =>
      simp only [ApiClient.handleNetwork] at handled
      split at handled
      next => cases handled
      next write writes pending =>
        cases handled
        refine ⟨connection.received, ?_⟩
        simp only [system, NetworkEvent.onConnection, Connection.written, pending, same]
        rfl

namespace Server

variable {Store : Type} {backend : Backend Store} {setup : Setup} {server next : Server Store}
  {number : Nat} {connection : Connection Store}

/-- A call of a worker of the connection. -/
theorem handle_onConnection (storage : connection.storage = server.storage)
    (client : server.clients[number]? = some connection.client) (now : Int) (op : Effect) :
    (Shared.handle backend now op connection.pool.shared).1 =
        (handle backend number now op server).1 ∧
      (Shared.handle backend now op connection.pool.shared).2.storage =
        (handle backend number now op server).2.storage ∧
      (handle backend number now op server).2.clients[number]? =
        some (Shared.handle backend now op connection.pool.shared).2.client ∧
      (handle backend number now op server).2.queue = server.queue := by
  cases op with
  | db op =>
      have same : backend now op connection.pool.shared.storage =
          backend now op server.storage := congrArg (backend now op) storage
      exact ⟨congrArg Prod.fst same, congrArg Prod.snd same, client, rfl⟩
  | time => exact ⟨rfl, storage, client, rfl⟩
  | client call =>
      refine ⟨rfl, storage, ?_, rfl⟩
      simp [handle, Shared.handle, client]

/-- The connection makes a step that shows the same, or nothing is observed of
it. -/
def Moves (backend : Backend Store) (setup : Setup) (connection later : Connection Store)
    (observed : List Observed) : Prop :=
  (later = connection ∧ observed = []) ∨
    ∃ event, (Connection.system backend setup).step connection event = some later ∧
      connection.observe event = observed

/-- Every step of the server is one of the connection, or the connection does
not see it. -/
theorem Seen.step (seen : server.Seen number connection) {event : ServerEvent}
    (stepped : (system backend setup).step server event = some next) :
    ∃ later, Moves backend setup connection later (server.observe number event) ∧
      next.Seen number later := by
  obtain ⟨storage, client, queue, workers⟩ := seen
  have present : number < server.clients.length := (List.getElem?_eq_some_iff.mp client).1
  cases event with
  | accept command remoteAddr thread handshaken =>
      cases stepped
      refine ⟨connection, .inl ⟨rfl, rfl⟩, storage, ?_, queue, workers⟩
      simp only [Server.accept]
      rw [List.getElem?_append_left present]
      exact client
  | network other event =>
      obtain ⟨acting, later, tasks, found, -, handled, rfl⟩ := network_cases stepped
      by_cases mine : other = number
      · subst mine
        obtain rfl : connection.client = acting := Option.some.inj (client.symm.trans found)
        obtain ⟨received, moved⟩ := Connection.step_onConnection handled
        refine ⟨_, .inr ⟨event.onConnection, moved, ?_⟩, storage, ?_, ?_, workers⟩
        · simp [Connection.observe, Server.observe, client]
        · exact List.getElem?_set_self present
        · rw [putTasks_queue, own_append, own_of_self, ← queue]
          rfl
      · refine ⟨connection, .inl ⟨rfl, if_neg mine⟩, storage, ?_, ?_, workers⟩
        · exact (List.getElem?_set_ne mine).trans client
        · rw [putTasks_queue, own_append, own_of_other mine, List.append_nil, queue]
  | take =>
      obtain ⟨other, task, rest, items, rfl⟩ := take_cases stepped
      rw [items] at queue
      by_cases mine : other = number
      · subst mine
        rw [own_cons_self] at queue
        have taken : (Connection.system backend setup).step connection .take =
            some ⟨⟨connection.pool.shared, connection.workers ++
              [{ task, program := DatabaseWorker.processTask setup.sort task }]⟩,
              own other rest, connection.received⟩ := by
          simp only [Connection.system, Connection.takeTask, queue]
          rfl
        refine ⟨_, .inr ⟨.take, taken, rfl⟩, storage, client, rfl, ?_⟩
        rw [Worker.own_take_self, ← workers]
      · rw [own_cons_other mine] at queue
        refine ⟨connection, .inl ⟨rfl, rfl⟩, storage, client, queue, ?_⟩
        rw [Worker.own_take_other mine, ← workers]
  | work index now =>
      obtain ⟨worker, op, rest, found, shape, rfl⟩ := work_cases stepped
      by_cases mine : worker.task.1 = number
      · obtain ⟨place, held, moved⟩ := @Worker.own_set_self _ _ _ _ _ number _ _ _ ⟨worker.task,
          worker.history ++ [⟨op, (handle backend worker.task.1 now op server).1⟩],
          rest (handle backend worker.task.1 now op server).1⟩ found mine rfl
        obtain ⟨reply, stored, received, queued⟩ := @handle_onConnection Store backend server
          worker.task.1 connection storage (mine ▸ client) now op
        rw [← workers] at held moved
        have works : (Connection.system backend setup).step connection (.work place now) =
            some { connection with pool :=
              ⟨(Shared.handle backend now op connection.pool.shared).2, connection.workers.set place
                ⟨worker.task.2,
                  worker.history ++ [⟨op, (handle backend worker.task.1 now op server).1⟩],
                  rest (handle backend worker.task.1 now op server).1⟩⟩ } := by
          simp only [Connection.system, Connection.work, Connection.poolSystem, Pool.system, held,
            Worker.advance, Worker.forTask, shape, Option.map_some, reply]
        exact ⟨_, .inr ⟨.work place now, works, rfl⟩, stored, mine ▸ received,
          queue.trans (by rw [queued]), moved.symm⟩
      · have others := @Worker.own_set_other _ _ _ _ _ number _ _ _ ⟨worker.task,
          worker.history ++ [⟨op, (handle backend worker.task.1 now op server).1⟩],
          rest (handle backend worker.task.1 now op server).1⟩ found mine rfl
        rw [← others] at workers
        cases op with
        | db op =>
            refine ⟨_, .inr ⟨.other now op, rfl, rfl⟩, ?_, client, queue, workers⟩
            exact congrArg (fun storage => (backend now op storage).2) storage
        | time => exact ⟨connection, .inl ⟨rfl, rfl⟩, storage, client, queue, workers⟩
        | client made =>
            refine ⟨connection, .inl ⟨rfl, rfl⟩, storage, ?_, queue, workers⟩
            exact (List.getElem?_modify_ne _ _ mine).trans client

/-- A connection that `startAccept` has just handed over. -/
def Accepted (client : ApiClient) : Prop :=
  ∃ command remoteAddr reads, reads ≤ 1 ∧
    client = { requestDetails := { command }, remoteAddr, reads }

/-- The connection has run from its acceptance on, and what was observed of it
is what was observed of this connection of the server. -/
def Viewed (backend : Backend Store) (setup : Setup) (server : Server Store) (number : Nat)
    (past : List Observed) : Prop :=
  ∃ storage start steps connection, Accepted start ∧
    (Connection.system backend setup).run steps (.opened storage start) = some connection ∧
    (Connection.system backend setup).trace Connection.observe steps (.opened storage start) =
      past ∧
    server.Seen number connection

/-- Every accepted connection is viewed, and nothing is of any other. -/
structure Tracked (backend : Backend Store) (setup : Setup) (past : Nat → List Observed)
    (server : Server Store) : Prop where
  queue : ∀ task ∈ server.queue.items, task.1 < server.clients.length
  workers : ∀ worker ∈ server.workers, worker.task.1 < server.clients.length
  strangers : ∀ number, server.clients.length ≤ number → past number = []
  viewed : ∀ number < server.clients.length, server.Viewed backend setup number (past number)

/-- The connections that were there before. -/
theorem Viewed.step {past : List Observed} (viewed : server.Viewed backend setup number past)
    {event : ServerEvent} (stepped : (system backend setup).step server event = some next) :
    next.Viewed backend setup number (past ++ server.observe number event) := by
  obtain ⟨storage, start, steps, connection, accepted, ran, rfl, seen⟩ := viewed
  obtain ⟨later, ⟨rfl, nothing⟩ | ⟨move, moved, same⟩, seenLater⟩ := seen.step stepped
  · rw [nothing, List.append_nil]
    exact ⟨storage, start, steps, later, accepted, ran, rfl, seenLater⟩
  · refine ⟨storage, start, steps ++ [move], later, accepted,
      System.run_append ran (System.run_singleton moved), ?_, seenLater⟩
    rw [System.trace_append _ ran, System.trace_singleton _ moved, same]

/-- A connection that was just accepted has seen nothing yet. -/
theorem Tracked.viewed_accept {past : Nat → List Observed}
    (tracked : server.Tracked backend setup past) (command : Cmd) (remoteAddr : Bytes)
    (thread : Nat) (handshaken : Bool) :
    (server.accept command remoteAddr thread handshaken).Viewed backend setup
      server.clients.length [] := by
  refine ⟨server.storage, _, [], .opened server.storage _, ?_, rfl, rfl, rfl,
    List.getElem?_concat_length, ?_, ?_⟩
  · refine ⟨command, remoteAddr, if handshaken then 1 else 0, ?_, ?_⟩
    · split <;> omega
    · cases handshaken <;> rfl
  · exact (own_eq_nil fun task member => (tracked.queue task member).ne).symm
  · exact (Worker.own_eq_nil fun worker member => (tracked.workers worker member).ne).symm

/-- The call of a worker accepts no connection and leaves the queue. -/
theorem handle_keeps (owner : Nat) (now : Int) (op : Effect) :
    (handle backend owner now op server).2.clients.length = server.clients.length ∧
      (handle backend owner now op server).2.queue = server.queue := by
  cases op with
  | client call => exact ⟨List.length_modify _ _ _, rfl⟩
  | _ => exact ⟨rfl, rfl⟩

theorem Tracked.step {past : Nat → List Observed} (tracked : server.Tracked backend setup past)
    {event : ServerEvent} (stepped : (system backend setup).step server event = some next) :
    next.Tracked backend setup fun number => past number ++ server.observe number event := by
  have old : ∀ number < server.clients.length,
      next.Viewed backend setup number (past number ++ server.observe number event) :=
    fun number accepted => (tracked.viewed number accepted).step stepped
  have quiet : ∀ number, server.clients.length ≤ number →
      past number ++ server.observe number event = [] := by
    intro number unknown
    have none : server.observe number event = [] := by
      unfold observe
      split
      · rw [List.getElem?_eq_none unknown]
        split <;> rfl
      · rfl
    rw [tracked.strangers number unknown, none]
    rfl
  cases event with
  | accept command remoteAddr thread handshaken =>
      cases stepped
      have longer : (server.accept command remoteAddr thread handshaken).clients.length =
          server.clients.length + 1 := List.length_append
      refine ⟨?_, ?_, ?_, ?_⟩
      · exact fun task member => longer ▸ Nat.lt_succ_of_lt (tracked.queue task member)
      · exact fun worker member => longer ▸ Nat.lt_succ_of_lt (tracked.workers worker member)
      · exact fun number unknown => quiet number (by omega)
      · intro number accepted
        by_cases known : number < server.clients.length
        · exact old number known
        · obtain rfl : number = server.clients.length := by omega
          rw [quiet _ (Nat.le_refl _)]
          exact tracked.viewed_accept command remoteAddr thread handshaken
  | network number event =>
      obtain ⟨client, later, tasks, found, -, -, rfl⟩ := network_cases stepped
      have present : number < server.clients.length := (List.getElem?_eq_some_iff.mp found).1
      have length : (server.clients.set number later).length = server.clients.length :=
        List.length_set
      refine ⟨?_, ?_, ?_, ?_⟩
      · intro task member
        rw [putTasks_queue] at member
        show task.1 < (server.clients.set number later).length
        rw [length]
        rcases List.mem_append.mp member with queued | put
        · exact tracked.queue task queued
        · obtain ⟨added, -, rfl⟩ := List.mem_map.mp put
          exact present
      · exact fun worker member => length ▸ tracked.workers worker member
      · exact fun other unknown => quiet other (length ▸ unknown)
      · exact fun other accepted => old other (length ▸ accepted)
  | take =>
      obtain ⟨number, task, rest, items, rfl⟩ := take_cases stepped
      refine ⟨?_, ?_, fun other unknown => quiet other unknown, old⟩
      · exact fun other member => tracked.queue other (items ▸ List.mem_cons_of_mem _ member)
      · intro worker member
        rcases List.mem_append.mp member with taken | new
        · exact tracked.workers worker taken
        · rw [List.mem_singleton.mp new]
          exact tracked.queue (number, task) (items ▸ List.mem_cons_self)
  | work index now =>
      obtain ⟨worker, op, rest, found, -, rfl⟩ := work_cases stepped
      obtain ⟨length, queue⟩ := @handle_keeps _ backend server worker.task.1 now op
      refine ⟨?_, ?_, fun other unknown => quiet other (length ▸ unknown),
        fun other accepted => old other (length ▸ accepted)⟩
      · intro task member
        exact length.symm ▸ tracked.queue task (queue ▸ member)
      · intro other member
        rcases List.mem_or_eq_of_mem_set member with before | rfl
        · exact length.symm ▸ tracked.workers other before
        · exact length.symm ▸ tracked.workers worker (List.mem_of_getElem? found)

theorem Tracked.run {past : Nat → List Observed} {events : List ServerEvent}
    (tracked : server.Tracked backend setup past)
    (ran : (system backend setup).run events server = some next) :
    next.Tracked backend setup fun number =>
      past number ++ (system backend setup).trace (observe number) events server := by
  induction events generalizing server past with
  | nil =>
      cases ran
      simpa [System.trace] using tracked
  | cons event rest inductionHypothesis =>
      obtain ⟨middle, stepped, remaining⟩ := System.run_cons ran
      have whole := inductionHypothesis (tracked.step stepped) remaining
      simp only [List.append_assoc] at whole
      simpa only [System.trace_cons _ stepped] using whole

theorem tracked_started (backend : Backend Store) (setup : Setup) (storage : Store) :
    (started storage).Tracked backend setup fun _ => [] :=
  ⟨fun _ member => absurd member List.not_mem_nil, fun _ member => absurd member List.not_mem_nil,
    fun _ _ => rfl, fun _ accepted => absurd accepted (Nat.not_lt_zero _)⟩

end Server

/-- The timer has not fired. -/
def Calm (observed : List Observed) : Prop := ∀ event ∈ observed, event.1.isTick = false

instance (observed : List Observed) : Decidable (Calm observed) :=
  inferInstanceAs (Decidable (∀ event ∈ observed, event.1.isTick = false))

/-- Nothing but the timer makes a connection do two things at a time. -/
theorem Connection.TakesTurns.run {Store : Type} {backend : Backend Store} {setup : Setup}
    {connection later : Connection Store} {steps : List ConnectionEvent}
    (turns : connection.TakesTurns)
    (ran : (system backend setup).run steps connection = some later)
    (calm : Calm ((system backend setup).trace observe steps connection)) : later.TakesTurns := by
  induction steps generalizing connection with
  | nil =>
      cases ran
      exact turns
  | cons step rest inductionHypothesis =>
      obtain ⟨middle, stepped, remaining⟩ := System.run_cons ran
      rw [System.trace_cons _ stepped] at calm
      obtain ⟨first, others⟩ := List.forall_mem_append.mp calm
      refine inductionHypothesis (turns.step ?_ stepped) remaining others
      cases step with
      | tick now expired =>
          have fires := first ((NetworkEvent.tick now expired).observe connection.client)
            (List.mem_singleton_self _)
          cases fires
      | _ => rfl

open Server in
/-- The two pictures of the server, over any backend. In every run, whatever the
connections and the workers do at the same time, the storage is that of a pool of
workers with the tasks of the server; and each connection is in a state that it
comes to alone, in an environment that calls the storage, with its own tasks, and
shows the same. As long as no timer fires on it, it does one thing at a time. -/
theorem server_views {Store : Type} (backend : Backend Store) (setup : Setup) {initial : Store}
    {events : List ServerEvent} {server : Server Store}
    (ran : (Server.system backend setup).run events (started initial) = some server) :
    (backend.workers setup.sort).Reaches ⟨initial, []⟩ server.pool ∧
    (∀ worker ∈ server.workers, worker.task.1 < server.clients.length) ∧
    ∀ number < server.clients.length, ∃ storage start steps connection, Accepted start ∧
      (Connection.system backend setup).run steps (.opened storage start) = some connection ∧
      server.Seen number connection ∧
      (Connection.system backend setup).trace Connection.observe steps (.opened storage start) =
        (Server.system backend setup).trace (observe number) events (started initial) ∧
      (Calm ((Server.system backend setup).trace (observe number) events (started initial)) →
        connection.outstandingWork ≤ 1) := by
  have tracked := (tracked_started backend setup initial).run ran
  refine ⟨pool_reaches (System.reaches_of_run ran), tracked.workers, fun number accepted => ?_⟩
  obtain ⟨storage, start, steps, connection, isNew, replayed, same, seen⟩ :=
    tracked.viewed number accepted
  refine ⟨storage, start, steps, connection, isNew, replayed, seen, same, fun calm => ?_⟩
  obtain ⟨command, remoteAddr, reads, few, rfl⟩ := isNew
  have turns : Connection.TakesTurns (.opened storage
      { requestDetails := { command }, remoteAddr, reads }) :=
    ⟨few, fun worker member => absurd member List.not_mem_nil⟩
  exact (turns.run replayed (by rw [same]; exact calm)).single

/-- The body of a registration or a login. -/
def aliceDocument : Json :=
  .object [(bytes "user", .string (bytes "alice")), (bytes "password", .string (bytes "Passw0rd"))]

/-- The registration of alice, whose lookup has found no city. -/
def signingUp : NetworkEvent :=
  .request (postRequest (bytes "/v1/user/create") aliceDocument) (some (.ok [])) 5 0

/-- Two connections: alice registers on one, and logs in on the other while her
registration is being processed. -/
def signingIn : List ServerEvent :=
  [.accept .cmdLast [] 0 true, .accept .cmdLast [] 1 true,
    .network 1 (.request (postRequest (bytes "/v1/user/login") aliceDocument) none 5 0),
    .network 0 signingUp, .take, .take, .work 1 5, .work 0 5, .work 1 5, .work 0 6, .work 1 6,
    .work 0 6, .network 0 (.written false 0)]

abbrev signingInSystem : System (Server Storage) ServerEvent :=
  Server.system InMemory.backend ⟨parseWritten [aliceDocument], 8, .stable⟩

theorem server_views_two :
    ∃ server, signingInSystem.run signingIn (.started {}) = some server ∧
      server.storage.users.map (·.name) = [bytes "alice"] ∧
      server.clients.map (fun client => (client.reads, client.writes.length)) =
        [(1, 0), (0, 1)] ∧
      ∃ storage start steps connection,
        (Connection.system InMemory.backend ⟨parseWritten [aliceDocument], 8, .stable⟩).run steps
          (.opened storage start) = some connection ∧
        server.Seen 1 connection ∧ connection.outstandingWork ≤ 1 := by
  have shape : (signingInSystem.run signingIn (.started {})).map
      (fun server => (server.storage.users.map (·.name),
        server.clients.map fun client => (client.reads, client.writes.length))) =
      some ([bytes "alice"], [(1, 0), (0, 1)]) := by
    decide +kernel
  obtain ⟨server, ran, facts⟩ := Option.map_eq_some_iff.mp shape
  obtain ⟨users, clients⟩ := Prod.mk.inj facts
  have accepted : server.clients.length = 2 := by
    have counted := congrArg List.length clients
    rwa [List.length_map] at counted
  obtain ⟨-, -, each⟩ := server_views _ _ ran
  obtain ⟨storage, start, steps, connection, -, replayed, seen, -, turns⟩ := each 1 (by omega)
  exact ⟨server, ran, users, clients, storage, start, steps, connection, replayed, seen,
    turns (by decide +kernel)⟩

end GeoChat
