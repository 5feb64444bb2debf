import GeoChat.Server.ApiClient

/-!
# A connection and its surroundings

The system around one `ApiClient`: the queue with the tasks of this connection,
the workers that process them, the storage, which any backend may be, and the
calls on it that other connections make. Handlers of the connection, calls of
the workers and calls of others interleave in any order.
-/

namespace GeoChat

open Library

/-- What the workers share with the connection. `batches` are the arguments of
the calls of `sendMessagesToIdleConn` so far. -/
structure Shared (Store : Type) where
  storage : Store
  client : ApiClient
  batches : List (List ApiMessage) := []

/-- The argument of a call of `sendMessagesToIdleConn`. -/
def ClientCall.batch : ClientCall → List (List ApiMessage)
  | .sendMessagesToIdleConn msgs => [msgs]
  | _ => []

/-- The calls of a worker, at the time `now` of the clock. -/
def Shared.handle {Store : Type} (backend : Backend Store) (now : Int) :
    Program.Handler Effect Effect.Reply (Shared Store)
  | .db op, shared =>
      let answered := backend now op shared.storage
      (answered.1, { shared with storage := answered.2 })
  | .time, shared => (now, shared)
  | .client call, shared =>
      ((), { shared with
        client := shared.client.receive now call
        batches := shared.batches ++ call.batch })

/-- The parameters of the server: the JSON parser, the option `pass_len` and
the order that `std::sort` leaves equal timestamps in. -/
structure Setup where
  parse : Bytes → Option Json
  passLen : Int
  sort : TimestampSort

/-- A worker with a task of this connection. -/
abbrev TaskWorker := Worker Task Effect Effect.Reply

/-- The state of the system. `received` are the resources of the requests that
were read. Finished workers stay, with the calls they made. -/
structure Connection (Store : Type) where
  pool : Pool Task Effect Effect.Reply (Shared Store)
  queue : List Task := []
  received : List Bytes := []

inductive ConnectionEvent where
  /-- A request is read. -/
  | request (reply : HttpReply) (lookup : Lookup) (now : Int) (expired : Nat)
  /-- A read ends with an error. -/
  | readError
  /-- A wait of the timer ends. -/
  | tick (now : Int) (expired : Nat)
  /-- A worker takes the first task. -/
  | take
  /-- The worker at `index` makes its next call. -/
  | work (index : Nat) (now : Int)
  /-- The first write ends. -/
  | written (failed : Bool) (expired : Nat)
  /-- A worker makes a call for another connection. -/
  | other (now : Int) (op : DbOp)

namespace Connection

variable {Store : Type}

abbrev storage (connection : Connection Store) : Store := connection.pool.shared.storage

abbrev client (connection : Connection Store) : ApiClient := connection.pool.shared.client

abbrev batches (connection : Connection Store) : List (List ApiMessage) :=
  connection.pool.shared.batches

abbrev workers (connection : Connection Store) : List TaskWorker := connection.pool.workers

/-- A connection without tasks. -/
def opened (storage : Store) (client : ApiClient) : Connection Store :=
  { pool := { shared := { storage, client }, workers := [] } }

/-- Replace the client. -/
def setClient (connection : Connection Store) (client : ApiClient) : Connection Store :=
  { connection with pool :=
    { connection.pool with shared := { connection.pool.shared with client } } }

def setStorage (connection : Connection Store) (storage : Store) : Connection Store :=
  { connection with pool :=
    { connection.pool with shared := { connection.pool.shared with storage } } }

def putTasks (connection : Connection Store) (tasks : List Task) : Connection Store :=
  { connection with queue := connection.queue ++ tasks }

section Steps

variable (backend : Backend Store) (setup : Setup)

/-- The workers, each with its task. -/
abbrev poolSystem : System (Pool Task Effect Effect.Reply (Shared Store)) (PoolEvent Task Int) :=
  Pool.system (DatabaseWorker.processTask setup.sort) (Shared.handle backend)

/-- A read request. An aborted process takes no further step. -/
def readRequest (connection : Connection Store) (reply : HttpReply) (lookup : Lookup) (now : Int)
    (expired : Nat) : Option (Connection Store) :=
  match connection.client.reads with
  | 0 => none
  | reads + 1 =>
      match ApiClient.requestFromClientReadHandler setup.parse setup.passLen reply lookup now
          expired { connection.client with reads } with
      | .error _ => none
      | .ok (client, tasks) =>
          some { (connection.setClient client).putTasks tasks with
            received := connection.received ++ [client.requestDetails.resource] }

def readError (connection : Connection Store) : Option (Connection Store) :=
  match connection.client.reads with
  | 0 => none
  | reads + 1 => some (connection.setClient { connection.client with reads })

def tick (connection : Connection Store) (now : Int) (expired : Nat) : Option (Connection Store) :=
  match connection.client.timers with
  | 0 => none
  | timers + 1 =>
      let handled := ApiClient.timerWaitTaskResultHandler now expired
        { connection.client with timers }
      some ((connection.setClient handled.1).putTasks [handled.2])

def takeTask (connection : Connection Store) : Option (Connection Store) :=
  match connection.queue with
  | [] => none
  | task :: queue =>
      ((poolSystem backend setup).step connection.pool (.take task)).map fun pool =>
        { connection with pool, queue }

def work (connection : Connection Store) (index : Nat) (now : Int) : Option (Connection Store) :=
  ((poolSystem backend setup).step connection.pool (.call index now)).map fun pool =>
    { connection with pool }

def written (connection : Connection Store) (failed : Bool) (expired : Nat) :
    Option (Connection Store) :=
  match connection.client.writes with
  | [] => none
  | write :: writes =>
      some (connection.setClient
        ({ connection.client with writes }.complete write.2 failed expired))

def system : System (Connection Store) ConnectionEvent where
  step connection
    | .request reply lookup now expired => connection.readRequest setup reply lookup now expired
    | .readError => connection.readError
    | .tick now expired => connection.tick now expired
    | .take => connection.takeTask backend setup
    | .work index now => connection.work backend setup index now
    | .written failed expired => connection.written failed expired
    | .other now op => some (connection.setStorage (backend now op connection.storage).2)

end Steps

section Cases

variable {backend : Backend Store} {setup : Setup} {connection next : Connection Store}

theorem readRequest_cases {reply : HttpReply} {lookup : Lookup} {now : Int} {expired : Nat}
    (stepped : connection.readRequest setup reply lookup now expired = some next) :
    ∃ reads client tasks, connection.client.reads = reads + 1 ∧
      ApiClient.requestFromClientReadHandler setup.parse setup.passLen reply lookup now expired
        { connection.client with reads } = .ok (client, tasks) ∧
      next = { (connection.setClient client).putTasks tasks with
        received := connection.received ++ [client.requestDetails.resource] } := by
  unfold readRequest at stepped
  split at stepped
  next => cases stepped
  next reads outstanding =>
    split at stepped
    next => cases stepped
    next client tasks handled =>
      exact ⟨reads, client, tasks, outstanding, handled, (Option.some.inj stepped).symm⟩

theorem readError_cases (stepped : connection.readError = some next) :
    ∃ reads, connection.client.reads = reads + 1 ∧
      next = connection.setClient { connection.client with reads } := by
  unfold readError at stepped
  split at stepped
  next => cases stepped
  next reads outstanding => exact ⟨reads, outstanding, (Option.some.inj stepped).symm⟩

theorem tick_cases {now : Int} {expired : Nat} (stepped : connection.tick now expired = some next) :
    ∃ timers, connection.client.timers = timers + 1 ∧
      next = (connection.setClient (ApiClient.timerWaitTaskResultHandler now expired
        { connection.client with timers }).1).putTasks
        [(ApiClient.timerWaitTaskResultHandler now expired
          { connection.client with timers }).2] := by
  unfold tick at stepped
  split at stepped
  next => cases stepped
  next timers waiting => exact ⟨timers, waiting, (Option.some.inj stepped).symm⟩

theorem takeTask_cases (stepped : connection.takeTask backend setup = some next) :
    ∃ task queue, connection.queue = task :: queue ∧
      next = { connection with
        queue
        pool := { connection.pool with
          workers := connection.workers ++
            [{ task, program := DatabaseWorker.processTask setup.sort task }] } } := by
  unfold takeTask at stepped
  split at stepped
  next => cases stepped
  next task queue waiting => exact ⟨task, queue, waiting, (Option.some.inj stepped).symm⟩

theorem work_cases {index : Nat} {now : Int}
    (stepped : connection.work backend setup index now = some next) :
    ∃ (worker : TaskWorker) (op : Effect) (rest : op.Reply → Prog Unit),
      connection.workers[index]? = some worker ∧ worker.program = .call op rest ∧
      next = { connection with pool :=
        { shared := (Shared.handle backend now op connection.pool.shared).2
          workers := connection.workers.set index
            ⟨worker.task,
              worker.history ++ [⟨op, (Shared.handle backend now op connection.pool.shared).1⟩],
              rest (Shared.handle backend now op connection.pool.shared).1⟩ } } := by
  rcases Option.map_eq_some_iff.mp stepped with ⟨pool, advanced, rfl⟩
  rcases Pool.step_cases advanced with ⟨_, impossible, _⟩ |
    ⟨_, _, worker, op, rest, same, found, shape, shared, workers⟩
  · cases impossible
  · cases same
    refine ⟨worker, op, rest, found, shape, ?_⟩
    rw [← shared, ← workers]

theorem written_cases {failed : Bool} {expired : Nat}
    (stepped : connection.written failed expired = some next) :
    ∃ write writes, connection.client.writes = write :: writes ∧
      next = connection.setClient
        ({ connection.client with writes }.complete write.2 failed expired) := by
  unfold written at stepped
  split at stepped
  next => cases stepped
  next write writes pending => exact ⟨write, writes, pending, (Option.some.inj stepped).symm⟩

end Cases

end Connection

end GeoChat
