import GeoChat.Protocol.Wire
import GeoChat.Server.Server

/-!
# Requests and replies of one connection

As long as its timer is silent a connection reads a request, has it served and
writes the reply before it reads the next, whatever happens on the others in the
meantime, and over any backend. Seen from outside it is a list of requests, each
with its reply.
-/

namespace GeoChat

open Library Program

/-- What the other side of a connection can tell. -/
inductive Visible where
  | received (request : HttpReply)
  | wrote (reply : Bytes)
  deriving DecidableEq

/-- The visible part of an observation. -/
def Observed.visible : Observed → List Visible
  | (.request reply _ _ _, _) => [.received reply]
  | (_, written) => written.map .wrote

/-- A registration was read, and its lookup has given no city. -/
def Unlocated (past : List Observed) (request : HttpReply) : Prop :=
  Utils.lowercased request.resource = bytes "/v1/user/create" ∧
    ∃ lookup now expired, (∀ city, lookup ≠ some (.ok city)) ∧
      (NetworkEvent.request request lookup now expired, []) ∈ past

theorem Unlocated.later {past : List Observed} {request : HttpReply}
    (unlocated : Unlocated past request) (more : List Observed) :
    Unlocated (past ++ more) request := by
  obtain ⟨resource, lookup, now, expired, noCity, asked⟩ := unlocated
  exact ⟨resource, lookup, now, expired, noCity, List.mem_append_left _ asked⟩

/-- A request with its reply, and the worker that served it if it made a task. -/
structure Exchanged where
  request : HttpReply
  reply : Bytes
  worker : Option TaskWorker

namespace Exchanged

variable (setup : Setup)

def shown (exchange : Exchanged) : List Visible :=
  [.received exchange.request, .wrote exchange.reply]

/-- The handler of the request comes to this client and these tasks. -/
def Handles (request : HttpReply) (later : ApiClient) (tasks : List Task) : Prop :=
  ∃ client lookup now expired, client.writes = [] ∧
    ApiClient.requestFromClientReadHandler setup.parse setup.passLen request lookup now expired
      client = .ok (later, tasks)

/-- The reply is that of the handler, or the one call of the worker with the task
of the request. -/
def Sound (exchange : Exchanged) : Prop :=
  ∃ later tasks, Handles setup exchange.request later tasks ∧
    match exchange.worker with
    | none => tasks = [] ∧ later.writes.map (·.1) = [exchange.reply]
    | some worker => tasks = [worker.task] ∧ worker.finished = true ∧
        ∃ call now, worker.history.flatMap clientCalls = [call] ∧
          exchange.reply = (call.message now).encode

/-- What the connection is at, with the request that has no reply yet and the
worker with its task. -/
inductive Stage (past : List Observed) :
    ApiClient → List Task → List HttpReply → List TaskWorker → Prop
  | reading {client : ApiClient} : client.writes = [] → client.reads ≤ 1 →
      Stage past client [] [] []
  | queued {client later : ApiClient} {request : HttpReply} {task : Task} : client.writes = [] →
      client.reads = 0 → Handles setup request later [task] → Stage past client [task] [request] []
  | serving {client later : ApiClient} {request : HttpReply} {worker : TaskWorker} :
      client.writes = [] → client.reads = 0 → Handles setup request later [worker.task] →
      DatabaseWorker.Concludes worker.program → worker.history.flatMap clientCalls = [] →
      Stage past client [] [request] [worker]
  | writing {client : ApiClient} {completion : Completion} {exchange : Exchanged} :
      client.writes = [(exchange.reply, completion)] → client.reads = 0 → exchange.Sound setup →
      Stage past client [] [exchange.request] exchange.worker.toList
  | unanswered {client : ApiClient} {request : HttpReply} : client.writes = [] →
      client.reads = 0 → Unlocated past request → Stage past client [] [request] []

/-- What has been visible are requests with their replies, and the last request
may be without. -/
structure Conversing {Store : Type} (connection : Connection Store) (past : List Observed)
    (exchanges : List Exchanged) (pending : List HttpReply) (current : List TaskWorker) :
    Prop where
  sound : ∀ exchange ∈ exchanges, exchange.Sound setup
  visible : past.flatMap Observed.visible =
    exchanges.flatMap shown ++ pending.map .received
  workers : connection.workers = exchanges.filterMap (·.worker) ++ current
  stage : Stage setup past connection.client connection.queue pending current

theorem length_visible (exchanges : List Exchanged) (pending : List HttpReply) :
    (exchanges.flatMap shown ++ pending.map Visible.received).length =
      exchanges.length * 2 + pending.length := by
  simp [shown, List.length_flatMap]

variable {Store : Type} {backend : Backend Store} {setup} {connection next : Connection Store}
  {past : List Observed} {exchanges : List Exchanged} {pending : List HttpReply}
  {current : List TaskWorker}

theorem Stage.later {client : ApiClient} {queue : List Task}
    (stage : Stage setup past client queue pending current) (more : List Observed) :
    Stage setup (past ++ more) client queue pending current := by
  cases stage with
  | reading quiet few => exact .reading quiet few
  | queued quiet idle handles => exact .queued quiet idle handles
  | serving quiet idle handles concludes silent =>
      exact .serving quiet idle handles concludes silent
  | writing writes idle answered => exact .writing writes idle answered
  | unanswered quiet idle unlocated => exact .unanswered quiet idle (unlocated.later more)

/-- The workers of the exchanges are at their end. -/
theorem finished_of_sound (sound : ∀ exchange ∈ exchanges, exchange.Sound setup) :
    ∀ worker ∈ exchanges.filterMap (·.worker), worker.finished = true := by
  intro worker member
  obtain ⟨exchange, memberExchange, isWorker⟩ := List.mem_filterMap.mp member
  obtain ⟨later, tasks, -, closed⟩ := sound exchange memberExchange
  simp only [isWorker] at closed
  exact closed.2.1

/-- The worker that makes a call is the current one, and it is the last. -/
theorem Conversing.acting (held : Conversing setup connection past exchanges pending current)
    {index : Nat} {worker : TaskWorker} (found : connection.workers[index]? = some worker)
    (goesOn : worker.finished = false) :
    ∃ later request, current = [worker] ∧ pending = [request] ∧ connection.queue = [] ∧
      index = (exchanges.filterMap (·.worker)).length ∧
      connection.client.writes = [] ∧ connection.client.reads = 0 ∧
      Handles setup request later [worker.task] ∧
      DatabaseWorker.Concludes worker.program ∧ worker.history.flatMap clientCalls = [] := by
  obtain ⟨sound, -, workers, stage⟩ := held
  have closed : ∀ other ∈ exchanges.filterMap (·.worker), other ≠ worker := by
    rintro other member rfl
    rw [finished_of_sound sound other member] at goesOn
    cases goesOn
  have among : index = (exchanges.filterMap (·.worker)).length + (index -
      (exchanges.filterMap (·.worker)).length) ∧
      current[index - (exchanges.filterMap (·.worker)).length]? = some worker := by
    rw [workers] at found
    by_cases early : index < (exchanges.filterMap (·.worker)).length
    · rw [List.getElem?_append_left early] at found
      exact absurd rfl (closed worker (List.mem_of_getElem? found))
    · rw [List.getElem?_append_right (by omega)] at found
      exact ⟨by omega, found⟩
  obtain ⟨place, here⟩ := among
  generalize connection.client = before, connection.queue = queue at stage ⊢
  cases stage with
  | reading => cases here
  | queued => cases here
  | @serving later request own quiet idle handles concludes silent =>
      obtain ⟨first, rfl⟩ : index - (exchanges.filterMap (·.worker)).length = 0 ∧ own = worker := by
        cases offset : index - (exchanges.filterMap (·.worker)).length with
        | zero =>
            rw [offset] at here
            exact ⟨rfl, Option.some.inj here⟩
        | succ more =>
            rw [offset] at here
            cases here
      refine ⟨later, request, rfl, rfl, rfl, by omega, quiet, idle, handles, concludes, silent⟩
  | @writing completion exchange _ _ isSound =>
      have ended := @finished_of_sound setup [exchange] (by simpa using isSound) worker
        (by simpa using List.mem_of_getElem? here)
      rw [ended] at goesOn
      cases goesOn
  | unanswered => cases here

/-- A request is answered at once, or its task is put into the queue, or the
connection gives it no reply. -/
theorem Conversing.request (held : Conversing setup connection past exchanges pending current)
    {reply : HttpReply} {lookup : Lookup} {now : Int} {expired : Nat}
    (stepped : connection.readRequest setup reply lookup now expired = some next) :
    ∃ pending current, Conversing setup next
      (past ++ [(.request reply lookup now expired, [])]) exchanges pending current := by
  obtain ⟨sound, visible, workers, stage⟩ := held
  obtain ⟨reads, client, tasks, reading, handled, rfl⟩ := Connection.readRequest_cases stepped
  generalize isClient : connection.client = before at stage
  generalize isQueue : connection.queue = queue at stage
  rw [isClient] at reading handled
  cases stage with
  | queued _ idle => omega
  | serving _ idle => omega
  | writing _ idle => omega
  | unanswered _ idle => omega
  | reading quiet few =>
      obtain rfl : reads = 0 := by omega
      have handles : Handles setup reply client tasks :=
        ⟨{ before with reads := 0 }, lookup, now, expired, quiet, handled⟩
      have shows : (past ++ [(NetworkEvent.request reply lookup now expired, [])]).flatMap
          Observed.visible = exchanges.flatMap shown ++ [reply].map .received := by
        rw [List.flatMap_append, visible]
        simp [Observed.visible]
      have direct : ∀ (bytes : Bytes) (completion : Completion), tasks = [] →
          client.writes = [(bytes, completion)] → client.reads = 0 → ∃ pending current,
          Conversing setup { (connection.setClient client).putTasks tasks with
            received := connection.received ++ [client.requestDetails.resource] }
            (past ++ [(.request reply lookup now expired, [])]) exchanges pending current := by
        rintro bytes completion rfl writes idle
        have answered : Sound setup ⟨reply, bytes, none⟩ :=
          ⟨client, [], handles, rfl, by rw [writes]; rfl⟩
        refine ⟨[reply], [], sound, shows, workers, ?_⟩
        show Stage setup _ client (connection.queue ++ []) _ _
        rw [List.append_nil, isQueue]
        exact @Stage.writing setup _ client completion ⟨reply, bytes, none⟩ writes idle answered
      cases ApiClient.requestFromClientReadHandler_handled handled with
      | refused => exact direct _ .responseToClientWrote rfl (congrArg (· ++ [_]) quiet) rfl
      | idle => exact direct _ .idleStarted rfl (congrArg (· ++ [_]) quiet) rfl
      | queued =>
          refine ⟨[reply], [], sound, shows, workers, ?_⟩
          show Stage setup _ _ (connection.queue ++ _) _ _
          rw [isQueue]
          exact .queued quiet rfl handles
      | unanswered _ routed noCity =>
          refine ⟨[reply], [], sound, shows, workers, ?_⟩
          show Stage setup _ _ (connection.queue ++ []) _ _
          rw [List.append_nil, isQueue]
          refine .unanswered quiet rfl ⟨ApiClient.route_resource (by decide) routed, lookup, now,
            expired, noCity, ?_⟩
          exact List.mem_append_right _ (List.mem_singleton_self _)

theorem Conversing.take (held : Conversing setup connection past exchanges pending current)
    (stepped : connection.takeTask backend setup = some next) :
    ∃ pending current, Conversing setup next past exchanges pending current := by
  obtain ⟨sound, shows, workers, stage⟩ := held
  obtain ⟨task, rest, waiting, rfl⟩ := Connection.takeTask_cases stepped
  generalize isQueue : connection.queue = queue at stage
  rw [isQueue] at waiting
  subst waiting
  cases stage with
  | @queued later request task quiet idle handles =>
      refine ⟨[request], [{ task, program := DatabaseWorker.processTask setup.sort task }], sound,
        shows, ?_, .serving quiet idle handles (DatabaseWorker.concludes_processTask _ _) rfl⟩
      rw [List.append_nil] at workers
      exact congrArg (· ++ [_]) workers

/-- A call of a worker is part of serving the request, or it is the reply. -/
theorem Conversing.work (held : Conversing setup connection past exchanges pending current)
    {index : Nat} {now : Int} (stepped : connection.work backend setup index now = some next) :
    ∃ pending current, Conversing setup next past exchanges pending current := by
  obtain ⟨worker, op, rest, found, shape, rfl⟩ := Connection.work_cases stepped
  obtain ⟨later, request, rfl, rfl, empty, place, quiet, idle, handles, concludes, silent⟩ :=
    held.acting found (Worker.not_finished shape)
  obtain ⟨sound, shows, workers, -⟩ := held
  rw [shape] at concludes
  have ends := concludes (Shared.handle backend now op connection.pool.shared).1
  have set : ∀ other : TaskWorker, connection.workers.set index other =
      exchanges.filterMap (·.worker) ++ [other] := by
    intro other
    rw [workers, place, List.set_append_right _ _ (Nat.le_refl _), Nat.sub_self]
    rfl
  cases op with
  | client call =>
      obtain ⟨result, done⟩ := ends.1 id
      obtain ⟨⟨completion, writes⟩, -⟩ := ApiClient.receive_writes now call connection.client
      rw [quiet, List.nil_append] at writes
      have reads : (connection.client.receive now call).reads = 0 := by
        cases call <;> exact idle
      have answered : Sound setup ⟨request, (call.message now).encode,
          some ⟨worker.task, worker.history ++ [⟨.client call, ()⟩], rest ()⟩⟩ := by
        refine ⟨later, [worker.task], handles, rfl, Worker.finished_of_done done, call, now, ?_,
          rfl⟩
        rw [List.flatMap_append, silent]
        rfl
      refine ⟨[request], [_], sound, shows, set _, ?_⟩
      show Stage setup past (connection.client.receive now call) connection.queue _ _
      rw [empty]
      exact @Stage.writing setup _ _ completion ⟨request, (call.message now).encode,
        some ⟨worker.task, worker.history ++ [⟨.client call, ()⟩], rest ()⟩⟩ writes reads answered
  | db op =>
      refine ⟨[request], [_], sound, shows, set _, ?_⟩
      show Stage setup past connection.client connection.queue _ _
      rw [empty]
      refine .serving quiet idle handles ends.2 ?_
      rw [List.flatMap_append, silent]
      rfl
  | time =>
      refine ⟨[request], [_], sound, shows, set _, ?_⟩
      show Stage setup past connection.client connection.queue _ _
      rw [empty]
      refine .serving quiet idle handles ends.2 ?_
      rw [List.flatMap_append, silent]
      rfl

/-- The reply has been written, and the exchange is complete. -/
theorem Conversing.written (held : Conversing setup connection past exchanges pending current)
    {failed : Bool} {expired : Nat}
    (stepped : connection.written failed expired = some next) :
    ∃ exchange, Conversing setup next
      (past ++ connection.observe (.written failed expired)) (exchanges ++ [exchange]) [] [] := by
  obtain ⟨sound, visible, workers, stage⟩ := held
  obtain ⟨write, writes, outstanding, rfl⟩ := Connection.written_cases stepped
  have shows : (connection.observe (.written failed expired)).flatMap Observed.visible =
      (connection.client.writes.take 1).map fun write => .wrote write.1 := by
    simp only [Connection.observe, ConnectionEvent.network, NetworkEvent.observe,
      Observed.visible, List.map_cons, List.map_nil, List.flatMap_singleton, List.map_map]
    rfl
  generalize connection.observe (.written failed expired) = observed at shows
  generalize isClient : connection.client = client at stage outstanding shows ⊢
  generalize isQueue : connection.queue = queue at stage
  cases stage with
  | reading quiet => simp [quiet] at outstanding
  | queued quiet => simp [quiet] at outstanding
  | serving quiet => simp [quiet] at outstanding
  | unanswered quiet => simp [quiet] at outstanding
  | @writing completion exchange only idle answered =>
      obtain ⟨rfl, rfl⟩ := List.cons.inj (outstanding.symm.trans only)
      refine ⟨exchange, ?_, ?_, ?_, ?_⟩
      · intro other member
        rcases List.mem_append.mp member with old | new
        · exact sound other old
        · rwa [List.mem_singleton.mp new]
      · rw [List.flatMap_append, visible, shows]
        simp [only, shown]
      · rw [List.append_nil, List.filterMap_append]
        refine workers.trans (congrArg _ ?_)
        obtain ⟨request, reply, worker⟩ := exchange
        cases worker <;> rfl
      · show Stage setup _ (ApiClient.complete completion failed expired
          { client with writes := [] }) connection.queue [] []
        rw [isQueue]
        cases completion with
        | responseToClientWrote => exact .reading rfl (by
            show client.reads + 1 ≤ 1
            omega)
        | idleStarted => exact .reading rfl (by
            show client.reads ≤ 1
            omega)
        | batchWrote maxTs =>
            cases failed <;> exact .reading rfl (by
              show client.reads ≤ 1
              omega)

/-- One step of a connection whose timer is silent. -/
theorem Conversing.step (held : Conversing setup connection past exchanges pending current)
    {event : ConnectionEvent} (calm : Calm (connection.observe event))
    (stepped : (Connection.system backend setup).step connection event = some next) :
    ∃ exchanges pending current, Conversing setup next (past ++ connection.observe event) exchanges
      pending current := by
  cases event with
  | request reply lookup now expired => exact ⟨exchanges, held.request stepped⟩
  | readError =>
      obtain ⟨reads, reading, rfl⟩ := Connection.readError_cases stepped
      refine ⟨exchanges, pending, current, held.sound, ?_, held.workers, ?_⟩
      · rw [List.flatMap_append, held.visible]
        exact List.append_nil _
      · have stage := held.stage.later (connection.observe .readError)
        generalize connection.observe .readError = observed at stage ⊢
        generalize isClient : connection.client = client at stage reading
        show Stage setup _ { client with reads } connection.queue pending current
        generalize connection.queue = queue at stage ⊢
        cases stage with
        | reading quiet few => exact .reading quiet (show reads ≤ 1 by omega)
        | queued _ idle => omega
        | serving _ idle => omega
        | writing _ idle => omega
        | unanswered _ idle => omega
  | tick now expired =>
      have fires := calm _ (List.mem_singleton_self _)
      cases fires
  | take =>
      rw [show connection.observe .take = [] from rfl, List.append_nil]
      exact ⟨exchanges, held.take stepped⟩
  | work index now =>
      rw [show connection.observe (.work index now) = [] from rfl, List.append_nil]
      exact ⟨exchanges, held.work stepped⟩
  | written failed expired =>
      obtain ⟨exchange, later⟩ := held.written stepped
      exact ⟨exchanges ++ [exchange], [], [], later⟩
  | other now op =>
      cases stepped
      rw [show connection.observe (.other now op) = [] from rfl, List.append_nil]
      exact ⟨exchanges, pending, current, held.sound, held.visible, held.workers, held.stage⟩

/-- A whole run of it. -/
theorem Conversing.run (held : Conversing setup connection past exchanges pending current)
    {steps : List ConnectionEvent}
    (calm : Calm ((Connection.system backend setup).trace Connection.observe steps connection))
    (ran : (Connection.system backend setup).run steps connection = some next) :
    ∃ exchanges pending current, Conversing setup next
      (past ++ (Connection.system backend setup).trace Connection.observe steps connection)
      exchanges pending current := by
  induction steps generalizing connection past exchanges pending current with
  | nil =>
      cases ran
      exact ⟨exchanges, pending, current, by simpa [System.trace] using held⟩
  | cons event rest inductionHypothesis =>
      obtain ⟨middle, stepped, remaining⟩ := System.run_cons ran
      rw [System.trace_cons _ stepped] at calm ⊢
      obtain ⟨first, others⟩ := List.forall_mem_append.mp calm
      obtain ⟨more, waiting, serving, held⟩ := held.step first stepped
      rw [← List.append_assoc]
      exact inductionHypothesis held others remaining

/-- At most one request waits for its reply, and only it is being served. -/
theorem Stage.single {client : ApiClient} {queue : List Task}
    (stage : Stage setup past client queue pending current) :
    pending.length ≤ 1 ∧ current.length ≤ 1 ∧
      ∀ worker ∈ current, ∃ request ∈ pending, ∃ later,
        Handles setup request later [worker.task] := by
  cases stage with
  | reading => simp
  | queued => simp
  | unanswered => simp
  | @serving later request worker _ _ handles =>
      refine ⟨Nat.le_refl _, Nat.le_refl _, fun other member => ?_⟩
      rw [List.mem_singleton.mp member]
      exact ⟨request, List.mem_singleton_self _, later, handles⟩
  | @writing completion exchange _ _ answered =>
      refine ⟨Nat.le_refl _, Option.length_toList_le, fun worker member => ?_⟩
      obtain ⟨later, tasks, handles, closed⟩ := answered
      simp only [Option.mem_toList.mp member] at closed
      exact ⟨_, List.mem_singleton_self _, later, closed.1 ▸ handles⟩

/-- A connection of the server on which no timer fires. -/
theorem conversing_of_run {initial : Store} {events : List ServerEvent} {server : Server Store}
    (ran : (Server.system backend setup).run events (.started initial) = some server)
    {number : Nat} (accepted : number < server.clients.length)
    (calm : Calm ((Server.system backend setup).trace (Server.observe number) events
      (.started initial))) :
    ∃ connection exchanges pending current, server.Seen number connection ∧
      Conversing setup connection
        ((Server.system backend setup).trace (Server.observe number) events (.started initial))
        exchanges pending current := by
  obtain ⟨storage, start, steps, connection, isNew, replayed, same, seen⟩ :=
    ((Server.tracked_started backend setup initial).run ran).viewed number accepted
  rw [List.nil_append] at same
  obtain ⟨command, remoteAddr, reads, few, rfl⟩ := isNew
  have begins : Conversing setup
      (.opened storage { requestDetails := { command }, remoteAddr, reads }) [] [] [] [] :=
    ⟨fun _ member => absurd member List.not_mem_nil, rfl, rfl, .reading rfl few⟩
  obtain ⟨exchanges, pending, current, held⟩ := begins.run (by rw [same]; exact calm) replayed
  rw [List.nil_append, same] at held
  exact ⟨connection, exchanges, pending, current, seen, held⟩

end Exchanged

open Exchanged in
/-- The replies on a connection are those to its requests. In every run of the
server, over any backend and with any number of connections and workers, what the
other side sees of a connection on which no timer fires are requests, each
followed by one reply: that of the handler, or the one call of the worker with
its task. At most one request has no reply yet, and no worker has a task of the
connection but these. -/
theorem server_answers_in_order {Store : Type} (backend : Backend Store) (setup : Setup)
    {initial : Store} {events : List ServerEvent} {server : Server Store}
    (ran : (Server.system backend setup).run events (.started initial) = some server)
    {number : Nat} (accepted : number < server.clients.length)
    (calm : Calm ((Server.system backend setup).trace (Server.observe number) events
      (.started initial))) :
    ∃ (exchanges : List Exchanged) (pending : List HttpReply) (current : List TaskWorker),
      (∀ exchange ∈ exchanges, exchange.Sound setup) ∧
      ((Server.system backend setup).trace (Server.observe number) events
        (.started initial)).flatMap Observed.visible =
        exchanges.flatMap shown ++ pending.map .received ∧
      Worker.own number server.workers = exchanges.filterMap (·.worker) ++ current ∧
      pending.length ≤ 1 ∧ current.length ≤ 1 ∧
      ∀ worker ∈ current, ∃ request ∈ pending, ∃ later,
        Handles setup request later [worker.task] := by
  obtain ⟨connection, exchanges, pending, current, seen, held⟩ :=
    conversing_of_run ran accepted calm
  exact ⟨exchanges, pending, current, held.sound, held.visible,
    seen.workers.symm.trans held.workers, held.stage.single⟩

/-- The registration of alice is answered while her login is being served. -/
theorem server_answers_in_order_signing_in :
    ∃ server exchange, signingInSystem.run signingIn (.started {}) = some server ∧
      Exchanged.Sound ⟨parseWritten [aliceDocument], 8, .stable⟩ exchange ∧
      (signingInSystem.trace (Server.observe 0) signingIn (.started {})).flatMap
        Observed.visible = exchange.shown ∧
      Worker.own 0 server.workers = exchange.worker.toList := by
  have shape : (signingInSystem.run signingIn (.started {})).map
      (fun server => server.clients.length) = some 2 := by
    decide +kernel
  obtain ⟨server, ran, accepted⟩ := Option.map_eq_some_iff.mp shape
  obtain ⟨exchanges, pending, current, sound, visible, workers, single, -, serving⟩ :=
    @server_answers_in_order _ _ _ _ _ _ ran 0 (by omega) (by decide +kernel)
  have total : ((signingInSystem.trace (Server.observe 0) signingIn (.started {})).flatMap
      Observed.visible).length = 2 := by
    decide +kernel
  rw [visible, Exchanged.length_visible] at total
  obtain ⟨exchange, rfl⟩ := List.length_eq_one_iff.mp (show exchanges.length = 1 by omega)
  obtain rfl : pending = [] := List.eq_nil_of_length_eq_zero (by omega)
  obtain rfl : current = [] := List.eq_nil_iff_forall_not_mem.mpr fun worker member => by
    obtain ⟨request, isPending, -⟩ := serving worker member
    cases isPending
  refine ⟨server, exchange, ran, sound exchange (List.mem_singleton_self _), ?_, ?_⟩
  · simpa using visible
  · rw [workers]
    obtain ⟨request, reply, worker⟩ := exchange
    cases worker <;> rfl

end GeoChat
