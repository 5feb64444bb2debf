import GeoChat.Protocol.Exchanges
import GeoChat.Server.Backends.Laws

/-!
# What a reply to a message says

The messages in the storage are, connection by connection, those that the
requests of the connection have saved, but for those that the backend has lost.
The status line of a reply says whether its request has saved a message.
-/

namespace GeoChat

open Library Program

namespace DatabaseWorker

variable {Store : Type} {backend : Backend Store} {sort : TimestampSort} {initial : Store}
  {pool : Pool Task Effect Effect.Reply Store} {worker : Worker Task Effect Effect.Reply}

/-- In every schedule the workers report errors with the known codes only. -/
theorem known_of_reaches (reached : (backend.workers sort).Reaches ⟨initial, []⟩ pool)
    (member : worker ∈ pool.workers) : ∀ exchange ∈ worker.history, exchange.1.Known :=
  (Pool.uses_of_reaches (known_processTask sort) reached worker member).2

/-- In every schedule the workers record only what their tasks allow. -/
theorem justified_of_reaches {stored : Store → List Message} {form : Message → Message}
    {loses : Store → Bool} (law : backend.Stores stored form loses)
    (reached : (backend.workers sort).Reaches ⟨initial, []⟩ pool)
    (member : worker ∈ pool.workers) : worker.Justified Answered Recorded Concluded :=
  Pool.justified reached (recorded_processTask sort) law.handle_answered worker member

end DatabaseWorker

/-- The status line of a reply that reports no error. -/
def statusOk : Bytes := bytes "HTTP/1.1 200 OK"

theorem statusOk_okResponse (body : Bytes) : statusOk <+: buildApiOkResponse body := by
  refine ⟨crlf ++ (bytes "Content-Length: " ++ decimal body.length ++ crlf ++
    bytes "Content-Type: application/json\r\n" ++
    bytes "Access-Control-Allow-Origin: *\r\n" ++ crlf ++ body), ?_⟩
  have line : bytes "HTTP/1.1 200 OK\r\n" = statusOk ++ crlf := by decide
  simp only [buildApiOkResponse, line, List.append_assoc]

theorem not_statusOk_error {httpCode : Nat} (listed : httpCode ∈ ClientCall.errorCodes)
    (apiCode : ApiStatusCode) (desc : Bytes) :
    ¬ statusOk <+: buildApiErrorRsponse httpCode apiCode desc := by
  have lines : ∀ code ∈ ClientCall.errorCodes,
      statusOk.length ≤ (bytes "HTTP/1.1 " ++ httpCodeToString code).length ∧
        ¬ statusOk <+: bytes "HTTP/1.1 " ++ httpCodeToString code := by
    decide +kernel
  obtain ⟨long, other⟩ := lines httpCode listed
  have front : bytes "HTTP/1.1 " ++ httpCodeToString httpCode <+:
      buildApiErrorRsponse httpCode apiCode desc := by
    unfold buildApiErrorRsponse
    simp only [List.append_assoc]
    exact List.prefix_append_right_inj _ |>.mpr (List.prefix_append _ _)
  exact fun ok => other (List.prefix_of_prefix_length_le ok front long)

namespace Exchanged

variable {setup : Setup} {exchange : Exchanged}

/-- A worker has saved one message, as its task asks for it, if the task sends
one and the reply is no error, and none otherwise. -/
def Receipted (exchange : Exchanged) : Prop :=
  ∀ worker, exchange.worker = some worker →
    (worker.task.Sends ∧ statusOk <+: exchange.reply →
      ∃ msg, worker.total savedMessages = [msg] ∧ Backed worker.task worker.history msg) ∧
    (¬ (worker.task.Sends ∧ statusOk <+: exchange.reply) → worker.total savedMessages = [])

/-- The worker with the task of a request keeps to it. -/
theorem Sound.receipted (sound : exchange.Sound setup)
    (justified : ∀ worker, exchange.worker = some worker →
      worker.Justified Answered Recorded Concluded ∧
        ∀ exchange ∈ worker.history, exchange.1.Known) : exchange.Receipted := by
  intro worker isWorker
  obtain ⟨later, tasks, -, closed⟩ := sound
  simp only [isWorker] at closed
  obtain ⟨-, ended, call, now, told, reply⟩ := closed
  obtain ⟨keeps, known⟩ := justified worker isWorker
  have backed := backed_of_made keeps.made
  by_cases sends : worker.task.Sends
  · have concluded := keeps.accepted ended sends
    rw [told] at concluded
    rcases concluded with ⟨isOk, one⟩ | ⟨error, isError, isCall, none⟩
    · -- the message was saved
      obtain rfl : call = .sendOkResponse statusZero := by simpa using isOk
      have ok : statusOk <+: exchange.reply := reply ▸ statusOk_okResponse statusZero
      obtain ⟨msg, saved⟩ := List.length_eq_one_iff.mp one
      refine ⟨fun _ => ⟨msg, saved, backed msg ?_⟩, fun failed => absurd ⟨sends, ok⟩ failed⟩
      exact List.mem_of_mem_head? (by rw [saved]; rfl)
    · -- an error was reported
      refine ⟨?_, fun _ => none⟩
      rintro ⟨-, ok⟩
      obtain rfl := List.singleton_inj.mp isCall
      cases call with
      | sendErrorResponse httpCode apiCode desc =>
          have listed := DatabaseWorker.known_of_clientCalls known
            (told ▸ List.mem_singleton_self _)
          rw [reply] at ok
          exact absurd ok (not_statusOk_error listed apiCode desc)
      | _ => cases isError
  · refine ⟨fun acknowledged => absurd acknowledged.1 sends, fun _ => ?_⟩
    refine List.eq_nil_iff_forall_not_mem.mpr fun msg saved => ?_
    exact sends (backed msg saved).2.1.sends

end Exchanged

namespace Server

variable {Store : Type} {backend : Backend Store} {setup : Setup} {server next : Server Store}
  {stored : Store → List Message} {form : Message → Message} {loses : Store → Bool}

/-- The message that the next call of a worker loses. -/
def lost (form : Message → Message) (loses : Store → Bool) (server : Server Store) :
    ServerEvent → List Message
  | .work index _ =>
      match server.workers[index]? with
      | some ⟨_, _, .call effect _⟩ => effect.loses form (loses server.storage)
      | _ => []
  | _ => []

/-- The messages that the workers have saved, as they are stored. -/
def saved (form : Message → Message) (server : Server Store) : List Message :=
  (server.workers.flatMap (Worker.total savedMessages)).map form

/-- A step stores and loses what it saves. -/
theorem saved_step (law : backend.Stores stored form loses) {event : ServerEvent}
    (stepped : (system backend setup).step server event = some next) :
    ∃ added, (next.saved form).Perm (server.saved form ++ added) ∧
      stored next.storage ++ server.lost form loses event = stored server.storage ++ added := by
  have nothing : next.storage = server.storage → next.saved form = server.saved form →
      server.lost form loses event = [] → ∃ added,
      (next.saved form).Perm (server.saved form ++ added) ∧
        stored next.storage ++ server.lost form loses event = stored server.storage ++ added := by
    intro storage same none
    refine ⟨[], ?_, by rw [storage, none]⟩
    rw [same, List.append_nil]
  cases event with
  | accept command remoteAddr thread handshaken =>
      cases stepped
      exact nothing rfl rfl rfl
  | network number event =>
      obtain ⟨client, later, tasks, -, -, -, rfl⟩ := network_cases stepped
      exact nothing rfl rfl rfl
  | take =>
      obtain ⟨number, task, rest, -, rfl⟩ := take_cases stepped
      refine nothing rfl ?_ rfl
      unfold saved
      simp [Worker.total]
  | work index now =>
      obtain ⟨worker, op, rest, found, shape, rfl⟩ := work_cases stepped
      have total := (Pool.flatMap_total_set savedMessages found
        ⟨op, (handle backend worker.task.1 now op server).1⟩
        (rest (handle backend worker.task.1 now op server).1)).map form
      rw [List.map_append] at total
      refine ⟨_, total, ?_⟩
      have calls : server.lost form loses (.work index now) =
          op.loses form (loses server.storage) := by
        obtain ⟨task, history, program⟩ := worker
        cases shape
        simp only [lost, found]
      rw [calls]
      cases op with
      | db op =>
          rw [← DbOp.adds_loses form (loses server.storage), ← List.append_assoc]
          exact congrArg (· ++ _) (law.adds now op server.storage)
      | time => rfl
      | client call => rfl

/-- In a whole run what was saved is stored or lost. -/
theorem saved_run (law : backend.Stores stored form loses) {past : List Message}
    {events : List ServerEvent}
    (balanced : (stored server.storage ++ past).Perm (server.saved form))
    (ran : (system backend setup).run events server = some next) :
    (stored next.storage ++ (past ++ (system backend setup).trace (lost form loses) events
      server)).Perm (next.saved form) := by
  induction events generalizing server past with
  | nil =>
      cases ran
      simpa [System.trace] using balanced
  | cons event rest inductionHypothesis =>
      obtain ⟨middle, stepped, remaining⟩ := System.run_cons ran
      obtain ⟨added, total, same⟩ := saved_step law stepped
      rw [System.trace_cons _ stepped, ← List.append_assoc past]
      refine inductionHypothesis ?_ remaining
      -- what was lost before goes behind what this step adds
      have ordered : (stored middle.storage ++ (past ++ server.lost form loses event)).Perm
          (stored server.storage ++ past ++ added) := by
        refine (List.perm_append_comm.append_left _).trans ?_
        rw [← List.append_assoc, same, List.append_assoc, List.append_assoc]
        exact List.perm_append_comm.append_left _
      exact (ordered.trans (balanced.append_right _)).trans total.symm

end Server

open Exchanged in
/-- What the status line of a reply says. In every run of the server over a
backend that stores a message or loses it, what is stored and what was lost
are, up to flags and order, the messages that the requests of the connections
have saved, each once. On a connection on which no timer fires, a request has
saved its message, as it was asked for, if the reply starts with the line of
success, and has saved none if it does not. -/
theorem server_keeps_messages {Store : Type} {backend : Backend Store}
    {stored : Store → List Message} {form : Message → Message} {loses : Store → Bool}
    (law : backend.Stores stored form loses) (setup : Setup) {initial : Store}
    (empty : stored initial = []) {events : List ServerEvent} {server : Server Store}
    (ran : (Server.system backend setup).run events (.started initial) = some server) :
    (stored server.storage ++ (Server.system backend setup).trace (Server.lost form loses) events
      (.started initial)).Perm
      (((List.range server.clients.length).flatMap fun number =>
        (Worker.own number server.workers).flatMap (Worker.total savedMessages)).map form) ∧
    ∀ number < server.clients.length,
      Calm ((Server.system backend setup).trace (Server.observe number) events
        (.started initial)) →
      ∃ (exchanges : List Exchanged) (pending : List HttpReply) (current : List TaskWorker),
        ((Server.system backend setup).trace (Server.observe number) events
          (.started initial)).flatMap Observed.visible =
          exchanges.flatMap shown ++ pending.map .received ∧
        Worker.own number server.workers = exchanges.filterMap (·.worker) ++ current ∧
        pending.length ≤ 1 ∧ current.length ≤ 1 ∧
        ∀ exchange ∈ exchanges, exchange.Sound setup ∧ exchange.Receipted := by
  refine ⟨?_, fun number accepted calm => ?_⟩
  · have known : ∀ worker ∈ server.workers,
        worker.task.1 ∈ List.range server.clients.length := fun worker member =>
      List.mem_range.mpr
        (((Server.tracked_started backend setup initial).run ran).workers worker member)
    have parts := ((Worker.own_perm List.nodup_range known).flatMap_right
      (Worker.total savedMessages)).map form
    rw [List.flatMap_assoc, List.flatMap_map] at parts
    have begins : (stored (Server.started initial).storage ++ []).Perm
        ((Server.started initial).saved form) := by
      rw [List.append_nil]
      exact .of_eq empty
    exact (Server.saved_run law begins ran).trans parts.symm
  · have reached := Server.pool_reaches (System.reaches_of_run ran)
    obtain ⟨connection, exchanges, pending, current, seen, held⟩ :=
      conversing_of_run ran accepted calm
    have workers := seen.workers.symm.trans held.workers
    refine ⟨exchanges, pending, current, held.visible, workers, held.stage.single.1,
      held.stage.single.2.1, fun exchange member => ⟨held.sound exchange member, ?_⟩⟩
    refine (held.sound exchange member).receipted fun worker isWorker => ?_
    have mine : worker ∈ Worker.own number server.workers := by
      rw [workers]
      exact List.mem_append_left _ (List.mem_filterMap.mpr ⟨exchange, member, isWorker⟩)
    have present := Worker.own_subset mine
    exact ⟨DatabaseWorker.justified_of_reaches law reached present,
      DatabaseWorker.known_of_reaches reached present⟩

/-- A note to alice herself. -/
def noteDocument (password : Bytes) : Json :=
  (ApiRequest.messageSend 1 (bytes "alice") (bytes "milk") password).document

def noting (password : Bytes) : NetworkEvent :=
  .request (postRequest (bytes "/v1/message/send") (noteDocument password)) none 6 0

/-- Alice registers and writes to herself twice, while somebody on another
connection guesses her password. -/
def notes : List ServerEvent :=
  [.accept .cmdLast [] 0 true, .accept .cmdLast [] 1 true, .network 0 signingUp,
    .take, .work 0 5, .work 0 5, .work 0 5, .network 0 (.written false 0),
    .network 0 (noting (bytes "Passw0rd")), .network 1 (noting (bytes "password")),
    .take, .take, .work 1 6, .work 2 6, .work 1 6, .work 2 6, .work 1 7, .work 1 7, .work 1 7,
    .network 0 (.written false 0), .network 1 (.written false 0),
    .network 0 (noting (bytes "Passw0rd")), .take, .work 3 8, .work 3 8, .work 3 8, .work 3 8,
    .work 3 8, .network 0 (.written false 0)]

/-- MySQL, whose second `INSERT INTO message` raises. -/
abbrev notesSystem : System (Server Mysql) ServerEvent :=
  Server.system (Mysql.backend fun executed => executed = 12)
    ⟨parseWritten [aliceDocument, noteDocument (bytes "Passw0rd"),
      noteDocument (bytes "password")], 8, .stable⟩

theorem server_keeps_messages_notes :
    ∃ server, notesSystem.run notes (.started {}) = some server ∧
      server.storage.stored.map (·.message) = [bytes "milk"] ∧
      (notesSystem.trace (Server.lost Mysql.rowForm fun mysql => mysql.executed = 12) notes
        (.started {})).map (·.message) = [bytes "milk"] ∧
      (∃ exchanges : List Exchanged, exchanges.length = 3 ∧
        ∀ exchange ∈ exchanges, exchange.Receipted) ∧
      ∃ exchanges : List Exchanged, exchanges.length = 1 ∧
        ∀ exchange ∈ exchanges, exchange.Receipted := by
  have shape : (notesSystem.run notes (.started {})).map (fun server =>
      (server.storage.stored.map (·.message), server.clients.length)) =
      some ([bytes "milk"], 2) := by
    decide +kernel
  obtain ⟨server, ran, facts⟩ := Option.map_eq_some_iff.mp shape
  obtain ⟨stored, accepted⟩ := Prod.mk.inj facts
  have each : ∀ number < 2, ∃ exchanges : List Exchanged, exchanges.length = 3 - number * 2 ∧
      ∀ exchange ∈ exchanges, exchange.Receipted := by
    intro number known
    have calm : ∀ number < 2,
        Calm (notesSystem.trace (Server.observe number) notes (.started {})) := by
      decide +kernel
    obtain ⟨exchanges, pending, current, visible, -, few, -, each⟩ :=
      (server_keeps_messages (Mysql.stores _) _ rfl ran).2 number (by omega) (calm number known)
    have total : ∀ number < 2, ((notesSystem.trace (Server.observe number) notes
        (.started {})).flatMap Observed.visible).length = (3 - number * 2) * 2 := by
      decide +kernel
    have counted := total number known
    rw [visible, Exchanged.length_visible] at counted
    exact ⟨exchanges, by omega, fun exchange member => (each exchange member).2⟩
  exact ⟨server, ran, stored, by decide +kernel, each 0 (by omega), each 1 (by omega)⟩

end GeoChat
