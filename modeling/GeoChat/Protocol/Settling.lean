import GeoChat.Library.Settling
import GeoChat.Protocol.Exchanges
import GeoChat.Server.Answers
import GeoChat.Server.Backends.Laws

/-!
# The server comes to rest

Between two events of the network the server takes its tasks, makes the calls of
its workers and ends its writes. This comes to an end in every order, and then
every request has its reply, but for those that no branch serves and those whose
lookup has given no city.
-/

namespace GeoChat

open Library Program

/-- The client has been told something, or the lookup is the reason why not. -/
def Spoken (history : History) : Prop := history.flatMap clientCalls ≠ [] ∨ SawStray history

theorem Spoken.later {history : History} (spoken : Spoken history) (made : History) :
    Spoken (history ++ made) := by
  rcases spoken with told | ⟨name, users, saw, stray⟩
  · refine .inl fun silent => told ?_
    rw [List.flatMap_append] at silent
    exact (List.append_eq_nil_iff.mp silent).1
  · exact .inr ⟨name, users, List.mem_append_left _ saw, stray⟩

namespace DatabaseWorker

/-- The program does not end before it has called the client. -/
abbrev Speaks {Result : Type} (program : Prog Result) : Prop :=
  ∀ history, program.Follows (fun _ _ => True) (fun _ _ => True) (fun later _ => Spoken later)
    history

variable {task : Task} {next : User → Prog Unit}

theorem speaks_bind {First : Type} (program : Prog First) {next : First → Prog Unit}
    (further : ∀ result, Speaks (next result)) : Speaks (program >>= next) := fun history =>
  .bind (((uses_trivial program).follows (fun _ _ _ => trivial) history).mono
    fun later result _ => further result later)

/-- The client is called, whatever comes after it. -/
theorem speaks_call (made : ClientCall) (next : Unit → Prog Unit) :
    Speaks (Program.perform (.client made) >>= next) := by
  intro history
  refine .perform trivial fun reply _ => ?_
  have spoken : Spoken (history ++ [⟨.client made, reply⟩]) := by
    refine .inl fun silent => ?_
    rw [List.flatMap_append] at silent
    cases (List.append_eq_nil_iff.mp silent).2
  refine ((uses_trivial (next reply)).follows (fun _ _ _ => trivial) _).mono ?_
  rintro later result ⟨more, rfl, -⟩
  exact spoken.later more

theorem speaks_client (made : ClientCall) : Speaks (Prog.client made) :=
  speaks_call made fun _ => pure ()

theorem speaks_guard (further : ∀ user, Speaks (next user)) :
    Speaks (do let user ← lookupCheckPass task; if user.id = 0 then pure () else next user) := by
  unfold lookupCheckPass
  simp only [Program.bind_assoc]
  refine speaks_bind _ fun user => ?_
  split
  · simp only [Program.bind_assoc]
    exact speaks_call _ _
  · split
    · simp only [Program.bind_assoc]
      exact speaks_call _ _
    next present _ =>
      simp only [pure_bind, present, if_false]
      exact further user

/-- The check by name is silent only if it has found a user of the id `0`. -/
theorem speaks_guardByName {name : Bytes} {checkPass : Bool}
    (further : ∀ user, Speaks (next user)) :
    Speaks (do
      let user ← lookupCheckPassByName name task checkPass
      if user.id = 0 then pure () else next user) := by
  unfold lookupCheckPassByName
  simp only [Program.bind_assoc]
  intro history
  refine .perform trivial fun users _ => ?_
  split
  · simp only [Program.bind_assoc]
    exact speaks_call _ _ _
  next user =>
    split
    · simp only [Program.bind_assoc]
      exact speaks_call _ _ _
    · simp only [pure_bind]
      split
      next stray => exact .inr ⟨name, [user], by simp, user, List.mem_singleton_self _, stray⟩
      next => exact further user _
  · simp only [Program.bind_assoc]
    exact speaks_call _ _ _

theorem speaks_answer (body : Int → Bytes) :
    Speaks (do let now ← Prog.time; Prog.client (.sendOkResponse (body now))) :=
  speaks_bind _ fun _ => speaks_client _

theorem speaks_storeMessage (userFrom chatTo : Nat) (text : Bytes) :
    Speaks (storeMessage userFrom chatTo text) :=
  speaks_bind _ fun _ => speaks_bind _ fun _ => speaks_client _

theorem speaks_processLocation (lookup : Prog (List Bytes)) (key missing : Bytes) :
    Speaks (processLocation task lookup key missing) := by
  refine speaks_guard fun user => speaks_bind _ fun items => ?_
  split
  · exact speaks_client _
  · exact speaks_answer _

/-- A task with a branch of its own is answered. -/
theorem speaks_processTask (sort : TimestampSort) (command : task.cmd ∈ served) :
    Speaks (processTask sort task) := by
  unfold processTask
  cases named : task.cmd with
  | userStatus => exact speaks_guard fun _ => speaks_guardByName fun _ => speaks_answer _
  | userHistory =>
      refine speaks_guard fun userFrom => speaks_guardByName fun userTo => ?_
      refine speaks_bind _ fun msgsTo => speaks_bind _ fun msgsFrom => ?_
      exact speaks_bind _ fun _ => speaks_client _
  | messageSend =>
      refine speaks_guard fun user => speaks_bind _ fun usersTo => ?_
      split
      · exact speaks_client _
      · exact speaks_storeMessage _ _ _
      · exact speaks_client _
  | userCreate =>
      refine speaks_bind _ fun user => ?_
      split
      · exact speaks_client _
      · exact speaks_answer _
  | userLogin => exact speaks_guardByName fun _ => speaks_answer _
  | chatCreate =>
      refine speaks_guard fun user => speaks_bind _ fun chat => ?_
      split
      · exact speaks_client _
      · exact speaks_answer _
  | chatAdduser =>
      refine speaks_guard fun user => speaks_guardByName fun toAdd => ?_
      refine speaks_bind _ fun chats => ?_
      split
      · exact speaks_bind _ fun _ => speaks_client _
      · exact speaks_client _
  | messageSendChat =>
      refine speaks_guard fun user => speaks_bind _ fun chats => ?_
      split
      · exact speaks_storeMessage _ _ _
      · exact speaks_client _
  | getLocations => exact speaks_processLocation _ _ _
  | chatWithLocation => exact speaks_processLocation _ _ _
  | idle | chatHistory | chatStatus | messageRecent | cmdLast =>
      rw [named] at command
      exact absurd command (by decide)

/-- In every schedule a worker that is through has told its client, if there is
a branch for its task. -/
theorem spoken_of_reaches {Store : Type} {backend : Backend Store} {sort : TimestampSort}
    {initial : Store} {pool : Pool Task Effect Effect.Reply Store}
    (reached : (backend.workers sort).Reaches ⟨initial, []⟩ pool)
    {worker : Worker Task Effect Effect.Reply} (member : worker ∈ pool.workers)
    (ended : worker.finished = true) (command : worker.task.cmd ∈ served) :
    Spoken worker.history := by
  have follows : ∀ task, (processTask sort task).Follows (fun _ _ => True)
      ((fun _ _ _ => True) task) (fun history _ => task.cmd ∈ served → Spoken history) [] := by
    intro task
    by_cases known : task.cmd ∈ served
    · exact (speaks_processTask sort known []).mono fun _ _ spoken _ => spoken
    · refine ((uses_trivial _).follows (fun _ _ _ => trivial) []).mono ?_
      exact fun _ _ _ branch => absurd branch known
  exact (Pool.justified reached follows (fun _ _ _ => trivial) worker member).accepted ended command

end DatabaseWorker

/-- The events for which nothing new has to come from the network. -/
def ServerEvent.isOwn : ServerEvent → Bool
  | .take | .work _ _ | .network _ (.written _ _) => true
  | _ => false

namespace Server

variable {Store : Type}

/-- One step that the server makes by itself. -/
abbrev Stirs (backend : Backend Store) (setup : Setup) : Server Store → Server Store → Prop :=
  (system backend setup).Stirs fun event => event.isOwn = true

/-- The server has nothing left to do. -/
abbrev Rests (backend : Backend Store) (setup : Setup) : Server Store → Prop :=
  (system backend setup).Rests fun event => event.isOwn = true

variable {backend : Backend Store} {setup : Setup} {server next : Server Store}
  {event : ServerEvent}

/-- What is left: tasks in the queue, calls of the workers, and writes. -/
def remaining (server : Server Store) : Nat × Multiset (Prog Unit) × Nat :=
  (server.queue.items.length, (server.workers.map (·.program) : List (Prog Unit)),
    (server.clients.map (·.writes.length)).sum)

/-- A task makes more calls, and a call may make a write. -/
def Less : Nat × Multiset (Prog Unit) × Nat → Nat × Multiset (Prog Unit) × Nat → Prop :=
  Prod.Lex (· < ·) (Prod.Lex (Relation.CutExpand Program.Left) (· < ·))

theorem wellFounded_less : WellFounded Less :=
  Nat.lt_wfRel.wf.prod_lex (Program.wellFounded_left.cutExpand.prod_lex Nat.lt_wfRel.wf)

theorem remaining_step (own : event.isOwn = true)
    (stepped : (system backend setup).step server event = some next) :
    Less next.remaining server.remaining := by
  cases event with
  | accept => cases own
  | take =>
      obtain ⟨number, task, rest, items, rfl⟩ := take_cases stepped
      refine .left _ _ ?_
      rw [items]
      exact Nat.lt_succ_self _
  | work index now =>
      obtain ⟨worker, op, rest, found, shape, rfl⟩ := work_cases stepped
      have queue : (handle backend worker.task.1 now op server).2.queue = server.queue := by
        cases op with
        | _ => rfl
      unfold remaining
      simp only [queue, List.map_set]
      refine .right _ (.left _ _ ?_)
      have making : (server.workers.map (·.program))[index]? = some (.call op rest) := by
        rw [List.getElem?_map, found, Option.map_some, shape]
      exact cutExpand_set making (.call _ _ _)
  | network number event =>
      cases event with
      | written failed expired =>
          obtain ⟨client, later, tasks, found, -, handled, rfl⟩ := network_cases stepped
          simp only [ApiClient.handleNetwork] at handled
          split at handled
          next => cases handled
          next write writes outstanding =>
            cases handled
            have fewer := sum_set found
              (ApiClient.complete write.2 failed expired { client with writes })
              (·.writes.length)
            have left : (ApiClient.complete write.2 failed expired
                { client with writes }).writes = writes := by
              cases write.2 with
              | batchWrote maxTs => cases failed <;> rfl
              | _ => rfl
            refine .right _ (.right _ ?_)
            rw [left, outstanding, List.length_cons] at fewer
            show ((server.clients.set number _).map (·.writes.length)).sum < _
            omega
      | _ => cases own

theorem wellFounded_stirs (backend : Backend Store) (setup : Setup) :
    WellFounded (Stirs backend setup) := by
  refine Subrelation.wf ?_ (InvImage.wf remaining wellFounded_less)
  rintro next server ⟨event, own, stepped⟩
  exact remaining_step own stepped

/-- The thread of the connection is held, or the connection has nothing to write. -/
def Written (server : Server Store) : Prop :=
  ∀ number client, server.clients[number]? = some client →
    server.thread number ∉ server.held → client.writes = []

/-- The server rests when nothing is queued, being processed or being written,
and only then. What a held thread has to write stays. -/
theorem rests_iff : Rests backend setup server ↔
    server.queue.items = [] ∧ (∀ worker ∈ server.workers, worker.finished = true) ∧
      server.Written := by
  constructor
  · intro rests
    refine ⟨?_, fun worker member => ?_, fun number client found free => ?_⟩
    · have none := rests .take rfl
      simp only [system, take, Option.map_eq_none_iff, Queue.getTask] at none
      split at none
      next empty => exact empty
      next => cases none
    · obtain ⟨index, found⟩ := List.mem_iff_getElem?.mp member
      have none := rests (.work index 0) rfl
      simp only [system, work, found, Option.map_eq_none_iff, Worker.advance] at none
      split at none
      next result shape => exact Worker.finished_of_done shape
      next => cases none
    · have none := rests (.network number (.written false 0)) rfl
      simp only [system, network, found, if_neg free, Option.map_eq_none_iff,
        ApiClient.handleNetwork] at none
      split at none
      next empty => exact empty
      next => cases none
  · rintro ⟨empty, ended, written⟩ event own
    -- a step would find something
    refine Option.eq_none_iff_forall_ne_some.mpr fun next stepped => ?_
    cases event with
    | accept => cases own
    | take =>
        obtain ⟨number, task, rest, items, -⟩ := take_cases stepped
        rw [empty] at items
        cases items
    | work index now =>
        obtain ⟨worker, op, rest, found, shape, -⟩ := work_cases stepped
        have through := ended worker (List.mem_of_getElem? found)
        rw [Worker.not_finished shape] at through
        cases through
    | network number event =>
        cases event with
        | written failed expired =>
            obtain ⟨client, later, tasks, found, free, handled, -⟩ := network_cases stepped
            simp only [ApiClient.handleNetwork, written number client found free] at handled
            cases handled
        | _ => cases own

/-- No timer fires by itself. -/
theorem calm_own (number : Nat) {events : List ServerEvent}
    (own : ∀ event ∈ events, event.isOwn = true) :
    Calm ((system backend setup).trace (observe number) events server) := by
  induction events generalizing server with
  | nil => exact fun _ member => absurd member List.not_mem_nil
  | cons event rest inductionHypothesis =>
      obtain ⟨first, others⟩ := List.forall_mem_cons.mp own
      intro observed member
      rcases List.mem_append.mp member with here | later
      · cases event with
        | network other event =>
            cases event with
            | written failed expired =>
                simp only [observe] at here
                split at here
                next =>
                  obtain ⟨client, -, rfl⟩ := List.mem_map.mp here
                  rfl
                next => cases here
            | _ => cases first
        | _ => cases here
      · split at later
        next => cases later
        next => exact inductionHypothesis others observed later

end Server

namespace Exchanged

variable {setup : Setup} {past : List Observed} {client : ApiClient} {queue : List Task}
  {pending : List HttpReply} {current : List TaskWorker}

/-- The two requests that get no reply: no branch serves the history of a group,
and a registration may have no city. -/
def Unserved (past : List Observed) (request : HttpReply) : Prop :=
  Utils.lowercased request.resource = bytes "/v1/group/history" ∨ Unlocated past request

/-- A task that a request makes has a branch, or the request is for the history
of a group. -/
theorem Handles.served {request : HttpReply} {later : ApiClient} {task : Task}
    (handles : Handles setup request later [task]) :
    task.cmd ∈ DatabaseWorker.served ∨
      Utils.lowercased request.resource = bytes "/v1/group/history" := by
  obtain ⟨before, lookup, now, expired, -, handled⟩ := handles
  generalize isTasks : [task] = tasks at handled
  cases ApiClient.requestFromClientReadHandler_handled handled with
  | refused => cases isTasks
  | idle => cases isTasks
  | unanswered => cases isTasks
  | queued _ routed _ =>
      obtain rfl := List.singleton_inj.mp isTasks
      refine (ApiClient.route_served routed).imp_right fun history => ?_
      exact ApiClient.route_resource (by decide) (history ▸ routed)

/-- When nothing is left to do, only a request that is not served is without a
reply. -/
theorem Stage.rest (stage : Stage setup past client queue pending current) (empty : queue = [])
    (written : client.writes = []) (ended : ∀ worker ∈ current, worker.finished = true)
    (spoken : ∀ worker ∈ current, worker.finished = true →
      worker.task.cmd ∈ DatabaseWorker.served → worker.history.flatMap clientCalls ≠ []) :
    pending = [] ∨ ∃ request, pending = [request] ∧ Unserved past request := by
  cases stage with
  | reading => exact .inl rfl
  | queued => cases empty
  | @serving later request worker _ _ handles _ silent =>
      have member := List.mem_singleton_self worker
      refine .inr ⟨request, rfl, .inl (handles.served.resolve_left fun branch => ?_)⟩
      exact spoken worker member (ended worker member) branch silent
  | writing writing =>
      rw [writing] at written
      cases written
  | @unanswered request _ _ unlocated => exact .inr ⟨request, rfl, .inr unlocated⟩

end Exchanged

open Exchanged in
/-- Every request is answered, in the end. After any run of the server, the
steps that it makes by itself come to an end, in whatever order they are made;
then nothing is queued or being processed, and only a connection whose thread is
held by a lookup has something to write. On any other on which no timer has fired
every request then has its reply, but for a last one for the history of a group or
for a registration whose lookup has given no city, as long as the storage has room
for users of other ids than `0`. -/
theorem server_settles {Store : Type} {backend : Backend Store} {initial : Store}
    {room : Store → Prop} (law : backend.NamesUsers initial room) (setup : Setup)
    {events : List ServerEvent} {server : Server Store}
    (ran : (Server.system backend setup).run events (.started initial) = some server) :
    (¬ ∃ states : Nat → Server Store, states 0 = server ∧
      ∀ index, Server.Stirs backend setup (states (index + 1)) (states index)) ∧
    (∃ more last, (∀ event ∈ more, event.isOwn = true) ∧
      (Server.system backend setup).run more server = some last ∧
      Server.Rests backend setup last) ∧
    ∀ {more : List ServerEvent} {last : Server Store}, (∀ event ∈ more, event.isOwn = true) →
      (Server.system backend setup).run more server = some last →
      Server.Rests backend setup last →
      (last.queue.items = [] ∧ (∀ worker ∈ last.workers, worker.finished = true) ∧
        last.Written) ∧
      (room last.storage → ∀ number < last.clients.length, last.thread number ∉ last.held →
        Calm ((Server.system backend setup).trace (Server.observe number) events
          (.started initial)) →
        ∃ (exchanges : List Exchanged) (pending : List HttpReply),
          (∀ exchange ∈ exchanges, exchange.Sound setup) ∧
          ((Server.system backend setup).trace (Server.observe number) (events ++ more)
            (.started initial)).flatMap Observed.visible =
            exchanges.flatMap shown ++ pending.map .received ∧
          (pending = [] ∨ ∃ request, pending = [request] ∧
            Unserved ((Server.system backend setup).trace (Server.observe number)
              (events ++ more) (.started initial)) request)) := by
  refine ⟨?_, System.exists_rests (Server.wellFounded_stirs backend setup) server, ?_⟩
  · rintro ⟨states, -, stirs⟩
    exact System.not_endless (Server.wellFounded_stirs backend setup) ⟨states, stirs⟩
  · intro more last own further rests
    obtain ⟨empty, ended, written⟩ := Server.rests_iff.mp rests
    refine ⟨⟨empty, ended, written⟩, fun roomy number accepted free calm => ?_⟩
    have whole := System.run_append ran further
    have quiet : Calm ((Server.system backend setup).trace (Server.observe number)
        (events ++ more) (.started initial)) := by
      rw [System.trace_append _ ran]
      exact List.forall_mem_append.mpr ⟨calm, Server.calm_own number own⟩
    obtain ⟨connection, exchanges, pending, current, seen, held⟩ :=
      conversing_of_run whole accepted quiet
    have among : ∀ worker ∈ current, worker ∈ last.pool.workers := by
      intro worker member
      have mine : worker ∈ Worker.own number last.workers := by
        rw [← seen.workers, held.workers]
        exact List.mem_append_right _ member
      exact Worker.own_subset mine
    have reached := Server.pool_reaches (System.reaches_of_run whole)
    refine ⟨exchanges, pending, held.sound, held.visible, held.stage.rest ?_ ?_ ?_ ?_⟩
    · rw [seen.queue, empty, own_nil]
    · exact written number _ seen.client free
    · intro worker member
      obtain ⟨other, present, rfl⟩ := List.mem_map.mp (among worker member)
      exact ended other present
    · intro worker member through branch
      have spoken := DatabaseWorker.spoken_of_reaches reached (among worker member) through branch
      exact spoken.resolve_right (law _ _ reached roomy worker (among worker member))

/-- What is left of the two connections when both tasks have been taken. -/
theorem server_settles_signing_in :
    ∃ server last, signingInSystem.run (signingIn.take 6) (.started {}) = some server ∧
      signingInSystem.run (signingIn.drop 6 ++ [.network 1 (.written false 0)]) server =
        some last ∧
      Server.Rests InMemory.backend ⟨parseWritten [aliceDocument], 8, .stable⟩ last ∧
      ∃ exchanges : List Exchanged, exchanges.length = 1 ∧
        ∀ exchange ∈ exchanges,
          Exchanged.Sound ⟨parseWritten [aliceDocument], 8, .stable⟩ exchange := by
  have shape : (signingInSystem.run (signingIn.take 6) (.started {})).bind (fun server =>
        (signingInSystem.run (signingIn.drop 6 ++ [.network 1 (.written false 0)]) server).map
          fun last =>
        (last.queue.items.length, last.workers.all (·.finished),
          last.clients.all (·.writes.isEmpty), last.storage.creations, last.clients.length,
          last.held.isEmpty)) =
      some (0, true, true, 1, 2, true) := by
    decide +kernel
  obtain ⟨server, ran, remaining⟩ := Option.bind_eq_some_iff.mp shape
  obtain ⟨last, further, facts⟩ := Option.map_eq_some_iff.mp remaining
  simp only [Prod.mk.injEq, List.all_eq_true, List.isEmpty_iff] at facts
  obtain ⟨empty, ended, written, few, accepted, free⟩ := facts
  have rests : Server.Rests InMemory.backend ⟨parseWritten [aliceDocument], 8, .stable⟩ last :=
    Server.rests_iff.mpr ⟨List.eq_nil_of_length_eq_zero empty, ended,
      fun _ client found _ => written client (List.mem_of_getElem? found)⟩
  obtain ⟨-, settled⟩ := (server_settles InMemory.namesUsers _ ran).2.2 (by decide) further rests
  obtain ⟨exchanges, pending, sound, visible, left⟩ :=
    settled (by omega) 1 (by omega) (by simp [free]) (by decide +kernel)
  have total : ((signingInSystem.trace (Server.observe 1)
      (signingIn.take 6 ++ (signingIn.drop 6 ++ [.network 1 (.written false 0)]))
      (.started {})).flatMap Observed.visible).length = 2 := by
    decide +kernel
  have few : pending.length ≤ 1 := by
    obtain rfl | ⟨request, rfl, -⟩ := left <;> simp
  rw [visible, Exchanged.length_visible] at total
  exact ⟨server, last, ran, further, rests, exchanges, by omega, sound⟩

end GeoChat
