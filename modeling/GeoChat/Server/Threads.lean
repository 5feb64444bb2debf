import GeoChat.Common.Queue
import GeoChat.Server.Store.Invariant

/-!
# The threads of `DatabaseWorker`

`putTask` pushes a task into the queue, and each thread of `run` is in
`processQueue`: it polls the queue, processes the task that it got, and comes
back, until `g_NeedStop` is set. The interleavings of the workers over the
storage cover all that these threads can do.
-/

namespace GeoChat

open Library

namespace DatabaseWorker

/-- The queue, the storage and the threads. -/
abbrev Threads := Dispatch (Queue Task) Task Effect Effect.Reply Storage

abbrev ThreadEvent := DispatchEvent Task Int

/-- `putTask`, `processQueue` and the flag `g_NeedStop`. -/
abbrev threads (sort : TimestampSort) : System Threads ThreadEvent :=
  Dispatch.system Queue.fifo (processTask sort) InMemory.handle

/-- The state after `run` over an empty storage. -/
abbrev launched (count : Nat) : Threads := Dispatch.started {} {} count

end DatabaseWorker

open DatabaseWorker

/-- The threads keep to the schedules of the workers, and lose nothing: a task
that is put in is taken once, in the order of the queue, no more tasks are in
progress than there are threads, and unless they are told to stop the threads
can always serve all that is in the queue. -/
theorem threads_serve_queue {sort : TimestampSort} {count : Nat} {events : List ThreadEvent}
    {state : Threads} (ran : (threads sort).run events (launched count) = some state) :
    (∃ pool, (workers sort).Reaches ⟨{}, []⟩ pool ∧ pool.shared = state.shared ∧
      pool.workers.map (·.task) ++ state.queue.items = events.flatMap DispatchEvent.tasks ∧
      state.busy ⊆ pool.workers ∧
      (pool.workers.filter fun worker => !worker.finished).length ≤ state.busy.length) ∧
    state.busy.length ≤ count ∧
    (state.stopped = false → 0 < count → ∃ last,
      (threads sort).ReachesWithin (fun _ event => event.IsTurn) state last ∧
        last.busy = [] ∧ last.queue.items = []) := by
  have threadCount : state.threads.length = count :=
    (Dispatch.threads_of_reaches (System.reaches_of_run ran)).trans List.length_replicate
  have started : Dispatch.Serves Queue.fifo [] (launched count)
      (⟨{}, []⟩ : Pool Task Effect Effect.Reply Storage) := Dispatch.serves_started _ rfl
  obtain ⟨pool, reached, serves⟩ := started.run ran
  refine ⟨⟨pool, reached, serves.shared, serves.tasks, serves.progress.1, serves.progress.2⟩, ?_,
    fun goes threaded => Dispatch.turns_drain 0 goes (by omega)⟩
  exact threadCount ▸ List.reduceOption_length_le _

/-- Two users register at the same time. -/
def registering : List ThreadEvent :=
  [.put (createUserTask (bytes "alice")), .turn 0 1, .put (createUserTask (bytes "bob")),
    .turn 1 1, .turn 1 1, .turn 0 1, .turn 0 2, .turn 1 2, .turn 1 2, .turn 0 2, .turn 0 2]

theorem threads_serve_queue_two :
    ∃ state pool, (threads .stable).run registering (launched 2) = some state ∧
      state.shared.users.map (·.name) = [bytes "bob", bytes "alice"] ∧
      (workers .stable).Reaches ⟨{}, []⟩ pool ∧ pool.shared = state.shared ∧
      pool.workers.map (·.task) =
        [createUserTask (bytes "alice"), createUserTask (bytes "bob")] := by
  have shape : ((threads .stable).run registering (launched 2)).map
      (fun state : Threads => (state.shared.users.map (·.name), state.queue.items)) =
      some ([bytes "bob", bytes "alice"], []) := by
    decide +kernel
  obtain ⟨state, ran, facts⟩ := Option.map_eq_some_iff.mp shape
  obtain ⟨names, empty⟩ := Prod.mk.inj facts
  obtain ⟨⟨pool, reached, shared, taken, -⟩, -⟩ := threads_serve_queue ran
  rw [empty, List.append_nil] at taken
  exact ⟨state, pool, ran, names, reached, shared, taken⟩

end GeoChat
