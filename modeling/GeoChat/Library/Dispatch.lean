import Mathlib.Data.List.Perm.Basic
import Mathlib.Data.List.ReduceOption
import GeoChat.Library.Program

/-!
# Threads that serve a queue

A fixed number of threads, each of which takes the oldest task of a queue, runs
its program to the end, one call at a time, and comes back for the next. Every
run of the threads is a run of a pool that took the same tasks.
-/

namespace GeoChat.Library

variable {Store Task Op State Choice : Type} {Reply : Op → Type}

/-- A store that gives its items back in the order in which it got them. -/
structure Fifo (Store Task : Type) where
  push : Store → Task → Store
  getTask : Store → Option (Task × Store)
  contents : Store → List Task
  contents_push : ∀ store task, contents (push store task) = contents store ++ [task]
  getTask_eq : ∀ store, (getTask store).map (fun taken => (taken.1, contents taken.2)) =
    match contents store with
    | [] => none
    | task :: rest => some (task, rest)

namespace Fifo

variable (fifo : Fifo Store Task) {store rest : Store} {task : Task}

theorem contents_of_none (empty : fifo.getTask store = none) : fifo.contents store = [] := by
  have law := fifo.getTask_eq store
  rw [empty] at law
  split at law
  next none => exact none
  next => cases law

theorem contents_of_some (taken : fifo.getTask store = some (task, rest)) :
    fifo.contents store = task :: fifo.contents rest := by
  have law := fifo.getTask_eq store
  rw [taken] at law
  split at law
  next => cases law
  next head tail contents =>
    obtain ⟨rfl, rfl⟩ := Prod.mk.inj (Option.some.inj law)
    exact contents

end Fifo

/-- The queue, the state that the threads share, and what each thread is at:
the task that it serves, or the head of its loop. -/
structure Dispatch (Store Task Op : Type) (Reply : Op → Type) (State : Type) where
  queue : Store
  stopped : Bool := false
  shared : State
  threads : List (Option (Worker Task Op Reply))

/-- A task is put into the queue, the threads are told to stop, or the thread at
`index` goes on. -/
inductive DispatchEvent (Task Choice : Type) where
  | put (task : Task)
  | stop
  | turn (index : Nat) (choice : Choice)

/-- The tasks that an event puts into the queue. -/
def DispatchEvent.tasks : DispatchEvent Task Choice → List Task
  | .put task => [task]
  | _ => []

theorem Worker.finished_of_stays {handle : Program.Handler Op Reply State}
    {worker : Worker Task Op Reply} {state : State} (stays : worker.advance handle state = none) :
    worker.finished = true := by
  unfold Worker.advance at stays
  split at stays
  next result shape => exact Worker.finished_of_done shape
  next => cases stays

/-- A thread goes on. -/
def DispatchEvent.IsTurn : DispatchEvent Task Choice → Prop
  | .turn _ _ => True
  | _ => False

namespace Dispatch

/-- A thread at the head of its loop ends if it was told to, else it polls the
queue. A thread whose program is at its end goes back to the head. -/
def system (fifo : Fifo Store Task) (program : Task → Program Op Reply Unit)
    (handle : Choice → Program.Handler Op Reply State) :
    System (Dispatch Store Task Op Reply State) (DispatchEvent Task Choice) where
  step state
    | .put task => some { state with queue := fifo.push state.queue task }
    | .stop => some { state with stopped := true }
    | .turn index choice =>
        match state.threads[index]? with
        | none => none
        | some none =>
            if state.stopped then none
            else match fifo.getTask state.queue with
            | none => some state
            | some (task, rest) => some { state with
                queue := rest
                threads := state.threads.set index (some { task, program := program task }) }
        | some (some worker) =>
            match worker.advance (handle choice) state.shared with
            | none => some { state with threads := state.threads.set index none }
            | some (later, shared) => some { state with
                shared, threads := state.threads.set index (some later) }

/-- The tasks in progress. -/
def busy (state : Dispatch Store Task Op Reply State) : List (Worker Task Op Reply) :=
  state.threads.reduceOption

/-- Before the first task. -/
def started (queue : Store) (shared : State) (threads : Nat) :
    Dispatch Store Task Op Reply State :=
  { queue, shared, threads := List.replicate threads none }

/-- A thread among the others. -/
theorem busy_set {threads : List (Option (Worker Task Op Reply))} {index : Nat}
    {thread : Option (Worker Task Op Reply)} (found : threads[index]? = some thread) :
    ∃ others, threads.reduceOption.Perm (thread.toList ++ others) ∧
      ∀ later, (threads.set index later).reduceOption.Perm (later.toList ++ others) := by
  obtain ⟨bound, rfl⟩ := List.getElem?_eq_some_iff.mp found
  have split : ∀ (thread : Option (Worker Task Op Reply)) (others : List _),
      (thread :: others).reduceOption = thread.toList ++ others.reduceOption := by
    intro thread others
    cases thread <;> simp
  refine ⟨(threads.eraseIdx index).reduceOption, ?_, fun later => ?_⟩
  · rw [← split]
    exact (List.getElem_cons_eraseIdx_perm bound).symm.filterMap id
  · rw [← split]
    exact (List.set_perm_cons_eraseIdx bound later).filterMap id

/-- The pool that a dispatch runs: it has taken the tasks that were put in, in
their order, but for those still queued, and every worker that is not at its end
is in the hands of a thread. -/
structure Serves (fifo : Fifo Store Task) (tasks : List Task)
    (state : Dispatch Store Task Op Reply State) (pool : Pool Task Op Reply State) : Prop where
  shared : pool.shared = state.shared
  tasks : pool.workers.map (·.task) ++ fifo.contents state.queue = tasks
  workers : ∃ ended, (∀ worker ∈ ended, worker.finished = true) ∧
    pool.workers.Perm (ended ++ state.busy)

section Refinement

variable {fifo : Fifo Store Task} {program : Task → Program Op Reply Unit}
  {handle : Choice → Program.Handler Op Reply State} {tasks : List Task}
  {state next : Dispatch Store Task Op Reply State} {pool : Pool Task Op Reply State}

/-- Everything that one turn of a thread can do. -/
theorem turn_cases {index : Nat} {choice : Choice}
    (stepped : (system fifo program handle).step state (.turn index choice) = some next) :
    (state.threads[index]? = some none ∧ state.stopped = false ∧
      (fifo.getTask state.queue = none ∧ next = state ∨
        ∃ task rest, fifo.getTask state.queue = some (task, rest) ∧
          next = { state with
            queue := rest
            threads := state.threads.set index (some { task, program := program task }) })) ∨
    ∃ worker, state.threads[index]? = some (some worker) ∧
      (worker.advance (handle choice) state.shared = none ∧
          next = { state with threads := state.threads.set index none } ∨
        ∃ later shared, worker.advance (handle choice) state.shared = some (later, shared) ∧
          next = { state with shared, threads := state.threads.set index (some later) }) := by
  simp only [system] at stepped
  split at stepped
  next => cases stepped
  next found =>
    left
    split at stepped
    next => cases stepped
    next goes =>
      refine ⟨found, by simpa using goes, ?_⟩
      split at stepped
      next empty => exact .inl ⟨empty, (Option.some.inj stepped).symm⟩
      next task rest taken => exact .inr ⟨task, rest, taken, (Option.some.inj stepped).symm⟩
  next worker found =>
    right
    refine ⟨worker, found, ?_⟩
    split at stepped
    next ended => exact .inl ⟨ended, (Option.some.inj stepped).symm⟩
    next later shared advanced =>
      exact .inr ⟨later, shared, advanced, (Option.some.inj stepped).symm⟩

/-- A thread takes a task. -/
theorem Serves.take (serves : Serves fifo tasks state pool) {index : Nat} {task : Task}
    {rest : Store} (found : state.threads[index]? = some none)
    (taken : fifo.getTask state.queue = some (task, rest)) :
    Serves fifo tasks { state with
        queue := rest
        threads := state.threads.set index (some { task, program := program task }) }
      { pool with workers := pool.workers ++ [{ task, program := program task }] } := by
  obtain ⟨shared, order, ended, finished, perm⟩ := serves
  obtain ⟨others, before, after⟩ := busy_set found
  refine ⟨shared, ?_, ended, finished, ?_⟩
  · rw [← order, fifo.contents_of_some taken]
    simp
  · have passed : pool.workers.Perm (ended ++ others) := perm.trans (before.append_left ended)
    have added := passed.append_right [{ task, program := program task }]
    rw [List.append_assoc] at added
    exact (added.trans (List.perm_append_comm.append_left ended)).trans
      ((after (some { task, program := program task })).symm.append_left ended)

/-- A thread is through with its task. -/
theorem Serves.leave (serves : Serves fifo tasks state pool) {index : Nat}
    {worker : Worker Task Op Reply} (found : state.threads[index]? = some (some worker))
    (through : worker.finished = true) :
    Serves fifo tasks { state with threads := state.threads.set index none } pool := by
  obtain ⟨shared, order, ended, finished, perm⟩ := serves
  obtain ⟨others, before, after⟩ := busy_set found
  refine ⟨shared, order, worker :: ended, ?_, ?_⟩
  · intro other member
    rcases List.mem_cons.mp member with rfl | old
    · exact through
    · exact finished other old
  · have passed : pool.workers.Perm (worker :: (ended ++ others)) :=
      (perm.trans (before.append_left ended)).trans List.perm_middle
    exact passed.trans ((after none).symm.append_left (worker :: ended))

/-- A thread makes the next call of its task. -/
theorem Serves.call (serves : Serves fifo tasks state pool) {index : Nat}
    {worker later : Worker Task Op Reply} {choice : Choice} {shared : State}
    (found : state.threads[index]? = some (some worker))
    (advanced : worker.advance (handle choice) state.shared = some (later, shared)) :
    ∃ next, (Pool.system program handle).Reaches pool next ∧
      Serves fifo tasks
        { state with shared, threads := state.threads.set index (some later) } next := by
  obtain ⟨same, order, ended, finished, perm⟩ := serves
  obtain ⟨others, before, after⟩ := busy_set found
  have passed : pool.workers.Perm (worker :: (ended ++ others)) :=
    (perm.trans (before.append_left ended)).trans List.perm_middle
  obtain ⟨place, held⟩ := List.mem_iff_getElem?.mp (passed.mem_iff.mpr List.mem_cons_self)
  refine ⟨⟨shared, pool.workers.set place later⟩, System.reaches_step (.call place choice) ?_,
    rfl, ?_, ended, finished, ?_⟩
  · simp [Pool.system, held, same, advanced]
  · obtain ⟨op, rest, -, -, moved⟩ := Worker.advance_cases advanced
    rw [← order, ← Pool.tasks_set later held (by rw [moved])]
  · obtain ⟨bound, rfl⟩ := List.getElem?_eq_some_iff.mp held
    have remaining : (pool.workers.eraseIdx place).Perm (ended ++ others) :=
      ((List.getElem_cons_eraseIdx_perm bound).trans passed).cons_inv
    have moved : (pool.workers.set place later).Perm (ended ++ later :: others) :=
      ((List.set_perm_cons_eraseIdx bound later).trans (remaining.cons later)).trans
        List.perm_middle.symm
    exact moved.trans ((after (some later)).symm.append_left ended)

/-- A step of a dispatch is a step of its pool, or none. -/
theorem Serves.step (serves : Serves fifo tasks state pool) {event : DispatchEvent Task Choice}
    (stepped : (system fifo program handle).step state event = some next) :
    ∃ later, (Pool.system program handle).Reaches pool later ∧
      Serves fifo (tasks ++ event.tasks) next later := by
  cases event with
  | put task =>
      cases stepped
      refine ⟨pool, .start, serves.shared, ?_, serves.workers⟩
      rw [fifo.contents_push, ← List.append_assoc, serves.tasks]
      rfl
  | stop =>
      cases stepped
      simp only [DispatchEvent.tasks, List.append_nil]
      exact ⟨pool, .start, serves.shared, serves.tasks, serves.workers⟩
  | turn index choice =>
      simp only [DispatchEvent.tasks, List.append_nil]
      rcases turn_cases stepped with
        ⟨found, _, ⟨_, rfl⟩ | ⟨task, rest, taken, rfl⟩⟩ |
        ⟨worker, found, ⟨ended, rfl⟩ | ⟨later, shared, advanced, rfl⟩⟩
      · exact ⟨pool, .start, serves⟩
      · exact ⟨_, System.reaches_step (.take task) rfl, serves.take found taken⟩
      · exact ⟨pool, .start, serves.leave found (Worker.finished_of_stays ended)⟩
      · exact serves.call found advanced

/-- A run of a dispatch is a run of its pool. -/
theorem Serves.run (serves : Serves fifo tasks state pool)
    {events : List (DispatchEvent Task Choice)}
    (ran : (system fifo program handle).run events state = some next) :
    ∃ later, (Pool.system program handle).Reaches pool later ∧
      Serves fifo (tasks ++ events.flatMap DispatchEvent.tasks) next later := by
  induction events generalizing state tasks pool with
  | nil =>
      cases ran
      exact ⟨pool, .start, by simpa using serves⟩
  | cons event rest inductionHypothesis =>
      obtain ⟨middle, stepped, remaining⟩ := System.run_cons ran
      obtain ⟨between, reached, served⟩ := serves.step stepped
      obtain ⟨later, further, last⟩ := inductionHypothesis served remaining
      refine ⟨later, reached.trans further, ?_⟩
      rwa [List.flatMap_cons, ← List.append_assoc]

/-- At the beginning nobody has taken anything. -/
theorem serves_started {queue : Store} {shared : State} (count : Nat)
    (empty : fifo.contents queue = []) :
    Serves fifo [] (started queue shared count)
      (⟨shared, []⟩ : Pool Task Op Reply State) :=
  ⟨rfl, by simpa [started] using empty, [], by simp, by simp [busy, started]⟩

theorem threads_of_reaches
    (reached : (system fifo program handle).Reaches state next) :
    next.threads.length = state.threads.length := by
  refine System.Reaches.invariant (fun later => later.threads.length = state.threads.length)
    reached rfl ?_
  intro middle event last same stepped
  rw [← same]
  cases event with
  | put task =>
      cases stepped
      rfl
  | stop =>
      cases stepped
      rfl
  | turn index choice =>
      rcases turn_cases stepped with
        ⟨_, _, ⟨_, rfl⟩ | ⟨task, rest, _, rfl⟩⟩ | ⟨worker, _, ⟨_, rfl⟩ | ⟨later, shared, _, rfl⟩⟩
      · rfl
      all_goals exact List.length_set

/-- The tasks in progress are in the pool, and no others of it are. -/
theorem Serves.progress (serves : Serves fifo tasks state pool) :
    state.busy ⊆ pool.workers ∧
      (pool.workers.filter fun worker => !worker.finished).length ≤ state.busy.length := by
  obtain ⟨-, -, ended, finished, perm⟩ := serves
  refine ⟨fun worker member => perm.mem_iff.mpr (List.mem_append_right _ member), ?_⟩
  have none : ended.filter (fun worker => !worker.finished) = [] :=
    List.filter_eq_nil_iff.mpr fun worker member => by simp [finished worker member]
  rw [(perm.filter _).length_eq, List.filter_append, none, List.nil_append]
  exact List.length_filter_le _ _

/-- The states reached while no task is put in and nobody stops the threads. -/
abbrev Turns (fifo : Fifo Store Task) (program : Task → Program Op Reply Unit)
    (handle : Choice → Program.Handler Op Reply State)
    (state next : Dispatch Store Task Op Reply State) : Prop :=
  (system fifo program handle).ReachesWithin (fun _ event => event.IsTurn) state next

theorem turns_step (index : Nat) (choice : Choice)
    (stepped : (system fifo program handle).step state (.turn index choice) = some next) :
    Turns fifo program handle state next :=
  .step .start (show (DispatchEvent.turn index choice : DispatchEvent Task Choice).IsTurn from
    trivial) stepped

/-- A thread comes to the end of its task. -/
theorem turns_through (choice : Choice) {index : Nat} {worker : Worker Task Op Reply}
    (found : state.threads[index]? = some (some worker)) :
    ∃ shared, Turns fifo program handle state
      { state with shared, threads := state.threads.set index none } := by
  have through : ∀ (remaining : Program Op Reply Unit) (history : List (Exchange Op Reply))
      (state : Dispatch Store Task Op Reply State),
      state.threads[index]? = some (some ⟨worker.task, history, remaining⟩) →
      ∃ shared, Turns fifo program handle state
        { state with shared, threads := state.threads.set index none } := by
    intro remaining
    induction remaining with
    | done result =>
        intro history state found
        refine ⟨state.shared, turns_step index choice ?_⟩
        simp [system, found, Worker.advance]
    | call op rest inductionHypothesis =>
        intro history state found
        have bound : index < state.threads.length := (List.getElem?_eq_some_iff.mp found).1
        obtain ⟨shared, further⟩ := inductionHypothesis (handle choice op state.shared).1
          (history ++ [⟨op, (handle choice op state.shared).1⟩])
          { state with
            shared := (handle choice op state.shared).2
            threads := state.threads.set index (some ⟨worker.task,
              history ++ [⟨op, (handle choice op state.shared).1⟩],
              rest (handle choice op state.shared).1⟩) }
          (List.getElem?_set_self bound)
        rw [List.set_set] at further
        refine ⟨shared, (turns_step index choice ?_).trans further⟩
        simp [system, found, Worker.advance]
  exact through worker.program worker.history state found

/-- All threads come to the end of what they are at. -/
theorem turns_idle (choice : Choice) (state : Dispatch Store Task Op Reply State) :
    ∃ last, Turns fifo program handle state last ∧ last.busy = [] ∧ last.queue = state.queue ∧
      last.stopped = state.stopped ∧ last.threads.length = state.threads.length := by
  generalize count : state.busy.length = remaining
  induction remaining generalizing state with
  | zero => exact ⟨state, .start, List.length_eq_zero_iff.mp count, rfl, rfl, rfl⟩
  | succ remaining inductionHypothesis =>
      obtain ⟨worker, member⟩ := List.exists_mem_of_length_pos (show 0 < state.busy.length by omega)
      obtain ⟨index, found⟩ := List.mem_iff_getElem?.mp (List.reduceOption_mem_iff.mp member)
      obtain ⟨shared, through⟩ := turns_through choice found
      obtain ⟨others, before, after⟩ := busy_set found
      have fewer : (state.threads.set index none).reduceOption.length = remaining := by
        have first := before.length_eq
        have second := (after none).length_eq
        unfold busy at count
        simp only [Option.toList_some, Option.toList_none, List.length_append, List.length_cons,
          List.length_nil] at first second
        omega
      obtain ⟨last, further, idle, queue, stopped, threads⟩ := inductionHypothesis
        { state with shared, threads := state.threads.set index none } fewer
      exact ⟨last, through.trans further, idle, queue, stopped, by simpa using threads⟩

/-- The threads, if there are any and nobody has stopped them, serve what is in
the queue. -/
theorem turns_drain (choice : Choice) (goes : state.stopped = false)
    (threaded : 0 < state.threads.length) :
    ∃ last, Turns fifo program handle state last ∧ last.busy = [] ∧
      fifo.contents last.queue = [] := by
  generalize contents : fifo.contents state.queue = waiting
  induction waiting generalizing state with
  | nil =>
      obtain ⟨last, turns, idle, queue, -⟩ := turns_idle choice state
      exact ⟨last, turns, idle, by rw [queue, contents]⟩
  | cons task rest inductionHypothesis =>
      -- Thread `0` takes the task, and by then no thread is at another.
      obtain ⟨quiet, turns, idle, queue, stopped, threads⟩ := turns_idle choice state
      have free : quiet.threads[0]? = some none := by
        obtain ⟨first, found⟩ : ∃ first, quiet.threads[0]? = some first :=
          ⟨_, List.getElem?_eq_getElem (by omega)⟩
        cases first with
        | none => exact found
        | some worker =>
            have member := List.reduceOption_mem_iff.mpr (List.mem_of_getElem? found)
            rw [busy] at idle
            rw [idle] at member
            cases member
      cases taken : fifo.getTask quiet.queue with
      | none =>
          have none := fifo.contents_of_none taken
          rw [queue, contents] at none
          cases none
      | some pair =>
          obtain ⟨next, store⟩ := pair
          have left := fifo.contents_of_some taken
          rw [queue, contents] at left
          obtain ⟨rfl, others⟩ := List.cons.inj left
          have takes : (system fifo program handle).step quiet (.turn 0 choice) = some
              { quiet with
                queue := store
                threads := quiet.threads.set 0 (some { task, program := program task }) } := by
            simp [system, free, stopped, goes, taken]
          obtain ⟨last, further, done, empty⟩ := @inductionHypothesis
            { quiet with
              queue := store
              threads := quiet.threads.set 0 (some { task, program := program task }) }
            (stopped.trans goes) (by simpa [threads] using threaded) others.symm
          exact ⟨last, (turns.trans (turns_step 0 choice takes)).trans further, done, empty⟩

end Refinement

end Dispatch

end GeoChat.Library
