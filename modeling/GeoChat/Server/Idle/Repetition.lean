import GeoChat.Server.Idle.Run
import GeoChat.Server.Store.History

/-!
# Batches that do not repeat

A task copies the cursor when the timer makes it, and the cursor moves only
when the batch of the task has been written and the timer fires again. Where
the timer waits for that, each batch is newer than the ones before it.
-/

namespace GeoChat

open Library Program
open InMemory (backend)

/-- A worker that has not finished its task. -/
def running (worker : TaskWorker) : Bool :=
  match worker.program with
  | .done _ => false
  | .call _ _ => true

namespace Connection

/-- No task of the connection waits or runs, and no batch is being written. -/
def quiet (connection : Connection Storage) : Bool :=
  connection.queue.isEmpty && connection.workers.all (fun worker => !running worker) &&
    connection.client.pendingBatches.isEmpty

/-- The timer fires only on a quiet connection, and the write of a batch does
not fail when a wait of the timer has already expired. -/
def unhurried (connection : Connection Storage) : ConnectionEvent → Bool
  | .tick _ _ => connection.quiet
  | .written failed expired =>
      match connection.client.writes with
      | (_, .batchWrote _) :: _ => !failed || min expired connection.client.timers = 0
      | _ => true
  | _ => true

/-- The tasks and batches under way. -/
def underWay (connection : Connection Storage) : Nat :=
  connection.queue.length + connection.workers.countP running +
    connection.client.pendingBatches.length

theorem quiet_iff (connection : Connection Storage) :
    connection.quiet = true ↔ connection.underWay = 0 := by
  simp only [quiet, underWay, Bool.and_eq_true, List.isEmpty_iff, List.all_eq_true,
    Bool.not_eq_true', Nat.add_eq_zero_iff, List.length_eq_zero_iff, List.countP_eq_zero,
    Bool.not_eq_true]

/-- At most one task or batch is under way, with the cursor of the connection.
What was sent is below the cursor, or will be when the timer fires again. -/
structure Ordered (start : Storage) (uid : Nat) (connection : Connection Storage) : Prop where
  idling : connection.Idling start uid
  single : connection.underWay ≤ 1
  queued : ∀ task ∈ connection.queue, task.request.ts = connection.cursor
  working : ∀ worker ∈ connection.workers, running worker = true →
    worker.task.request.ts = connection.cursor
  below : ∀ batch ∈ connection.batches, ∀ msg ∈ batch,
    (msg.ts : Int) ≤ connection.cursor ∨
      (∃ maxTs ∈ connection.client.pendingBatches, msg.ts ≤ maxTs) ∨
      connection.underWay = 0 ∧
        (msg.ts ≤ connection.client.newestMsgTimestamp ∨ connection.client.timers = 0)
  increasing : connection.batches.Pairwise fun earlier later =>
    ∀ first ∈ earlier, ∀ second ∈ later, first.ts < second.ts

namespace Ordered

variable {start : Storage} {uid : Nat} {connection next : Connection Storage} {setup : Setup}

/-- While a task is under way, all that was sent is below the cursor. -/
theorem below_cursor (ordered : connection.Ordered start uid)
    (busy : 0 < connection.queue.length + connection.workers.countP running) :
    ∀ batch ∈ connection.batches, ∀ msg ∈ batch, (msg.ts : Int) ≤ connection.cursor := by
  have single := ordered.single
  unfold underWay at single
  have written : connection.client.pendingBatches = [] := by
    rw [← List.length_eq_zero_iff]
    omega
  intro batch memberBatch msg member
  rcases ordered.below batch memberBatch msg member with le | ⟨maxTs, pending, _⟩ | ⟨none, _⟩
  · exact le
  · rw [written] at pending
    cases pending
  · unfold underWay at none
    omega

theorem step_tick (ordered : connection.Ordered start uid) {now : Int} {expired : Nat}
    (isQuiet : connection.quiet = true)
    (stepped : connection.tick now expired = some next) : next.Ordered start uid := by
  have idling := ordered.idling.step_tick stepped
  rcases ticked_of_tick ordered.idling.cursor ordered.idling.newest stepped with
    ⟨client, task, rfl, ticked⟩
  have none := (quiet_iff connection).mp isQuiet
  unfold underWay at none
  have noneQueued : connection.queue = [] := by
    rw [← List.length_eq_zero_iff]
    omega
  have noneWritten : connection.client.pendingBatches = [] := by
    rw [← List.length_eq_zero_iff]
    omega
  refine ⟨idling, ?_, ?_, ?_, ?_, ordered.increasing⟩
  · change (connection.queue ++ [task]).length + connection.workers.countP running +
      client.pendingBatches.length ≤ 1
    rw [List.length_append, List.length_singleton, ticked.pending]
    omega
  · intro other member
    simp only [putTasks, setClient, noneQueued, List.nil_append, List.mem_singleton] at member
    exact member ▸ ticked.taskCursor
  · intro worker member runs
    have some : 0 < connection.workers.countP running :=
      List.countP_pos_iff.mpr ⟨worker, member, runs⟩
    omega
  · intro batch memberBatch msg member
    left
    refine le_of_le_of_eq ?_ ticked.cursor.symm
    rcases ordered.below batch memberBatch msg member with
      le | ⟨maxTs, pending, _⟩ | ⟨_, le | never⟩
    · exact le.trans (le_max_left _ _)
    · rw [noneWritten] at pending
      cases pending
    · exact (Int.ofNat_le.mpr le).trans (le_max_right _ _)
    · exact absurd never ticked.waiting

theorem step_take (ordered : connection.Ordered start uid)
    (stepped : connection.takeTask backend setup = some next) : next.Ordered start uid := by
  have idling := ordered.idling.step_take stepped
  rcases takeTask_cases stepped with ⟨task, queue, waiting, rfl⟩
  have below := ordered.below_cursor (by simp [waiting])
  have single := ordered.single
  unfold underWay at single
  rw [waiting, List.length_cons] at single
  have ended : connection.workers.countP running = 0 := by omega
  refine ⟨idling, ?_, ?_, ?_, ?_, ordered.increasing⟩
  · change queue.length + (connection.workers ++ [_]).countP running +
      connection.client.pendingBatches.length ≤ 1
    rw [List.countP_append, List.countP_singleton]
    split <;> omega
  · intro other member
    exact ordered.queued other (by simp [waiting, member])
  · intro worker member runs
    rcases List.mem_append.mp member with old | new
    · exact ordered.working worker old runs
    · cases List.mem_singleton.mp new
      exact ordered.queued task (by simp [waiting])
  · intro batch memberBatch msg member
    exact .inl (below batch memberBatch msg member)

/-- A worker that has sent its batch is finished. -/
theorem finished_of_sent {worker : TaskWorker} (idle : IdleWorker start uid worker)
    (sent : batchesSent worker.history ≠ []) : running worker = false := by
  have keeps := idle.keeps
  unfold Worker.Keeps at keeps
  unfold running
  cases shape : worker.program with
  | done => rfl
  | call op rest =>
      rw [shape] at keeps
      cases keeps.1 with
      | plain unsent _ => exact absurd unsent sent
      | read _ unsent _ => exact absurd unsent sent
      | send unsent _ => exact absurd unsent sent

theorem batchesSent_append (history : History) (op : Effect) (reply : op.Reply) :
    batchesSent (history ++ [⟨op, reply⟩]) = batchesSent history ++ op.batch := by
  cases op <;> simp [batchesSent, Effect.batch]

theorem step_work (ordered : connection.Ordered start uid) {index : Nat} {now : Int}
    (stepped : connection.work backend setup index now = some next) : next.Ordered start uid := by
  have idling := ordered.idling.step_work stepped
  rcases ordered.idling.work_cases stepped with
    ⟨worker, op, rest, reply, shared, found, shape, _, idleCall, after, _, later, rfl⟩
  have member := List.mem_of_getElem? found
  have idle := ordered.idling.workers worker member
  have runs : running worker = true := by simp [running, shape]
  have some : 0 < connection.workers.countP running :=
    List.countP_pos_iff.mpr ⟨worker, member, runs⟩
  have below := ordered.below_cursor (by omega)
  have single := ordered.single
  unfold underWay at single
  have noneWritten : connection.client.pendingBatches = [] := by
    rw [← List.length_eq_zero_iff]
    omega
  have cursor : worker.task.request.ts = connection.cursor := ordered.working worker member runs
  have moved : shared.client.requestDetails.params.ts = connection.cursor :=
    congrArg (·.params.ts) after.details
  rcases List.getElem?_eq_some_iff.mp found with ⟨bound, isWorker⟩
  have count := @List.countP_set _ running connection.workers index
    ⟨worker.task, worker.history ++ [⟨op, reply⟩], rest reply⟩ bound
  rw [isWorker, runs, if_pos rfl] at count
  have pending := after.pending
  rw [noneWritten, List.nil_append] at pending
  refine ⟨idling, ?_, ?_, ?_, ?_, ?_⟩
  · simp only [underWay, pending, List.length_map]
    rcases idleCall.batch_cases with none | ⟨batch, _⟩
    · rw [none]
      simp only [workers] at count single some ⊢
      rw [count]
      simp only [List.length_nil]
      split <;> omega
    · have sent : batchesSent (worker.history ++ [⟨op, reply⟩]) ≠ [] := by
        rw [batchesSent_append, batch]
        simp
      have ended := finished_of_sent later sent
      simp only [workers] at count single some ⊢
      rw [count, ended, batch]
      simp only [List.length_singleton, Bool.false_eq_true, if_false]
      omega
  · intro task waiting
    exact (ordered.queued task waiting).trans moved.symm
  · intro other memberOther runsOther
    refine Eq.trans ?_ moved.symm
    rcases List.mem_or_eq_of_mem_set memberOther with old | rfl
    · exact ordered.working other old runsOther
    · exact cursor
  · intro batch memberBatch msg memberMsg
    simp only [batches, after.batches] at memberBatch
    rcases List.mem_append.mp memberBatch with old | new
    · exact .inl ((below batch old msg memberMsg).trans_eq moved.symm)
    · refine .inr (.inl ⟨maxTimestamp batch, ?_, le_maxTimestamp memberMsg⟩)
      simp only [pending]
      exact List.mem_map_of_mem new
  · simp only [batches, after.batches]
    refine List.pairwise_append.mpr ⟨ordered.increasing, ?_, ?_⟩
    · rcases idleCall.batch_cases with none | ⟨batch, _⟩
      · simp [none]
      · simp [batch]
    · intro earlier old batch new first memberFirst second memberSecond
      rcases idleCall.batch_cases with none | ⟨sent, _⟩
      · simp [none] at new
      · rw [sent, List.mem_singleton] at new
        rw [new] at memberSecond
        rcases List.mem_map.mp memberSecond with ⟨msg, read, rfl⟩
        have form := apiForm_ts start (idle.cursor_of_read read)
        have newer := (idle.newer msg read).1
        have older := below earlier old first memberFirst
        omega

theorem step_written (ordered : connection.Ordered start uid) {failed : Bool} {expired : Nat}
    (admitted : connection.unhurried (.written failed expired) = true)
    (stepped : connection.written failed expired = some next) : next.Ordered start uid := by
  have idling := ordered.idling.step_written stepped
  rcases written_cases stepped with ⟨write, writes, first, rfl⟩
  rcases complete_cases first failed expired with ⟨after, result, details, effect⟩
  rw [result] at idling ⊢
  have moved : after.requestDetails.params.ts = connection.cursor :=
    congrArg (·.params.ts) details
  have queued : ∀ task ∈ connection.queue, task.request.ts = after.requestDetails.params.ts :=
    fun task member => (ordered.queued task member).trans moved.symm
  have working : ∀ worker ∈ connection.workers, running worker = true →
      worker.task.request.ts = after.requestDetails.params.ts :=
    fun worker member runs => (ordered.working worker member runs).trans moved.symm
  have single := ordered.single
  unfold underWay at single
  have count : (connection.setClient after).underWay = connection.queue.length +
      connection.workers.countP running + after.pendingBatches.length := rfl
  rcases effect with ⟨pending, newest, timers⟩ | ⟨maxTs, isBatch, pending, effect⟩
  · have sameCount : (connection.setClient after).underWay = connection.underWay := by
      rw [count, pending]
      rfl
    refine ⟨idling, sameCount.trans_le ordered.single, queued, working, ?_, ordered.increasing⟩
    intro batch memberBatch msg member
    have before := ordered.below batch memberBatch msg member
    rw [← sameCount, ← moved, ← pending, ← newest, ← timers] at before
    exact before
  · rw [pending, List.length_cons] at single
    have none : (connection.setClient after).underWay = 0 := by omega
    refine ⟨idling, by omega, queued, working, ?_, ordered.increasing⟩
    intro batch memberBatch msg member
    rcases ordered.below batch memberBatch msg member with le | ⟨other, memberOther, le⟩ | ⟨zero, _⟩
    · exact .inl (le.trans_eq moved.symm)
    · refine .inr (.inr ⟨none, ?_⟩)
      have nothing : after.pendingBatches = [] := by
        rw [← List.length_eq_zero_iff]
        omega
      have isFirst : other = maxTs := by simpa [pending, nothing] using memberOther
      rcases effect with ⟨rfl, _, timers⟩ | ⟨_, newest, _⟩
      · right
        rcases write with ⟨response, completion⟩
        cases isBatch
        have stopped : min expired connection.client.timers = 0 := by
          simpa only [unhurried, first, Bool.not_true, Bool.false_or, decide_eq_true_eq]
            using admitted
        exact timers.trans stopped
      · left
        exact (isFirst ▸ le).trans_eq newest.symm
    · unfold underWay at zero
      rw [pending, List.length_cons] at zero
      omega

/-- Every event that the condition admits keeps the order of the batches. -/
theorem step (ordered : connection.Ordered start uid) {event : ConnectionEvent}
    (admitted : idleEvent event = true) (unhurried : connection.unhurried event = true)
    (stepped : (system backend setup).step connection event = some next) :
    next.Ordered start uid := by
  have idling := ordered.idling.step admitted stepped
  cases event with
  | request => cases admitted
  | readError =>
      rcases readError_cases stepped with ⟨reads, _, rfl⟩
      exact ⟨idling, ordered.single, ordered.queued, ordered.working, ordered.below,
        ordered.increasing⟩
  | tick now expired => exact ordered.step_tick unhurried stepped
  | take => exact ordered.step_take stepped
  | work index now => exact ordered.step_work stepped
  | written failed expired => exact ordered.step_written unhurried stepped
  | other now op =>
      cases stepped
      exact ⟨idling, ordered.single, ordered.queued, ordered.working, ordered.below,
        ordered.increasing⟩

end Ordered

end Connection

/-- Of pairwise exclusive items at most one is counted. -/
theorem countP_le_one {Alpha : Type} {counted : Alpha → Bool} {items : List Alpha}
    (exclusive : items.Pairwise fun first second =>
      ¬ (counted first = true ∧ counted second = true)) : items.countP counted ≤ 1 := by
  induction exclusive with
  | nil => simp
  | cons others _ inductionHypothesis =>
      rename_i item rest _
      rw [List.countP_cons]
      by_cases isCounted : counted item = true
      · have none : rest.countP counted = 0 :=
          List.countP_eq_zero.mpr fun other member both => others other member ⟨isCounted, both⟩
        simp [none, isCounted]
      · simpa [isCounted] using inductionHypothesis

open Connection in
/-- In every run in which the timer fires only while nothing is under way, and
no batch fails with the timer expired, no stored message is in two batches. -/
theorem idle_repeats_nothing (setup : Setup) (storage : Storage) (client : ApiClient)
    (connection : Connection Storage) (begins : client.IdleStart)
    (times : ∀ msg ∈ storage.messages, isTime msg.ts = true)
    (reached : (system backend setup).ReachesWithin
      (fun state event => (idleEvent event && state.unhurried event) = true)
      (opened storage client) connection) :
    ∀ msg ∈ connection.storage.messages,
      connection.batches.countP (fun batch => connection.storage.apiForm msg ∈ batch) ≤ 1 := by
  have ordered : connection.Ordered storage client.requestDetails.params.uid := by
    refine System.ReachesWithin.invariant (Ordered storage client.requestDetails.params.uid)
      reached ?_ ?_
    · have none : (opened storage client).underWay = 0 := by
        change 0 + 0 + client.pendingBatches.length = 0
        rw [begins.unwritten]
        rfl
      exact ⟨Idling.of_start begins times, by omega, by simp [opened],
        fun worker member => absurd member List.not_mem_nil,
        fun batch member => absurd member List.not_mem_nil, .nil⟩
    · intro state event next held admitted stepped
      rw [Bool.and_eq_true] at admitted
      exact held.step admitted.1 admitted.2 stepped
  intro msg _
  refine countP_le_one (ordered.increasing.imp ?_)
  rintro earlier later increasing ⟨first, second⟩
  exact lt_irrefl _ (increasing _ (of_decide_eq_true first) _ (of_decide_eq_true second))

section Scenario

/-- A user who has sent themselves a message. -/
def aliceStore : Storage :=
  { twoUsers (bytes "Passw0rd") [] with
    messages := [{ userFrom := 1, chatTo := 1, ts := 10, message := bytes "hello" }] }

/-- The timer fires twice before the first task is done, and both tasks send
the same message. -/
theorem idle_repeats_message :
    aliceIdle.IdleStart ∧ ∃ connection, (Connection.system backend aliceSetup).ReachesWithin
        (fun _ event => idleEvent event = true) (.opened aliceStore aliceIdle) connection ∧
      ∃ msg ∈ connection.storage.messages,
        connection.batches.countP (fun batch => connection.storage.apiForm msg ∈ batch) = 2 := by
  let events : List ConnectionEvent := List.flatten
    [[.tick 100 0, .tick 100 0, .take, .take], List.replicate 9 (.work 0 100),
      List.replicate 9 (.work 1 100)]
  have replayed : ((Connection.system backend aliceSetup).runWithin
      (fun _ event => idleEvent event = true) events (.opened aliceStore aliceIdle)).map
      (fun connection => connection.storage.messages.map fun msg =>
        connection.batches.countP (fun batch => connection.storage.apiForm msg ∈ batch)) =
      some [2] := by
    decide +kernel
  rcases Option.map_eq_some_iff.mp replayed with ⟨connection, ended, counts⟩
  refine ⟨aliceIdle_begins, connection, System.reachesWithin_of_run ended, ?_⟩
  rcases List.map_eq_singleton_iff.mp counts with ⟨msg, only, twice⟩
  exact ⟨msg, by simp [only], twice⟩

/-- When the second tick waits for the first batch, the message is sent once. -/
theorem idle_repeats_nothing_alice :
    ∃ connection, (Connection.system backend aliceSetup).ReachesWithin
        (fun state event => (idleEvent event && state.unhurried event) = true)
        (.opened aliceStore aliceIdle) connection ∧
      connection.batches.length = 1 ∧
      ∀ msg ∈ connection.storage.messages,
        connection.batches.countP (fun batch => connection.storage.apiForm msg ∈ batch) ≤ 1 := by
  let events : List ConnectionEvent := List.flatten
    [[.tick 100 0, .take], List.replicate 9 (.work 0 100),
      [.written false 0, .written false 0, .tick 100 0, .take], List.replicate 6 (.work 1 100)]
  have replayed : ((Connection.system backend aliceSetup).runWithin
      (fun state event => (idleEvent event && state.unhurried event) = true) events
      (.opened aliceStore aliceIdle)).map (fun connection => connection.batches.length) =
      some 1 := by
    decide +kernel
  rcases Option.map_eq_some_iff.mp replayed with ⟨connection, ended, count⟩
  have reached := System.reachesWithin_of_run ended
  exact ⟨connection, reached, count, idle_repeats_nothing aliceSetup aliceStore aliceIdle connection
    aliceIdle_begins (by decide) reached⟩

end Scenario

end GeoChat
