import GeoChat.Library.System

/-!
# Programs as trees of calls

A program is either finished or waits for the reply to one call. The tree is
run to its end against a handler, or one call at a time when several programs
share a state. What a program does is stated once, along every history of
replies, and does not depend on the schedule.
-/

namespace GeoChat.Library

/-- A program over calls `Op`, where the reply to `op` has type `Reply op`. -/
inductive Program (Op : Type) (Reply : Op → Type) (Result : Type) where
  | done (result : Result)
  | call (op : Op) (next : Reply op → Program Op Reply Result)

namespace Program

variable {Op : Type} {Reply : Op → Type} {First Second Third : Type}

/-- Continue with `next` where the first program is finished. -/
def bind : Program Op Reply First → (First → Program Op Reply Second) →
    Program Op Reply Second
  | .done result, next => next result
  | .call op rest, next => .call op fun reply => (rest reply).bind next

instance : Monad (Program Op Reply) where
  pure := .done
  bind := .bind

/-- The program that makes one call and returns its reply. -/
def perform (op : Op) : Program Op Reply (Reply op) := .call op .done

@[simp]
theorem pure_bind (result : First) (next : First → Program Op Reply Second) :
    (pure result >>= next) = next result := rfl

@[simp]
theorem done_bind (result : First) (next : First → Program Op Reply Second) :
    (Program.done result >>= next) = next result := rfl

@[simp]
theorem call_bind (op : Op) (rest : Reply op → Program Op Reply First)
    (next : First → Program Op Reply Second) :
    (Program.call op rest >>= next) = .call op fun reply => rest reply >>= next := rfl

@[simp]
theorem perform_bind (op : Op) (next : Reply op → Program Op Reply Second) :
    (perform op >>= next) = .call op next := rfl

@[simp]
theorem bind_assoc (program : Program Op Reply First)
    (next : First → Program Op Reply Second) (last : Second → Program Op Reply Third) :
    ((program >>= next) >>= last) = program >>= fun result => next result >>= last := by
  induction program with
  | done result => rfl
  | call op rest inductionHypothesis =>
      simp only [call_bind]
      congr 1
      funext reply
      exact inductionHypothesis reply

/-- A handler answers a call and updates the state. -/
abbrev Handler (Op : Type) (Reply : Op → Type) (State : Type) :=
  (op : Op) → State → Reply op × State

variable {State : Type}

/-- Run a program to its end without interruption. -/
def run (handle : Handler Op Reply State) : Program Op Reply First → State → First × State
  | .done result, state => (result, state)
  | .call op next, state =>
      let answered := handle op state
      run handle (next answered.1) answered.2

@[simp]
theorem run_done (handle : Handler Op Reply State) (result : First) (state : State) :
    run handle (.done result) state = (result, state) := rfl

@[simp]
theorem run_pure (handle : Handler Op Reply State) (result : First) (state : State) :
    run handle (pure result) state = (result, state) := rfl

@[simp]
theorem run_call (handle : Handler Op Reply State) (op : Op)
    (next : Reply op → Program Op Reply First) (state : State) :
    run handle (.call op next) state =
      run handle (next (handle op state).1) (handle op state).2 := rfl

@[simp]
theorem run_bind (handle : Handler Op Reply State) (program : Program Op Reply First)
    (next : First → Program Op Reply Second) (state : State) :
    run handle (program >>= next) state =
      run handle (next (run handle program state).1) (run handle program state).2 := by
  induction program generalizing state with
  | done result => rfl
  | call op rest inductionHypothesis =>
      simp only [call_bind, run_call]
      exact inductionHypothesis _ _

end Program

/-- One call together with the reply it got. -/
abbrev Exchange (Op : Type) (Reply : Op → Type) := (op : Op) × Reply op

namespace Program

variable {Op : Type} {Reply : Op → Type} {First Second : Type}

/-- Along every history of possible replies, each call is allowed by the
exchanges made before it, and the program ends in an accepted result. -/
def Follows (possible : (op : Op) → Reply op → Prop)
    (allowed : List (Exchange Op Reply) → Op → Prop)
    (accepted : List (Exchange Op Reply) → First → Prop) :
    List (Exchange Op Reply) → Program Op Reply First → Prop
  | history, .done result => accepted history result
  | history, .call op next =>
      allowed history op ∧
        ∀ reply, possible op reply →
          Follows possible allowed accepted (history ++ [⟨op, reply⟩]) (next reply)

variable {possible : (op : Op) → Reply op → Prop}
  {allowed : List (Exchange Op Reply) → Op → Prop}

theorem Follows.bind {accepted : List (Exchange Op Reply) → Second → Prop}
    {history : List (Exchange Op Reply)} {program : Program Op Reply First}
    {next : First → Program Op Reply Second}
    (follows : Follows possible allowed
      (fun later result => Follows possible allowed accepted later (next result))
      history program) :
    Follows possible allowed accepted history (program >>= next) := by
  induction program generalizing history with
  | done result => exact follows
  | call op rest inductionHypothesis =>
      exact ⟨follows.1, fun reply answered =>
        inductionHypothesis reply (follows.2 reply answered)⟩

theorem Follows.perform {accepted : List (Exchange Op Reply) → Second → Prop}
    {history : List (Exchange Op Reply)} {op : Op} {next : Reply op → Program Op Reply Second}
    (allows : allowed history op)
    (follows : ∀ reply, possible op reply →
      Follows possible allowed accepted (history ++ [⟨op, reply⟩]) (next reply)) :
    Follows possible allowed accepted history (Program.perform op >>= next) :=
  ⟨allows, follows⟩

/-- Replies can be fewer, calls and results more. -/
theorem Follows.weaken {fewer : (op : Op) → Reply op → Prop}
    {more : List (Exchange Op Reply) → Op → Prop}
    {accepted weaker : List (Exchange Op Reply) → First → Prop}
    {history : List (Exchange Op Reply)} {program : Program Op Reply First}
    (follows : Follows possible allowed accepted history program)
    (replies : ∀ op reply, fewer op reply → possible op reply)
    (calls : ∀ history op, allowed history op → more history op)
    (results : ∀ later result, accepted later result → weaker later result) :
    Follows fewer more weaker history program := by
  induction program generalizing history with
  | done result => exact results _ _ follows
  | call op rest inductionHypothesis =>
      exact ⟨calls _ _ follows.1, fun reply answered =>
        inductionHypothesis reply (follows.2 reply (replies _ _ answered))⟩

theorem Follows.mono {accepted weaker : List (Exchange Op Reply) → First → Prop}
    {history : List (Exchange Op Reply)} {program : Program Op Reply First}
    (follows : Follows possible allowed accepted history program)
    (results : ∀ later result, accepted later result → weaker later result) :
    Follows possible allowed weaker history program :=
  follows.weaken (fun _ _ answered => answered) (fun _ _ allows => allows) results

/-- Every call of the program, on every path, is one of `calls`. -/
def Uses (calls : Op → Prop) : Program Op Reply First → Prop
  | .done _ => True
  | .call op next => calls op ∧ ∀ reply, Uses calls (next reply)

@[simp]
theorem uses_pure (calls : Op → Prop) (result : First) :
    Uses calls (pure result : Program Op Reply First) := trivial

@[simp]
theorem uses_perform {calls : Op → Prop} {op : Op} :
    Uses calls (perform op : Program Op Reply (Reply op)) ↔ calls op :=
  ⟨fun uses => uses.1, fun called => ⟨called, fun _ => trivial⟩⟩

theorem Uses.bind {calls : Op → Prop} {program : Program Op Reply First}
    {next : First → Program Op Reply Second} (uses : Uses calls program)
    (further : ∀ result, Uses calls (next result)) : Uses calls (program >>= next) := by
  induction program with
  | done result => exact further result
  | call op rest inductionHypothesis =>
      exact ⟨uses.1, fun reply => inductionHypothesis reply (uses.2 reply)⟩

theorem Uses.mono {calls more : Op → Prop} {program : Program Op Reply First}
    (uses : Uses calls program) (weaken : ∀ op, calls op → more op) : Uses more program := by
  induction program with
  | done result => trivial
  | call op rest inductionHypothesis =>
      exact ⟨weaken _ uses.1, fun reply => inductionHypothesis reply (uses.2 reply)⟩

theorem uses_trivial (program : Program Op Reply First) : Uses (fun _ => True) program := by
  induction program with
  | done result => trivial
  | call op rest inductionHypothesis => exact ⟨trivial, inductionHypothesis⟩

/-- Calls that are always allowed leave a history of such calls. -/
theorem Uses.follows {calls : Op → Prop} {program : Program Op Reply First}
    (uses : Uses calls program) (allows : ∀ history op, calls op → allowed history op)
    (history : List (Exchange Op Reply)) :
    Follows possible allowed
      (fun later _ => ∃ made, later = history ++ made ∧ ∀ exchange ∈ made, calls exchange.1)
      history program := by
  induction program generalizing history with
  | done result => exact ⟨[], by simp⟩
  | call op rest inductionHypothesis =>
      refine ⟨allows _ _ uses.1, fun reply _ => ?_⟩
      refine (inductionHypothesis reply (uses.2 reply) (history ++ [⟨op, reply⟩])).mono ?_
      rintro later result ⟨made, rfl, each⟩
      refine ⟨⟨op, reply⟩ :: made, by simp, ?_⟩
      intro exchange member
      rcases List.mem_cons.mp member with rfl | old
      · exact uses.1
      · exact each exchange old

/-- Calls that are always allowed can come before a program that follows. -/
theorem Uses.follows_bind {calls : Op → Prop} {accepted : List (Exchange Op Reply) → Second → Prop}
    {program : Program Op Reply First} {next : First → Program Op Reply Second}
    {history : List (Exchange Op Reply)} (uses : Uses calls program)
    (allows : ∀ history op, calls op → allowed history op)
    (further : ∀ later result, Follows possible allowed accepted later (next result)) :
    Follows possible allowed accepted history (program >>= next) :=
  .bind ((uses.follows allows history).mono fun later result _ => further later result)

/-- Every program follows when nothing is asked of it. -/
theorem follows_trivial (program : Program Op Reply First) (history : List (Exchange Op Reply)) :
    program.Follows (fun _ _ => True) (fun _ _ => True) (fun _ _ => True) history := by
  induction program generalizing history with
  | done result => trivial
  | call op rest inductionHypothesis =>
      exact ⟨trivial, fun reply _ => inductionHypothesis reply _⟩

/-- On every path the program makes at most `bound` of the counted calls. -/
def AtMost (counted : Op → Bool) : Nat → Program Op Reply First → Prop
  | _, .done _ => True
  | bound, .call op next =>
      ∃ rest, rest + (if counted op then 1 else 0) ≤ bound ∧
        ∀ reply, AtMost counted rest (next reply)

theorem AtMost.mono {counted : Op → Bool} {bound larger : Nat} {program : Program Op Reply First}
    (atMost : AtMost counted bound program) (le : bound ≤ larger) :
    AtMost counted larger program := by
  cases program with
  | done result => trivial
  | call op next =>
      rcases atMost with ⟨rest, within, further⟩
      exact ⟨rest, Nat.le_trans within le, further⟩

theorem AtMost.bind {counted : Op → Bool} {first second : Nat}
    {program : Program Op Reply First} {next : First → Program Op Reply Second}
    (atMost : AtMost counted first program)
    (further : ∀ result, AtMost counted second (next result)) :
    AtMost counted (first + second) (program >>= next) := by
  induction program generalizing first with
  | done result => exact (further result).mono (Nat.le_add_left _ _)
  | call op rest inductionHypothesis =>
      rcases atMost with ⟨left, within, each⟩
      exact ⟨left + second, by omega, fun reply => inductionHypothesis reply (each reply)⟩

theorem AtMost.uncounted {counted : Op → Bool} {bound : Nat} {op : Op}
    {next : Reply op → Program Op Reply Second} (other : counted op = false)
    (further : ∀ reply, AtMost counted bound (next reply)) :
    AtMost counted bound (Program.perform op >>= next) :=
  ⟨bound, by simp [other], further⟩

theorem AtMost.counted {counted : Op → Bool} {bound : Nat} {op : Op}
    {next : Reply op → Program Op Reply Second}
    (further : ∀ reply, AtMost counted bound (next reply)) :
    AtMost counted (bound + 1) (Program.perform op >>= next) :=
  ⟨bound, by split <;> omega, further⟩

/-- A program that makes no counted call. -/
theorem Uses.atMost {counted : Op → Bool} {program : Program Op Reply First}
    (uses : Uses (fun op => counted op = false) program) : AtMost counted 0 program := by
  induction program with
  | done result => trivial
  | call op rest inductionHypothesis =>
      exact ⟨0, by simp [uses.1], fun reply => inductionHypothesis reply (uses.2 reply)⟩

/-- On every path a call of `last` ends the program. -/
def EndsWith (last : Op → Prop) : Program Op Reply First → Prop
  | .done _ => True
  | .call op next => ∀ reply, (last op → ∃ result, next reply = .done result) ∧
      EndsWith last (next reply)

theorem EndsWith.perform (last : Op → Prop) (op : Op) :
    EndsWith last (perform op : Program Op Reply (Reply op)) :=
  fun reply => ⟨fun _ => ⟨reply, rfl⟩, trivial⟩

theorem EndsWith.bind {last : Op → Prop} {program : Program Op Reply First}
    {next : First → Program Op Reply Second} (uses : Uses (fun op => ¬ last op) program)
    (further : ∀ result, EndsWith last (next result)) : EndsWith last (program >>= next) := by
  induction program with
  | done result => exact further result
  | call op rest inductionHypothesis =>
      intro reply
      exact ⟨fun called => absurd called uses.1, inductionHypothesis reply (uses.2 reply)⟩

/-- The exchanges of a program that runs without interruption. -/
def trace {State : Type} (handle : Handler Op Reply State) :
    Program Op Reply First → State → List (Exchange Op Reply)
  | .done _, _ => []
  | .call op next, state =>
      let answered := handle op state
      ⟨op, answered.1⟩ :: trace handle (next answered.1) answered.2

section Uninterrupted

variable {State : Type} {handle : Handler Op Reply State}

@[simp]
theorem trace_pure (result : First) (state : State) :
    trace handle (pure result) state = [] := rfl

@[simp]
theorem trace_call (op : Op) (next : Reply op → Program Op Reply First) (state : State) :
    trace handle (.call op next) state =
      ⟨op, (handle op state).1⟩ :: trace handle (next (handle op state).1) (handle op state).2 :=
  rfl

@[simp]
theorem trace_perform (op : Op) (state : State) :
    trace handle (perform op) state = [⟨op, (handle op state).1⟩] := rfl

@[simp]
theorem trace_bind (program : Program Op Reply First)
    (next : First → Program Op Reply Second) (state : State) :
    trace handle (program >>= next) state =
      trace handle program state ++
        trace handle (next (run handle program state).1) (run handle program state).2 := by
  induction program generalizing state with
  | done result => rfl
  | call op rest inductionHypothesis =>
      simp only [call_bind, trace_call, run_call, inductionHypothesis, List.cons_append]

theorem Uses.of_mem_trace {calls : Op → Prop} {program : Program Op Reply First}
    (uses : Uses calls program) {state : State} {exchange : Exchange Op Reply}
    (member : exchange ∈ trace handle program state) : calls exchange.1 := by
  induction program generalizing state with
  | done result => simp [trace] at member
  | call op rest inductionHypothesis =>
      rcases List.mem_cons.mp member with rfl | later
      · exact uses.1
      · exact inductionHypothesis _ (uses.2 _) later

theorem Uses.flatMap_trace {calls : Op → Prop} {program : Program Op Reply First}
    (uses : Uses calls program) {Item : Type} {shown : Exchange Op Reply → List Item}
    (nothing : ∀ exchange, calls exchange.1 → shown exchange = []) (state : State) :
    (trace handle program state).flatMap shown = [] :=
  List.flatMap_eq_nil_iff.mpr fun exchange member =>
    nothing exchange (uses.of_mem_trace member)

/-- Two handlers that answer every call of a run alike, from related states on,
make the same exchanges. -/
theorem trace_eq_of_agree {Other : Type} {handleOther : Handler Op Reply Other}
    (related : State → Other → Prop) {program : Program Op Reply First} {state : State}
    {other : Other} (relates : related state other)
    (agree : ∀ exchange ∈ trace handle program state, ∀ state other, related state other →
      (handleOther exchange.1 other).1 = (handle exchange.1 state).1 ∧
        related (handle exchange.1 state).2 (handleOther exchange.1 other).2) :
    trace handleOther program other = trace handle program state := by
  induction program generalizing state other with
  | done result => rfl
  | call op rest inductionHypothesis =>
      obtain ⟨same, kept⟩ := agree ⟨op, (handle op state).1⟩ List.mem_cons_self state other relates
      simp only at same kept
      rw [trace_call, trace_call, same]
      refine congrArg _ (inductionHypothesis _ kept fun exchange member => ?_)
      exact agree exchange (List.mem_cons_of_mem _ member)

/-- What each of its calls does to the state up to a preorder, the program
does. -/
theorem Uses.run_related {calls : Op → Prop} {program : Program Op Reply First}
    (uses : Uses calls program) (related : State → State → Prop)
    (same : ∀ state, related state state)
    (trans : ∀ first second third, related first second → related second third →
      related first third)
    (each : ∀ op state, calls op → related state (handle op state).2) (state : State) :
    related state (run handle program state).2 := by
  induction program generalizing state with
  | done result => exact same state
  | call op rest inductionHypothesis =>
      exact trans _ _ _ (each op state uses.1) (inductionHypothesis _ (uses.2 _) _)

end Uninterrupted

end Program

/-- A program in execution, with the task it is for and the exchanges it has
made so far. -/
structure Worker (Task Op : Type) (Reply : Op → Type) where
  task : Task
  history : List (Exchange Op Reply) := []
  program : Program Op Reply Unit

namespace Worker

variable {Task Op : Type} {Reply : Op → Type} {State : Type}

/-- Make the worker's next call. A finished worker has none. -/
def advance (handle : Program.Handler Op Reply State) (worker : Worker Task Op Reply)
    (state : State) : Option (Worker Task Op Reply × State) :=
  match worker.program with
  | .done _ => none
  | .call op next =>
      let answered := handle op state
      some (⟨worker.task, worker.history ++ [⟨op, answered.1⟩], next answered.1⟩, answered.2)

/-- A worker with no call left to make. -/
def finished (worker : Worker Task Op Reply) : Bool :=
  match worker.program with
  | .done _ => true
  | .call _ _ => false

theorem not_finished {worker : Worker Task Op Reply} {op : Op}
    {next : Reply op → Program Op Reply Unit} (shape : worker.program = .call op next) :
    worker.finished = false := by
  unfold finished
  rw [shape]

theorem finished_of_done {worker : Worker Task Op Reply} {result : Unit}
    (shape : worker.program = .done result) : worker.finished = true := by
  unfold finished
  rw [shape]

/-- Everything that one call of a worker can do. -/
theorem advance_cases {handle : Program.Handler Op Reply State}
    {worker later : Worker Task Op Reply} {state next : State}
    (advanced : worker.advance handle state = some (later, next)) :
    ∃ op rest, worker.program = .call op rest ∧ next = (handle op state).2 ∧
      later = ⟨worker.task, worker.history ++ [⟨op, (handle op state).1⟩],
        rest (handle op state).1⟩ := by
  unfold advance at advanced
  cases shape : worker.program with
  | done result => simp [shape] at advanced
  | call op rest =>
      simp only [shape, Option.some.injEq, Prod.mk.injEq] at advanced
      rcases advanced with ⟨rfl, rfl⟩
      exact ⟨op, rest, rfl, rfl, rfl⟩

/-- A worker keeps to what its program follows from its own history. -/
def Keeps (possible : (op : Op) → Reply op → Prop)
    (allowed : List (Exchange Op Reply) → Op → Prop) (worker : Worker Task Op Reply) : Prop :=
  worker.program.Follows possible allowed (fun _ _ => True) worker.history

theorem Keeps.advance {possible : (op : Op) → Reply op → Prop}
    {allowed : List (Exchange Op Reply) → Op → Prop} {worker : Worker Task Op Reply}
    {op : Op} {rest : Reply op → Program Op Reply Unit}
    (keeps : worker.Keeps possible allowed) (shape : worker.program = .call op rest)
    (reply : Reply op) (answered : possible op reply) :
    allowed worker.history op ∧
      Keeps possible allowed ⟨worker.task, worker.history ++ [⟨op, reply⟩], rest reply⟩ := by
  unfold Keeps at keeps
  rw [shape] at keeps
  exact ⟨keeps.1, keeps.2 reply answered⟩

end Worker

/-- Several programs over one shared state. -/
structure Pool (Task Op : Type) (Reply : Op → Type) (State : Type) where
  shared : State
  workers : List (Worker Task Op Reply)

/-- Either a worker takes a new task, or the worker at `index` makes its next
call. `choice` is what the environment decides about the reply. -/
inductive PoolEvent (Task Choice : Type) where
  | take (task : Task)
  | call (index : Nat) (choice : Choice)

namespace Pool

variable {Op : Type} {Reply : Op → Type} {State Task Choice : Type}

/-- The interleavings of any number of workers: each call is atomic. -/
def system (program : Task → Program Op Reply Unit)
    (handle : Choice → Program.Handler Op Reply State) :
    System (Pool Task Op Reply State) (PoolEvent Task Choice) where
  step pool
    | .take task =>
        some { pool with workers := pool.workers ++ [{ task, program := program task }] }
    | .call index choice =>
        match pool.workers[index]? with
        | none => none
        | some worker =>
            (worker.advance (handle choice) pool.shared).map fun advanced =>
              { shared := advanced.2, workers := pool.workers.set index advanced.1 }

/-- Everything that one step of a pool can do. -/
theorem step_cases {program : Task → Program Op Reply Unit}
    {handle : Choice → Program.Handler Op Reply State} {pool next : Pool Task Op Reply State}
    {event : PoolEvent Task Choice}
    (stepped : (system program handle).step pool event = some next) :
    (∃ task, event = .take task ∧
      next = { pool with workers := pool.workers ++ [{ task, program := program task }] }) ∨
    (∃ index choice worker op rest, event = .call index choice ∧
      pool.workers[index]? = some worker ∧ worker.program = .call op rest ∧
      next.shared = (handle choice op pool.shared).2 ∧
      next.workers = pool.workers.set index
        ⟨worker.task, worker.history ++ [⟨op, (handle choice op pool.shared).1⟩],
          rest (handle choice op pool.shared).1⟩) := by
  cases event with
  | take task =>
      left
      simp only [system, Option.some.injEq] at stepped
      exact ⟨task, rfl, stepped.symm⟩
  | call index choice =>
      right
      cases found : pool.workers[index]? with
      | none => simp [system, found] at stepped
      | some worker =>
          simp only [system, found, Option.map_eq_some_iff] at stepped
          rcases stepped with ⟨⟨later, shared⟩, advanced, rfl⟩
          rcases Worker.advance_cases advanced with ⟨op, rest, shape, rfl, rfl⟩
          exact ⟨index, choice, worker, op, rest, rfl, found, shape, rfl, rfl⟩

/-- A worker that goes on with its task leaves the list of tasks as it is. -/
theorem tasks_set {workers : List (Worker Task Op Reply)} {index : Nat}
    {worker : Worker Task Op Reply} (later : Worker Task Op Reply)
    (found : workers[index]? = some worker) (same : later.task = worker.task) :
    (workers.set index later).map (·.task) = workers.map (·.task) := by
  rcases List.getElem?_eq_some_iff.mp found with ⟨bound, rfl⟩
  have self := List.set_getElem_self
    (show index < (workers.map (·.task)).length by simpa using bound)
  rwa [List.getElem_map, ← same, ← List.map_set] at self

/-- The shared state is sound, every worker keeps to its program, and what
the workers were told is still so. -/
def Informed (possible : (op : Op) → Reply op → Prop)
    (allowed : List (Exchange Op Reply) → Op → Prop) (holds : State → Prop)
    (known : State → Exchange Op Reply → Prop) (pool : Pool Task Op Reply State) : Prop :=
  holds pool.shared ∧ ∀ worker ∈ pool.workers,
    worker.Keeps possible allowed ∧
      ∀ exchange ∈ worker.history, known pool.shared exchange

/-- The rule for shared state. `holds` may rely on `known`, what the exchanges
of a worker have told it; other workers may not make that knowledge stale. -/
theorem informed (holds : State → Prop) (known : State → Exchange Op Reply → Prop)
    {program : Task → Program Op Reply Unit}
    {handle : Choice → Program.Handler Op Reply State}
    {possible : (op : Op) → Reply op → Prop}
    {allowed : List (Exchange Op Reply) → Op → Prop}
    {start : State} {pool : Pool Task Op Reply State}
    (reached : (system program handle).Reaches ⟨start, []⟩ pool)
    (initial : holds start)
    (follows : ∀ task, (program task).Follows possible allowed (fun _ _ => True) [])
    (answers : ∀ choice op state, possible op (handle choice op state).1)
    (kept : ∀ choice op history state, holds state →
      (∀ exchange ∈ history, known state exchange) → allowed history op →
      holds (handle choice op state).2)
    (learned : ∀ choice op state, known (handle choice op state).2
      ⟨op, (handle choice op state).1⟩)
    (stable : ∀ choice op state exchange, known state exchange →
      known (handle choice op state).2 exchange) :
    Informed possible allowed holds known pool := by
  refine System.Reaches.invariant (Informed possible allowed holds known) reached
    ⟨initial, by simp⟩ ?_
  intro pool event next held stepped
  rcases held with ⟨inv, each⟩
  rcases step_cases stepped with ⟨task, rfl, rfl⟩ |
      ⟨index, choice, worker, op, rest, rfl, found, shape, shared, workers⟩
  · refine ⟨inv, ?_⟩
    intro worker member
    rcases List.mem_append.mp member with old | new
    · exact each worker old
    · cases List.mem_singleton.mp new
      exact ⟨follows task, by simp⟩
  · rcases each worker (List.mem_of_getElem? found) with ⟨keeps, knows⟩
    have advanced := keeps.advance shape (handle choice op pool.shared).1
      (answers choice op pool.shared)
    unfold Informed
    rw [shared, workers]
    refine ⟨kept choice op _ _ inv knows advanced.1, ?_⟩
    intro other memberOther
    rcases List.mem_or_eq_of_mem_set memberOther with old | rfl
    · exact ⟨(each other old).1, fun exchange known =>
        stable choice op _ exchange ((each other old).2 exchange known)⟩
    · refine ⟨advanced.2, ?_⟩
      intro exchange memberExchange
      rcases List.mem_append.mp memberExchange with old | new
      · exact stable choice op _ exchange (knows exchange old)
      · cases List.mem_singleton.mp new
        exact learned choice op pool.shared

/-- Every worker makes the calls of its own task, and no others. -/
theorem uses_of_reaches {program : Task → Program Op Reply Unit}
    {handle : Choice → Program.Handler Op Reply State} {calls : Task → Op → Prop}
    (uses : ∀ task, (program task).Uses (calls task)) {start : State}
    {pool : Pool Task Op Reply State}
    (reached : (system program handle).Reaches ⟨start, []⟩ pool) :
    ∀ worker ∈ pool.workers, worker.program.Uses (calls worker.task) ∧
      ∀ exchange ∈ worker.history, calls worker.task exchange.1 := by
  refine System.Reaches.invariant (fun pool => ∀ worker ∈ pool.workers,
    worker.program.Uses (calls worker.task) ∧
      ∀ exchange ∈ worker.history, calls worker.task exchange.1) reached (by simp) ?_
  intro pool event next each stepped
  rcases step_cases stepped with ⟨task, rfl, rfl⟩ |
      ⟨index, choice, worker, op, rest, rfl, found, shape, shared, workers⟩
  · intro worker member
    rcases List.mem_append.mp member with old | new
    · exact each worker old
    · cases List.mem_singleton.mp new
      exact ⟨uses task, by simp⟩
  · obtain ⟨remaining, made⟩ := each worker (List.mem_of_getElem? found)
    rw [shape] at remaining
    rw [workers]
    intro other memberOther
    rcases List.mem_or_eq_of_mem_set memberOther with old | rfl
    · exact each other old
    · refine ⟨remaining.2 _, ?_⟩
      intro exchange memberExchange
      rcases List.mem_append.mp memberExchange with old | new
      · exact made exchange old
      · cases List.mem_singleton.mp new
        exact remaining.1

/-- A program that runs to its end without interruption is one schedule of a
pool. -/
theorem reaches_run (program : Task → Program Op Reply Unit)
    (handle : Choice → Program.Handler Op Reply State) (choice : Choice) (task : Task)
    (shared : State) (workers : List (Worker Task Op Reply)) :
    ∃ rest, (system program handle).Reaches ⟨shared, workers⟩
      ⟨((program task).run (handle choice) shared).2,
        workers ++ [⟨task, (program task).trace (handle choice) shared, rest⟩]⟩ := by
  have advancing : ∀ (rest : Program Op Reply Unit) (history : List (Exchange Op Reply))
      (shared : State), ∃ last, (system program handle).Reaches
        ⟨shared, workers ++ [⟨task, history, rest⟩]⟩
        ⟨(rest.run (handle choice) shared).2,
          workers ++ [⟨task, history ++ rest.trace (handle choice) shared, last⟩]⟩ := by
    intro rest
    induction rest with
    | done result =>
        intro history shared
        exact ⟨.done result, by simpa [Program.trace] using .start⟩
    | call op next inductionHypothesis =>
        intro history shared
        obtain ⟨last, remaining⟩ := inductionHypothesis (handle choice op shared).1
          (history ++ [⟨op, (handle choice op shared).1⟩]) (handle choice op shared).2
        rw [List.append_assoc, List.singleton_append] at remaining
        refine ⟨last, System.ReachesWithin.trans
          (System.reaches_step (.call workers.length choice) ?_) remaining⟩
        simp [system, Worker.advance]
  obtain ⟨last, remaining⟩ := advancing (program task) [] shared
  exact ⟨last, System.ReachesWithin.trans
    (System.reaches_step (.take task) rfl) remaining⟩

end Pool

end GeoChat.Library
