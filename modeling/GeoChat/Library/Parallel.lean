import Mathlib.Data.List.Forall2
import GeoChat.Library.Program

/-!
# Two programs side by side

Two programs, over two kinds of state or over two versions of one, are parallel
when they make similar calls and go on in parallel after exchanges that agree.
If two handlers answer similar calls in agreement, workers that start in
parallel stay so in every schedule.
-/

namespace GeoChat.Library

variable {Op : Type} {Reply : Op → Type} {First Second Third Fourth : Type}

namespace Program

variable (similar : Op → Op → Prop) (agree : Exchange Op Reply → Exchange Op Reply → Prop)

/-- The calls of the two programs are similar on all paths on which the
exchanges agree, and both end in results that are accepted. -/
def Parallel (accepted : First → Second → Prop) :
    Program Op Reply First → Program Op Reply Second → Prop
  | .done one, .done two => accepted one two
  | .call one next, .call two other =>
      similar one two ∧ ∀ reply answer, agree ⟨one, reply⟩ ⟨two, answer⟩ →
        Parallel accepted (next reply) (other answer)
  | _, _ => False

variable {similar agree} {accepted : First → Second → Prop} {one : Program Op Reply First}
  {two : Program Op Reply Second}

theorem Parallel.mono {weaker : First → Second → Prop}
    (parallel : Parallel similar agree accepted one two)
    (results : ∀ first second, accepted first second → weaker first second) :
    Parallel similar agree weaker one two := by
  induction one generalizing two with
  | done result =>
      cases two with
      | done other => exact results _ _ parallel
      | call op next => exact parallel.elim
  | call op next inductionHypothesis =>
      cases two with
      | done other => exact parallel.elim
      | call other rest =>
          exact ⟨parallel.1, fun reply answer agrees =>
            inductionHypothesis reply (parallel.2 reply answer agrees)⟩

theorem Parallel.bind {further : Third → Fourth → Prop} {next : First → Program Op Reply Third}
    {other : Second → Program Op Reply Fourth}
    (parallel : Parallel similar agree accepted one two)
    (continues : ∀ first second, accepted first second →
      Parallel similar agree further (next first) (other second)) :
    Parallel similar agree further (one >>= next) (two >>= other) := by
  induction one generalizing two with
  | done result =>
      cases two with
      | done second => exact continues _ _ parallel
      | call op rest => exact parallel.elim
  | call op rest inductionHypothesis =>
      cases two with
      | done second => exact parallel.elim
      | call second remaining =>
          exact ⟨parallel.1, fun reply answer agrees =>
            inductionHypothesis reply (parallel.2 reply answer agrees)⟩

theorem parallel_perform {first second : Op} (same : similar first second)
    {next : Reply first → Program Op Reply Third} {other : Reply second → Program Op Reply Fourth}
    {further : Third → Fourth → Prop}
    (continues : ∀ reply answer, agree ⟨first, reply⟩ ⟨second, answer⟩ →
      Parallel similar agree further (next reply) (other answer)) :
    Parallel similar agree further (perform first >>= next) (perform second >>= other) :=
  ⟨same, continues⟩

/-- A program whose calls are answered the same is parallel to itself. -/
theorem Uses.parallel {calls : Op → Prop} (uses : Uses calls one)
    (same : ∀ op, calls op → similar op op)
    (determined : ∀ op reply answer, calls op → agree ⟨op, reply⟩ ⟨op, answer⟩ → reply = answer) :
    Parallel similar agree Eq one one := by
  induction one with
  | done result => exact rfl
  | call op next inductionHypothesis =>
      refine ⟨same op uses.1, fun reply answer agrees => ?_⟩
      rw [determined op reply answer uses.1 agrees]
      exact inductionHypothesis answer (uses.2 answer)

end Program

variable {Task Choice State Other : Type} {similar : Task → Op → Op → Prop}
  {agree : Task → Exchange Op Reply → Exchange Op Reply → Prop} {related : State → Other → Prop}

/-- Workers on one task whose exchanges agree so far, and whose programs are
parallel from here on. -/
structure Worker.Alike (similar : Task → Op → Op → Prop)
    (agree : Task → Exchange Op Reply → Exchange Op Reply → Prop)
    (one two : Worker Task Op Reply) : Prop where
  task : one.task = two.task
  history : List.Forall₂ (agree one.task) one.history two.history
  program : Program.Parallel (similar one.task) (agree one.task) (fun _ _ => True) one.program
    two.program

/-- Pools over related states, with workers alike. -/
structure Pool.Alike (similar : Task → Op → Op → Prop)
    (agree : Task → Exchange Op Reply → Exchange Op Reply → Prop)
    (related : State → Other → Prop) (one : Pool Task Op Reply State)
    (two : Pool Task Op Reply Other) : Prop where
  shared : related one.shared two.shared
  workers : List.Forall₂ (Worker.Alike similar agree) one.workers two.workers

/-- The tasks of a schedule, and what the environment decides, are as expected. -/
def PoolEvent.Within (tasks : Task → Prop) (choices : Choice → Prop) :
    PoolEvent Task Choice → Prop
  | .take task => tasks task
  | .call _ choice => choices choice

instance (tasks : Task → Prop) (choices : Choice → Prop) [DecidablePred tasks]
    [DecidablePred choices] (event : PoolEvent Task Choice) :
    Decidable (event.Within tasks choices) :=
  match event with
  | .take task => inferInstanceAs (Decidable (tasks task))
  | .call _ choice => inferInstanceAs (Decidable (choices choice))

theorem forall₂_set {Alpha Beta : Type} {relation : Alpha → Beta → Prop} {items : List Alpha}
    {others : List Beta} (each : List.Forall₂ relation items others) (index : Nat) {item : Alpha}
    {other : Beta} (relates : relation item other) :
    List.Forall₂ relation (items.set index item) (others.set index other) := by
  induction each generalizing index with
  | nil => exact .nil
  | cons first rest inductionHypothesis =>
      cases index with
      | zero => exact .cons relates rest
      | succ index => exact .cons first (inductionHypothesis index)

theorem forall₂_getElem? {Alpha Beta : Type} {relation : Alpha → Beta → Prop}
    {items : List Alpha} {others : List Beta} (each : List.Forall₂ relation items others)
    {index : Nat} {other : Beta} (found : others[index]? = some other) :
    ∃ item, items[index]? = some item ∧ relation item other := by
  induction each generalizing index with
  | nil => simp at found
  | cons first rest inductionHypothesis =>
      cases index with
      | zero =>
          rw [List.getElem?_cons_zero, Option.some.injEq] at found
          exact ⟨_, rfl, found ▸ first⟩
      | succ index => exact inductionHypothesis found

namespace Pool

variable {program other : Task → Program Op Reply Unit}
  {handle : Choice → Program.Handler Op Reply State}
  {handleOther : Choice → Program.Handler Op Reply Other} {tasks : Task → Prop}
  {choices : Choice → Prop} {within : Other → Prop}

/-- The call that a worker with a call left can make. -/
theorem step_call {pool : Pool Task Op Reply State} {index : Nat}
    {worker : Worker Task Op Reply} {op : Op} {next : Reply op → Program Op Reply Unit}
    (found : pool.workers[index]? = some worker) (shape : worker.program = .call op next)
    (choice : Choice) :
    (system program handle).step pool (.call index choice) =
      some ⟨(handle choice op pool.shared).2, pool.workers.set index
        ⟨worker.task, worker.history ++ [⟨op, (handle choice op pool.shared).1⟩],
          next (handle choice op pool.shared).1⟩⟩ := by
  simp only [system, found, Worker.advance, shape, Option.map_some]

/-- What no call makes true again holds all along a run at whose end it holds. -/
theorem within_of_run {events : List (PoolEvent Task Choice)}
    {pool later : Pool Task Op Reply Other}
    (earlier : ∀ choice op state, within (handleOther choice op state).2 → within state)
    (ran : (system other handleOther).run events pool = some later)
    (inside : within later.shared) : within pool.shared := by
  refine System.Reaches.invariant (fun later => within later.shared → within pool.shared)
    (System.reaches_of_run ran) id ?_ inside
  intro state event next held stepped insideNext
  rcases step_cases stepped with ⟨task, rfl, rfl⟩ |
      ⟨index, choice, worker, op, rest, rfl, found, shape, shared, workers⟩
  · exact held insideNext
  · rw [shared] at insideNext
    exact held (earlier choice op _ insideNext)

section Lockstep

/- Both programs of a task start in parallel. Over related states similar calls
are answered in agreement, as long as the second state stays within bounds. -/
variable (starts : ∀ task, tasks task →
    Program.Parallel (similar task) (agree task) (fun _ _ => True) (program task) (other task))
  (answers : ∀ task choice first op state shared, choices choice → related state shared →
    similar task first op → within (handleOther choice op shared).2 →
    agree task ⟨first, (handle choice first state).1⟩ ⟨op, (handleOther choice op shared).1⟩ ∧
      related (handle choice first state).2 (handleOther choice op shared).2)

include starts answers

/-- What one step does to the second pool, a step of the same event does to the
first. -/
theorem Alike.step {pool : Pool Task Op Reply State} {second later : Pool Task Op Reply Other}
    {event : PoolEvent Task Choice} (alike : pool.Alike similar agree related second)
    (expected : event.Within tasks choices)
    (stepped : (system other handleOther).step second event = some later)
    (inside : within later.shared) :
    ∃ next, (system program handle).step pool event = some next ∧
      next.Alike similar agree related later := by
  rcases step_cases stepped with ⟨task, rfl, rfl⟩ |
      ⟨index, choice, worker, op, rest, rfl, found, shape, shared, workers⟩
  · refine ⟨_, rfl, alike.shared, ?_⟩
    exact List.rel_append alike.workers (.cons ⟨rfl, .nil, starts task expected⟩ .nil)
  · obtain ⟨twin, foundTwin, same⟩ := forall₂_getElem? alike.workers found
    have parallel := same.program
    rw [shape] at parallel
    cases twinShape : twin.program with
    | done result =>
        rw [twinShape] at parallel
        exact parallel.elim
    | call first next =>
        rw [twinShape] at parallel
        rw [shared] at inside
        obtain ⟨agrees, kept⟩ := answers twin.task choice first op pool.shared second.shared
          expected alike.shared parallel.1 inside
        refine ⟨_, step_call foundTwin twinShape choice, ?_, ?_⟩
        · rw [shared]
          exact kept
        · rw [workers]
          refine forall₂_set alike.workers index ⟨same.task, ?_, parallel.2 _ _ agrees⟩
          exact List.rel_append same.history (.cons agrees .nil)

/-- Every schedule of the second pool is one of the first, and leaves the pools
alike. -/
theorem Alike.run {events : List (PoolEvent Task Choice)} {pool : Pool Task Op Reply State}
    {second later : Pool Task Op Reply Other} (alike : pool.Alike similar agree related second)
    (earlier : ∀ choice op state, within (handleOther choice op state).2 → within state)
    (expected : ∀ event ∈ events, event.Within tasks choices)
    (ran : (system other handleOther).run events second = some later)
    (inside : within later.shared) :
    ∃ last, (system program handle).run events pool = some last ∧
      last.Alike similar agree related later := by
  induction events generalizing pool second with
  | nil =>
      cases ran
      exact ⟨pool, rfl, alike⟩
  | cons event rest inductionHypothesis =>
      rcases List.forall_mem_cons.mp expected with ⟨first, others⟩
      simp only [System.run, System.runWithin, if_true] at ran ⊢
      obtain ⟨middle, stepped, remaining⟩ := Option.bind_eq_some_iff.mp ran
      have insideMiddle := within_of_run earlier remaining inside
      obtain ⟨next, taken, further⟩ :=
        Alike.step starts answers alike first stepped insideMiddle
      obtain ⟨last, replayed, same⟩ := inductionHypothesis further others remaining
      exact ⟨last, by rw [taken]; exact replayed, same⟩

end Lockstep

end Pool

end GeoChat.Library
