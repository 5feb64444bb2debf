import Mathlib.Data.List.Perm.Basic
import GeoChat.Library.Program

/-!
# What the workers of a pool have done

The shared state compared with what the exchanges of the workers come to, and
the grounds that a worker had for each of its calls.
-/

namespace GeoChat.Library

variable {Task Op State Choice Item : Type} {Reply : Op → Type}

/-- Histories of possible replies in which each call was allowed by the
exchanges before it. -/
inductive Made (possible : (op : Op) → Reply op → Prop)
    (allowed : List (Exchange Op Reply) → Op → Prop) : List (Exchange Op Reply) → Prop
  | nothing : Made possible allowed []
  | exchange {history : List (Exchange Op Reply)} {op : Op} {reply : Reply op} :
      Made possible allowed history → allowed history op → possible op reply →
      Made possible allowed (history ++ [⟨op, reply⟩])

namespace Made

variable {possible : (op : Op) → Reply op → Prop} {allowed : List (Exchange Op Reply) → Op → Prop}
  {history : List (Exchange Op Reply)} {items : Exchange Op Reply → List Item}

/-- What vouches for the items of a call once it is made vouches for them later. -/
theorem vouched (made : Made possible allowed history)
    {vouches : List (Exchange Op Reply) → Item → Prop}
    (lasting : ∀ history exchange item, vouches history item → vouches (history ++ [exchange]) item)
    (each : ∀ history op reply, allowed history op → possible op reply →
      ∀ item ∈ items ⟨op, reply⟩, vouches (history ++ [⟨op, reply⟩]) item) :
    ∀ item ∈ history.flatMap items, vouches history item := by
  induction made with
  | nothing => simp
  | exchange _ allows answered inductionHypothesis =>
      intro item member
      rw [List.flatMap_append, List.flatMap_singleton] at member
      rcases List.mem_append.mp member with old | new
      · exact lasting _ _ _ (inductionHypothesis item old)
      · exact each _ _ _ allows answered item new

/-- A call that is allowed only while there are no items yet. -/
theorem at_most_one (made : Made possible allowed history)
    (one : ∀ exchange, (items exchange).length ≤ 1)
    (first : ∀ history op reply, allowed history op → items ⟨op, reply⟩ ≠ [] →
      history.flatMap items = []) : (history.flatMap items).length ≤ 1 := by
  induction made with
  | nothing => simp
  | @exchange history op reply _ allows _ inductionHypothesis =>
      rw [List.flatMap_append, List.flatMap_singleton]
      by_cases none : items ⟨op, reply⟩ = []
      · rw [none, List.append_nil]
        exact inductionHypothesis
      · rw [first _ _ _ allows none, List.nil_append]
        exact one _

end Made

namespace Worker

/-- What the exchanges of the worker come to. -/
def total (items : Exchange Op Reply → List Item) (worker : Worker Task Op Reply) : List Item :=
  worker.history.flatMap items

/-- The worker has done, and will do, only what its task allows. -/
structure Justified (possible : (op : Op) → Reply op → Prop)
    (allowed : Task → List (Exchange Op Reply) → Op → Prop)
    (accepted : Task → List (Exchange Op Reply) → Prop) (worker : Worker Task Op Reply) : Prop where
  made : Made possible (allowed worker.task) worker.history
  follows : worker.program.Follows possible (allowed worker.task)
    (fun history _ => accepted worker.task history) worker.history

theorem Justified.accepted {possible : (op : Op) → Reply op → Prop}
    {allowed : Task → List (Exchange Op Reply) → Op → Prop}
    {accepted : Task → List (Exchange Op Reply) → Prop} {worker : Worker Task Op Reply}
    (justified : worker.Justified possible allowed accepted) (ended : worker.finished = true) :
    accepted worker.task worker.history := by
  have follows := justified.follows
  unfold finished at ended
  split at ended
  next result shape =>
    rw [shape] at follows
    exact follows
  next => cases ended

end Worker

namespace Pool

variable {program : Task → Program Op Reply Unit} {handle : Choice → Program.Handler Op Reply State}
  {start : State} {pool next : Pool Task Op Reply State}

/-- What the exchanges of all workers come to. -/
def total (items : Exchange Op Reply → List Item) (pool : Pool Task Op Reply State) : List Item :=
  pool.workers.flatMap (Worker.total items)

theorem mem_total {items : Exchange Op Reply → List Item} {item : Item} :
    item ∈ pool.total items ↔ ∃ worker ∈ pool.workers, item ∈ worker.total items :=
  List.mem_flatMap

theorem map_total {Other : Type} (form : Item → Other) (items : Exchange Op Reply → List Item)
    (pool : Pool Task Op Reply State) :
    (pool.total items).map form = pool.total fun exchange => (items exchange).map form := by
  unfold total Worker.total
  simp only [List.map_flatMap]

/-- One more exchange of a worker adds its items. -/
theorem flatMap_total_set (items : Exchange Op Reply → List Item)
    {workers : List (Worker Task Op Reply)} {index : Nat} {worker : Worker Task Op Reply}
    (found : workers[index]? = some worker) (exchange : Exchange Op Reply)
    (rest : Program Op Reply Unit) :
    ((workers.set index ⟨worker.task, worker.history ++ [exchange], rest⟩).flatMap
      (Worker.total items)).Perm (workers.flatMap (Worker.total items) ++ items exchange) := by
  obtain ⟨bound, rfl⟩ := List.getElem?_eq_some_iff.mp found
  have before := (List.getElem_cons_eraseIdx_perm bound).flatMap_right (Worker.total items)
  have later := (List.set_perm_cons_eraseIdx bound
    ⟨workers[index].task, workers[index].history ++ [exchange], rest⟩).flatMap_right
      (Worker.total items)
  refine later.trans (.trans ?_ (before.append_right _))
  simp only [List.flatMap_cons, Worker.total, List.flatMap_append, List.flatMap_nil,
    List.append_nil, List.append_assoc]
  exact List.perm_append_comm.append_left _

/-- A step adds the items of its exchange, if it makes one. -/
theorem total_step (items : Exchange Op Reply → List Item) {event : PoolEvent Task Choice}
    (stepped : (system program handle).step pool event = some next) :
    next.shared = pool.shared ∧ next.total items = pool.total items ∨
      ∃ choice op, next.shared = (handle choice op pool.shared).2 ∧
        (next.total items).Perm
          (pool.total items ++ items ⟨op, (handle choice op pool.shared).1⟩) := by
  rcases step_cases stepped with ⟨task, rfl, rfl⟩ |
      ⟨index, choice, worker, op, rest, rfl, found, shape, shared, workers⟩
  · exact .inl ⟨rfl, by simp [total, Worker.total]⟩
  · refine .inr ⟨choice, op, shared, ?_⟩
    unfold total
    rw [workers]
    exact flatMap_total_set items found _ _

/-- What is stored is what the exchanges of the workers have added. -/
theorem stored_perm (stored : State → List Item) (items : Exchange Op Reply → List Item)
    (reached : (system program handle).Reaches ⟨start, []⟩ pool) (initial : stored start = [])
    (adds : ∀ choice op state, (stored (handle choice op state).2).Perm
      (stored state ++ items ⟨op, (handle choice op state).1⟩)) :
    (stored pool.shared).Perm (pool.total items) := by
  refine System.Reaches.invariant (fun pool => (stored pool.shared).Perm (pool.total items))
    reached (by simp [initial, total]) ?_
  intro pool event next perm stepped
  rcases total_step items stepped with ⟨shared, same⟩ | ⟨choice, op, shared, added⟩
  · rwa [shared, same]
  · rw [shared]
    exact (adds choice op pool.shared).trans ((perm.append_right _).trans added.symm)

/-- What is stored comes from some exchange, or from elsewhere in the state. -/
theorem stored_subset (stored own : State → List Item) (items : Exchange Op Reply → List Item)
    (reached : (system program handle).Reaches ⟨start, []⟩ pool) (initial : stored start = [])
    (keeps : ∀ choice op state, own state ⊆ own (handle choice op state).2)
    (adds : ∀ choice op state, stored (handle choice op state).2 ⊆
      stored state ++ own (handle choice op state).2 ++
        items ⟨op, (handle choice op state).1⟩) :
    stored pool.shared ⊆ own pool.shared ++ pool.total items := by
  refine System.Reaches.invariant
    (fun pool => stored pool.shared ⊆ own pool.shared ++ pool.total items)
    reached (by simp [initial]) ?_
  intro pool event next held stepped
  rcases total_step items stepped with ⟨shared, same⟩ | ⟨choice, op, shared, added⟩
  · rwa [shared, same]
  · rw [shared]
    intro item member
    rw [List.mem_append, added.mem_iff, List.mem_append]
    rcases List.mem_append.mp (adds choice op pool.shared member) with old | new
    · rcases List.mem_append.mp old with before | other
      · rcases List.mem_append.mp (held before) with other | counted
        · exact .inl (keeps choice op pool.shared other)
        · exact .inr (.inl counted)
      · exact .inl other
    · exact .inr (.inr new)

/-- In every schedule the workers do what their tasks allow. -/
theorem justified {possible : (op : Op) → Reply op → Prop}
    {allowed : Task → List (Exchange Op Reply) → Op → Prop}
    {accepted : Task → List (Exchange Op Reply) → Prop}
    (reached : (system program handle).Reaches ⟨start, []⟩ pool)
    (follows : ∀ task, (program task).Follows possible (allowed task)
      (fun history _ => accepted task history) [])
    (answers : ∀ choice op state, possible op (handle choice op state).1) :
    ∀ worker ∈ pool.workers, worker.Justified possible allowed accepted := by
  refine System.Reaches.invariant
    (fun pool => ∀ worker ∈ pool.workers, worker.Justified possible allowed accepted)
    reached (by simp) ?_
  intro pool event next each stepped
  rcases step_cases stepped with ⟨task, rfl, rfl⟩ |
      ⟨index, choice, worker, op, rest, rfl, found, shape, shared, workers⟩
  · intro worker member
    rcases List.mem_append.mp member with old | new
    · exact each worker old
    · cases List.mem_singleton.mp new
      exact ⟨.nothing, follows task⟩
  · obtain ⟨made, remaining⟩ := each worker (List.mem_of_getElem? found)
    rw [shape] at remaining
    have answered := answers choice op pool.shared
    rw [workers]
    intro other memberOther
    rcases List.mem_or_eq_of_mem_set memberOther with old | rfl
    · exact each other old
    · exact ⟨.exchange made remaining.1 answered, remaining.2 _ answered⟩

/-- What every call keeps and what every reply says from there. -/
theorem replied {holds : State → Prop} {shows : Exchange Op Reply → Prop}
    (reached : (system program handle).Reaches ⟨start, []⟩ pool) (initial : holds start)
    (kept : ∀ choice op state, holds state → holds (handle choice op state).2)
    (answers : ∀ choice op state, holds state → shows ⟨op, (handle choice op state).1⟩) :
    holds pool.shared ∧ ∀ worker ∈ pool.workers, ∀ exchange ∈ worker.history, shows exchange := by
  refine System.Reaches.invariant
    (fun pool : Pool Task Op Reply State => holds pool.shared ∧
      ∀ worker ∈ pool.workers, ∀ exchange ∈ worker.history, shows exchange)
    reached ⟨initial, by simp⟩ ?_
  rintro pool event next ⟨held, each⟩ stepped
  rcases step_cases stepped with ⟨task, rfl, rfl⟩ |
      ⟨index, choice, worker, op, rest, rfl, found, shape, shared, workers⟩
  · refine ⟨held, fun worker member => ?_⟩
    rcases List.mem_append.mp member with old | new
    · exact each worker old
    · rw [List.mem_singleton.mp new]
      exact fun _ nothing => absurd nothing List.not_mem_nil
  · rw [shared, workers]
    refine ⟨kept choice op _ held, fun other member => ?_⟩
    rcases List.mem_or_eq_of_mem_set member with old | rfl
    · exact each other old
    · intro exchange told
      rcases List.mem_append.mp told with before | now
      · exact each worker (List.mem_of_getElem? found) exchange before
      · rw [List.mem_singleton.mp now]
        exact answers choice op _ held

/-- What the workers have been told is still so. -/
theorem told {known : State → Exchange Op Reply → Prop}
    (reached : (system program handle).Reaches ⟨start, []⟩ pool)
    (learned : ∀ choice op state, known (handle choice op state).2
      ⟨op, (handle choice op state).1⟩)
    (stable : ∀ choice op state exchange, known state exchange →
      known (handle choice op state).2 exchange) :
    ∀ worker ∈ pool.workers, ∀ exchange ∈ worker.history, known pool.shared exchange :=
  fun worker member =>
    ((informed (fun _ => True) known reached trivial
      (fun task => Program.follows_trivial (program task) []) (fun _ _ _ => trivial)
      (fun _ _ _ _ _ _ _ => trivial) learned stable).2 worker member).2

end Pool

end GeoChat.Library
