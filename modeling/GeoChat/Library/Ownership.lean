import Mathlib.Data.List.Perm.Basic
import GeoChat.Library.Program

/-!
# What belongs to one owner

Owners share a list, and each sees of it what is theirs, in the order of the
list. A change to one element is a change to one of theirs, or they do not see
it.
-/

namespace GeoChat.Library

variable {Owner Item View Task Op State : Type} {Reply : Op → Type}

/-- An element with what is before and what is after it. -/
theorem take_getElem_drop {items : List Item} {index : Nat} (bound : index < items.length) :
    items.take index ++ items[index] :: items.drop (index + 1) = items := by
  rw [List.getElem_cons_drop, List.take_append_drop]

/-- A filter sees the change of an element, at the place of the element. -/
theorem filterMap_set {seen : Item → Option View} {items : List Item} {index : Nat}
    {item later : Item} {view next : View} (found : items[index]? = some item)
    (before : seen item = some view) (after : seen later = some next) :
    ∃ place, (items.filterMap seen)[place]? = some view ∧
      (items.set index later).filterMap seen = (items.filterMap seen).set place next := by
  obtain ⟨bound, rfl⟩ := List.getElem?_eq_some_iff.mp found
  have parts : items.filterMap seen = (items.take index).filterMap seen ++
      view :: (items.drop (index + 1)).filterMap seen := by
    rw [← List.filterMap_cons_some before, ← List.filterMap_append, take_getElem_drop]
  refine ⟨((items.take index).filterMap seen).length, ?_, ?_⟩
  · rw [parts]
    simp
  · rw [parts, List.set_append_right _ _ (Nat.le_refl _), Nat.sub_self, List.set_cons_zero,
      List.set_eq_take_append_cons_drop, if_pos bound, List.filterMap_append,
      List.filterMap_cons_some after]

/-- A filter that does not see an element does not see its change. -/
theorem filterMap_set_unseen {seen : Item → Option View} {items : List Item} {index : Nat}
    {item later : Item} (found : items[index]? = some item) (before : seen item = none)
    (after : seen later = none) :
    (items.set index later).filterMap seen = items.filterMap seen := by
  obtain ⟨bound, rfl⟩ := List.getElem?_eq_some_iff.mp found
  have parts : items.filterMap seen = (items.take index).filterMap seen ++
      (items.drop (index + 1)).filterMap seen := by
    have rest := @List.filterMap_cons_none _ _ seen items[index] (items.drop (index + 1)) before
    rw [← rest, ← List.filterMap_append, take_getElem_drop]
  rw [parts, List.set_eq_take_append_cons_drop, if_pos bound, List.filterMap_append,
    List.filterMap_cons_none after]

/-- What all the owners see is the whole list. -/
theorem flatMap_filterMap_perm [DecidableEq Owner] {owners : List Owner} (distinct : owners.Nodup)
    {ownerOf : Item → Owner} {items : List Item} (known : ∀ item ∈ items, ownerOf item ∈ owners)
    (view : Item → View) :
    (owners.flatMap fun owner => items.filterMap fun item =>
      if ownerOf item = owner then some (view item) else none).Perm (items.map view) := by
  induction items with
  | nil => simp
  | cons head rest inductionHypothesis =>
      obtain ⟨isOwner, others⟩ := List.forall_mem_cons.mp known
      have one : (owners.flatMap fun owner =>
          if ownerOf head = owner then [view head] else []).Perm [view head] := by
        refine ((List.perm_cons_erase isOwner).flatMap_right _).trans ?_
        rw [List.flatMap_cons, if_pos rfl, List.flatMap_eq_nil_iff.mpr, List.append_nil]
        intro other member
        exact if_neg (distinct.mem_erase_iff.mp member).1.symm
      have parts : (fun owner => (head :: rest).filterMap fun item =>
          if ownerOf item = owner then some (view item) else none) = fun owner =>
          (if ownerOf head = owner then [view head] else []) ++ rest.filterMap fun item =>
            if ownerOf item = owner then some (view item) else none := by
        funext owner
        by_cases mine : ownerOf head = owner
        all_goals simp [mine]
      rw [parts]
      exact (List.flatMap_append_perm _ _ _).symm.trans
        (one.append (inductionHypothesis others))

section Own

variable [DecidableEq Owner] {owner : Owner}

/-- The items of one owner. -/
def own (owner : Owner) (items : List (Owner × Item)) : List Item :=
  items.filterMap fun item => if item.1 = owner then some item.2 else none

@[simp]
theorem own_nil : own owner ([] : List (Owner × Item)) = [] := rfl

theorem own_append (items more : List (Owner × Item)) :
    own owner (items ++ more) = own owner items ++ own owner more := List.filterMap_append

theorem own_cons_self (item : Item) (rest : List (Owner × Item)) :
    own owner ((owner, item) :: rest) = item :: own owner rest :=
  List.filterMap_cons_some (if_pos rfl)

theorem own_cons_other {other : Owner} (different : other ≠ owner) (item : Item)
    (rest : List (Owner × Item)) : own owner ((other, item) :: rest) = own owner rest :=
  List.filterMap_cons_none (if_neg different)

theorem own_of_self (items : List Item) : own owner (items.map ((owner, ·))) = items := by
  unfold own
  rw [List.filterMap_map]
  simp

theorem own_of_other {other : Owner} (different : other ≠ owner) (items : List Item) :
    own owner (items.map ((other, ·))) = [] := by
  unfold own
  rw [List.filterMap_map]
  simp [different]

theorem own_eq_nil {items : List (Owner × Item)} (foreign : ∀ item ∈ items, item.1 ≠ owner) :
    own owner items = [] := by
  rw [own, List.filterMap_eq_nil_iff]
  exact fun item member => if_neg (foreign item member)

end Own

namespace Worker

/-- The worker without the owner of its task. -/
def forTask (worker : Worker (Owner × Task) Op Reply) : Worker Task Op Reply :=
  ⟨worker.task.2, worker.history, worker.program⟩

variable [DecidableEq Owner] {owner : Owner} {workers : List (Worker (Owner × Task) Op Reply)}

/-- The workers with tasks of one owner. -/
def own (owner : Owner) (workers : List (Worker (Owner × Task) Op Reply)) :
    List (Worker Task Op Reply) :=
  workers.filterMap fun worker => if worker.task.1 = owner then some worker.forTask else none

theorem own_subset {worker : Worker Task Op Reply} (member : worker ∈ own owner workers) :
    worker ∈ workers.map forTask := by
  obtain ⟨tagged, present, seen⟩ := List.mem_filterMap.mp member
  split at seen
  next => exact Option.some.inj seen ▸ List.mem_map_of_mem present
  next => cases seen

/-- Every worker is some owner's. -/
theorem own_perm {owners : List Owner} (distinct : owners.Nodup)
    (known : ∀ worker ∈ workers, worker.task.1 ∈ owners) :
    (owners.flatMap fun owner => own owner workers).Perm (workers.map forTask) :=
  flatMap_filterMap_perm distinct known forTask

/-- The owner sees that a task of theirs is taken. -/
theorem own_take_self (task : Task) (program : Program Op Reply Unit) :
    own owner (workers ++ [{ task := (owner, task), program }]) =
      own owner workers ++ [{ task := task, program := program }] := by
  simp [own, forTask]

theorem own_take_other {other : Owner} (different : other ≠ owner) (task : Task)
    (program : Program Op Reply Unit) :
    own owner (workers ++ [{ task := (other, task), program }]) = own owner workers := by
  simp [own, different]

theorem own_eq_nil (foreign : ∀ worker ∈ workers, worker.task.1 ≠ owner) :
    own owner workers = [] := by
  rw [own, List.filterMap_eq_nil_iff]
  exact fun worker member => if_neg (foreign worker member)

variable {index : Nat} {worker later : Worker (Owner × Task) Op Reply}

/-- The owner sees a step of a worker of theirs. -/
theorem own_set_self (found : workers[index]? = some worker) (mine : worker.task.1 = owner)
    (same : later.task = worker.task) :
    ∃ place, (own owner workers)[place]? = some worker.forTask ∧
      own owner (workers.set index later) = (own owner workers).set place later.forTask :=
  filterMap_set found (if_pos mine) (if_pos (same ▸ mine))

theorem own_set_other (found : workers[index]? = some worker) (foreign : worker.task.1 ≠ owner)
    (same : later.task = worker.task) : own owner (workers.set index later) = own owner workers :=
  filterMap_set_unseen found (if_neg foreign) (if_neg (same ▸ foreign))

end Worker

end GeoChat.Library
