import GeoChat.Library.Dispatch

/-!
# `Queue`

The queue of `lock_queue.hpp` that the threads of the server and of the client
share. Each of its methods is one critical section.
-/

namespace GeoChat

open Library

/-- `Queue<T>`, without its mutex. -/
structure Queue (T : Type) where
  items : List T := []
  deriving DecidableEq, Repr

namespace Queue

variable {T : Type}

def push (queue : Queue T) (t : T) : Queue T := ⟨queue.items ++ [t]⟩

/-- The overload for one item. -/
def getTask (queue : Queue T) : Option (T × Queue T) :=
  match queue.items with
  | [] => none
  | t :: rest => some (t, ⟨rest⟩)

/-- The queue is first-in, first-out. -/
def fifo : Fifo (Queue T) T where
  push := push
  getTask := getTask
  contents := items
  contents_push _ _ := rfl
  getTask_eq queue := by
    unfold getTask
    cases queue.items <;> rfl

end Queue

end GeoChat
