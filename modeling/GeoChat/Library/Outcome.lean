import Mathlib.Data.List.Basic

/-!
# Outcomes of fallible computations

A specification says which results a computation may return and which errors
it may end with. Both are carried through a sequence of computations.
-/

namespace GeoChat.Library

universe u v

variable {Error : Type u} {First Second : Type v}

@[simp] theorem ok_bind (result : First) (next : First → Except Error Second) :
    (Except.ok result >>= next) = next result := rfl

/-- The computation returns an accepted result or ends with a tolerated
error. -/
def Ensures (tolerated : Error → Prop) (accepted : First → Prop) : Except Error First → Prop
  | .ok result => accepted result
  | .error error => tolerated error

namespace Ensures

variable {tolerated : Error → Prop} {accepted : First → Prop} {later : Second → Prop}

theorem bind {first : Except Error First} {next : First → Except Error Second}
    (ensures : Ensures tolerated accepted first)
    (further : ∀ result, accepted result → Ensures tolerated later (next result)) :
    Ensures tolerated later (first >>= next) := by
  cases first with
  | error error => exact ensures
  | ok result => exact further result ensures

theorem mono {weaker : First → Prop} {first : Except Error First}
    (ensures : Ensures tolerated accepted first)
    (weaken : ∀ result, accepted result → weaker result) : Ensures tolerated weaker first := by
  cases first with
  | error error => exact ensures
  | ok result => exact weaken result ensures

theorem ite {condition : Prop} [Decidable condition] {first second : Except Error First}
    (holds : condition → Ensures tolerated accepted first)
    (fails : ¬ condition → Ensures tolerated accepted second) :
    Ensures tolerated accepted (if condition then first else second) := by
  split
  next positive => exact holds positive
  next negative => exact fails negative

/-- A computation that may end with no error returns. -/
theorem returns {first : Except Error First} (ensures : Ensures (fun _ => False) accepted first) :
    ∃ result, first = .ok result ∧ accepted result := by
  cases first with
  | error error => exact ensures.elim
  | ok result => exact ⟨result, rfl, ensures⟩

theorem of_eq {first : Except Error First} {result : First}
    (ensures : Ensures tolerated accepted first) (returned : first = .ok result) :
    accepted result := by
  subst returned
  exact ensures

end Ensures

end GeoChat.Library
