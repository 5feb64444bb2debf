import Mathlib.Logic.Hydra
import Mathlib.Order.WellFounded
import GeoChat.Library.Program

/-!
# Systems that come to rest

Some events of a system need nothing from outside. When each step of them goes
down in a well-founded order, the system comes to rest by itself, whatever the
order of the steps is. Programs go down with every call, and so do workers that
share a state.
-/

namespace GeoChat.Library

namespace System

variable {State Event : Type} (system : System State Event) (own : Event → Prop)

/-- One step that needs nothing from outside. -/
def Stirs (next state : State) : Prop :=
  ∃ event, own event ∧ system.step state event = some next

/-- No such step is left. -/
def Rests (state : State) : Prop := ∀ event, own event → system.step state event = none

variable {system own}

theorem not_endless (ends : WellFounded (system.Stirs own)) :
    ¬ ∃ states : Nat → State, ∀ index, system.Stirs own (states (index + 1)) (states index) := by
  rintro ⟨states, stirs⟩
  exact (wellFounded_iff_isEmpty_descending_chain.mp ends).false ⟨states, stirs⟩

/-- From every state the system comes to one in which it rests. -/
theorem exists_rests (ends : WellFounded (system.Stirs own)) (state : State) :
    ∃ events last, (∀ event ∈ events, own event) ∧ system.run events state = some last ∧
      system.Rests own last := by
  induction state using ends.induction with
  | _ state inductionHypothesis =>
      by_cases rests : system.Rests own state
      · exact ⟨[], state, by simp, rfl, rests⟩
      · simp only [Rests, not_forall] at rests
        obtain ⟨event, isOwn, moves⟩ := rests
        obtain ⟨next, stepped⟩ := Option.ne_none_iff_exists'.mp moves
        obtain ⟨events, last, areOwn, ran, quiet⟩ :=
          inductionHypothesis next ⟨event, isOwn, stepped⟩
        refine ⟨event :: events, last, ?_, ?_, quiet⟩
        · exact List.forall_mem_cons.mpr ⟨isOwn, areOwn⟩
        · exact run_append (run_singleton stepped) ran

end System

section Lists

variable {Item : Type} {items : List Item} {index : Nat} {item : Item}

/-- A changed element for the one that was there. -/
theorem set_append_perm (found : items[index]? = some item) (later : Item) :
    (items.set index later ++ [item]).Perm (items ++ [later]) := by
  obtain ⟨bound, rfl⟩ := List.getElem?_eq_some_iff.mp found
  have changed := (List.set_perm_cons_eraseIdx bound later).append_right [items[index]]
  have whole := (List.getElem_cons_eraseIdx_perm bound).append_right [later]
  refine changed.trans (.trans ?_ whole)
  exact (List.perm_append_singleton _ _).trans
    ((List.Perm.swap later items[index] _).trans (List.perm_append_singleton _ _).symm)

theorem sum_set (found : items[index]? = some item) (later : Item) (size : Item → Nat) :
    ((items.set index later).map size).sum + size item = (items.map size).sum + size later := by
  have same := ((set_append_perm found later).map size).sum_eq
  simpa using same

theorem cutExpand_set {less : Item → Item → Prop} (found : items[index]? = some item)
    {later : Item} (isLess : less later item) :
    Relation.CutExpand less (items.set index later : Multiset Item) (items : Multiset Item) := by
  refine ⟨{later}, item, by simpa using isLess, ?_⟩
  exact Quotient.sound (set_append_perm found later)

end Lists

namespace Program

variable {Op : Type} {Reply : Op → Type} {Result : Type}

/-- What is left of a program after a call. -/
inductive Left : Program Op Reply Result → Program Op Reply Result → Prop
  | call (op : Op) (next : Reply op → Program Op Reply Result) (reply : Reply op) :
      Left (next reply) (.call op next)

theorem wellFounded_left : WellFounded (@Left Op Reply Result) := by
  refine ⟨fun program => ?_⟩
  induction program with
  | done result =>
      refine ⟨_, fun rest left => ?_⟩
      cases left
  | call op next inductionHypothesis =>
      refine ⟨_, fun rest left => ?_⟩
      cases left with
      | call _ _ reply => exact inductionHypothesis reply

end Program

end GeoChat.Library
