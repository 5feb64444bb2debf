import Mathlib.Logic.Relation

/-!
# Guarded transition systems

A system is an executable step function. `none` says that the event cannot
happen in the state. The same function is replayed on a concrete list of
events and used in the induction over all runs.
-/

namespace GeoChat.Library

universe u v

/-- A guarded step function over states and events. -/
structure System (State : Type u) (Event : Type v) where
  step : State → Event → Option State

namespace System

variable {State : Type u} {Event : Type v} (system : System State Event)

/-- Replay a list of events. The replay fails at the first event that is
disabled or does not meet `condition`. -/
def runWithin (condition : State → Event → Prop)
    [(state : State) → (event : Event) → Decidable (condition state event)] :
    List Event → State → Option State
  | [], state => some state
  | event :: rest, state =>
      if condition state event then
        (system.step state event).bind (runWithin condition rest)
      else
        none

/-- Replay a list of events that are under no condition. -/
def run : List Event → State → Option State :=
  system.runWithin fun _ _ => True

/-- The states reached from `start` by runs whose every step meets
`condition`, a predicate on the state before the step and its event. -/
inductive ReachesWithin (condition : State → Event → Prop) (start : State) : State → Prop
  | start : ReachesWithin condition start start
  | step {state next : State} {event : Event} :
      ReachesWithin condition start state → condition state event →
      system.step state event = some next → ReachesWithin condition start next

/-- The states reached from `start` by any run. -/
def Reaches (start : State) : State → Prop :=
  system.ReachesWithin (fun _ _ => True) start

variable {system}

/-- What holds at the start and is kept by every admitted step holds in every
state reached. -/
theorem ReachesWithin.invariant (holds : State → Prop) {condition : State → Event → Prop}
    {start state : State} (reached : system.ReachesWithin condition start state)
    (initial : holds start)
    (kept : ∀ state event next, holds state → condition state event →
      system.step state event = some next → holds next) : holds state := by
  induction reached with
  | start => exact initial
  | step _ admitted stepped inductionHypothesis =>
      exact kept _ _ _ inductionHypothesis admitted stepped

theorem Reaches.invariant (holds : State → Prop) {start state : State}
    (reached : system.Reaches start state) (initial : holds start)
    (kept : ∀ state event next, holds state → system.step state event = some next →
      holds next) : holds state :=
  ReachesWithin.invariant holds reached initial fun state event next held _ stepped =>
    kept state event next held stepped

theorem ReachesWithin.trans {condition : State → Event → Prop} {first middle last : State}
    (reached : system.ReachesWithin condition first middle)
    (further : system.ReachesWithin condition middle last) :
    system.ReachesWithin condition first last := by
  induction further with
  | start => exact reached
  | step _ admitted stepped inductionHypothesis =>
      exact .step inductionHypothesis admitted stepped

theorem reaches_step {state next : State} (event : Event)
    (stepped : system.step state event = some next) : system.Reaches state next :=
  .step .start trivial stepped

theorem reachesWithin_of_run {condition : State → Event → Prop}
    [(state : State) → (event : Event) → Decidable (condition state event)]
    {events : List Event} {start state : State}
    (replayed : system.runWithin condition events start = some state) :
    system.ReachesWithin condition start state := by
  induction events generalizing start with
  | nil =>
      cases replayed
      exact .start
  | cons event rest inductionHypothesis =>
      unfold runWithin at replayed
      split at replayed
      next admitted =>
        rcases Option.bind_eq_some_iff.mp replayed with ⟨middle, stepped, remaining⟩
        exact (ReachesWithin.step .start admitted stepped).trans (inductionHypothesis remaining)
      next => cases replayed

theorem run_cons {event : Event} {rest : List Event} {start last : State}
    (replayed : system.run (event :: rest) start = some last) :
    ∃ next, system.step start event = some next ∧ system.run rest next = some last := by
  unfold run runWithin at replayed
  rw [if_pos trivial] at replayed
  exact Option.bind_eq_some_iff.mp replayed

theorem run_singleton {event : Event} {start next : State}
    (stepped : system.step start event = some next) : system.run [event] start = some next := by
  simp [run, runWithin, stepped]

theorem run_append {events later : List Event} {start middle last : State}
    (first : system.run events start = some middle) (second : system.run later middle = some last) :
    system.run (events ++ later) start = some last := by
  induction events generalizing start with
  | nil =>
      cases first
      exact second
  | cons event rest inductionHypothesis =>
      obtain ⟨next, stepped, remaining⟩ := run_cons first
      have further := inductionHypothesis remaining
      unfold run at further ⊢
      rw [List.cons_append, runWithin, if_pos trivial, stepped, Option.bind_some, further]

/-- A successful replay ends in a reached state. -/
theorem reaches_of_run {events : List Event} {start state : State}
    (replayed : system.run events start = some state) : system.Reaches start state :=
  reachesWithin_of_run replayed

section Trace

variable {Observation : Type*} (observe : State → Event → List Observation)

/-- What is observed of a run, event after event. -/
def trace (system : System State Event) (observe : State → Event → List Observation) :
    List Event → State → List Observation
  | [], _ => []
  | event :: rest, state =>
      observe state event ++
        match system.step state event with
        | none => []
        | some next => trace system observe rest next

theorem trace_cons {event : Event} {rest : List Event} {state next : State}
    (stepped : system.step state event = some next) :
    system.trace observe (event :: rest) state =
      observe state event ++ system.trace observe rest next := by
  simp only [trace, stepped]

theorem trace_singleton {event : Event} {state next : State}
    (stepped : system.step state event = some next) :
    system.trace observe [event] state = observe state event := by
  rw [trace_cons observe stepped]
  exact List.append_nil _

theorem trace_append {events later : List Event} {start middle : State}
    (first : system.run events start = some middle) :
    system.trace observe (events ++ later) start =
      system.trace observe events start ++ system.trace observe later middle := by
  induction events generalizing start with
  | nil =>
      cases first
      rfl
  | cons event rest inductionHypothesis =>
      obtain ⟨next, stepped, remaining⟩ := run_cons first
      rw [List.cons_append, trace_cons observe stepped, trace_cons observe stepped,
        inductionHypothesis remaining, List.append_assoc]

end Trace

end System

end GeoChat.Library
