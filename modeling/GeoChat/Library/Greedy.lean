import Mathlib.Data.List.Infix

/-!
# Greedy repetition with backtracking

The repetitions of a regular expression over symbols, each with what comes
after it as a continuation. A repetition first tries the longest run and gives
symbols back one at a time while the continuation fails.
-/

namespace GeoChat.Library

universe u v

variable {Alpha : Type u} {Result : Type v}

/-- `p*`, and then the continuation. -/
def greedyStar (p : Alpha → Bool) (next : List Alpha → Option Result) :
    List Alpha → Option Result
  | [] => next []
  | head :: rest =>
      if p head then (greedyStar p next rest).or (next (head :: rest)) else next (head :: rest)

/-- `p+`, and then the continuation. -/
def greedyPlus (p : Alpha → Bool) (next : List Alpha → Option Result) :
    List Alpha → Option Result
  | [] => none
  | head :: rest => if p head then greedyStar p next rest else none

/-- A continuation that fails on a text fails on every longer one. -/
def FailsLonger (next : List Alpha → Option Result) : Prop :=
  ∀ head rest, next rest = none → next (head :: rest) = none

theorem FailsLonger.suffix {next : List Alpha → Option Result} (longer : FailsLonger next)
    {short text : List Alpha} (isSuffix : short <:+ text) (fails : next short = none) :
    next text = none := by
  obtain ⟨front, rfl⟩ := isSuffix
  induction front with
  | nil => exact fails
  | cons head rest inductionHypothesis => exact longer head _ inductionHypothesis

variable {p : Alpha → Bool} {next : List Alpha → Option Result}

/-- Giving back does not help a continuation that fails on every longer text. -/
theorem greedyStar_of_failsLonger (longer : FailsLonger next) (text : List Alpha) :
    greedyStar p next text = next (text.dropWhile p) := by
  induction text with
  | nil => rfl
  | cons head rest inductionHypothesis =>
      unfold greedyStar
      split
      next isMatch =>
        rw [inductionHypothesis, List.dropWhile_cons_of_pos isMatch]
        cases atLongest : next (rest.dropWhile p) with
        | some result => rfl
        | none =>
            have isSuffix : rest.dropWhile p <:+ head :: rest :=
              (List.dropWhile_suffix p).trans (List.suffix_cons head rest)
            exact longer.suffix isSuffix atLongest
      next other => rw [List.dropWhile_cons_of_neg other]

/-- Nor does it help a continuation that cannot begin inside the run. -/
theorem greedyStar_of_disjoint (disjoint : ∀ head rest, p head = true → next (head :: rest) = none)
    (text : List Alpha) : greedyStar p next text = next (text.dropWhile p) := by
  induction text with
  | nil => rfl
  | cons head rest inductionHypothesis =>
      unfold greedyStar
      split
      next isMatch =>
        rw [inductionHypothesis, disjoint head rest isMatch, Option.or_none,
          List.dropWhile_cons_of_pos isMatch]
      next other => rw [List.dropWhile_cons_of_neg other]

/-- A continuation that does the same from everywhere inside the run is tried
behind the run, and then with its last symbol. -/
theorem greedyStar_of_constant {result : Option Result} {behind : List Alpha}
    (run : List Alpha) (areRun : ∀ head ∈ run, p head = true)
    (stops : ∀ head, behind.head? = some head → p head = false)
    (constant : ∀ head rest, head :: rest <:+ run → next (head :: rest ++ behind) = result) :
    greedyStar p next (run ++ behind) =
      (next behind).or (if run = [] then none else result) := by
  induction run with
  | nil =>
      rw [List.nil_append, if_pos rfl, Option.or_none]
      cases behind with
      | nil => rfl
      | cons head rest =>
          rw [greedyStar, if_neg]
          rw [stops head rfl]
          exact Bool.false_ne_true
  | cons head rest inductionHypothesis =>
      have later := inductionHypothesis
        (fun other member => areRun other (List.mem_cons_of_mem _ member))
        (fun other others isSuffix => constant other others (isSuffix.trans (List.suffix_cons _ _)))
      rw [List.cons_append, greedyStar, if_pos (areRun head List.mem_cons_self), later,
        ← List.cons_append, constant head rest List.suffix_rfl, if_neg (List.cons_ne_nil _ _)]
      by_cases empty : rest = []
      · rw [if_pos empty, Option.or_none]
      · rw [if_neg empty, Option.or_assoc, Option.or_self]

end GeoChat.Library
