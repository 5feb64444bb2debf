import GeoChat.Library.Stream

/-!
# The pieces between occurrences of a pattern

A text is cut at the first occurrence of a pattern, and what stands before it
has none. The cut is where two pieces were joined when the pattern cannot
overlap itself.
-/

namespace GeoChat.Library

universe u

variable {Alpha : Type u}

/-- Nothing but the pattern itself is both at its front and at its end. -/
def Unbordered (pattern : List Alpha) : Prop :=
  ∀ border, border <+: pattern → border <:+ pattern → border = [] ∨ border = pattern

/-- A pattern whose first symbol does not come back cannot overlap itself. -/
theorem unbordered_of_not_mem {first : Alpha} {rest : List Alpha} (once : first ∉ rest) :
    Unbordered (first :: rest) := by
  intro border isPrefix isSuffix
  cases border with
  | nil => exact .inl rfl
  | cons head tail =>
      obtain ⟨rfl, -⟩ := List.cons_prefix_cons.mp isPrefix
      rcases List.suffix_cons_iff.mp isSuffix with whole | inRest
      · exact .inr whole
      · exact absurd (inRest.subset List.mem_cons_self) once

/-- An occurrence that begins inside a piece without occurrences would make the
pattern overlap itself. -/
theorem not_prefix_of_piece {pattern piece rest : List Alpha} (unbordered : Unbordered pattern)
    (absent : ¬ pattern <:+: piece) (nonempty : piece ≠ []) :
    ¬ pattern <+: piece ++ (pattern ++ rest) := by
  intro here
  rcases Nat.le_total pattern.length piece.length with short | long
  · exact absent (List.prefix_of_prefix_length_le here (List.prefix_append _ _) short).isInfix
  · obtain ⟨border, rfl⟩ := List.prefix_of_prefix_length_le (List.prefix_append _ _) here long
    have further := (List.prefix_append_right_inj piece).mp here
    have atFront : border <+: piece ++ border :=
      List.prefix_of_prefix_length_le further (List.prefix_append _ _) (by simp)
    rcases unbordered border atFront (List.suffix_append _ _) with empty | whole
    · subst empty
      rw [List.append_nil] at absent
      exact absent (List.infix_refl _)
    · exact nonempty (List.self_eq_append_left.mp whole)

variable [DecidableEq Alpha]

theorem search_isSome_of_isInfix {pattern text : List Alpha} (isInfix : pattern <:+: text) :
    (search pattern text).isSome = true := by
  obtain ⟨before, after, rfl⟩ := isInfix
  induction before with
  | nil =>
      have here := @search_eq_zero _ _ pattern (pattern ++ after) (List.prefix_append _ _)
      rw [List.nil_append, here]
      rfl
  | cons head rest inductionHypothesis =>
      by_cases here : pattern <+: head :: (rest ++ pattern ++ after)
      · have found := search_eq_zero here
        rw [List.cons_append, List.cons_append, found]
        rfl
      · rw [List.cons_append, List.cons_append, search_cons_of_unmatched here, Option.isSome_map]
        exact inductionHypothesis

theorem search_eq_none_iff {pattern text : List Alpha} :
    search pattern text = none ↔ ¬ pattern <:+: text := by
  constructor
  · intro absent isInfix
    have found := search_isSome_of_isInfix isInfix
    rw [absent] at found
    cases found
  · intro absent
    cases found : search pattern text with
    | none => rfl
    | some position =>
        obtain ⟨after, cut, -⟩ := search_sound found
        exact absurd ⟨text.take position, after, cut.symm⟩ absent

/-- Before the first occurrence there is none. -/
theorem search_front {pattern text : List Alpha} {position : Nat} (nonempty : pattern ≠ [])
    (found : search pattern text = some position) : ¬ pattern <:+: text.take position := by
  intro isInfix
  obtain ⟨earlier, foundEarlier⟩ := Option.isSome_iff_exists.mp (search_isSome_of_isInfix isInfix)
  have inText := search_append foundEarlier (text.drop position)
  rw [List.take_append_drop, found] at inText
  cases inText
  have bound := search_bound foundEarlier
  have positive := List.length_pos_of_ne_nil nonempty
  rw [List.length_take] at bound
  omega

/-- The first occurrence behind a piece without occurrences is the one that
was put there. -/
theorem search_piece {pattern piece : List Alpha} (unbordered : Unbordered pattern)
    (absent : ¬ pattern <:+: piece) (rest : List Alpha) :
    search pattern (piece ++ (pattern ++ rest)) = some piece.length := by
  induction piece with
  | nil => exact search_eq_zero (List.prefix_append _ _)
  | cons head tail inductionHypothesis =>
      have unmatched := @not_prefix_of_piece _ pattern (head :: tail) rest unbordered
        absent (List.cons_ne_nil _ _)
      have later := inductionHypothesis fun isInfix =>
        absent (isInfix.trans (List.suffix_cons _ _).isInfix)
      rw [List.cons_append] at unmatched ⊢
      rw [search_cons_of_unmatched unmatched, later]
      rfl

end GeoChat.Library
