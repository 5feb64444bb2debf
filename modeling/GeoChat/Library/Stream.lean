import Mathlib.Data.List.Infix

/-!
# Searching and reading a stream that arrives in segments

`search` is the first occurrence of a pattern. A `Source` holds what has
already arrived and the segments still to come, after which the stream ends.
Only the whole remaining content decides what a reader gets; how it is cut
into segments does not.
-/

namespace GeoChat.Library

universe u

variable {Alpha : Type u} [DecidableEq Alpha]

/-- The position of the first occurrence of `pattern`. -/
def search (pattern : List Alpha) : List Alpha → Option Nat
  | [] => if pattern.isPrefixOf [] then some 0 else none
  | head :: rest =>
      if pattern.isPrefixOf (head :: rest) then some 0
      else (search pattern rest).map (· + 1)

theorem search_eq_zero {pattern text : List Alpha} (here : pattern <+: text) :
    search pattern text = some 0 := by
  cases text <;> simp [search, here]

theorem search_cons_of_unmatched {pattern rest : List Alpha} {head : Alpha}
    (absent : ¬ pattern <+: head :: rest) :
    search pattern (head :: rest) = (search pattern rest).map (· + 1) := by
  simp [search, absent]

/-- A found occurrence cuts the text in three. -/
theorem search_sound {pattern text : List Alpha} {position : Nat}
    (found : search pattern text = some position) :
    ∃ after, text = text.take position ++ pattern ++ after ∧ position ≤ text.length := by
  induction text generalizing position with
  | nil =>
      simp only [search] at found
      split at found
      next here =>
        cases found
        rcases List.isPrefixOf_iff_prefix.mp here with ⟨after, equality⟩
        exact ⟨after, by simp [equality], by simp⟩
      next => cases found
  | cons head rest inductionHypothesis =>
      simp only [search] at found
      split at found
      next here =>
        cases found
        rcases List.isPrefixOf_iff_prefix.mp here with ⟨after, equality⟩
        exact ⟨after, by simp [equality], by simp⟩
      next =>
        rcases Option.map_eq_some_iff.mp found with ⟨previous, foundRest, rfl⟩
        rcases inductionHypothesis foundRest with ⟨after, equality, bounded⟩
        refine ⟨after, ?_, by simpa using bounded⟩
        rw [List.take_succ_cons, List.cons_append, List.cons_append, ← equality]

/-- The same with the rest of the text. -/
theorem search_cut {pattern text : List Alpha} {position : Nat}
    (found : search pattern text = some position) :
    text = text.take position ++ pattern ++ text.drop (position + pattern.length) := by
  rcases search_sound found with ⟨after, cut, bounded⟩
  have width : (text.take position ++ pattern).length = position + pattern.length := by
    rw [List.length_append, List.length_take_of_le bounded]
  have behind : text.drop (position + pattern.length) = after := by
    conv_lhs => rw [cut]
    exact List.drop_left' width
  rw [behind]
  exact cut

theorem search_bound {pattern text : List Alpha} {position : Nat}
    (found : search pattern text = some position) :
    position + pattern.length ≤ text.length := by
  rcases search_sound found with ⟨after, equality, bounded⟩
  have lengths := congrArg List.length equality
  simp only [List.length_append, List.length_take, Nat.min_eq_left bounded] at lengths
  omega

/-- What arrives later does not move the first occurrence. -/
theorem search_append {pattern text : List Alpha} {position : Nat}
    (found : search pattern text = some position) (more : List Alpha) :
    search pattern (text ++ more) = some position := by
  induction text generalizing position with
  | nil =>
      simp only [search] at found
      split at found
      next here =>
        cases found
        exact search_eq_zero ((List.isPrefixOf_iff_prefix.mp here).trans (List.nil_prefix))
      next => cases found
  | cons head rest inductionHypothesis =>
      simp only [search] at found
      split at found
      next here =>
        cases found
        exact search_eq_zero
          ((List.isPrefixOf_iff_prefix.mp here).trans (List.prefix_append _ _))
      next absent =>
        rcases Option.map_eq_some_iff.mp found with ⟨previous, foundRest, rfl⟩
        have shorter : pattern.length ≤ (head :: rest).length := by
          have bound := search_bound foundRest
          simp only [List.length_cons]
          omega
        have absentLonger : ¬ pattern <+: head :: (rest ++ more) := by
          intro here
          apply absent
          apply List.isPrefixOf_iff_prefix.mpr
          exact List.prefix_of_prefix_length_le here
            (List.prefix_append (head :: rest) more) shorter
        simp [search, absentLonger, inductionHypothesis foundRest]

/-- A text without the first symbol of the pattern is skipped. -/
theorem search_skip {first : Alpha} {pattern before : List Alpha}
    (absent : first ∉ before) (text : List Alpha) :
    search (first :: pattern) (before ++ text) =
      (search (first :: pattern) text).map (before.length + ·) := by
  induction before with
  | nil => simp
  | cons head rest inductionHypothesis =>
      rw [List.mem_cons, not_or] at absent
      have notHere : ¬ first :: pattern <+: head :: (rest ++ text) := by
        intro here
        exact absent.1 (List.cons_prefix_cons.mp here).1
      simp only [List.cons_append, search, List.isPrefixOf_iff_prefix, notHere, if_false,
        inductionHypothesis absent.2, Option.map_map, List.length_cons]
      congr 1
      funext position
      simp only [Function.comp_apply]
      omega

theorem search_none_of_not_mem {first : Alpha} {pattern text : List Alpha}
    (absent : first ∉ text) : search (first :: pattern) text = none := by
  have skipped : search (first :: pattern) (text ++ []) = _ := search_skip absent []
  simpa [search] using skipped

/-- The remaining content of a stream: what is buffered, then one segment for
each further read, then the end. -/
structure Source (Alpha : Type u) where
  buffered : List Alpha
  segments : List (List Alpha)

namespace Source

omit [DecidableEq Alpha]

/-- Everything that can still be read. -/
def content (source : Source Alpha) : List Alpha :=
  source.buffered ++ source.segments.flatten

/-- Take in segments until `enough` holds of the buffer. The flag is false
when the stream ended before. -/
def fillFrom (enough : List Alpha → Bool) (buffered : List Alpha) :
    List (List Alpha) → Bool × Source Alpha
  | [] => (enough buffered, ⟨buffered, []⟩)
  | segment :: rest =>
      if enough buffered then (true, ⟨buffered, segment :: rest⟩)
      else fillFrom enough (buffered ++ segment) rest

def fill (enough : List Alpha → Bool) (source : Source Alpha) : Bool × Source Alpha :=
  fillFrom enough source.buffered source.segments

/-- Remove `count` symbols from the front of the buffer. -/
def consume (source : Source Alpha) (count : Nat) : Source Alpha :=
  { source with buffered := source.buffered.drop count }

theorem fillFrom_content (enough : List Alpha → Bool) (buffered : List Alpha)
    (segments : List (List Alpha)) :
    (fillFrom enough buffered segments).2.content = buffered ++ segments.flatten := by
  induction segments generalizing buffered with
  | nil => rfl
  | cons segment rest inductionHypothesis =>
      simp only [fillFrom]
      split
      · rfl
      · simp [inductionHypothesis]

@[simp]
theorem fill_content (enough : List Alpha → Bool) (source : Source Alpha) :
    (source.fill enough).2.content = source.content :=
  fillFrom_content enough source.buffered source.segments

theorem fillFrom_enough {enough : List Alpha → Bool} {buffered : List Alpha}
    {segments : List (List Alpha)} (filled : (fillFrom enough buffered segments).1 = true) :
    enough (fillFrom enough buffered segments).2.buffered = true := by
  induction segments generalizing buffered with
  | nil => exact filled
  | cons segment rest inductionHypothesis =>
      simp only [fillFrom] at filled ⊢
      split
      next already => exact already
      next missing =>
        rw [if_neg missing] at filled
        exact inductionHypothesis filled

/-- A successful wait leaves a buffer on which the condition holds. -/
theorem fill_enough {enough : List Alpha → Bool} {source : Source Alpha}
    (filled : (source.fill enough).1 = true) :
    enough (source.fill enough).2.buffered = true :=
  fillFrom_enough filled

theorem fillFrom_short {enough : List Alpha → Bool} {buffered : List Alpha}
    {segments : List (List Alpha)} (short : (fillFrom enough buffered segments).1 = false) :
    enough (fillFrom enough buffered segments).2.buffered = false := by
  induction segments generalizing buffered with
  | nil => exact short
  | cons segment rest inductionHypothesis =>
      simp only [fillFrom] at short ⊢
      split
      next already =>
        rw [if_pos already] at short
        cases short
      next missing =>
        rw [if_neg missing] at short
        exact inductionHypothesis short

/-- After a wait that the end of the stream has ended, the condition fails. -/
theorem fill_short {enough : List Alpha → Bool} {source : Source Alpha}
    (short : (source.fill enough).1 = false) :
    enough (source.fill enough).2.buffered = false :=
  fillFrom_short short

/-- A condition that more content cannot falsify is met as soon as the whole
content meets it. -/
theorem fill_complete {enough : List Alpha → Bool} {source : Source Alpha}
    (whole : enough source.content = true) : (source.fill enough).1 = true := by
  rcases source with ⟨buffered, segments⟩
  simp only [content, fill] at whole ⊢
  induction segments generalizing buffered with
  | nil => simpa [fillFrom] using whole
  | cons segment rest inductionHypothesis =>
      simp only [fillFrom]
      split
      · rfl
      · exact inductionHypothesis (buffered ++ segment) (by simpa using whole)

/-- Consuming buffered symbols consumes them from the content. -/
theorem consume_content {source : Source Alpha} {count : Nat}
    (available : count ≤ source.buffered.length) :
    (source.consume count).content = source.content.drop count := by
  simp [consume, content, List.drop_append_of_le_length available]

end Source

end GeoChat.Library
