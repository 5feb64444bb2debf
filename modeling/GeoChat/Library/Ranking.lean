import Mathlib.Data.List.Perm.Basic
import Mathlib.Order.Basic
import Mathlib.Order.Lattice

/-!
# The largest items of a pool

`Largest` says that a list holds the given number of largest items of a pool,
largest first; items of equal key may come in any order. The largest of two
pools together are found among enough items of each.
-/

namespace GeoChat.Library

open scoped List

universe u v

variable {Alpha : Type u}

/-- The items at the front of an ordered list belong to every upper set that has
enough items. -/
theorem all_take_of_le_countP {relation : Alpha → Alpha → Prop} {upper : Alpha → Bool}
    (closed : ∀ first second, relation first second → upper second = true → upper first = true)
    {items : List Alpha} (ordered : items.Pairwise relation) {count : Nat}
    (enough : count ≤ items.countP upper) : ∀ item ∈ items.take count, upper item = true := by
  induction items generalizing count with
  | nil => simp
  | cons head rest inductionHypothesis =>
      rw [List.pairwise_cons] at ordered
      cases count with
      | zero => simp
      | succ count =>
          -- an item outside the set is followed by items outside it only
          have inside : upper head = true := by
            by_contra outside
            have none : rest.countP upper = 0 := by
              rw [List.countP_eq_zero]
              intro item member isUpper
              exact outside (closed head item (ordered.1 item member) isUpper)
            rw [List.countP_cons_of_neg outside, none] at enough
            exact Nat.not_succ_le_zero count enough
          rw [List.countP_cons_of_pos inside] at enough
          rw [List.take_succ_cons, List.forall_mem_cons]
          exact ⟨inside, inductionHypothesis ordered.2 (Nat.le_of_succ_le_succ enough)⟩

/-- The items of one of two conditions that exclude each other. -/
theorem perm_filter_or {first second : Alpha → Bool}
    (disjoint : ∀ item, ¬ (first item = true ∧ second item = true)) (items : List Alpha) :
    (items.filter first ++ items.filter second).Perm
      (items.filter fun item => first item || second item) := by
  have parts := List.filter_append_perm first (items.filter fun item => first item || second item)
  rw [List.filter_filter, List.filter_filter] at parts
  have firstPart : items.filter (fun item => first item && (first item || second item)) =
      items.filter first := by
    refine List.filter_congr fun item _ => ?_
    cases first item <;> rfl
  have secondPart : items.filter (fun item => (!first item) && (first item || second item)) =
      items.filter second := by
    refine List.filter_congr fun item _ => ?_
    cases isFirst : first item with
    | false => rfl
    | true =>
        cases isSecond : second item with
        | false => rfl
        | true => exact absurd ⟨isFirst, isSecond⟩ (disjoint item)
  rwa [firstPart, secondPart] at parts

theorem countP_or {first second : Alpha → Bool}
    (disjoint : ∀ item, ¬ (first item = true ∧ second item = true)) (items : List Alpha) :
    items.countP (fun item => first item || second item) =
      items.countP first + items.countP second := by
  have lengths := (perm_filter_or disjoint items).length_eq
  rw [List.length_append] at lengths
  simp only [List.countP_eq_length_filter, lengths]

variable {Key : Type v} [LinearOrder Key] (key : Alpha → Key)

/-- Largest first. -/
def Descending (items : List Alpha) : Prop :=
  items.Pairwise fun first second => key second ≤ key first

/-- No item of the second list is larger than one of the first. -/
def Dominates (first second : List Alpha) : Prop :=
  ∀ item ∈ first, ∀ other ∈ second, key other ≤ key item

/-- The given number of largest items of the pool. -/
structure Largest (count : Nat) (included pool : List Alpha) : Prop where
  length : included.length = min count pool.length
  descending : Descending key included
  rest : ∃ omitted, (included ++ omitted).Perm pool ∧ Dominates key included omitted

/-- A part of the pool that holds its largest items, as many as asked for or
the whole pool. -/
def Suffices (count : Nat) (selected pool : List Alpha) : Prop :=
  ∃ rest, (selected ++ rest).Perm pool ∧ Dominates key selected rest ∧
    (rest = [] ∨ count ≤ selected.length)

variable {key} {count : Nat} {items : List Alpha}

theorem Descending.dominates (descending : Descending key items) (count : Nat) :
    Dominates key (items.take count) (items.drop count) := by
  have parts := descending
  rw [Descending, ← List.take_append_drop count items, List.pairwise_append] at parts
  exact parts.2.2

theorem Descending.suffices_take (descending : Descending key items) {limit : Nat}
    (enough : count ≤ limit) : Suffices key count (items.take limit) items := by
  refine ⟨items.drop limit, ?_, descending.dominates limit, ?_⟩
  · rw [List.take_append_drop]
  · rcases Nat.le_total items.length limit with short | long
    · exact .inl (List.drop_of_length_le short)
    · exact .inr (by rwa [List.length_take_of_le long])

theorem suffices_whole (count : Nat) (pool : List Alpha) : Suffices key count pool pool :=
  ⟨[], by rw [List.append_nil], by simp [Dominates], .inl rfl⟩

/-- Nothing that the first of two selections leaves out is larger than what
stands at the front of both, sorted. -/
theorem Suffices.dominates {selected rest others sorted : List Alpha}
    (dominates : Dominates key selected rest) (enough : rest = [] ∨ count ≤ selected.length)
    (perm : sorted.Perm (selected ++ others)) (descending : Descending key sorted) :
    Dominates key (sorted.take count) rest := by
  intro item member other left
  rcases enough with empty | enough
  · rw [empty] at left
    cases left
  · have many : count ≤ sorted.countP fun item => key other ≤ key item := by
      have all : selected.countP (fun item => key other ≤ key item) = selected.length := by
        rw [List.countP_eq_length]
        intro item chosen
        exact decide_eq_true (dominates item chosen other left)
      rw [perm.countP_eq, List.countP_append, all]
      exact Nat.le_add_right_of_le enough
    refine of_decide_eq_true (all_take_of_le_countP ?_ descending many item member)
    intro first second ordered larger
    exact decide_eq_true ((of_decide_eq_true larger).trans ordered)

/-- The largest items of two pools are the first of what suffices of each,
sorted. -/
theorem Suffices.largest {first second firstPool secondPool sorted : List Alpha}
    (firstSuffices : Suffices key count first firstPool)
    (secondSuffices : Suffices key count second secondPool)
    (perm : sorted.Perm (first ++ second)) (descending : Descending key sorted) :
    Largest key count (sorted.take count) (firstPool ++ secondPool) := by
  obtain ⟨firstRest, firstPerm, firstDominates, firstEnough⟩ := firstSuffices
  obtain ⟨secondRest, secondPerm, secondDominates, secondEnough⟩ := secondSuffices
  refine ⟨?_, descending.sublist (List.take_sublist count sorted),
    sorted.drop count ++ (firstRest ++ secondRest), ?_, ?_⟩
  · have sortedLength := perm.length_eq
    have firstLength := firstPerm.length_eq
    have secondLength := secondPerm.length_eq
    simp only [List.length_append] at sortedLength firstLength secondLength
    rw [List.length_take, List.length_append, sortedLength]
    rcases firstEnough with rfl | firstEnough
    · rcases secondEnough with rfl | secondEnough
      · simp only [List.length_nil] at firstLength secondLength
        omega
      · omega
    · omega
  · calc
      sorted.take count ++ (sorted.drop count ++ (firstRest ++ secondRest))
        = sorted ++ (firstRest ++ secondRest) := by
          rw [← List.append_assoc, List.take_append_drop]
      _ ~ first ++ second ++ (firstRest ++ secondRest) := perm.append_right _
      _ ~ first ++ firstRest ++ (second ++ secondRest) := by
          rw [List.append_assoc, List.append_assoc]
          refine List.Perm.append_left first ?_
          rw [← List.append_assoc, ← List.append_assoc]
          exact List.perm_append_comm.append_right secondRest
      _ ~ firstPool ++ secondPool := firstPerm.append secondPerm
  · intro item member other left
    rcases List.mem_append.mp left with behind | left
    · exact descending.dominates count item member other behind
    · rcases List.mem_append.mp left with left | left
      · exact Suffices.dominates firstDominates firstEnough perm descending item member other left
      · exact Suffices.dominates secondDominates secondEnough
          (perm.trans List.perm_append_comm) descending item member other left

theorem Largest.of_perm {included pool other : List Alpha}
    (largest : Largest key count included pool) (perm : pool.Perm other) :
    Largest key count included other := by
  obtain ⟨omitted, whole, dominates⟩ := largest.rest
  exact ⟨by rw [largest.length, perm.length_eq], largest.descending, omitted, whole.trans perm,
    dominates⟩

/-- An item is among the largest when no more than the number asked for are as
large. -/
theorem Largest.mem_of_countP_le {included pool : List Alpha} {item : Alpha}
    (largest : Largest key count included pool) (member : item ∈ pool)
    (few : pool.countP (fun other => key item ≤ key other) ≤ count) : item ∈ included := by
  obtain ⟨omitted, whole, dominates⟩ := largest.rest
  have lengths := whole.length_eq
  rw [List.length_append] at lengths
  rcases List.mem_append.mp (whole.symm.subset member) with inside | outside
  · exact inside
  · -- otherwise all that are included are as large, and the item itself
    have all : included.countP (fun other => key item ≤ key other) = included.length := by
      rw [List.countP_eq_length]
      intro other chosen
      exact decide_eq_true (dominates other chosen item outside)
    have one : 0 < omitted.countP (fun other => key item ≤ key other) :=
      List.countP_pos_iff.mpr ⟨item, outside, decide_eq_true le_rfl⟩
    have some_ : 0 < omitted.length := List.length_pos_of_mem outside
    have length := largest.length
    rw [← whole.countP_eq, List.countP_append, all] at few
    omega

/-- In front of an item of a descending list stand all the larger ones. -/
theorem Descending.countP_take (descending : Descending key items) {item : Alpha}
    (member : item ∈ items.take count) :
    (items.take count).countP (fun other => key item < key other) =
      items.countP fun other => key item < key other := by
  have none : (items.drop count).countP (fun other => key item < key other) = 0 := by
    rw [List.countP_eq_zero]
    intro other behind larger
    exact absurd (of_decide_eq_true larger)
      (not_lt_of_ge (descending.dominates count item member other behind))
  have parts := congrArg (List.countP fun other => key item < key other)
    (List.take_append_drop count items)
  rw [List.countP_append, none, Nat.add_zero] at parts
  exact parts

end GeoChat.Library
