import GeoChat.Common.Utils
import GeoChat.Library.Pieces

/-!
# `split` and `join`

The loop of `split` goes over positions of the line and counts its parts for
the variant with a limit. Without a limit it cuts the line at every delimiter,
and `join` puts the line together again.
-/

namespace GeoChat

open Library

namespace Utils

/-- `line.find(delimiter, pos)`, where `none` is `npos`. -/
def findFrom (line delimiter : Bytes) (pos : Nat) : Option Nat :=
  if line.length < pos then none
  else (search delimiter (line.drop pos)).map (pos + ·)

/-- The loop of `split` with `max_parts`, for a number of turns: the parts, and
`prev_pos` behind them. No result means that it still runs. `int parts` is taken
without its overflow, which comes with 2^31 delimiters. -/
def splitLoop (line delimiter : Bytes) (maxParts : Int) :
    Nat → Int → List Bytes → Nat → Option (List Bytes × Nat)
  | 0, _, _, _ => none
  | turns + 1, parts, strs, prevPos =>
      match findFrom line delimiter prevPos with
      | none => some (strs, prevPos)
      | some pos =>
          let parts := parts + 1
          let strs := strs ++ [(line.take pos).drop prevPos]
          let prevPos := pos + delimiter.length
          if parts = maxParts - 1 then some (strs, prevPos)
          else splitLoop line delimiter maxParts turns parts strs prevPos

/-- The text behind the last delimiter that was found is the last part. -/
def lastPart (line : Bytes) (cut : List Bytes × Nat) : List Bytes :=
  if cut.2 ≤ line.length then cut.1 ++ [line.drop cut.2] else cut.1

/-- `split` with `max_parts`. The variant without it passes `-1`. -/
def splitParts (line delimiter : Bytes) (maxParts : Int) (turns : Nat) : Option (List Bytes) :=
  (splitLoop line delimiter maxParts turns 0 [] 0).map (lastPart line)

/-- The loop of `join`. -/
def joinLoop (connector : Bytes) : List Bytes → Bool → Bytes → Bytes
  | [], _, ss => ss
  | it :: rest, first, ss =>
      let ss := if !first then ss ++ connector else ss
      joinLoop connector rest false (ss ++ it)

def join (vec : List Bytes) (connector : Bytes) : Bytes := joinLoop connector vec true []

/-- The count of the parts never meets the limit `-1`, so the loop over
positions cuts what `split` cuts from the rest of the line. -/
theorem splitLoop_eq {line delimiter : Bytes} (nonempty : delimiter ≠ []) {turns : Nat}
    {parts : Int} {strs : List Bytes} {prevPos : Nat} (counted : 0 ≤ parts)
    (inside : prevPos ≤ line.length) (enough : line.length < prevPos + turns) :
    (splitLoop line delimiter (-1) turns parts strs prevPos).map (lastPart line) =
      some (strs ++ split (line.drop prevPos) delimiter) := by
  induction turns generalizing parts strs prevPos with
  | zero => omega
  | succ turns inductionHypothesis =>
      unfold splitLoop findFrom
      rw [if_neg (Nat.not_lt.mpr inside)]
      cases found : search delimiter (line.drop prevPos) with
      | none => simp [split_of_none found, lastPart, inside]
      | some position =>
          have bound := search_bound found
          have positive := List.length_pos_of_ne_nil nonempty
          rw [List.length_drop] at bound
          have part : (line.take (prevPos + position)).drop prevPos =
              (line.drop prevPos).take position := by
            rw [List.drop_take, Nat.add_sub_cancel_left]
          have later := @inductionHypothesis (parts + 1)
            (strs ++ [(line.drop prevPos).take position]) (prevPos + position + delimiter.length)
            (by omega) (by omega) (by omega)
          simp only [Option.map_some, part]
          rw [if_neg (by omega), later, split_of_some nonempty found, List.drop_drop,
            List.append_assoc, List.singleton_append, Nat.add_assoc]

/-- `split` ends, and the recursion over the rest of the line says with what. -/
theorem splitParts_eq {line delimiter : Bytes} (nonempty : delimiter ≠ []) {turns : Nat}
    (enough : line.length < turns) :
    splitParts line delimiter (-1) turns = some (split line delimiter) := by
  have looped := @splitLoop_eq line delimiter nonempty turns 0 [] 0 le_rfl (Nat.zero_le _)
    (by omega)
  rw [List.drop_zero, List.nil_append] at looped
  exact looped

theorem joinLoop_later (connector : Bytes) (vec : List Bytes) (ss : Bytes) :
    joinLoop connector vec false ss = ss ++ vec.flatMap (connector ++ ·) := by
  induction vec generalizing ss with
  | nil => simp [joinLoop]
  | cons it rest inductionHypothesis => simp [joinLoop, inductionHypothesis]

theorem append_flatMap_eq (connector it : Bytes) (rest : List Bytes) :
    it ++ rest.flatMap (connector ++ ·) = connector.intercalate (it :: rest) := by
  induction rest generalizing it with
  | nil => rw [List.intercalate_singleton, List.flatMap_nil, List.append_nil]
  | cons next others inductionHypothesis =>
      rw [List.intercalate_cons_cons, ← inductionHypothesis, List.flatMap_cons]
      simp only [List.append_assoc]

/-- `join` puts the connector between the parts. -/
theorem join_eq (vec : List Bytes) (connector : Bytes) :
    join vec connector = connector.intercalate vec := by
  cases vec with
  | nil => rfl
  | cons it rest =>
      rw [← append_flatMap_eq]
      simp [join, joinLoop, joinLoop_later]

theorem join_singleton (it connector : Bytes) : join [it] connector = it := by
  rw [join_eq, List.intercalate_singleton]

theorem join_cons {rest : List Bytes} (more : rest ≠ []) (it connector : Bytes) :
    join (it :: rest) connector = it ++ (connector ++ join rest connector) := by
  rw [join_eq, join_eq, List.intercalate_cons_of_ne_nil more, List.append_assoc]

/-- The parts of a line without a delimiter are the line, and in front of a
delimiter stands one part more. -/
theorem split_induction {delimiter : Bytes} (nonempty : delimiter ≠ [])
    {motive : Bytes → List Bytes → Prop}
    (last : ∀ line, ¬ delimiter <:+: line → motive line [line])
    (more : ∀ part rest parts, ¬ delimiter <:+: part → motive rest parts →
      motive (part ++ (delimiter ++ rest)) (part :: parts))
    (line : Bytes) : motive line (split line delimiter) := by
  induction size : line.length using Nat.strong_induction_on generalizing line with
  | _ size inductionHypothesis =>
      subst size
      cases found : search delimiter line with
      | none =>
          rw [split_of_none found]
          exact last line (search_eq_none_iff.mp found)
      | some position =>
          obtain ⟨rest, cut, bounded⟩ := search_sound found
          have width : (line.take position).length = position := List.length_take_of_le bounded
          have behind : line.drop (position + delimiter.length) = rest := by
            rw [cut, List.append_assoc, ← List.append_assoc, List.drop_left']
            rw [List.length_append, width]
          have bound := search_bound found
          have positive := List.length_pos_of_ne_nil nonempty
          have smaller : rest.length < line.length := by
            rw [← behind, List.length_drop]
            omega
          rw [split_of_some nonempty found, behind]
          rw [List.append_assoc] at cut
          have parted := more _ rest _ (search_front nonempty found)
            (inductionHypothesis _ smaller rest rfl)
          rwa [← cut] at parted

/-- Parts that make up a line, with no delimiter left in them. -/
structure PartsOf (delimiter line : Bytes) (parts : List Bytes) : Prop where
  nonempty : parts ≠ []
  absent : ∀ part ∈ parts, ¬ delimiter <:+: part
  joined : join parts delimiter = line

theorem split_partsOf {delimiter : Bytes} (nonempty : delimiter ≠ []) (line : Bytes) :
    PartsOf delimiter line (split line delimiter) := by
  apply split_induction nonempty
  · intro line absent
    exact ⟨List.cons_ne_nil _ _, by simpa using absent, join_singleton line delimiter⟩
  · intro part rest parts absent isParts
    refine ⟨List.cons_ne_nil _ _, List.forall_mem_cons.mpr ⟨absent, isParts.absent⟩, ?_⟩
    rw [join_cons isParts.nonempty, isParts.joined]

/-- Parts without a delimiter are found again behind the delimiters between
them, by induction over the parts. -/
theorem split_join {delimiter : Bytes} (nonempty : delimiter ≠ [])
    (unbordered : Unbordered delimiter) {parts : List Bytes} (present : parts ≠ [])
    (absent : ∀ part ∈ parts, ¬ delimiter <:+: part) :
    split (join parts delimiter) delimiter = parts := by
  induction parts with
  | nil => exact absurd rfl present
  | cons part others inductionHypothesis =>
      obtain ⟨absentPart, absentOthers⟩ := List.forall_mem_cons.mp absent
      cases others with
      | nil =>
          rw [join_singleton]
          exact split_of_none (search_eq_none_iff.mpr absentPart)
      | cons next rest =>
          have more : next :: rest ≠ [] := List.cons_ne_nil _ _
          have found := search_piece unbordered absentPart (join (next :: rest) delimiter)
          rw [join_cons more, split_of_some nonempty found, List.take_left', ← List.append_assoc,
            List.drop_left', inductionHypothesis more absentOthers]
          · rw [List.length_append]
          · rfl

end Utils

/-- Every line is cut into parts without a delimiter that `join` puts together
again, and parts without a delimiter are what their join is cut into when the
delimiter cannot overlap itself. -/
theorem split_inverts_join (delimiter : Bytes) (nonempty : delimiter ≠ []) :
    (∀ line, ∃ parts,
      (∀ turns, line.length < turns →
        Utils.splitParts line delimiter (-1) turns = some parts) ∧
      parts ≠ [] ∧ (∀ part ∈ parts, ¬ delimiter <:+: part) ∧
      Utils.join parts delimiter = line) ∧
    ∀ parts, Unbordered delimiter → parts ≠ [] → (∀ part ∈ parts, ¬ delimiter <:+: part) →
      ∀ turns, (Utils.join parts delimiter).length < turns →
        Utils.splitParts (Utils.join parts delimiter) delimiter (-1) turns = some parts := by
  constructor
  · intro line
    have isParts := Utils.split_partsOf nonempty line
    refine ⟨Utils.split line delimiter, ?_, isParts.nonempty, isParts.absent, isParts.joined⟩
    exact fun turns enough => Utils.splitParts_eq nonempty enough
  · intro parts unbordered present absent turns enough
    rw [Utils.splitParts_eq nonempty enough, Utils.split_join nonempty unbordered present absent]

theorem split_inverts_join_crlf :
    Utils.splitParts (bytes "\r\na\r\n\r\n\n\r") (bytes "\r\n") (-1) 10 =
      some [[], bytes "a", [], bytes "\n\r"] := by
  have unbordered : Unbordered (bytes "\r\n") :=
    unbordered_of_not_mem (show (13 : UInt8) ∉ [10] by decide)
  exact (split_inverts_join (bytes "\r\n") (by decide)).2
    [[], bytes "a", [], bytes "\n\r"] unbordered (by decide) (by decide) 10 (by decide)

end GeoChat
