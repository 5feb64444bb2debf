import GeoChat.Net.Reader

/-!
# Decompression

`gzipInflate` with its buffer: the room behind `total_out` is what `inflate` may
write, and the buffer grows when there is none. The calls of `inflate` give any
statuses and any bytes that fit. The two status codes at the end are combined
with the wrong connective, so what counts is only that the loop ends.
-/

namespace GeoChat

/-- What zlib does on one input. A call of `inflate` depends on the values of
`avail_out` up to it, and produces no more than the last of them. -/
structure Inflater where
  initOk : Bool
  inflate : List Nat → InflateStatus × Bytes
  endOk : Bool
  bounded : ∀ rooms room, (inflate (rooms ++ [room])).2.length ≤ room

/-- The buffer, `total_out`, and the values of `avail_out` so far. -/
structure InflateState where
  buffer : Bytes
  totalOut : Nat := 0
  rooms : List Nat := []

namespace Inflater

variable (inflater : Inflater) (half : Nat)

/-- `buffer.resize(buffer.size() + half_length)` when the buffer is full. -/
def grow (state : InflateState) : Bytes :=
  if state.totalOut ≥ state.buffer.length then state.buffer ++ List.replicate half 0
  else state.buffer

/-- The value of `avail_out`, a 32-bit field. -/
def availOut (state : InflateState) : Nat :=
  ((grow half state).length - state.totalOut) % 2 ^ 32

/-- One turn of the loop: the call of `inflate`, and the state behind it. -/
def call (state : InflateState) : InflateStatus × Bytes :=
  inflater.inflate (state.rooms ++ [availOut half state])

def turn (state : InflateState) : InflateState :=
  let buffer := grow half state
  let produced := (inflater.call half state).2
  { buffer := buffer.take state.totalOut ++ produced ++
      buffer.drop (state.totalOut + produced.length)
    totalOut := state.totalOut + produced.length
    rooms := state.rooms ++ [availOut half state] }

/-- The loop, for a number of turns; no result means that it still runs. -/
def loop : Nat → InflateState → Option (InflateStatus × InflateState)
  | 0, _ => none
  | turns + 1, state =>
      let status := (inflater.call half state).1
      if status = .ok then loop turns (inflater.turn half state)
      else some (status, inflater.turn half state)

/-- `gzipInflate`: false, or true with its output. -/
def gzipInflate (compressed : Bytes) (turns : Nat) : Option (Option Bytes) :=
  if compressed.isEmpty then some (some [])
  else if !inflater.initOk then some none
  else
    let half := compressed.length / 2
    (inflater.loop half turns { buffer := List.replicate (half * 3) 0 }).map fun last =>
      if !inflater.endOk && last.1 ≠ .streamEnd then none
      else some (last.2.buffer.take last.2.totalOut)

/-- The call with the number `count`, from a first state. -/
def calls (first : InflateState) (count : Nat) : InflateStatus × Bytes :=
  inflater.call half ((inflater.turn half)^[count] first)

/-- The loop ends with this call. -/
def IsLast (first : InflateState) (count : Nat) : Prop :=
  (∀ earlier < count, (inflater.calls half first earlier).1 = .ok) ∧
    (inflater.calls half first count).1 ≠ .ok

theorem calls_succ (first : InflateState) (count : Nat) :
    inflater.calls half first (count + 1) =
      inflater.calls half (inflater.turn half first) count := rfl

/-- The call after the first is the first call after a turn. -/
theorem isLast_succ_iff {first : InflateState}
    (goesOn : (inflater.calls half first 0).1 = .ok) (count : Nat) :
    inflater.IsLast half first (count + 1) ↔
      inflater.IsLast half (inflater.turn half first) count := by
  unfold IsLast
  rw [calls_succ]
  refine and_congr_left fun _ => ⟨fun each earlier before => ?_, fun each earlier before => ?_⟩
  · exact each (earlier + 1) (Nat.succ_lt_succ before)
  · cases earlier with
    | zero => exact goesOn
    | succ earlier => exact each earlier (Nat.lt_of_succ_lt_succ before)

theorem not_isLast_of_stopped {first : InflateState} {count : Nat}
    (stops : (inflater.calls half first 0).1 ≠ .ok) (last : inflater.IsLast half first count) :
    count = 0 := by
  cases count with
  | zero => rfl
  | succ count => exact absurd (last.1 0 (Nat.zero_lt_succ count)) stops

/-- The loop has a result exactly when it has the turns to come to its last
call. -/
theorem loop_eq_some_iff {turns : Nat} {first last : InflateState} {status : InflateStatus} :
    inflater.loop half turns first = some (status, last) ↔
      ∃ count < turns, inflater.IsLast half first count ∧
        status = (inflater.calls half first count).1 ∧
        last = (inflater.turn half)^[count + 1] first := by
  induction turns generalizing first with
  | zero => simp [loop]
  | succ turns inductionHypothesis =>
      simp only [loop]
      split
      next goesOn =>
        rw [inductionHypothesis]
        constructor
        · rintro ⟨count, before, isLast, rfl, rfl⟩
          exact ⟨count + 1, Nat.succ_lt_succ before,
            (inflater.isLast_succ_iff half goesOn count).mpr isLast, rfl, rfl⟩
        · rintro ⟨count, before, isLast, rfl, rfl⟩
          cases count with
          | zero => exact absurd goesOn isLast.2
          | succ count =>
              exact ⟨count, Nat.lt_of_succ_lt_succ before,
                (inflater.isLast_succ_iff half goesOn count).mp isLast, rfl, rfl⟩
      next stops =>
        rw [Option.some.injEq, Prod.mk.injEq]
        constructor
        · rintro ⟨rfl, rfl⟩
          exact ⟨0, Nat.zero_lt_succ turns, ⟨fun _ before => absurd before (Nat.not_lt_zero _),
            stops⟩, rfl, rfl⟩
        · rintro ⟨count, -, isLast, rfl, rfl⟩
          cases inflater.not_isLast_of_stopped half stops isLast
          exact ⟨rfl, rfl⟩

/-- What has been produced is the front of the buffer. -/
structure Holds (output : Bytes) (state : InflateState) : Prop where
  fits : state.totalOut ≤ state.buffer.length
  front : state.buffer.take state.totalOut = output

theorem grow_length (state : InflateState) :
    state.buffer.length ≤ (grow half state).length := by
  unfold grow
  split
  · rw [List.length_append]
    exact Nat.le_add_right _ _
  · exact le_rfl

theorem grow_take {state : InflateState} (fits : state.totalOut ≤ state.buffer.length) :
    (grow half state).take state.totalOut = state.buffer.take state.totalOut := by
  unfold grow
  split
  · exact List.take_append_of_le_length fits
  · rfl

/-- A turn appends what its call produces, which has room in the buffer. -/
theorem turn_holds {output : Bytes} {state : InflateState} (holds : Holds output state) :
    Holds (output ++ (inflater.call half state).2) (inflater.turn half state) := by
  have room : (inflater.call half state).2.length ≤ availOut half state := inflater.bounded _ _
  have available : availOut half state ≤ (grow half state).length - state.totalOut :=
    Nat.mod_le _ _
  have larger := grow_length half state
  have fits := holds.fits
  have length : ((grow half state).take state.totalOut).length = state.totalOut :=
    List.length_take_of_le (fits.trans larger)
  constructor
  · simp only [turn, List.length_append, length, List.length_drop]
    omega
  · simp only [turn]
    rw [List.take_left', grow_take half fits, holds.front]
    rw [List.length_append, length]

/-- After any number of turns the front of the buffer is the concatenation of
what the calls have produced. -/
theorem iterate_holds {output : Bytes} {first : InflateState} (holds : Holds output first)
    (count : Nat) :
    Holds (output ++ (List.range count).flatMap fun earlier =>
      (inflater.calls half first earlier).2) ((inflater.turn half)^[count] first) := by
  induction count with
  | zero => simpa using holds
  | succ count inductionHypothesis =>
      have next := inflater.turn_holds half inductionHypothesis
      rw [Function.iterate_succ_apply', List.range_succ, List.flatMap_append, ← List.append_assoc]
      simpa [calls] using next

/-- The state before the loop. -/
def firstState (compressed : Bytes) : InflateState :=
  { buffer := List.replicate (compressed.length / 2 * 3) 0 }

/-- The call with the number `count` on this input. -/
def callOf (compressed : Bytes) (count : Nat) : InflateStatus × Bytes :=
  inflater.calls (compressed.length / 2) (firstState compressed) count

def IsLastCall (compressed : Bytes) (count : Nat) : Prop :=
  inflater.IsLast (compressed.length / 2) (firstState compressed) count

/-- What the calls up to this one have produced. -/
def producedUpTo (compressed : Bytes) (count : Nat) : Bytes :=
  (List.range (count + 1)).flatMap fun earlier => (inflater.callOf compressed earlier).2

/-- `gzipInflate` returns true with this output. -/
def ReturnsTrue (compressed output : Bytes) : Prop :=
  ∃ turns, inflater.gzipInflate compressed turns = some (some output)

theorem isLast_unique {compressed : Bytes} {first second : Nat}
    (isFirst : inflater.IsLastCall compressed first)
    (isSecond : inflater.IsLastCall compressed second) : first = second := by
  rcases Nat.lt_trichotomy first second with before | same | before
  · exact absurd (isSecond.1 first before) isFirst.2
  · exact same
  · exact absurd (isFirst.1 second before) isSecond.2

/-- With an `inflateEnd` that succeeds the status of the last call is not looked
at. -/
theorem returnsTrue_iff {compressed output : Bytes} (nonempty : compressed ≠ [])
    (endsOk : inflater.endOk = true) :
    inflater.ReturnsTrue compressed output ↔
      inflater.initOk = true ∧ ∃ count, inflater.IsLastCall compressed count ∧
        output = inflater.producedUpTo compressed count := by
  have start : Holds [] (firstState compressed) := ⟨Nat.zero_le _, List.take_zero⟩
  have front := fun count => (inflater.iterate_holds (compressed.length / 2) start count).front
  have initial : ({ buffer := List.replicate (compressed.length / 2 * 3) 0 } : InflateState) =
      firstState compressed := rfl
  unfold ReturnsTrue gzipInflate
  simp only [List.isEmpty_iff, nonempty, if_false, endsOk, Bool.not_true, Bool.false_and,
    Bool.false_eq_true, initial]
  cases initOk : inflater.initOk with
  | false => simp
  | true =>
      simp only [Bool.not_true, Bool.false_eq_true, if_false, true_and, Option.map_eq_some_iff,
        Option.some.injEq]
      constructor
      · rintro ⟨turns, ⟨status, last⟩, looped, rfl⟩
        obtain ⟨count, -, isLast, -, rfl⟩ := (inflater.loop_eq_some_iff _).mp looped
        exact ⟨count, isLast, front (count + 1)⟩
      · rintro ⟨count, isLast, rfl⟩
        refine ⟨count + 1, (_, _), (inflater.loop_eq_some_iff _).mpr
          ⟨count, Nat.lt_succ_self count, isLast, rfl, rfl⟩, ?_⟩
        exact front (count + 1)

/-- Decompression succeeds on complete streams only, and with all that was
produced. -/
structure CompleteOnly (compressed : Bytes) : Prop where
  succeeds : (∃ output, inflater.ReturnsTrue compressed output) ↔
    compressed = [] ∨ (inflater.initOk = true ∧ ∃ count, inflater.IsLastCall compressed count ∧
      (inflater.callOf compressed count).1 = .streamEnd)
  output : ∀ output, inflater.ReturnsTrue compressed output →
    (compressed = [] ∧ output = []) ∨ ∃ count, inflater.IsLastCall compressed count ∧
      output = inflater.producedUpTo compressed count

theorem returnsTrue_nil (output : Bytes) : inflater.ReturnsTrue [] output ↔ output = [] := by
  constructor
  · rintro ⟨turns, returned⟩
    cases returned
    rfl
  · rintro rfl
    exact ⟨0, rfl⟩

end Inflater

/-- `gzipInflate` succeeds on complete streams only exactly when no call of
`inflate` fails: the empty input, a stream that is not initialised, and calls
that never leave `Z_OK` or leave it for `Z_STREAM_END`. -/
theorem gzipInflate_complete_iff (inflater : Inflater) (compressed : Bytes)
    (endsOk : inflater.endOk = true) :
    inflater.CompleteOnly compressed ↔
      compressed = [] ∨ inflater.initOk = false ∨
        ∀ count, inflater.IsLastCall compressed count →
          (inflater.callOf compressed count).1 = .streamEnd := by
  by_cases empty : compressed = []
  · subst empty
    refine iff_of_true ⟨iff_of_true ⟨[], ?_⟩ (.inl rfl), ?_⟩ (.inl rfl)
    · exact (inflater.returnsTrue_nil []).mpr rfl
    · exact fun output returned => .inl ⟨rfl, (inflater.returnsTrue_nil output).mp returned⟩
  · have returns := fun output => @Inflater.returnsTrue_iff inflater compressed output empty endsOk
    constructor
    · intro complete
      refine .inr ?_
      cases initOk : inflater.initOk with
      | false => exact .inl rfl
      | true =>
          refine .inr fun count isLast => ?_
          obtain absent | ⟨-, other, isLastOther, ends⟩ :=
            complete.succeeds.mp ⟨_, (returns _).mpr ⟨initOk, count, isLast, rfl⟩⟩
          · exact absurd absent empty
          · rwa [inflater.isLast_unique isLast isLastOther]
    · rintro (absent | notInit | ends)
      · exact absurd absent empty
      · have never : ∀ output, ¬ inflater.ReturnsTrue compressed output := by
          intro output returned
          cases notInit.symm.trans ((returns output).mp returned).1
        refine ⟨iff_of_false (fun ⟨output, returned⟩ => never output returned) ?_,
          fun output returned => absurd returned (never output)⟩
        rintro (absent | ⟨init, -⟩)
        · exact empty absent
        · cases notInit.symm.trans init
      · refine ⟨⟨?_, ?_⟩, fun output returned => .inr ((returns output).mp returned).2⟩
        · rintro ⟨output, returned⟩
          obtain ⟨init, count, isLast, -⟩ := (returns output).mp returned
          exact .inr ⟨init, count, isLast, ends count isLast⟩
        · rintro (absent | ⟨init, count, isLast, -⟩)
          · exact absurd absent empty
          · exact ⟨_, (returns _).mpr ⟨init, count, isLast, rfl⟩⟩

/-- Calls that produce the given bytes one by one, as far as there is room, and
then end with a status. -/
def scriptedInflater (output : Bytes) (status : InflateStatus) : Inflater where
  initOk := true
  endOk := true
  inflate := fun rooms =>
    let produced := output.drop (rooms.length - 1)
    if produced.isEmpty then (status, [])
    else (.ok, (produced.take 1).take (rooms.getLastD 0))
  bounded := by
    intro rooms room
    dsimp only
    split
    · exact Nat.zero_le _
    · rw [List.getLastD_concat]
      exact List.length_take_le _ _

theorem gzipInflate_complete_iff_two :
    (scriptedInflater (bytes "abcde") .streamEnd).CompleteOnly (bytes "xyz") := by
  refine (gzipInflate_complete_iff (scriptedInflater (bytes "abcde") .streamEnd) (bytes "xyz")
    rfl).mpr (.inr (.inr ?_))
  intro count isLast
  have fifth : (scriptedInflater (bytes "abcde") .streamEnd).IsLastCall (bytes "xyz") 5 :=
    ⟨by decide +kernel, by decide +kernel⟩
  rw [Inflater.isLast_unique _ isLast fifth]
  decide +kernel

/-- The second call fails, and what the first one has produced is returned as
the whole body. -/
theorem gzipInflate_truncated :
    let inflater := scriptedInflater (bytes "a") .failed
    inflater.ReturnsTrue (bytes "xyz") (bytes "a") ∧ ¬ inflater.CompleteOnly (bytes "xyz") := by
  intro inflater
  have returns : inflater.ReturnsTrue (bytes "xyz") (bytes "a") := ⟨2, by decide +kernel⟩
  have second : inflater.IsLastCall (bytes "xyz") 1 := ⟨by decide +kernel, by decide +kernel⟩
  refine ⟨returns, fun complete => ?_⟩
  rcases complete.succeeds.mp ⟨_, returns⟩ with absent | ⟨-, count, isLast, ends⟩
  · exact absurd absent (by decide)
  · rw [inflater.isLast_unique isLast second] at ends
    exact absurd ends (by decide +kernel)

/-- The `Zlib` of the reader on one input. -/
def Zlib.inflater (zlib : Zlib) (input : Bytes)
    (bounded : ∀ rooms room, (zlib.inflate input (rooms ++ [room])).2.length ≤ room) :
    Inflater where
  initOk := zlib.initOk input
  inflate := zlib.inflate input
  endOk := zlib.endOk input
  bounded := bounded

namespace Inflater

variable (inflater : Inflater) (half : Nat)

/-- A turn overwrites bytes of the buffer and leaves its size. -/
theorem turn_length {output : Bytes} {state : InflateState} (holds : Holds output state) :
    (inflater.turn half state).buffer.length = (grow half state).length := by
  have room : (inflater.call half state).2.length ≤ availOut half state := inflater.bounded _ _
  have available : availOut half state ≤ (grow half state).length - state.totalOut :=
    Nat.mod_le _ _
  have larger := grow_length half state
  have fits := holds.fits
  simp only [turn, List.length_append, List.length_take, List.length_drop]
  omega

end Inflater

/-- The loop of the reader is the loop over the buffer, of which it keeps the
size and the front. -/
theorem inflateLoop_eq {zlib : Zlib} {input : Bytes}
    (bounded : ∀ rooms room, (zlib.inflate input (rooms ++ [room])).2.length ≤ room) (half : Nat)
    {turns : Nat} {output : Bytes} {state : InflateState} (holds : Inflater.Holds output state) :
    inflateLoop zlib input half turns state.rooms state.buffer.length output =
      ((zlib.inflater input bounded).loop half turns state).map fun last =>
        (last.1, last.2.buffer.take last.2.totalOut) := by
  induction turns generalizing output state with
  | zero => rfl
  | succ turns inductionHypothesis =>
      have next := Inflater.turn_holds (zlib.inflater input bounded) half holds
      have width : output.length = state.totalOut := by
        rw [← holds.front, List.length_take_of_le holds.fits]
      have size : (if state.buffer.length ≤ state.totalOut then state.buffer.length + half
          else state.buffer.length) = (Inflater.grow half state).length := by
        unfold Inflater.grow
        split
        · rw [List.length_append, List.length_replicate]
        · rfl
      have made : (zlib.inflater input bounded).call half state = zlib.inflate input
          (state.rooms ++ [((Inflater.grow half state).length - state.totalOut) % 2 ^ 32]) := rfl
      have later := inductionHypothesis next
      rw [Inflater.turn_length _ _ holds] at later
      simp only [inflateLoop, Inflater.loop, size, width, ← made]
      split
      next goesOn => exact later
      next stops => rw [Option.map_some, next.front]

/-- The `gzipInflate` of the reader is the one over the buffer. -/
theorem gzipInflate_eq {zlib : Zlib} {compressed input : Bytes}
    (isInput : compressed.take (compressed.length % 2 ^ 32) = input)
    (bounded : ∀ rooms room, (zlib.inflate input (rooms ++ [room])).2.length ≤ room) :
    (zlib.inflater input bounded).gzipInflate compressed (zlib.turns input + 1) =
      some (gzipInflate zlib compressed) := by
  have start : Inflater.Holds [] (Inflater.firstState compressed) := ⟨Nat.zero_le _, List.take_zero⟩
  have size : (Inflater.firstState compressed).buffer.length = compressed.length / 2 * 3 :=
    List.length_replicate
  have looped := @inflateLoop_eq zlib input bounded (compressed.length / 2)
    (zlib.turns input + 1) [] _ start
  rw [size] at looped
  have ends := inflateLoop_ends zlib input (compressed.length / 2) (zlib.turns input + 1) []
    (compressed.length / 2 * 3) []
    (fun _ isPrefix nonempty => absurd (List.prefix_nil.mp isPrefix) nonempty) (by simp)
  have initial : ({ buffer := List.replicate (compressed.length / 2 * 3) 0 } : InflateState) =
      Inflater.firstState compressed := rfl
  have rooms : (Inflater.firstState compressed).rooms = [] := rfl
  rw [rooms] at looped
  rw [looped, Option.isSome_map] at ends
  obtain ⟨last, lastIs⟩ := Option.isSome_iff_exists.mp ends
  have init : (zlib.inflater input bounded).initOk = zlib.initOk input := rfl
  have final : (zlib.inflater input bounded).endOk = zlib.endOk input := rfl
  simp only [Inflater.gzipInflate, gzipInflate, isInput, looped, lastIs, initial, Option.map_some,
    init, final]
  split
  · rfl
  · split
    · rfl
    · rfl

end GeoChat
