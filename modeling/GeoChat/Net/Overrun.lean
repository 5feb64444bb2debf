import GeoChat.Net.ChunkedBody
import GeoChat.Net.Headers

/-!
# Sizes that no buffer has

The condition for the data of a chunk moves an iterator by the size and the line
end. For the two largest sizes the sum that it compares with wraps, the wait is
soon over, and the iterator leaves the buffer: the process is aborted before the
handler is called. Nothing else keeps `asyncResponse` from its answer.
-/

namespace GeoChat

open Library

namespace Reader

/-- Behind complete chunks comes a size with which the sum wraps, and then as
many bytes as the wrapped sum asks for. -/
inductive ChunksOverrun : Bytes → Prop where
  | here {content : Bytes} {pos size : Nat} (line : SizeLine content pos size)
      (wraps : 2 ^ 64 ≤ size + 2)
      (arrives : chunkNeed size ≤ (content.drop (pos + crlf.length)).length) :
      ChunksOverrun content
  | behind {content : Bytes} {pos size : Nat} (line : SizeLine content pos size)
      (short : size + 2 < 2 ^ 64) (goesOn : size ≠ 0)
      (whole : size + 2 ≤ (content.drop (pos + crlf.length)).length)
      (more : ChunksOverrun ((content.drop (pos + crlf.length)).drop (size + 2))) :
      ChunksOverrun content

/-- A message whose body comes in chunks, one of which overruns. -/
def Overruns (content : Bytes) : Prop :=
  ∃ pos, search crlf2 content = some pos ∧ (parseHead (content.take pos)).2 = .chunked ∧
    ChunksOverrun (content.drop (pos + crlf2.length))

theorem SizeLine.unique {content : Bytes} {pos other size further : Nat}
    (line : SizeLine content pos size) (again : SizeLine content other further) :
    pos = other ∧ size = further := by
  obtain rfl := Option.some.inj (line.1.symm.trans again.1)
  cases line.2.symm.trans again.2
  exact ⟨rfl, rfl⟩

variable (zlib : Zlib)

/-- Some step from here on aborts the process. -/
def Aborts (reader : Reader) : Prop := ∃ count, ((step zlib)^[count] reader).aborted = true

variable {zlib} {reader : Reader}

theorem aborts_step (lives : reader.aborted = false) :
    Aborts zlib reader ↔ Aborts zlib (step zlib reader) := by
  constructor
  · rintro ⟨count, aborted⟩
    cases count with
    | zero => cases lives.symm.trans aborted
    | succ count => exact ⟨count, aborted⟩
  · rintro ⟨count, aborted⟩
    exact ⟨count + 1, aborted⟩

theorem not_aborts_of_done (done : reader.pending = none) (lives : reader.aborted = false) :
    ¬ Aborts zlib reader := by
  rintro ⟨count, aborted⟩
  rw [iterate_of_done zlib done] at aborted
  cases lives.symm.trans aborted

/-- The step that reads the line of a size answers with an error, or it goes on
to the data with the size of its line. -/
theorem step_sizeLine_cases (zlib : Zlib) {reply : HttpReply}
    (isPending : reader.pending = some (.chunkSize reply)) :
    ((step zlib reader).pending = none ∧ (step zlib reader).aborted = reader.aborted ∧
      ∀ pos size, ¬ SizeLine reader.stream.content pos size) ∨
    ∃ pos size, SizeLine reader.stream.content pos size ∧
      (step zlib reader).pending = some (.chunkData size reply) ∧
      (step zlib reader).aborted = reader.aborted ∧
      (step zlib reader).stream.content = reader.stream.content.drop (pos + crlf.length) := by
  rcases step_chunkSize zlib isPending with ⟨later, error, other, -, failed, none⟩ |
    ⟨line, size, later, found, cut, converted, first⟩
  · rw [failed]
    exact .inl ⟨rfl, rfl, none⟩
  · rw [first]
    refine .inr ⟨line.length, size, ⟨found, ?_⟩, rfl, rfl, ?_⟩
    · rw [cut, List.append_assoc, List.take_left' rfl, converted]
    · rw [cut, List.drop_left' List.length_append]

/-- The chunk reader aborts the process on a size that overruns. -/
theorem aborts_of_chunksOverrun {content : Bytes} (overrun : ChunksOverrun content)
    {reply : HttpReply} (isPending : reader.pending = some (.chunkSize reply))
    (lives : reader.aborted = false) (whole : reader.stream.content = content) :
    Aborts zlib reader := by
  induction overrun generalizing reader reply with
  | @here content pos size line wraps arrives =>
      subst whole
      rw [aborts_step lives]
      rcases step_sizeLine_cases zlib isPending with ⟨-, -, none⟩ |
        ⟨other, further, read, atData, alive, rest⟩
      · exact absurd line (none pos size)
      · obtain ⟨rfl, rfl⟩ := line.unique read
        rw [← rest] at arrives
        rcases step_chunkData_cases zlib atData with ⟨_, missing, -⟩ |
          ⟨_, _, _, short, -⟩ | ⟨_, -, -, aborted⟩
        · exact absurd arrives (Nat.not_le.mpr missing)
        · exact absurd wraps (Nat.not_le.mpr short)
        · exact ⟨1, by rw [Function.iterate_one, aborted]; rfl⟩
  | @behind content pos size line short goesOn fits more inductionHypothesis =>
      subst whole
      rw [aborts_step lives]
      rcases step_sizeLine_cases zlib isPending with ⟨-, -, none⟩ |
        ⟨other, further, read, atData, alive, rest⟩
      · exact absurd line (none pos size)
      · obtain ⟨rfl, rfl⟩ := line.unique read
        rw [← rest] at fits inductionHypothesis
        rw [aborts_step (alive.trans lives)]
        rcases step_chunkData_cases zlib atData with ⟨_, missing, -⟩ |
          ⟨taken, last, reply, -, content, need, second⟩ | ⟨_, wraps, -⟩
        · rw [chunkNeed_eq short] at missing
          exact absurd fits (Nat.not_le.mpr missing)
        · rw [second, nextChunk, if_neg goesOn]
          refine inductionHypothesis rfl (alive.trans lives) ?_
          rw [content, List.drop_left' need]
          rfl
        · exact absurd short (Nat.not_lt.mpr wraps)

/-- It aborts the process on nothing else. -/
theorem chunksOverrun_of_aborts {reply : HttpReply} (aborts : Aborts zlib reader)
    (isPending : reader.pending = some (.chunkSize reply)) (lives : reader.aborted = false) :
    ChunksOverrun reader.stream.content := by
  -- By the length of the content; the data of a chunk takes some of it.
  induction size : reader.stream.content.length using Nat.strong_induction_on
    generalizing reader reply with
  | _ size inductionHypothesis =>
      subst size
      rw [aborts_step lives] at aborts
      rcases step_sizeLine_cases zlib isPending with ⟨done, alive, -⟩ |
        ⟨pos, size, line, atData, alive, rest⟩
      · exact absurd aborts (not_aborts_of_done done (alive.trans lives))
      · rw [aborts_step (alive.trans lives)] at aborts
        rcases step_chunkData_cases zlib atData with ⟨_, -, failed⟩ |
          ⟨taken, last, reply, short, content, need, second⟩ | ⟨_, wraps, arrives, -⟩
        · rw [failed] at aborts
          exact absurd aborts (not_aborts_of_done rfl (alive.trans lives))
        · rw [second, nextChunk] at aborts
          split at aborts
          next =>
            obtain ⟨-, done, same⟩ := processReply_settles zlib
              { step zlib reader with stream := last, pending := none } reply
            exact absurd aborts (not_aborts_of_done done (same.trans (alive.trans lives)))
          next goesOn =>
            have shorter : last.content.length + 2 ≤ (step zlib reader).stream.content.length := by
              rw [content, List.length_append, need]
              omega
            refine .behind line short goesOn ?_ ?_
            · rw [← rest, content, List.length_append, need]
              exact Nat.le_add_right _ _
            · rw [← rest, content, List.drop_left' need]
              refine inductionHypothesis _ ?_ aborts rfl (alive.trans lives) rfl
              rw [rest, List.length_drop] at shorter
              simp only [wait]
              omega
        · exact .here line wraps (by rw [← rest]; exact arrives)

theorem handleBody_settles (zlib : Zlib) (reader : Reader) (filled : Bool) (length : Nat)
    (reply : HttpReply) :
    (handleBody zlib reader filled length reply).pending = none ∧
      (handleBody zlib reader filled length reply).aborted = reader.aborted := by
  unfold handleBody
  split
  · exact ⟨rfl, rfl⟩
  · unfold afterRead
    simp only
    split
    · exact ⟨rfl, rfl⟩
    · exact (processReply_settles zlib _ _).2

/-- A length that was parsed is a `size_t`. -/
theorem parseHead_length {head : Bytes} {length : Nat}
    (parsed : (parseHead head).2 = .contentLength length) : length < 2 ^ 64 := by
  unfold parseHead at parsed
  split at parsed
  · cases parsed
  · simp only at parsed
    split at parsed
    · cases parsed
    · split at parsed
      · cases parsed
      · split at parsed
        · split at parsed
          · cases parsed
          next converted =>
            cases parsed
            exact stoul_lt converted
        · split at parsed <;> cases parsed

/-- `asyncResponse` aborts the process exactly on such a message. -/
theorem asyncResponse_aborted_iff (zlib : Zlib) (stream : Stream) :
    (asyncResponse zlib stream).aborted = true ↔ Overruns stream.content := by
  have reaches : (asyncResponse zlib stream).aborted = true ↔ Aborts zlib { stream } := by
    refine ⟨fun aborted => ⟨_, aborted⟩, ?_⟩
    rintro ⟨count, aborted⟩
    have start : Orderly { stream } := ⟨rfl, fun _ _ => ⟨rfl, rfl⟩, fun done => by cases done⟩
    have done : ((step zlib)^[count] { stream }).pending = none := by
      cases isPending : ((step zlib)^[count] { stream }).pending with
      | none => rfl
      | some pending =>
          cases ((iterate_orderly zlib start count).unanswered pending isPending).2.symm.trans
            aborted
    rw [asyncResponse_of_iterate zlib rfl done]
    exact aborted
  rw [reaches, aborts_step rfl]
  rcases @step_headers zlib { stream } rfl with ⟨absent, later, failed⟩ |
    ⟨pos, later, found, behind, stepped⟩
  · rw [failed]
    refine iff_of_false (not_aborts_of_done rfl rfl) ?_
    rintro ⟨pos, found, -⟩
    cases absent.symm.trans found
  · have body : Overruns stream.content ↔
        (parseHead (stream.content.take pos)).2 = .chunked ∧ ChunksOverrun later.content := by
      rw [behind]
      constructor
      · rintro ⟨other, again, chunked, overrun⟩
        obtain rfl := Option.some.inj (found.symm.trans again)
        exact ⟨chunked, overrun⟩
      · exact fun overruns => ⟨pos, found, overruns⟩
    rw [body, stepped]
    have known := @parseHead_length (stream.content.take pos)
    generalize parseHead (stream.content.take pos) = parsed at known ⊢
    obtain ⟨reply, _ | length | _ | _⟩ := parsed
    · exact iff_of_false (not_aborts_of_done rfl rfl) fun chunked => by cases chunked.1
    · have inside : ¬ (Pending.body length reply).Overruns := Nat.not_le.mpr (known rfl)
      refine iff_of_false ?_ fun chunked => by cases chunked.1
      rw [afterHead, aborts_step rfl, step_inside zlib rfl inside]
      obtain ⟨done, alive⟩ := handleBody_settles zlib _ _ length reply
      exact not_aborts_of_done done alive
    · rw [afterHead, and_iff_right rfl]
      exact ⟨fun aborts => chunksOverrun_of_aborts aborts rfl rfl,
        fun overrun => aborts_of_chunksOverrun overrun rfl rfl rfl⟩
    · exact iff_of_false (not_aborts_of_done rfl rfl) fun chunked => by cases chunked.1

end Reader

/-- Whatever the stream holds and however it arrives, `asyncResponse` comes to
an end, calls the handler once and never waits in a synchronous read, and the
decompression of a body does not go on for ever, unless a chunk has a size with
which the sum of the size and the line end wraps. -/
theorem asyncResponse_answers_once_iff (zlib : Zlib) (stream : Stream) :
    ((Reader.asyncResponse zlib stream).pending = none ∧
      (Reader.asyncResponse zlib stream).handled.length = 1 ∧
      (Reader.asyncResponse zlib stream).blocked = false ∧
      ∀ compressed : Bytes,
        (inflateLoop zlib (compressed.take (compressed.length % 2 ^ 32)) (compressed.length / 2)
          (zlib.turns (compressed.take (compressed.length % 2 ^ 32)) + 1) []
          (compressed.length / 2 * 3) []).isSome = true) ↔
      ¬ Reader.Overruns stream.content := by
  obtain ⟨done, orderly⟩ := Reader.asyncResponse_orderly zlib stream
  have answered := orderly.answered done
  rw [← Reader.asyncResponse_aborted_iff zlib, Bool.not_eq_true]
  constructor
  · rintro ⟨-, once, -, -⟩
    rw [once] at answered
    by_contra aborted
    rw [if_pos (Bool.not_eq_false _ ▸ aborted)] at answered
    cases answered
  · intro lives
    rw [lives] at answered
    exact ⟨done, answered, orderly.notBlocked, gzipInflate_ends zlib⟩

/-- The size `-1` and one more byte: the handler is never called. -/
theorem asyncResponse_minusSize :
    let head := bytes "HTTP/1.1 200 OK\r\nTransfer-Encoding: chunked"
    let stream : Stream := ⟨[], [head ++ crlf2, bytes "-1\r\na"]⟩
    stoul (bytes "-1") 16 = some (2 ^ 64 - 1, 2) ∧
      (Reader.asyncResponse refusingZlib stream).aborted = true ∧
      (Reader.asyncResponse refusingZlib stream).handled = [] := by
  decide +kernel

end GeoChat
