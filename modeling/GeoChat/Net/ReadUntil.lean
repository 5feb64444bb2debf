import GeoChat.Net.Reader

/-!
# The two paths of `read_until`

Both paths cut the remaining content at the first occurrence of the delimiter,
wherever the buffer ends. They differ in the number that they return.
-/

namespace GeoChat

open Library

/-- `read_until` returns `number`, with what stands before the occurrence at
`pos` as the response and what stands behind it to be read later. -/
structure ReadsAs (delimiter text : Bytes) (pos number : Nat) (stream : Stream) : Prop where
  result : (readUntil delimiter stream).result = some (text.take pos, number)
  rest : (readUntil delimiter stream).stream.content = text.drop (pos + delimiter.length)

/-- Whether the delimiter has arrived in full. -/
def Buffered (delimiter : Bytes) (stream : Stream) : Prop :=
  (search delimiter stream.buffered).isSome = true

instance (delimiter : Bytes) (stream : Stream) : Decidable (Buffered delimiter stream) := by
  unfold Buffered
  infer_instance

/-- The first occurrence in the buffer is the first one of all that comes. -/
theorem pos_of_buffered {delimiter : Bytes} {stream : Stream} {pos here : Nat}
    (found : search delimiter stream.content = some pos)
    (foundHere : search delimiter stream.buffered = some here) : here = pos := by
  have inContent := search_append foundHere stream.segments.flatten
  rw [← Source.content, found] at inContent
  exact (Option.some.inj inContent).symm

/-- Both paths take the response from the buffer and consume the delimiter. -/
theorem cut_buffer {delimiter : Bytes} {stream : Stream} {pos : Nat}
    (found : search delimiter stream.buffered = some pos) :
    stream.buffered.take pos = stream.content.take pos ∧
      (stream.consume (pos + delimiter.length)).content =
        stream.content.drop (pos + delimiter.length) := by
  have bound := search_bound found
  constructor
  · rw [Source.content, List.take_append_of_le_length (Nat.le_of_add_right_le bound)]
  · exact Source.consume_content bound

theorem readUntil_fast {delimiter text : Bytes} {stream : Stream} {pos : Nat}
    (nonempty : delimiter ≠ []) (found : search delimiter text = some pos)
    (content : stream.content = text) (buffered : Buffered delimiter stream) :
    ReadsAs delimiter text pos pos stream := by
  subst content
  obtain ⟨here, foundHere⟩ := Option.isSome_iff_exists.mp buffered
  cases pos_of_buffered found foundHere
  obtain ⟨response, rest⟩ := cut_buffer foundHere
  constructor
  · rw [readUntil_of_found nonempty foundHere, response]
  · rw [readUntil_of_found nonempty foundHere]
    exact rest

theorem readUntil_slow {delimiter text : Bytes} {stream : Stream} {pos : Nat}
    (found : search delimiter text = some pos) (content : stream.content = text)
    (coming : ¬ Buffered delimiter stream) :
    ReadsAs delimiter text pos (pos + delimiter.length) stream := by
  subst content
  have absent : search delimiter stream.buffered = none := by
    simpa [Buffered] using coming
  have filled : (stream.fill (contains delimiter)).1 = true := by
    apply Source.fill_complete
    rw [contains, found]
    rfl
  have whole := Source.fill_content (contains delimiter) stream
  obtain ⟨here, foundHere⟩ := Option.isSome_iff_exists.mp (Source.fill_enough filled)
  cases pos_of_buffered (by rw [whole, found]) foundHere
  obtain ⟨response, rest⟩ := cut_buffer foundHere
  rw [whole] at response rest
  constructor
  · simp only [readUntil, absent, ite_self, foundHere, response]
  · simp only [readUntil, absent, ite_self, foundHere, rest]

theorem ReadsAs.number_unique {delimiter text : Bytes} {pos number other : Nat} {stream : Stream}
    (reads : ReadsAs delimiter text pos number stream)
    (readsOther : ReadsAs delimiter text pos other stream) : number = other := by
  have same := reads.result.symm.trans readsOther.result
  cases same
  rfl

/-- On two cuts of one content, `read_until` leaves the same response and the
same rest, and it returns the same number exactly when the delimiter was in the
buffer of both or of none. -/
theorem readUntil_paths_iff (delimiter text : Bytes) (pos : Nat) (first second : Stream)
    (nonempty : delimiter ≠ []) (found : search delimiter text = some pos)
    (firstContent : first.content = text) (secondContent : second.content = text) :
    (∃ number, ReadsAs delimiter text pos number first ∧ ReadsAs delimiter text pos number second) ↔
      (Buffered delimiter first ↔ Buffered delimiter second) := by
  have positive := List.length_pos_of_ne_nil nonempty
  have fast := fun stream => @readUntil_fast delimiter text stream pos nonempty found
  have slow := fun stream => @readUntil_slow delimiter text stream pos found
  constructor
  · rintro ⟨number, readsFirst, readsSecond⟩
    by_contra different
    by_cases buffered : Buffered delimiter first
    · have here := readsFirst.number_unique (fast first firstContent buffered)
      have coming : ¬ Buffered delimiter second := fun both => different (iff_of_true buffered both)
      have behind := readsSecond.number_unique (slow second secondContent coming)
      omega
    · have behind := readsFirst.number_unique (slow first firstContent buffered)
      have here := readsSecond.number_unique
        (fast second secondContent (not_iff.mp different |>.mp buffered))
      omega
  · intro same
    by_cases buffered : Buffered delimiter first
    · exact ⟨pos, fast first firstContent buffered, fast second secondContent (same.mp buffered)⟩
    · exact ⟨pos + delimiter.length, slow first firstContent buffered,
        slow second secondContent (mt same.mpr buffered)⟩

theorem readUntil_paths_iff_straddling :
    ∃ number, ReadsAs crlf (bytes "ab\r\ncd") 2 number ⟨bytes "ab\r", [bytes "\nc", bytes "d"]⟩ ∧
      ReadsAs crlf (bytes "ab\r\ncd") 2 number ⟨[], [bytes "ab\r\ncd"]⟩ :=
  (readUntil_paths_iff crlf (bytes "ab\r\ncd") 2 _ _ (by decide) (by decide) (by decide)
    (by decide)).mpr (by decide)

/-- With the line end in the buffer the length of the line is returned, and
with the line end still to come two more. -/
theorem readUntil_paths_differ :
    let text := bytes "ab\r\ncd"
    (readUntil crlf ⟨text, []⟩).result = some (bytes "ab", 2) ∧
      (readUntil crlf ⟨[], [text]⟩).result = some (bytes "ab", 4) ∧
      ¬ ∃ number,
        ReadsAs crlf text 2 number ⟨text, []⟩ ∧ ReadsAs crlf text 2 number ⟨[], [text]⟩ := by
  intro text
  have fast : (readUntil crlf ⟨text, []⟩).result = some (bytes "ab", 2) := by decide +kernel
  have slow : (readUntil crlf ⟨[], [text]⟩).result = some (bytes "ab", 4) := by decide +kernel
  refine ⟨fast, slow, ?_⟩
  rintro ⟨number, readsFast, readsSlow⟩
  cases fast.symm.trans readsFast.result
  cases slow.symm.trans readsSlow.result

end GeoChat
