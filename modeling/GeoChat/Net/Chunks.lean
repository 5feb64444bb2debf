import GeoChat.Net.RoundTrip

/-!
# Chunked bodies

A body that comes in chunks is read by two handlers that start each other:
`startProcessChunk` reads the line of the size, `processChunk` the data with
the line end behind it. The data is counted, never searched, so it may hold
line ends or look like a size.
-/

namespace GeoChat

open Library

namespace Reader

variable (zlib : Zlib)

/-- How `processChunk` goes on with the reply that has the chunk in its body. -/
def nextChunk (reader : Reader) (chunkSize : Nat) (reply : HttpReply) : Reader :=
  if chunkSize = 0 then processReply zlib reader reply else reader.wait (.chunkSize reply)

/-- However the body is decoded, nothing more is read. -/
theorem processReply_settles (reader : Reader) (reply : HttpReply) :
    (processReply zlib reader reply).stream = reader.stream ∧
      (processReply zlib reader reply).pending = none ∧
      (processReply zlib reader reply).aborted = reader.aborted := by
  unfold processReply
  simp only
  split
  · split
    · exact ⟨rfl, rfl, rfl⟩
    · exact ⟨rfl, rfl, rfl⟩
  · exact ⟨rfl, rfl, rfl⟩

theorem nextChunk_stream (reader : Reader) (chunkSize : Nat) (reply : HttpReply) :
    (nextChunk zlib reader chunkSize reply).stream = reader.stream := by
  unfold nextChunk
  split
  · exact (processReply_settles zlib reader reply).1
  · rfl

theorem processReply_plain {reader : Reader} {reply : HttpReply}
    (plain : (search (bytes "gzip") (reply.getHeader (bytes "Content-Encoding"))).isSome = false) :
    processReply zlib reader reply = reader.answer .none reply := by
  simp only [processReply, plain, Bool.and_false, Bool.false_and, Bool.false_eq_true, if_false]

theorem processReply_zipped {reader : Reader} {reply : HttpReply} {inflated : Bytes}
    (zips : (search (bytes "gzip") (reply.getHeader (bytes "Content-Encoding"))).isSome = true)
    (inflates : gzipInflate zlib reply.body = some inflated) :
    processReply zlib reader reply = reader.answer .none { reply with body := inflated } := by
  have present : reply.hasHeader (bytes "Content-Encoding") = true := by
    unfold HttpReply.hasHeader
    cases found : reply.parsedHeaders.find (bytes "Content-Encoding") with
    | none =>
        rw [HttpReply.getHeader, found] at zips
        exact absurd zips (by decide)
    | some value => rfl
  cases empty : reply.body.isEmpty with
  | true =>
      have nothing : inflated = [] := by
        simpa [gzipInflate, empty] using inflates.symm
      simp only [processReply, empty, Bool.not_true, Bool.and_false, Bool.false_eq_true, if_false,
        nothing, ← List.isEmpty_iff.mp empty]
  | false =>
      simp only [processReply, present, zips, empty, Bool.not_false, Bool.and_self, if_true,
        inflates]

/-- The sum `chunk_size + 2` does not wrap where the iterator stays in the
buffer. -/
theorem chunkNeed_eq {chunkSize : Nat} (inside : chunkSize + 2 < 2 ^ 64) :
    chunkNeed chunkSize = chunkSize + 2 :=
  Nat.mod_eq_of_lt inside

/-- What `processChunk` does when its wait has succeeded: it takes as many bytes
as it waited for. -/
theorem step_chunkData {reader : Reader} {chunkSize : Nat} {reply : HttpReply}
    (isPending : reader.pending = some (.chunkData chunkSize reply))
    (inside : chunkSize + 2 < 2 ^ 64)
    (filled : (reader.stream.fill (isComplete (.chunkData chunkSize reply))).1 = true) :
    ∃ (taken : Bytes) (later : Stream), reader.stream.content = taken ++ later.content ∧
      taken.length = chunkSize + 2 ∧
      step zlib reader = nextChunk zlib { reader with stream := later, pending := none } chunkSize
        { reply with body := reply.body ++ taken.take chunkSize } := by
  obtain ⟨source, filledTo⟩ :
      ∃ source, reader.stream.fill (isComplete (.chunkData chunkSize reply)) = (true, source) :=
    ⟨_, Prod.ext filled rfl⟩
  have whole : source.content = reader.stream.content := by
    rw [← Source.fill_content (isComplete (.chunkData chunkSize reply)) reader.stream, filledTo]
  have available : chunkSize + 2 ≤ source.buffered.length := by
    have enough := Source.fill_enough filled
    rw [filledTo, isComplete_chunkData, chunkNeed_eq inside] at enough
    exact of_decide_eq_true enough
  refine ⟨source.buffered.take (chunkSize + 2), source.consume (chunkSize + 2), ?_,
    List.length_take_of_le available, ?_⟩
  · rw [Source.consume_content available, ← whole,
      ← @List.take_append_of_le_length _ _ source.segments.flatten _ available, ← Source.content,
      List.take_append_drop]
  · have notOver : ¬ (Pending.chunkData chunkSize reply).Overruns := Nat.not_le.mpr inside
    rw [step_inside zlib isPending notOver]
    simp only [resume, filledTo, processChunk, Bool.not_true, Bool.false_eq_true, if_false,
      chunkNeed_eq inside, read_of_le available, afterRead_ready, nextChunk]

/-- The step from `before` to `after` takes a chunk as the numbers say: two
bytes more than the size from the stream, and the size itself for the body. -/
def TakesWhole (chunkSize : Nat) (reply : HttpReply) (before after : Reader) : Prop :=
  ∃ taken data : Bytes,
    before.stream.content = taken ++ after.stream.content ∧ taken.length = chunkSize + 2 ∧
      data.length = chunkSize ∧
      after = nextChunk zlib { before with stream := after.stream, pending := none } chunkSize
        { reply with body := reply.body ++ data }

end Reader

/-- After every size line that `startProcessChunk` accepts, if `processChunk`
then runs without an error, the sum of the size and the line end has not
wrapped, and the chunk is taken whole. A size for which it would wrap ends the
process before: the iterator of the condition leaves the buffer. -/
theorem processChunk_whole (zlib : Zlib) (reader : Reader) (reply : HttpReply) (chunkSize : Nat)
    (accepted : (Reader.step zlib reader).pending = some (.chunkData chunkSize reply))
    (arrives : ((Reader.step zlib reader).stream.fill
      (Reader.isComplete (.chunkData chunkSize reply))).1 = true)
    (runs : (Reader.step zlib (Reader.step zlib reader)).aborted = false) :
    Reader.chunkNeed chunkSize = chunkSize + 2 ∧
      Reader.TakesWhole zlib chunkSize reply (Reader.step zlib reader)
        (Reader.step zlib (Reader.step zlib reader)) := by
  have inside : chunkSize + 2 < 2 ^ 64 := by
    by_contra wraps
    have outside : (Pending.chunkData chunkSize reply).Overruns := Nat.not_lt.mp wraps
    rw [Reader.step_overruns zlib accepted outside arrives] at runs
    cases runs
  refine ⟨Reader.chunkNeed_eq inside, ?_⟩
  obtain ⟨taken, later, content, need, stepped⟩ :=
    Reader.step_chunkData zlib accepted inside arrives
  have stream : (Reader.step zlib (Reader.step zlib reader)).stream = later := by
    rw [stepped, Reader.nextChunk_stream]
  refine ⟨taken, taken.take chunkSize, by rw [stream, content], need, ?_, ?_⟩
  · apply List.length_take_of_le
    rw [need]
    exact Nat.le_add_right _ _
  · rw [stream]
    exact stepped

/-- A reader that waits for a size line. -/
def awaitingSize (segments : List Bytes) : Reader :=
  { stream := ⟨[], segments⟩, pending := some (.chunkSize {}) }

theorem processChunk_whole_five :
    Reader.TakesWhole refusingZlib 5 {}
      (Reader.step refusingZlib (awaitingSize [bytes "5\r", bytes "\nab\r\nc\r\n0"]))
      (Reader.step refusingZlib
        (Reader.step refusingZlib (awaitingSize [bytes "5\r", bytes "\nab\r\nc\r\n0"]))) :=
  (processChunk_whole refusingZlib _ {} 5 (by decide +kernel) (by decide +kernel)
    (by decide +kernel)).2

/-- A chunk with the line of its size: hexadecimal digits whose value is the
number of the bytes. -/
structure Chunk where
  size : Bytes
  data : Bytes
  nonempty : data ≠ []
  short : data.length < 2 ^ 64 - 2
  written : size ≠ []
  areDigits : ∀ byte ∈ size, (digitValue 16 byte).isSome = true
  value : magnitude 16 size = data.length

namespace Chunk

def encode (chunk : Chunk) : Bytes := chunk.size ++ crlf ++ (chunk.data ++ crlf)

/-- The chunks, and the empty one that ends the body. -/
def encodeAll (chunks : List Chunk) : Bytes := chunks.flatMap encode ++ bytes "0\r\n\r\n"

theorem stoul_size (chunk : Chunk) :
    stoul chunk.size 16 = some (chunk.data.length, chunk.size.length) := by
  have fits : magnitude 16 chunk.size < 2 ^ 64 := by
    rw [chunk.value]
    exact Nat.lt_of_lt_of_le chunk.short (Nat.sub_le _ _)
  rw [stoul_digits le_rfl chunk.written chunk.areDigits fits, chunk.value]

theorem size_noReturn (chunk : Chunk) : 13 ∉ chunk.size := fun member =>
  (digit_shape le_rfl (chunk.areDigits 13 member)).2.2.1 rfl

end Chunk

namespace Reader

variable (zlib : Zlib)

/-- The step that reads the line of a size. -/
theorem step_sizeLine {stream : Stream} {size rest : Bytes} {reply : HttpReply} {chunkSize : Nat}
    (content : stream.content = size ++ crlf ++ rest) (noReturn : 13 ∉ size)
    (converted : stoul size 16 = some (chunkSize, size.length)) :
    ∃ later : Stream, later.content = rest ∧
      step zlib { stream, pending := some (.chunkSize reply) } =
        { stream := later, pending := some (.chunkData chunkSize reply) } := by
  have found : search crlf (size ++ crlf ++ rest) = some size.length := by
    rw [crlf_eq, List.append_assoc, search_skip noReturn,
      search_eq_zero (List.prefix_append _ _)]
    rfl
  rcases readUntil_filled (by decide) content found with ⟨filled, later, laterContent, line⟩
  refine ⟨later, laterContent, ?_⟩
  rw [@step_inside zlib { stream, pending := _ } _ rfl id]
  simp only [resume, isComplete_chunkSize, filled, startProcessChunk, Bool.not_true,
    Bool.false_eq_true, if_false, line, afterRead_ready, converted, ne_eq, not_true_eq_false, wait]

/-- The step that reads the data of a chunk which does not make the sum wrap. -/
theorem step_data {stream : Stream} {data rest : Bytes} {reply : HttpReply}
    (content : stream.content = data ++ crlf ++ rest) (short : data.length < 2 ^ 64 - 2) :
    ∃ later : Stream, later.content = rest ∧
      step zlib { stream, pending := some (.chunkData data.length reply) } =
        nextChunk zlib { stream := later, pending := none } data.length
          { reply with body := reply.body ++ data } := by
  have inside : data.length + 2 < 2 ^ 64 := by omega
  have filled : (stream.fill (isComplete (.chunkData data.length reply))).1 = true := by
    apply Source.fill_complete
    simp only [isComplete_chunkData, content, chunkNeed_eq inside, List.length_append,
      decide_eq_true_eq, crlf_eq, List.length_cons, List.length_nil]
    exact Nat.le_add_right _ _
  obtain ⟨taken, later, whole, need, stepped⟩ :=
    @step_chunkData zlib { stream, pending := some (.chunkData data.length reply) } _ _ rfl inside
      filled
  have split : taken = data ++ crlf ∧ later.content = rest := by
    apply List.append_inj (whole.symm.trans content)
    rw [need, List.length_append]
    rfl
  refine ⟨later, split.2, ?_⟩
  rw [stepped, split.1, List.take_left']
  rfl

/-- The loop over the chunks: as many turns as there are chunks, and the turn
of the empty chunk, whose handler has the whole body. -/
theorem iterate_chunks {stream : Stream} {chunks : List Chunk} {rest : Bytes} {reply : HttpReply}
    (content : stream.content = Chunk.encodeAll chunks ++ rest) :
    ∃ later : Stream, later.content = rest ∧
      (step zlib)^[2 * chunks.length + 2] { stream, pending := some (.chunkSize reply) } =
        processReply zlib { stream := later, pending := none }
          { reply with body := reply.body ++ chunks.flatMap Chunk.data } := by
  induction chunks generalizing stream reply with
  | nil =>
      have last : stream.content = bytes "0" ++ crlf ++ ([] ++ crlf ++ rest) := content
      obtain ⟨middle, middleContent, first⟩ :=
        @step_sizeLine zlib stream _ _ reply 0 last (by decide) (by decide)
      obtain ⟨later, laterContent, second⟩ :=
        @step_data zlib middle [] rest reply middleContent (by decide)
      refine ⟨later, laterContent, ?_⟩
      rw [List.length_nil, Function.iterate_succ_apply, Function.iterate_one, first]
      exact second
  | cons chunk chunks inductionHypothesis =>
      have next : stream.content =
          chunk.size ++ crlf ++ (chunk.data ++ crlf ++ (Chunk.encodeAll chunks ++ rest)) := by
        simp only [content, Chunk.encodeAll, List.flatMap_cons, Chunk.encode, List.append_assoc]
      obtain ⟨middle, middleContent, first⟩ :=
        @step_sizeLine zlib stream _ _ reply _ next chunk.size_noReturn chunk.stoul_size
      obtain ⟨tail, tailContent, second⟩ :=
        @step_data zlib middle _ _ reply middleContent chunk.short
      obtain ⟨later, laterContent, turns⟩ :=
        @inductionHypothesis tail { reply with body := reply.body ++ chunk.data } tailContent
      have goesOn : chunk.data.length ≠ 0 := fun none =>
        chunk.nonempty (List.length_eq_zero_iff.mp none)
      refine ⟨later, laterContent, ?_⟩
      rw [List.length_cons, show 2 * (chunks.length + 1) + 2 = 2 * chunks.length + 2 + 1 + 1 by rfl,
        Function.iterate_succ_apply, Function.iterate_succ_apply, first, second, nextChunk,
        if_neg goesOn, wait, turns]
      simp only [List.flatMap_cons, List.append_assoc]

theorem parseFirstLine_body {line : Bytes} {before after : HttpReply}
    (parsed : parseFirstLine line before = some after) : after.body = before.body := by
  unfold parseFirstLine at parsed
  split at parsed
  · simp only at parsed
    split at parsed
    · obtain ⟨status, -, rfl⟩ := Option.map_eq_some_iff.mp parsed
      rfl
    · cases parsed
      rfl
  · cases parsed

/-- A header block that announces chunks: it ends at its first empty line, its
first line is one of a request or a reply, and of the two headers that say how
the body is framed it has the one for chunks. -/
structure AnnouncesChunks (head : Bytes) (reply : HttpReply) : Prop where
  endsHere : search crlf2 (head ++ crlf2) = some head.length
  parsed : ∃ first lines start, Utils.split head crlf = first :: lines ∧ first ≠ [] ∧
    parseFirstLine first { headers := head } = some start ∧
    reply = { start with parsedHeaders := parseHeaderLines lines [] }
  noLength : reply.hasHeader (bytes "Content-Length") = false
  chunked : reply.getHeader (bytes "Transfer-Encoding") = bytes "chunked"

theorem AnnouncesChunks.parseHead {head : Bytes} {reply : HttpReply}
    (announces : AnnouncesChunks head reply) : parseHead head = (reply, .chunked) := by
  obtain ⟨first, lines, start, cut, nonempty, firstLine, rfl⟩ := announces.parsed
  have noLength := announces.noLength
  have chunked := announces.chunked
  simp only [GeoChat.parseHead, cut, List.isEmpty_iff, nonempty, if_false, firstLine, noLength,
    chunked, Bool.false_eq_true, if_true]

theorem AnnouncesChunks.body {head : Bytes} {reply : HttpReply}
    (announces : AnnouncesChunks head reply) : reply.body = [] := by
  obtain ⟨first, lines, start, -, -, firstLine, rfl⟩ := announces.parsed
  exact parseFirstLine_body firstLine

/-- The step that reads such a header block. -/
theorem step_chunkedHead {stream : Stream} {head rest : Bytes} {reply : HttpReply}
    (announces : AnnouncesChunks head reply) (content : stream.content = head ++ crlf2 ++ rest) :
    ∃ later : Stream, later.content = rest ∧
      step zlib { stream } = { stream := later, pending := some (.chunkSize reply) } := by
  have found := search_append announces.endsHere rest
  rcases readUntil_filled (by decide) content found with ⟨filled, later, laterContent, line⟩
  refine ⟨later, laterContent, ?_⟩
  rw [@step_inside zlib { stream } .headers rfl id]
  simp only [resume, isComplete_headers, filled, handleHeaders, Bool.not_true, Bool.false_eq_true,
    if_false, line, afterRead_ready, announces.parseHead, wait]

end Reader

/-- A chunked message at the front of the stream, whatever its chunks hold and
however it is cut, is read as the concatenation of its chunks, and what is
behind it stays. The handler gets this body, or what `gzipInflate` makes of it
when the headers say so. -/
theorem asyncResponse_chunked (zlib : Zlib) (stream : Stream) (head rest : Bytes)
    (reply : HttpReply) (chunks : List Chunk) (announces : Reader.AnnouncesChunks head reply)
    (content : stream.content = head ++ crlf2 ++ (Chunk.encodeAll chunks ++ rest)) :
    let body := chunks.flatMap Chunk.data
    let reader := Reader.asyncResponse zlib stream
    let zipped := (search (bytes "gzip") (reply.getHeader (bytes "Content-Encoding"))).isSome
    (∃ later : Stream, reader =
        Reader.processReply zlib { stream := later, pending := none } { reply with body }) ∧
      reader.stream.content = rest ∧
      (zipped = false → reader.handled = [(.none, { reply with body })]) ∧
      ∀ inflated, zipped = true → gzipInflate zlib body = some inflated →
        reader.handled = [(.none, { reply with body := inflated })] := by
  intro body reader zipped
  obtain ⟨middle, middleContent, first⟩ := Reader.step_chunkedHead zlib announces content
  obtain ⟨later, laterContent, turns⟩ :=
    @Reader.iterate_chunks zlib middle chunks rest reply middleContent
  rw [announces.body, List.nil_append] at turns
  have ended : reader =
      Reader.processReply zlib { stream := later, pending := none } { reply with body } := by
    refine @Reader.asyncResponse_of_iterate zlib _ _ (2 * chunks.length + 2 + 1) ?_ ?_
    · rw [Function.iterate_succ_apply, first, turns]
    · exact (Reader.processReply_settles zlib _ _).2.1
  refine ⟨⟨later, ended⟩, ?_, ?_, ?_⟩
  · rw [ended, (Reader.processReply_settles zlib _ _).1]
    exact laterContent
  · intro plain
    rw [ended, @Reader.processReply_plain zlib _ { reply with body } plain]
    rfl
  · intro inflated zips inflates
    rw [ended, @Reader.processReply_zipped zlib _ { reply with body } inflated zips inflates]
    rfl

/-- Two chunks, the first of which holds a line end and the mark of the last
chunk, in three segments that cut the head and the first size. -/
theorem asyncResponse_chunked_two :
    let first : Chunk := ⟨bytes "0A", bytes "a\r\n0\r\n\r\nbc", by decide, by decide, by decide,
      by decide +kernel, by decide +kernel⟩
    let second : Chunk := ⟨bytes "2", bytes "de", by decide, by decide, by decide,
      by decide +kernel, by decide +kernel⟩
    let head := bytes "HTTP/1.1 200 OK\r\nTransfer-Encoding: chunked"
    let whole := head ++ crlf2 ++ (Chunk.encodeAll [first, second] ++ bytes "HTTP/1.1")
    let stream : Stream := ⟨[], [whole.take 20, (whole.drop 20).take 28, whole.drop 48]⟩
    let reader := Reader.asyncResponse refusingZlib stream
    reader.stream.content = bytes "HTTP/1.1" ∧
      reader.handled.map (fun result => (result.1, result.2.body)) =
        [(.none, bytes "a\r\n0\r\n\r\nbcde")] := by
  intro first second head whole stream reader
  have announces : Reader.AnnouncesChunks head (parseHead head).1 :=
    ⟨by decide +kernel, ⟨bytes "HTTP/1.1 200 OK", [bytes "Transfer-Encoding: chunked"],
      { headers := head, status := 200 }, by decide +kernel, by decide +kernel, by decide +kernel,
      by decide +kernel⟩, by decide +kernel, by decide +kernel⟩
  have content : stream.content = head ++ crlf2 ++
      (Chunk.encodeAll [first, second] ++ bytes "HTTP/1.1") := by decide +kernel
  obtain ⟨_, left, plain, _⟩ :=
    asyncResponse_chunked refusingZlib stream head _ _ _ announces content
  refine ⟨left, ?_⟩
  rw [plain (by decide +kernel)]
  decide +kernel

end GeoChat
