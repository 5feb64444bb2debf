import GeoChat.Net.Chunks

/-!
# What the chunk reader accepts

The grammar of a chunked body stands beside the reader. The reader takes its
sizes from `std::stoul`, which reads more than digits, and drops the two bytes
behind the data without looking at them, so it accepts bodies that the grammar
does not have. It stays inside the grammar as long as every line of a size and
every end of a chunk that it meets is regular.
-/

namespace GeoChat

open Library

/-- The size of a chunk, as it is written. -/
def IsSize (size : Bytes) : Prop :=
  size ≠ [] ∧ ∀ byte ∈ size, (digitValue 16 byte).isSome = true

/-- Chunks and a chunk of size 0 that ends them. -/
inductive ChunkedBody : Bytes → Prop where
  | last {size : Bytes} (isSize : IsSize size) (value : magnitude 16 size = 0) :
      ChunkedBody (size ++ crlf ++ crlf)
  | chunk {size data rest : Bytes} (isSize : IsSize size)
      (value : magnitude 16 size = data.length) (nonempty : data ≠ []) (more : ChunkedBody rest) :
      ChunkedBody (size ++ crlf ++ (data ++ crlf) ++ rest)

/-- A byte that `stoul` takes although it is no digit. -/
def isMark (byte : UInt8) : Bool :=
  isspace byte || byte = 43 || byte = 45 || byte = 88 || byte = 120

theorem IsSize.noReturn {size : Bytes} (isSize : IsSize size) : 13 ∉ size := fun member =>
  (digit_shape le_rfl (isSize.2 13 member)).2.2.1 rfl

theorem IsSize.unmarked {size : Bytes} (isSize : IsSize size) :
    ∀ byte ∈ size, isMark byte = false := by
  intro byte member
  obtain ⟨notBlank, -, -, notPlus, notMinus, notUpper, notLower⟩ :=
    digit_shape le_rfl (isSize.2 byte member)
  simp [isMark, notBlank, notPlus, notMinus, notUpper, notLower]

/-- The line of a size is cut where its digits end. -/
theorem IsSize.search {size : Bytes} (isSize : IsSize size) (rest : Bytes) :
    search crlf (size ++ crlf ++ rest) = some size.length := by
  rw [crlf_eq, List.append_assoc, search_skip isSize.noReturn,
    search_eq_zero (List.prefix_append _ _)]
  rfl

/-- A text without blanks, signs and marks of a base that is read in full holds
digits only. -/
theorem scanInteger_unmarked {base : Nat} {text : Bytes} {negative : Bool} {value : Nat}
    (unmarked : ∀ byte ∈ text, isMark byte = false)
    (scanned : scanInteger base text = some (negative, value, text.length)) :
    negative = false ∧ value = magnitude base text ∧ text ≠ [] ∧
      ∀ byte ∈ text, (digitValue base byte).isSome = true := by
  have unmarkedPrefix : ∀ byte ∈ cstr text, isMark byte = false := fun byte member =>
    unmarked byte ((List.takeWhile_prefix _).subset member)
  have noBlanks : (cstr text).takeWhile isspace = [] := by
    cases shape : cstr text with
    | nil => rfl
    | cons first rest =>
        have mark := unmarkedPrefix first (by rw [shape]; exact List.mem_cons_self)
        apply List.takeWhile_cons_of_neg
        simp_all [isMark]
  have notMinus : (cstr text).head? ≠ some 45 := fun minus =>
    absurd (unmarkedPrefix 45 (List.mem_of_mem_head? minus)) (by decide)
  have notPlus : (cstr text).head? ≠ some 43 := fun plus =>
    absurd (unmarkedPrefix 43 (List.mem_of_mem_head? plus)) (by decide)
  have noSign := unsigned_sign (cstr text) notPlus notMinus
  have noLead := unmarked_lead base (cstr text) fun byte member => by
    have mark := unmarkedPrefix byte member
    simp only [isMark, Bool.or_eq_false_iff, decide_eq_false_iff_not] at mark
    exact ⟨mark.1.2, mark.2⟩
  unfold scanInteger at scanned
  simp only [noBlanks, List.length_nil, List.drop_zero, noSign, noLead, Nat.zero_add] at scanned
  split at scanned
  · cases scanned
  next someDigit =>
    simp only [Option.some.injEq, Prod.mk.injEq] at scanned
    obtain ⟨sign, reads, used⟩ := scanned
    have whole : (cstr text).takeWhile (fun byte => (digitValue base byte).isSome) = text :=
      ((List.takeWhile_prefix _).trans (List.takeWhile_prefix _)).eq_of_length used
    rw [whole] at reads someDigit
    refine ⟨?_, reads.symm, fun empty => someDigit (by rw [empty]; rfl), ?_⟩
    · rw [← sign]
      exact decide_eq_false notMinus
    · intro byte member
      have isDigit : (fun byte => (digitValue base byte).isSome) byte = true := by
        rw [← whole] at member
        exact @List.mem_takeWhile_imp _ (fun byte => (digitValue base byte).isSome) _ _ member
      exact isDigit

/-- An accepted size line that has no mark is a size of the grammar. -/
theorem stoul_unmarked {line : Bytes} {chunkSize : Nat}
    (unmarked : ∀ byte ∈ line, isMark byte = false)
    (converted : stoul line 16 = some (chunkSize, line.length)) :
    IsSize line ∧ magnitude 16 line = chunkSize := by
  unfold stoul at converted
  split at converted
  · cases converted
  next negative value used scanned =>
    split at converted
    · cases converted
    · simp only [Option.some.injEq, Prod.mk.injEq] at converted
      obtain ⟨result, rfl⟩ := converted
      obtain ⟨rfl, reads, nonempty, areDigits⟩ := scanInteger_unmarked unmarked scanned
      exact ⟨⟨nonempty, areDigits⟩, reads.symm.trans result⟩

/-- A size of the grammar that is accepted is accepted with its value. -/
theorem IsSize.accepted {size : Bytes} (isSize : IsSize size) {chunkSize used : Nat}
    (converted : stoul size 16 = some (chunkSize, used)) : chunkSize = magnitude 16 size := by
  by_cases fits : magnitude 16 size < 2 ^ 64
  · rw [stoul_digits le_rfl isSize.1 isSize.2 fits] at converted
    cases converted
    rfl
  · rw [stoul, scanInteger_digits le_rfl isSize.1 isSize.2] at converted
    simp only [Nat.not_lt.mp fits, if_true] at converted
    cases converted

theorem consume_suffix {stream : Stream} {count : Nat}
    (available : count ≤ stream.buffered.length) :
    (stream.consume count).content <:+ stream.content := by
  rw [Source.consume_content available]
  exact List.drop_suffix _ _

theorem readUntil_suffix (delimiter : Bytes) (stream : Stream) :
    (readUntil delimiter stream).stream.content <:+ stream.content := by
  have whole := Source.fill_content (contains delimiter) stream
  unfold readUntil
  simp only
  split
  next pos found =>
    split at found
    · cases found
    · exact consume_suffix (search_bound found)
  next =>
    rw [← whole]
    split
    next pos found => exact consume_suffix (search_bound found)
    next => exact List.suffix_rfl

theorem read_suffix (needBytes : Nat) (stream : Stream) :
    (read needBytes stream).stream.content <:+ stream.content := by
  unfold read
  split
  next available => exact consume_suffix available
  next =>
    simp only
    split
    · simp only [Source.content, List.nil_append, List.flatten_cons, List.flatten_nil,
        List.append_nil]
      exact (List.drop_suffix _ _).trans (List.suffix_append _ _)
    · exact List.nil_suffix

namespace Reader

variable (zlib : Zlib)

theorem afterRead_stream (reader : Reader) (sync : SyncRead) {next : Reader → Bytes → Reader}
    (keeps : ∀ reader response, (next reader response).stream = reader.stream) :
    (reader.afterRead sync next).stream = sync.stream := by
  unfold afterRead
  simp only
  split
  · rfl
  · rw [keeps]

theorem handleHeaders_suffix (reader : Reader) (filled : Bool) :
    (handleHeaders reader filled).stream.content <:+ reader.stream.content := by
  unfold handleHeaders
  split
  · exact List.suffix_rfl
  · rw [afterRead_stream reader _ fun reader head => by split <;> rfl]
    exact readUntil_suffix _ _

theorem handleBody_suffix (reader : Reader) (filled : Bool) (length : Nat) (reply : HttpReply) :
    (handleBody zlib reader filled length reply).stream.content <:+ reader.stream.content := by
  unfold handleBody
  split
  · exact List.suffix_rfl
  · rw [afterRead_stream reader _ fun reader body => (processReply_settles zlib reader _).1]
    exact read_suffix _ _

theorem startProcessChunk_suffix (reader : Reader) (filled : Bool) (reply : HttpReply) :
    (startProcessChunk reader filled reply).stream.content <:+ reader.stream.content := by
  unfold startProcessChunk
  split
  · exact List.suffix_rfl
  · rw [afterRead_stream reader _ fun reader line => by
      split
      · rfl
      · split <;> rfl]
    exact readUntil_suffix _ _

theorem processChunk_suffix (reader : Reader) (filled : Bool) (chunkSize : Nat)
    (reply : HttpReply) :
    (processChunk zlib reader filled chunkSize reply).stream.content <:+ reader.stream.content := by
  unfold processChunk
  split
  · exact List.suffix_rfl
  · rw [afterRead_stream reader _ fun reader response => by
      simp only
      split
      · exact (processReply_settles zlib reader _).1
      · rfl]
    exact read_suffix _ _

/-- A step takes bytes from the front of the stream and does nothing else to it. -/
theorem step_suffix (reader : Reader) :
    (step zlib reader).stream.content <:+ reader.stream.content := by
  cases isPending : reader.pending with
  | none => rw [step_done zlib isPending]
  | some pending =>
      have whole := Source.fill_content (isComplete pending) reader.stream
      rw [← whole]
      simp only [step, isPending]
      split
      next => exact List.suffix_rfl
      next =>
      cases pending with
      | headers => exact handleHeaders_suffix _ _
      | body length reply => exact handleBody_suffix zlib _ _ length reply
      | chunkSize reply => exact startProcessChunk_suffix _ _ reply
      | chunkData chunkSize reply => exact processChunk_suffix zlib _ _ chunkSize reply

theorem iterate_suffix (reader : Reader) (count : Nat) :
    ((step zlib)^[count] reader).stream.content <:+ reader.stream.content := by
  induction count generalizing reader with
  | zero => exact List.suffix_rfl
  | succ count inductionHypothesis =>
      exact (inductionHypothesis (step zlib reader)).trans (step_suffix zlib reader)

/-- The chunk reader, started on `reader`, ends without an error and has taken
`consumed` from the stream. -/
def ChunksRead (reader : Reader) (consumed : Bytes) : Prop :=
  ∃ count reply,
    ((step zlib)^[count] reader).pending = none ∧
    ((step zlib)^[count] reader).handled = reader.handled ++ [(.none, reply)] ∧
    reader.stream.content = consumed ++ ((step zlib)^[count] reader).stream.content

theorem ChunksRead.content {zlib : Zlib} {reader : Reader} {consumed : Bytes}
    (reads : ChunksRead zlib reader consumed) :
    ∃ rest, reader.stream.content = consumed ++ rest := by
  obtain ⟨count, reply, -, -, whole⟩ := reads
  exact ⟨_, whole⟩

/-- What the next handler of the chunk reader is about to read is regular: the
line of a size has no mark in it, and behind the data, whose size leaves room
for the sum, stands a line end. -/
def Regular (reader : Reader) : Prop :=
  match reader.pending with
  | some (.chunkSize _) =>
      ∀ pos, search crlf reader.stream.content = some pos →
        ∀ byte ∈ reader.stream.content.take pos, isMark byte = false
  | some (.chunkData chunkSize _) =>
      chunkSize < 2 ^ 64 - 2 ∧ (reader.stream.content.drop chunkSize).take 2 = crlf
  | _ => True

/-- A reader that has ended stays as it is. -/
theorem iterate_of_done {reader : Reader} (done : reader.pending = none) (count : Nat) :
    (step zlib)^[count] reader = reader :=
  Function.iterate_fixed (step_done zlib done) count

/-- A run that ends with a step has the answer of this step. -/
theorem not_chunksRead_of_done {reader : Reader} {consumed : Bytes}
    (isPending : reader.pending ≠ none) (done : (step zlib reader).pending = none)
    (fails : ∀ reply, (step zlib reader).handled ≠ reader.handled ++ [(.none, reply)]) :
    ¬ ChunksRead zlib reader consumed := by
  rintro ⟨count, reply, ended, answered, -⟩
  cases count with
  | zero => exact isPending ended
  | succ count =>
      rw [Function.iterate_succ_apply, iterate_of_done zlib done] at answered
      exact fails reply answered

/-- A run that has failed is no run without an error. -/
theorem not_chunksRead_of_failed {reader : Reader} {later : Stream} {consumed : Bytes}
    {error : ConnectionError} {reply : HttpReply} (isPending : reader.pending ≠ none)
    (failed : step zlib reader = answer { reader with stream := later } error reply)
    (fails : error ≠ .none) : ¬ ChunksRead zlib reader consumed := by
  refine not_chunksRead_of_done zlib isPending (by rw [failed]; rfl) fun other answered => ?_
  rw [failed] at answered
  have same := List.append_cancel_left answered
  simp only [List.cons.injEq, Prod.mk.injEq, and_true] at same
  exact fails same.1

/-- Nor is one that was aborted. -/
theorem not_chunksRead_of_aborted {reader : Reader} {later : Stream} {consumed : Bytes}
    (isPending : reader.pending ≠ none)
    (aborted : step zlib reader = abort { reader with stream := later }) :
    ¬ ChunksRead zlib reader consumed := by
  refine not_chunksRead_of_done zlib isPending (by rw [aborted]; rfl) fun other answered => ?_
  rw [aborted] at answered
  exact absurd (congrArg List.length answered) (by simp [abort])

/-- The line that ends at `pos` is taken for a size. -/
def SizeLine (content : Bytes) (pos chunkSize : Nat) : Prop :=
  search crlf content = some pos ∧ stoul (content.take pos) 16 = some (chunkSize, pos)

/-- The step that reads the line of a size answers with an error, or it goes on
with a size that is the whole line. -/
theorem step_chunkSize {reader : Reader} {reply : HttpReply}
    (isPending : reader.pending = some (.chunkSize reply)) :
    (∃ later error other, error ≠ .none ∧
      step zlib reader = answer { reader with stream := later } error other ∧
      ∀ pos chunkSize, ¬ SizeLine reader.stream.content pos chunkSize) ∨
    ∃ (line : Bytes) (chunkSize : Nat) (later : Stream),
      search crlf reader.stream.content = some line.length ∧
      reader.stream.content = line ++ crlf ++ later.content ∧
      stoul line 16 = some (chunkSize, line.length) ∧
      step zlib reader =
        { reader with stream := later, pending := some (.chunkData chunkSize reply) } := by
  rw [step_inside zlib isPending id]
  simp only [resume, isComplete_chunkSize]
  cases found : search crlf reader.stream.content with
  | none =>
      have unfilled : (reader.stream.fill (contains crlf)).1 = false := by
        rw [Bool.eq_false_iff, ne_eq, fill_contains, found]
        exact Bool.false_ne_true
      rw [unfilled]
      refine .inl ⟨_, .eof, {}, by decide, rfl, ?_⟩
      rintro pos chunkSize ⟨somewhere, -⟩
      cases found.symm.trans somewhere
  | some pos =>
      obtain ⟨filled, later, behind, line⟩ := readUntil_arrived (by decide) found
      have width : (reader.stream.content.take pos).length = pos :=
        List.length_take_of_le (Nat.le_of_add_right_le (search_bound found))
      simp only [filled, startProcessChunk, Bool.not_true, Bool.false_eq_true, if_false, line,
        afterRead_ready]
      cases converted : stoul (reader.stream.content.take pos) 16 with
      | none =>
          refine .inl ⟨later, .protocolError, reply, by decide, rfl, ?_⟩
          rintro other chunkSize ⟨again, accepted⟩
          obtain rfl := Option.some.inj (found.symm.trans again)
          cases converted.symm.trans accepted
      | some result =>
          obtain ⟨chunkSize, parsed⟩ := result
          simp only
          by_cases whole : parsed = (reader.stream.content.take pos).length
          · refine .inr ⟨_, chunkSize, later, by rw [width], ?_, by rw [converted, whole], ?_⟩
            · rw [behind]
              exact search_cut found
            · rw [if_neg (by simp [whole])]
              rfl
          · refine .inl ⟨later, .protocolError, reply, by decide, ?_, ?_⟩
            · rw [if_pos whole]
              rfl
            · rintro other size ⟨again, accepted⟩
              obtain rfl := Option.some.inj (found.symm.trans again)
              cases converted.symm.trans accepted
              exact whole width.symm

/-- The step that reads the data answers with the end of file, it takes as many
bytes as the size says, or the sum wraps and the process is aborted. -/
theorem step_chunkData_cases {reader : Reader} {chunkSize : Nat} {reply : HttpReply}
    (isPending : reader.pending = some (.chunkData chunkSize reply)) :
    (∃ later, reader.stream.content.length < chunkNeed chunkSize ∧
      step zlib reader = answer { reader with stream := later } .eof reply) ∨
    (∃ (taken : Bytes) (later : Stream) (whole : HttpReply), chunkSize + 2 < 2 ^ 64 ∧
      reader.stream.content = taken ++ later.content ∧ taken.length = chunkSize + 2 ∧
        step zlib reader =
          nextChunk zlib { reader with stream := later, pending := none } chunkSize whole) ∨
    ∃ later, 2 ^ 64 ≤ chunkSize + 2 ∧ chunkNeed chunkSize ≤ reader.stream.content.length ∧
      step zlib reader = abort { reader with stream := later } := by
  cases filled : (reader.stream.fill (isComplete (.chunkData chunkSize reply))).1 with
  | false =>
      refine .inl ⟨_, ?_, step_unfilled zlib isPending filled⟩
      by_contra enough
      have complete : (reader.stream.fill (isComplete (.chunkData chunkSize reply))).1 = true := by
        apply Source.fill_complete
        rw [isComplete_chunkData]
        exact decide_eq_true (Nat.not_lt.mp enough)
      rw [filled] at complete
      cases complete
  | true =>
      by_cases inside : chunkSize + 2 < 2 ^ 64
      · obtain ⟨taken, later, content, need, stepped⟩ :=
          step_chunkData zlib isPending inside filled
        exact .inr (.inl ⟨taken, later, _, inside, content, need, stepped⟩)
      · refine .inr (.inr ⟨_, Nat.not_lt.mp inside, ?_,
          step_overruns zlib isPending (Nat.not_lt.mp inside) filled⟩)
        have enough := Source.fill_enough filled
        rw [isComplete_chunkData] at enough
        have buffered := of_decide_eq_true enough
        rw [← Source.fill_content (isComplete (.chunkData chunkSize reply)) reader.stream,
          isComplete_chunkData, Source.content, List.length_append]
        omega

/-- A run without an error goes on after a step that answers nothing. -/
theorem chunksRead_step {reader : Reader} {consumed front : Bytes}
    (reads : ChunksRead zlib reader consumed) (isPending : reader.pending ≠ none)
    (unanswered : (step zlib reader).handled = reader.handled)
    (content : reader.stream.content = front ++ (step zlib reader).stream.content) :
    ∃ left, consumed = front ++ left ∧ ChunksRead zlib (step zlib reader) left := by
  obtain ⟨count, reply, ended, answered, whole⟩ := reads
  cases count with
  | zero => exact absurd ended isPending
  | succ count =>
      rw [Function.iterate_succ_apply] at ended answered whole
      obtain ⟨left, cut⟩ := iterate_suffix zlib (step zlib reader) count
      refine ⟨left, ?_, count, reply, ended, by rw [unanswered, answered], cut.symm⟩
      rw [whole, ← cut, ← List.append_assoc] at content
      exact List.append_cancel_right content

/-- A run that ends with a step has taken what this step took. -/
theorem chunksRead_last {reader : Reader} {consumed front : Bytes}
    (reads : ChunksRead zlib reader consumed) (isPending : reader.pending ≠ none)
    (done : (step zlib reader).pending = none)
    (content : reader.stream.content = front ++ (step zlib reader).stream.content) :
    consumed = front := by
  obtain ⟨count, reply, ended, -, whole⟩ := reads
  cases count with
  | zero => exact absurd ended isPending
  | succ count =>
      rw [Function.iterate_succ_apply, iterate_of_done zlib done] at whole
      exact List.append_cancel_right (whole.symm.trans content)

/-- One turn of a run without an error: the line of the size, the bytes that
are taken for the data, and what the later turns take. -/
structure Turn (reader : Reader) (consumed line taken left : Bytes) (chunkSize : Nat) :
    Prop where
  cut : search crlf reader.stream.content = some line.length
  sizeLine : reader.stream.content = line ++ crlf ++ (step zlib reader).stream.content
  converted : stoul line 16 = some (chunkSize, line.length)
  atData : ∃ reply, (step zlib reader).pending = some (.chunkData chunkSize reply)
  data : (step zlib reader).stream.content =
    taken ++ (step zlib (step zlib reader)).stream.content
  short : chunkSize + 2 < 2 ^ 64
  need : taken.length = chunkSize + 2
  inOrder : consumed = line ++ crlf ++ (taken ++ left)
  goesOn : (chunkSize = 0 ∧ left = [] ∧ (step zlib (step zlib reader)).pending = none) ∨
    (chunkSize ≠ 0 ∧ (∃ reply, (step zlib (step zlib reader)).pending = some (.chunkSize reply)) ∧
      ChunksRead zlib (step zlib (step zlib reader)) left)

/-- A run without an error begins with a turn. -/
theorem chunksRead_turn {reader : Reader} {reply : HttpReply} {consumed : Bytes}
    (isPending : reader.pending = some (.chunkSize reply))
    (reads : ChunksRead zlib reader consumed) :
    ∃ line taken left chunkSize, Turn zlib reader consumed line taken left chunkSize := by
  have waits : reader.pending ≠ none := by simp [isPending]
  rcases step_chunkSize zlib isPending with ⟨later, error, other, fails, failed, -⟩ |
    ⟨line, chunkSize, middle, cut, sizeLine, converted, first⟩
  · exact absurd reads (not_chunksRead_of_failed zlib waits failed fails)
  · have atData : (step zlib reader).pending = some (.chunkData chunkSize reply) := by rw [first]
    have lineTaken : reader.stream.content = line ++ crlf ++ (step zlib reader).stream.content := by
      rw [first]
      exact sizeLine
    have waitsData : (step zlib reader).pending ≠ none := by simp [atData]
    obtain ⟨behind, order, readsData⟩ :=
      chunksRead_step zlib reads waits (by rw [first]) lineTaken
    rcases step_chunkData_cases zlib atData with ⟨later, -, failed⟩ |
      ⟨taken, later, whole, short, content, need, second⟩ | ⟨later, -, -, aborted⟩
    · exact absurd readsData (not_chunksRead_of_failed zlib waitsData failed (by decide))
    · have dataTaken : (step zlib reader).stream.content =
          taken ++ (step zlib (step zlib reader)).stream.content := by
        rw [second, nextChunk_stream]
        exact content
      by_cases zero : chunkSize = 0
      · have done : (step zlib (step zlib reader)).pending = none := by
          rw [second, nextChunk, if_pos zero]
          exact (processReply_settles zlib _ _).2.1
        have all : behind = taken := chunksRead_last zlib readsData waitsData done dataTaken
        exact ⟨line, taken, [], chunkSize, cut, lineTaken, converted, ⟨_, atData⟩, dataTaken,
          short, need, by rw [order, all, List.append_nil], .inl ⟨zero, rfl, done⟩⟩
      · have again : step zlib (step zlib reader) =
            wait { step zlib reader with stream := later, pending := none } (.chunkSize whole) := by
          rw [second, nextChunk, if_neg zero]
        obtain ⟨left, rest, readsLeft⟩ :=
          chunksRead_step zlib readsData waitsData (by rw [again]; rfl) dataTaken
        exact ⟨line, taken, left, chunkSize, cut, lineTaken, converted, ⟨_, atData⟩, dataTaken,
          short, need, by rw [order, rest],
          .inr ⟨zero, ⟨whole, by rw [again]; rfl⟩, readsLeft⟩⟩
    · exact absurd readsData (not_chunksRead_of_aborted zlib waitsData aborted)

namespace Turn

variable {zlib}
variable {reader : Reader} {reply : HttpReply} {consumed line taken left : Bytes} {chunkSize : Nat}
  (turn : Turn zlib reader consumed line taken left chunkSize)

include turn

theorem regular_line (isPending : reader.pending = some (.chunkSize reply)) :
    reader.Regular ↔ ∀ byte ∈ line, isMark byte = false := by
  have front : reader.stream.content.take line.length = line := by
    rw [turn.sizeLine, List.append_assoc, List.take_left']
    rfl
  simp only [Regular, isPending, turn.cut, Option.some.injEq, forall_eq', front]

theorem regular_data :
    (step zlib reader).Regular ↔
      chunkSize < 2 ^ 64 - 2 ∧ ∃ data, data.length = chunkSize ∧ taken = data ++ crlf := by
  obtain ⟨reply, atData⟩ := turn.atData
  have width : crlf.length = 2 := by decide
  have need := turn.need
  simp only [Regular, atData]
  refine and_congr_right fun short => ?_
  have behind : ((step zlib reader).stream.content.drop chunkSize).take 2 =
      taken.drop chunkSize := by
    rw [turn.data, List.drop_append_of_le_length (by omega), List.take_left']
    rw [List.length_drop]
    omega
  rw [behind]
  constructor
  · intro lineEnd
    refine ⟨taken.take chunkSize, List.length_take_of_le (by omega), ?_⟩
    rw [← lineEnd, List.take_append_drop]
  · rintro ⟨data, length, rfl⟩
    rw [List.drop_left' length]

/-- A size that the grammar has at the front is the line that the turn reads. -/
theorem line_eq {size behind rest : Bytes} (isSize : IsSize size)
    (front : consumed = size ++ crlf ++ behind)
    (content : reader.stream.content = consumed ++ rest) :
    line = size ∧ chunkSize = magnitude 16 size ∧ taken ++ left = behind := by
  have found := turn.cut
  rw [content, front, List.append_assoc, isSize.search] at found
  have order := turn.inOrder.symm.trans front
  rw [List.append_assoc, List.append_assoc] at order
  obtain ⟨rfl, same⟩ := List.append_inj order (Option.some.inj found).symm
  exact ⟨rfl, isSize.accepted turn.converted, List.append_cancel_left same⟩

/-- A regular turn has a chunk of the grammar at the front. -/
theorem takes_chunk (isPending : reader.pending = some (.chunkSize reply))
    (regularLine : reader.Regular) (regularData : (step zlib reader).Regular) :
    IsSize line ∧ ∃ data, magnitude 16 line = data.length ∧ data.length = chunkSize ∧
      consumed = line ++ crlf ++ (data ++ crlf) ++ left := by
  obtain ⟨isSize, value⟩ :=
    stoul_unmarked ((turn.regular_line isPending).mp regularLine) turn.converted
  obtain ⟨-, data, length, taken⟩ := turn.regular_data.mp regularData
  refine ⟨isSize, data, value.trans length.symm, length, ?_⟩
  rw [turn.inOrder, taken, ← List.append_assoc]

end Turn

/-- A run without an error on regular lines takes a body of the grammar. -/
theorem chunkedBody_of_regular {reader : Reader} {reply : HttpReply} {consumed : Bytes}
    (isPending : reader.pending = some (.chunkSize reply))
    (reads : ChunksRead zlib reader consumed)
    (regular : ∀ count, ((step zlib)^[count] reader).Regular) : ChunkedBody consumed := by
  -- By the length of what is taken; every turn takes at least a line end.
  induction size : consumed.length using Nat.strong_induction_on
    generalizing reader reply consumed with
  | _ size inductionHypothesis =>
      subst size
      obtain ⟨line, taken, left, chunkSize, turn⟩ := chunksRead_turn zlib isPending reads
      obtain ⟨isSize, data, value, length, rfl⟩ :=
        turn.takes_chunk isPending (regular 0) (regular 1)
      rcases turn.goesOn with ⟨zero, rfl, -⟩ | ⟨goesOn, ⟨later, waits⟩, readsLeft⟩
      · have empty : data = [] := List.length_eq_zero_iff.mp (length.trans zero)
        subst empty
        rw [List.append_nil]
        exact .last isSize value
      · have nonempty : data ≠ [] := fun empty => goesOn (by rw [← length, empty]; rfl)
        refine .chunk isSize value nonempty (inductionHypothesis _ ?_ waits readsLeft ?_ rfl)
        · simp only [List.length_append, crlf_eq, List.length_cons]
          omega
        · intro count
          exact regular (count + 2)

/-- What a turn takes when the body of the grammar has a chunk at the front. -/
theorem Turn.regular_of_chunk {zlib : Zlib} {reader : Reader} {reply : HttpReply}
    {consumed line taken left size data behind rest : Bytes} {chunkSize : Nat}
    (turn : Turn zlib reader consumed line taken left chunkSize)
    (isPending : reader.pending = some (.chunkSize reply)) (isSize : IsSize size)
    (value : magnitude 16 size = data.length) (short : data.length < 2 ^ 64 - 2)
    (front : consumed = size ++ crlf ++ (data ++ crlf ++ behind))
    (content : reader.stream.content = consumed ++ rest) :
    reader.Regular ∧ (step zlib reader).Regular ∧ chunkSize = data.length ∧ left = behind := by
  obtain ⟨rfl, sized, order⟩ := turn.line_eq isSize front content
  have need : taken.length = (data ++ crlf).length := by
    rw [turn.need, sized, value, List.length_append]
    rfl
  obtain ⟨same, sameLeft⟩ := List.append_inj order need
  refine ⟨(turn.regular_line isPending).mpr isSize.unmarked, turn.regular_data.mpr ?_,
    sized.trans value, sameLeft⟩
  exact ⟨by rw [sized, value]; exact short, data, (sized.trans value).symm, same⟩

theorem regular_iterate {reader : Reader} (first : reader.Regular)
    (second : (step zlib reader).Regular)
    (later : ∀ count, ((step zlib)^[count] (step zlib (step zlib reader))).Regular) (count : Nat) :
    ((step zlib)^[count] reader).Regular := by
  match count with
  | 0 => exact first
  | 1 => exact second
  | count + 2 => exact later count

/-- A body of the grammar, shorter than memory, is read on regular lines only. -/
theorem regular_of_chunkedBody {reader : Reader} {reply : HttpReply} {consumed : Bytes}
    (isPending : reader.pending = some (.chunkSize reply))
    (reads : ChunksRead zlib reader consumed) (short : consumed.length < 2 ^ 64)
    (body : ChunkedBody consumed) (count : Nat) : ((step zlib)^[count] reader).Regular := by
  induction body generalizing reader reply count with
  | @last size isSize value =>
      obtain ⟨line, taken, left, chunkSize, turn⟩ := chunksRead_turn zlib isPending reads
      obtain ⟨rest, content⟩ := reads.content
      obtain ⟨first, second, zero, -⟩ :=
        turn.regular_of_chunk isPending isSize (@List.length_nil UInt8 ▸ value) (by decide)
          (by rw [List.nil_append, List.append_nil]) content
      refine regular_iterate zlib first second (fun count => ?_) count
      rcases turn.goesOn with ⟨-, -, done⟩ | ⟨goesOn, -⟩
      · rw [iterate_of_done zlib done, Regular, done]
        trivial
      · exact absurd zero goesOn
  | @chunk size data behind isSize value nonempty more inductionHypothesis =>
      obtain ⟨line, taken, left, chunkSize, turn⟩ := chunksRead_turn zlib isPending reads
      obtain ⟨rest, content⟩ := reads.content
      have fits : data.length < 2 ^ 64 - 2 ∧ behind.length < 2 ^ 64 := by
        simp only [List.length_append, crlf_eq, List.length_cons, List.length_nil] at short
        have written := List.length_pos_of_ne_nil isSize.1
        omega
      obtain ⟨first, second, length, rfl⟩ :=
        turn.regular_of_chunk isPending isSize value fits.1 (by rw [List.append_assoc _ _ behind])
          content
      refine regular_iterate zlib first second (fun count => ?_) count
      rcases turn.goesOn with ⟨zero, -⟩ | ⟨-, ⟨later, waits⟩, readsLeft⟩
      · exact absurd (List.length_eq_zero_iff.mp (length.symm.trans zero)) nonempty
      · exact inductionHypothesis waits readsLeft fits.2 count

end Reader

/-- A body that the chunk reader takes without an error is one of the grammar
when every line of a size that it reads has digits only and every chunk ends in
a line end, and for a body that fits in memory only then. -/
theorem chunksRead_grammar_iff (zlib : Zlib) (reader : Reader) (reply : HttpReply)
    (consumed : Bytes) (isPending : reader.pending = some (.chunkSize reply))
    (reads : Reader.ChunksRead zlib reader consumed) :
    ((∀ count, ((Reader.step zlib)^[count] reader).Regular) → ChunkedBody consumed) ∧
      (consumed.length < 2 ^ 64 → ChunkedBody consumed →
        ∀ count, ((Reader.step zlib)^[count] reader).Regular) :=
  ⟨Reader.chunkedBody_of_regular zlib isPending reads,
    fun short body count => Reader.regular_of_chunkedBody zlib isPending reads short body count⟩

theorem chunksRead_grammar_iff_two :
    ChunkedBody (bytes "2\r\nab\r\n0\r\n\r\n") ∧
      ∀ count, ((Reader.step refusingZlib)^[count]
        (awaitingSize [bytes "2\r\nab\r", bytes "\n0\r\n\r\nx"])).Regular := by
  have reads : Reader.ChunksRead refusingZlib
      (awaitingSize [bytes "2\r\nab\r", bytes "\n0\r\n\r\nx"]) (bytes "2\r\nab\r\n0\r\n\r\n") :=
    ⟨4, { body := bytes "ab" }, by decide +kernel, by decide +kernel, by decide +kernel⟩
  have last : ChunkedBody (bytes "0" ++ crlf ++ crlf) :=
    .last ⟨by decide, by decide +kernel⟩ (by decide)
  have body : ChunkedBody (bytes "2" ++ crlf ++ (bytes "ab" ++ crlf) ++
      (bytes "0" ++ crlf ++ crlf)) :=
    .chunk ⟨by decide, by decide +kernel⟩ (by decide) (by decide) last
  obtain ⟨taken, regularOf⟩ := chunksRead_grammar_iff refusingZlib _ {} _ rfl reads
  have regular := regularOf (by decide +kernel) body
  exact ⟨taken regular, regular⟩

/-- A chunk that ends in two other bytes, and a size with a sign, are taken
without an error. -/
theorem chunksRead_outside_grammar :
    let spoilt := bytes "1\r\naXY0\r\n\r\n"
    let signed := bytes "+0\r\n\r\n"
    (Reader.ChunksRead refusingZlib (awaitingSize [spoilt]) spoilt ∧ ¬ ChunkedBody spoilt) ∧
      Reader.ChunksRead refusingZlib (awaitingSize [signed]) signed ∧ ¬ ChunkedBody signed := by
  intro spoilt signed
  have readsSpoilt : Reader.ChunksRead refusingZlib (awaitingSize [spoilt]) spoilt :=
    ⟨4, { body := bytes "a" }, by decide +kernel, by decide +kernel, by decide +kernel⟩
  have readsSigned : Reader.ChunksRead refusingZlib (awaitingSize [signed]) signed :=
    ⟨2, {}, by decide +kernel, by decide +kernel, by decide +kernel⟩
  refine ⟨⟨readsSpoilt, fun body => ?_⟩, readsSigned, fun body => ?_⟩
  · have regular :=
      Reader.regular_of_chunkedBody refusingZlib rfl readsSpoilt (by decide +kernel) body 1
    have atData : (Reader.step refusingZlib (awaitingSize [spoilt])).pending =
        some (.chunkData 1 {}) := by
      decide +kernel
    simp only [Function.iterate_one, Reader.Regular, atData] at regular
    exact absurd regular.2 (by decide +kernel)
  · have regular :=
      Reader.regular_of_chunkedBody refusingZlib rfl readsSigned (by decide +kernel) body 0
    exact absurd (regular 2 (by decide +kernel) 43 (by decide +kernel)) (by decide)

end GeoChat
