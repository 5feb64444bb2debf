import GeoChat.Net.Http

/-!
# The reader of HTTP messages

`AsyncHttpClient` as a state machine over a stream that arrives in segments and
then ends. A pending asynchronous read completes when its condition holds on
the buffer, or with end of file; its handler then reads synchronously from the
buffer. A synchronous read that does not find its bytes there starts a second
asynchronous read and waits for it, on the thread that should run it. A
condition also returns an iterator of the buffer, and asio aborts the process
when this is moved out of the buffer.
-/

namespace GeoChat

open Library

abbrev Stream := Source UInt8

/-- What a synchronous read did: the response with the number it returns,
unless it threw, and whether it had to wait. -/
structure SyncRead where
  result : Option (Bytes × Nat)
  stream : Stream
  waited : Bool

/-- Whether the delimiter has arrived. -/
def contains (delimiter buffered : Bytes) : Bool := (search delimiter buffered).isSome

/-- `contains_t`: an iterator, and whether the delimiter is there. -/
def containsAt (delimiter buffered : Bytes) : Option Nat × Bool :=
  match search delimiter buffered with
  | some pos => (some pos, true)
  | none => (some 0, false)

/-- An iterator of the buffer, moved forward by a `size_t`. Out of the buffer an
assertion of asio fails. A distance that is negative as a `ptrdiff_t` is longer
than any buffer, and no buffer is longer than the largest `size_t`. -/
def advance (buffered : Bytes) (distance position : Nat) : Option Nat :=
  if position + distance ≤ buffered.length ∧ position + distance < 2 ^ 64 then
    some (position + distance)
  else none

/-- `BasicTcpClient::read_until`. The first path returns the length of the
response, the second the number of bytes up to the end of the delimiter. -/
def readUntil (delimiter : Bytes) (stream : Stream) : SyncRead :=
  let found := if stream.buffered.isEmpty then none else search delimiter stream.buffered
  match found with
  | some pos =>
      { result := some (stream.buffered.take pos, pos)
        stream := stream.consume (pos + delimiter.length)
        waited := false }
  | none =>
      let filled := stream.fill (contains delimiter)
      match search delimiter filled.2.buffered with
      | some pos =>
          { result := some (filled.2.buffered.take pos, pos + delimiter.length)
            stream := filled.2.consume (pos + delimiter.length)
            waited := true }
      | none => { result := none, stream := filled.2, waited := true }

/-- `BasicTcpClient::read`. What is not in the buffer is read past it. -/
def read (needBytes : Nat) (stream : Stream) : SyncRead :=
  if needBytes ≤ stream.buffered.length then
    { result := some (stream.buffered.take needBytes, needBytes)
      stream := stream.consume needBytes
      waited := false }
  else
    let coming := stream.segments.flatten
    let missing := needBytes - stream.buffered.length
    if missing ≤ coming.length then
      { result := some (stream.buffered ++ coming.take missing, needBytes)
        stream := ⟨[], [coming.drop missing]⟩
        waited := true }
    else { result := none, stream := ⟨[], []⟩, waited := true }

/-- The status of one `inflate` call. -/
inductive InflateStatus where
  | ok
  | streamEnd
  | failed
  deriving DecidableEq, Repr

/-- zlib. The result of an `inflate` call depends on the input and on the room
that this call and the calls before it were given. A call that makes no
progress fails, so no input keeps the loop going for ever. -/
structure Zlib where
  initOk : Bytes → Bool
  endOk : Bytes → Bool
  inflate : Bytes → List Nat → InflateStatus × Bytes
  turns : Bytes → Nat
  halts : ∀ input rooms, turns input ≤ rooms.length →
    ∃ earlier, earlier <+: rooms ∧ earlier ≠ [] ∧ (inflate input earlier).1 ≠ .ok

/-- The loop of `gzipInflate`, where `rooms` are the values of `avail_out` so
far and `size` is the size of the buffer. -/
def inflateLoop (zlib : Zlib) (input : Bytes) (half : Nat) :
    Nat → List Nat → Nat → Bytes → Option (InflateStatus × Bytes)
  | 0, _, _, _ => none
  | turns + 1, rooms, size, output =>
      let size := if size ≤ output.length then size + half else size
      let rooms := rooms ++ [(size - output.length) % 2 ^ 32]
      let inflated := zlib.inflate input rooms
      let output := output ++ inflated.2
      if inflated.1 = .ok then inflateLoop zlib input half turns rooms size output
      else some (inflated.1, output)

/-- `gzipInflate`: the output, unless it returns false. The number of input
bytes is a 32-bit field of the stream. -/
def gzipInflate (zlib : Zlib) (compressed : Bytes) : Option Bytes :=
  if compressed.isEmpty then some []
  else
    let input := compressed.take (compressed.length % 2 ^ 32)
    let half := compressed.length / 2
    if !zlib.initOk input then none
    else
      match inflateLoop zlib input half (zlib.turns input + 1) [] (half * 3) [] with
      | none => none
      | some (status, output) =>
          if !zlib.endOk input && status ≠ .streamEnd then none else some output

/-- The error that a handler gets. -/
inductive ConnectionError where
  | none
  | eof
  | protocolError
  deriving DecidableEq, Repr

/-- The asynchronous read that is under way, with the handler it will call. -/
inductive Pending where
  | headers
  | body (length : Nat) (reply : HttpReply)
  | chunkSize (reply : HttpReply)
  | chunkData (chunkSize : Nat) (reply : HttpReply)
  deriving DecidableEq, Repr

/-- The connection: its stream, the pending read, the calls of the user's
handler, whether a synchronous read has waited, and whether the process was
aborted. -/
structure Reader where
  stream : Stream
  pending : Option Pending := some .headers
  handled : List (ConnectionError × HttpReply) := []
  blocked : Bool := false
  aborted : Bool := false

namespace Reader

variable (zlib : Zlib)

/-- Call the user's handler. -/
def answer (reader : Reader) (error : ConnectionError) (reply : HttpReply) : Reader :=
  { reader with pending := none, handled := reader.handled ++ [(error, reply)] }

/-- Nothing runs after an assertion has failed. -/
def abort (reader : Reader) : Reader := { reader with pending := none, aborted := true }

/-- Start an asynchronous read. -/
def wait (reader : Reader) (pending : Pending) : Reader :=
  { reader with pending := some pending }

/-- Go on after a synchronous read. A read that throws leaves the handler, and
nothing is called. -/
def afterRead (reader : Reader) (sync : SyncRead) (next : Reader → Bytes → Reader) : Reader :=
  let reader :=
    { reader with stream := sync.stream, pending := none, blocked := reader.blocked || sync.waited }
  match sync.result with
  | none => reader
  | some (response, _) => next reader response

def processReply (reader : Reader) (reply : HttpReply) : Reader :=
  let zipped := reply.hasHeader (bytes "Content-Encoding") &&
    (search (bytes "gzip") (reply.getHeader (bytes "Content-Encoding"))).isSome
  if zipped && !reply.body.isEmpty then
    match gzipInflate zlib reply.body with
    | none => reader.answer .protocolError reply
    | some body => reader.answer .none { reply with body }
  else
    reader.answer .none reply

def handleHeaders (reader : Reader) (filled : Bool) : Reader :=
  if !filled then reader.answer .eof {}
  else
    reader.afterRead (readUntil crlf2 reader.stream) fun reader head =>
      match parseHead head with
      | (reply, .protocolError) => reader.answer .protocolError reply
      | (reply, .contentLength length) => reader.wait (.body length reply)
      | (reply, .chunked) => reader.wait (.chunkSize reply)
      | (reply, .absent) => reader.answer .none reply

/-- The handler of the read of a body of known length. -/
def handleBody (reader : Reader) (filled : Bool) (length : Nat) (reply : HttpReply) : Reader :=
  if !filled then reader.answer .eof reply
  else
    reader.afterRead (read length reader.stream) fun reader body =>
      processReply zlib reader { reply with body }

def startProcessChunk (reader : Reader) (filled : Bool) (reply : HttpReply) : Reader :=
  if !filled then reader.answer .eof {}
  else
    reader.afterRead (readUntil crlf reader.stream) fun reader chunkSizeString =>
      match stoul chunkSizeString 16 with
      | none => reader.answer .protocolError reply
      | some (chunkSize, parsed) =>
          if parsed ≠ chunkSizeString.length then reader.answer .protocolError reply
          else reader.wait (.chunkData chunkSize reply)

/-- The sum `chunk_size + 2` is a `size_t`. -/
def chunkNeed (chunkSize : Nat) : Nat := (chunkSize + 2) % 2 ^ 64

def processChunk (reader : Reader) (filled : Bool) (chunkSize : Nat) (reply : HttpReply) :
    Reader :=
  if !filled then reader.answer .eof reply
  else
    reader.afterRead (read (chunkNeed chunkSize) reader.stream) fun reader response =>
      let reply := { reply with body := reply.body ++ response.take chunkSize }
      if chunkSize = 0 then processReply zlib reader reply
      else reader.wait (.chunkSize reply)

/-- The match condition of a pending read: the iterator that it returns, unless
this was moved out of the buffer, and whether the read is complete. -/
def condition (pending : Pending) (buffered : Bytes) : Option Nat × Bool :=
  match pending with
  | .headers => containsAt crlf2 buffered
  | .body length _ =>
      if length ≤ buffered.length then (advance buffered length 0, true) else (some 0, false)
  | .chunkSize _ => containsAt crlf buffered
  | .chunkData chunkSize _ =>
      if chunkNeed chunkSize ≤ buffered.length then
        ((advance buffered chunkSize 0).bind (advance buffered 2), true)
      else (some 0, false)

def isComplete (pending : Pending) (buffered : Bytes) : Bool := (condition pending buffered).2

/-- The handler of a pending read. -/
def resume (pending : Pending) (reader : Reader) (filled : Bool) : Reader :=
  match pending with
  | .headers => handleHeaders reader filled
  | .body length reply => handleBody zlib reader filled length reply
  | .chunkSize reply => startProcessChunk reader filled reply
  | .chunkData chunkSize reply => processChunk zlib reader filled chunkSize reply

/-- Complete the pending read and run its handler. -/
def step (reader : Reader) : Reader :=
  match reader.pending with
  | none => reader
  | some pending =>
      let filled := reader.stream.fill (isComplete pending)
      let reader := { reader with stream := filled.2 }
      if (condition pending filled.2.buffered).1.isNone then reader.abort
      else resume zlib pending reader filled.1

/-- `asyncResponse` and everything it leads to. Each turn of the chunk loop
takes at least the end of a line from the stream, which bounds the steps. -/
def asyncResponse (stream : Stream) : Reader :=
  (step zlib)^[2 * stream.content.length + 2] { stream }

/-- A bound on the steps that are still to come. -/
def weight (pending : Pending) (stream : Stream) : Nat :=
  match pending with
  | .headers | .chunkData _ _ => 2 * stream.content.length + 2
  | .body _ _ | .chunkSize _ => 2 * stream.content.length + 1

end Reader

/-- The iterator of a read that has as many bytes as it needs is moved further
than a buffer can be long. -/
def Pending.Overruns : Pending → Prop
  | .body length _ => 2 ^ 64 ≤ length
  | .chunkData size _ => 2 ^ 64 ≤ size + 2
  | .headers | .chunkSize _ => False

theorem readUntil_of_found {delimiter : Bytes} {stream : Stream} {pos : Nat}
    (nonempty : delimiter ≠ []) (found : search delimiter stream.buffered = some pos) :
    readUntil delimiter stream =
      { result := some (stream.buffered.take pos, pos)
        stream := stream.consume (pos + delimiter.length)
        waited := false } := by
  have bound := search_bound found
  have positive := List.length_pos_of_ne_nil nonempty
  have notEmpty : stream.buffered.isEmpty = false := by
    rw [List.isEmpty_eq_false_iff, ← List.length_pos_iff]
    omega
  simp [readUntil, notEmpty, found]

theorem read_of_le {needBytes : Nat} {stream : Stream}
    (available : needBytes ≤ stream.buffered.length) :
    read needBytes stream =
      { result := some (stream.buffered.take needBytes, needBytes)
        stream := stream.consume needBytes
        waited := false } := by
  simp [read, available]

/-- A delimiter that was waited for is read from the buffer. -/
theorem readUntil_ready {delimiter : Bytes} {stream : Stream} (nonempty : delimiter ≠ [])
    (ready : contains delimiter stream.buffered = true) :
    ∃ response count later, readUntil delimiter stream = ⟨some (response, count), later, false⟩ ∧
      later.content.length + delimiter.length ≤ stream.content.length := by
  rcases Option.isSome_iff_exists.mp ready with ⟨pos, found⟩
  refine ⟨_, _, _, readUntil_of_found nonempty found, ?_⟩
  have bound := search_bound found
  rw [Source.consume_content bound, List.length_drop]
  have whole : stream.buffered.length ≤ stream.content.length := by
    simp [Source.content]
  omega

theorem read_ready {needBytes : Nat} {stream : Stream}
    (ready : needBytes ≤ stream.buffered.length) :
    ∃ response later, read needBytes stream = ⟨some (response, needBytes), later, false⟩ ∧
      later.content.length ≤ stream.content.length := by
  refine ⟨_, _, read_of_le ready, ?_⟩
  rw [Source.consume_content ready, List.length_drop]
  omega

namespace Reader

variable (zlib : Zlib)

theorem containsAt_complete (delimiter buffered : Bytes) :
    (containsAt delimiter buffered).2 = contains delimiter buffered := by
  unfold containsAt contains
  cases search delimiter buffered with
  | none => rfl
  | some pos => rfl

@[simp]
theorem isComplete_headers : isComplete .headers = contains crlf2 :=
  funext (containsAt_complete crlf2)

@[simp]
theorem isComplete_chunkSize (reply : HttpReply) :
    isComplete (.chunkSize reply) = contains crlf :=
  funext (containsAt_complete crlf)

@[simp]
theorem isComplete_body (length : Nat) (reply : HttpReply) :
    isComplete (.body length reply) = fun buffered => decide (length ≤ buffered.length) := by
  funext buffered
  simp only [isComplete, condition]
  split
  next enough => exact (decide_eq_true enough).symm
  next missing => exact (decide_eq_false missing).symm

@[simp]
theorem isComplete_chunkData (chunkSize : Nat) (reply : HttpReply) :
    isComplete (.chunkData chunkSize reply) =
      fun buffered => decide (chunkNeed chunkSize ≤ buffered.length) := by
  funext buffered
  simp only [isComplete, condition]
  split
  next enough => exact (decide_eq_true enough).symm
  next missing => exact (decide_eq_false missing).symm

theorem advance_isNone {buffered : Bytes} {distance : Nat} (enough : distance ≤ buffered.length) :
    (advance buffered distance 0).isNone = true ↔ 2 ^ 64 ≤ distance := by
  simp only [advance, Nat.zero_add, enough, true_and]
  split
  next inside => exact iff_of_false nofun (Nat.not_le.mpr inside)
  next outside => exact iff_of_true rfl (Nat.not_lt.mp outside)

/-- With the bytes that the sum asks for, the iterator behind a chunk is out of
the buffer if the sum has wrapped. -/
theorem advance_chunk_isNone {buffered : Bytes} {chunkSize : Nat}
    (enough : chunkNeed chunkSize ≤ buffered.length) :
    ((advance buffered chunkSize 0).bind (advance buffered 2)).isNone = true ↔
      2 ^ 64 ≤ chunkSize + 2 := by
  unfold chunkNeed at enough
  by_cases wraps : 2 ^ 64 ≤ chunkSize + 2
  · have outside : (advance buffered chunkSize 0).bind (advance buffered 2) = none := by
      rw [Option.bind_eq_none_iff]
      intro position moved
      simp only [advance, Nat.zero_add, Option.ite_none_right_eq_some] at moved ⊢
      rw [if_neg]
      rw [← Option.some.inj moved.2]
      omega
    rw [outside]
    exact iff_of_true rfl wraps
  · have inside : (advance buffered chunkSize 0).bind (advance buffered 2) =
        some (chunkSize + 2) := by
      rw [Nat.mod_eq_of_lt (Nat.not_le.mp wraps)] at enough
      simp only [advance, Nat.zero_add]
      rw [if_pos (by omega), Option.bind_some, advance, if_pos (by omega)]
    rw [inside]
    exact iff_of_false nofun wraps

/-- The iterator leaves the buffer when a complete read has too large a size. -/
theorem condition_isNone (pending : Pending) (buffered : Bytes) :
    (condition pending buffered).1.isNone = true ↔
      isComplete pending buffered = true ∧ pending.Overruns := by
  have delimited : ∀ delimiter, (containsAt delimiter buffered).1.isNone = false := by
    intro delimiter
    unfold containsAt
    cases search delimiter buffered with
    | none => rfl
    | some pos => rfl
  cases pending with
  | headers =>
      simp only [condition, delimited, Pending.Overruns, and_false, Bool.false_eq_true]
  | body length reply =>
      simp only [condition, isComplete, Pending.Overruns]
      split
      next enough => exact (advance_isNone enough).trans (and_iff_right rfl).symm
      next => simp
  | chunkSize reply =>
      simp only [condition, delimited, Pending.Overruns, and_false, Bool.false_eq_true]
  | chunkData chunkSize reply =>
      simp only [condition, isComplete, Pending.Overruns]
      split
      next enough => exact (advance_chunk_isNone enough).trans (and_iff_right rfl).symm
      next => simp

/-- What a step of a reader with pending read `pending` can lead to. -/
def Steps (reader : Reader) (pending : Pending) (next : Reader) : Prop :=
  next.blocked = reader.blocked ∧ next.aborted = reader.aborted ∧
    ((∃ result, next.pending = none ∧ next.handled = reader.handled ++ [result]) ∨
      ∃ further, next.pending = some further ∧ next.handled = reader.handled ∧
        weight further next.stream < weight pending reader.stream)

theorem steps_answer {reader : Reader} {pending : Pending} {stream : Stream}
    {before : Option Pending} (error : ConnectionError) (reply : HttpReply) :
    Steps reader pending (answer { reader with stream, pending := before } error reply) :=
  ⟨rfl, rfl, .inl ⟨_, rfl, rfl⟩⟩

theorem steps_processReply {reader : Reader} {pending : Pending} {stream : Stream}
    {before : Option Pending} (reply : HttpReply) :
    Steps reader pending
      (processReply zlib { reader with stream, pending := before } reply) := by
  unfold processReply
  simp only
  split
  · split
    · exact steps_answer _ _
    · exact steps_answer _ _
  · exact steps_answer _ _

theorem afterRead_ready (reader : Reader) {response : Bytes} {count : Nat} {later : Stream}
    (next : Reader → Bytes → Reader) :
    afterRead reader ⟨some (response, count), later, false⟩ next =
      next { reader with stream := later, pending := none } response := by
  simp [afterRead]

section Handlers

variable {reader : Reader} {stream : Stream} {filled : Bool}
  (content : stream.content = reader.stream.content)

include content

theorem steps_handleHeaders
    (ready : filled = true → contains crlf2 stream.buffered = true) :
    Steps reader .headers (handleHeaders { reader with stream } filled) := by
  unfold handleHeaders
  cases filled with
  | false => exact steps_answer _ _
  | true =>
      rcases readUntil_ready (by decide) (ready rfl) with ⟨head, count, later, equality, shorter⟩
      rw [content] at shorter
      simp only [Bool.not_true, Bool.false_eq_true, if_false, equality, afterRead_ready]
      split
      · exact steps_answer _ _
      · refine ⟨rfl, rfl, .inr ⟨_, rfl, rfl, ?_⟩⟩
        simp only [wait, weight]
        omega
      · refine ⟨rfl, rfl, .inr ⟨_, rfl, rfl, ?_⟩⟩
        simp only [wait, weight]
        omega
      · exact steps_answer _ _

omit content in
theorem steps_handleBody {length : Nat} {reply : HttpReply}
    (ready : filled = true → length ≤ stream.buffered.length) :
    Steps reader (.body length reply)
      (handleBody zlib { reader with stream } filled length reply) := by
  unfold handleBody
  cases filled with
  | false => exact steps_answer _ _
  | true =>
      rcases read_ready (ready rfl) with ⟨body, later, equality, _⟩
      simp only [Bool.not_true, Bool.false_eq_true, if_false, equality, afterRead_ready]
      exact steps_processReply zlib _

theorem steps_startProcessChunk {reply : HttpReply}
    (ready : filled = true → contains crlf stream.buffered = true) :
    Steps reader (.chunkSize reply) (startProcessChunk { reader with stream } filled reply) := by
  unfold startProcessChunk
  cases filled with
  | false => exact steps_answer _ _
  | true =>
      rcases readUntil_ready (by decide) (ready rfl) with ⟨line, count, later, equality, shorter⟩
      rw [content] at shorter
      have length : crlf.length = 2 := by decide
      simp only [Bool.not_true, Bool.false_eq_true, if_false, equality, afterRead_ready]
      split
      · exact steps_answer _ _
      · split
        · exact steps_answer _ _
        · refine ⟨rfl, rfl, .inr ⟨_, rfl, rfl, ?_⟩⟩
          simp only [wait, weight]
          omega

theorem steps_processChunk {chunkSize : Nat} {reply : HttpReply}
    (ready : filled = true → chunkNeed chunkSize ≤ stream.buffered.length) :
    Steps reader (.chunkData chunkSize reply)
      (processChunk zlib { reader with stream } filled chunkSize reply) := by
  unfold processChunk
  cases filled with
  | false => exact steps_answer _ _
  | true =>
      rcases read_ready (ready rfl) with ⟨response, later, equality, shorter⟩
      rw [content] at shorter
      simp only [Bool.not_true, Bool.false_eq_true, if_false, equality, afterRead_ready]
      split
      · exact steps_processReply zlib _
      · refine ⟨rfl, rfl, .inr ⟨_, rfl, rfl, ?_⟩⟩
        simp only [wait, weight]
        omega

end Handlers

/-- Every condition that is waited for lets the synchronous reads of its
handler go through, and every handler but the last leaves less to do. -/
theorem steps_resume {reader : Reader} (pending : Pending) :
    Steps reader pending
      (resume zlib pending { reader with stream := (reader.stream.fill (isComplete pending)).2 }
        (reader.stream.fill (isComplete pending)).1) := by
  have content := Source.fill_content (isComplete pending) reader.stream
  have ready : (reader.stream.fill (isComplete pending)).1 = true →
      isComplete pending (reader.stream.fill (isComplete pending)).2.buffered = true :=
    Source.fill_enough
  cases pending with
  | headers =>
      simp only [isComplete_headers] at content ready ⊢
      exact steps_handleHeaders content ready
  | body length reply =>
      simp only [isComplete_body] at content ready ⊢
      exact steps_handleBody zlib fun filled => of_decide_eq_true (ready filled)
  | chunkSize reply =>
      simp only [isComplete_chunkSize] at content ready ⊢
      exact steps_startProcessChunk content ready
  | chunkData chunkSize reply =>
      simp only [isComplete_chunkData] at content ready ⊢
      exact steps_processChunk zlib content fun filled => of_decide_eq_true (ready filled)

theorem step_done {reader : Reader} (done : reader.pending = none) : step zlib reader = reader := by
  simp [step, done]

/-- The read completes with an iterator of the buffer. -/
theorem step_inside {reader : Reader} {pending : Pending}
    (isPending : reader.pending = some pending) (inside : ¬ pending.Overruns) :
    step zlib reader =
      resume zlib pending { reader with stream := (reader.stream.fill (isComplete pending)).2 }
        (reader.stream.fill (isComplete pending)).1 := by
  have present := condition_isNone pending (reader.stream.fill (isComplete pending)).2.buffered
  simp only [step, isPending]
  rw [if_neg]
  rw [present]
  exact fun outside => inside outside.2

/-- The read of too large a size aborts the process, unless the stream ends
before. -/
theorem step_overruns {reader : Reader} {pending : Pending}
    (isPending : reader.pending = some pending) (outside : pending.Overruns)
    (filled : (reader.stream.fill (isComplete pending)).1 = true) :
    step zlib reader =
      { reader with stream := (reader.stream.fill (isComplete pending)).2 }.abort := by
  have absent := condition_isNone pending (reader.stream.fill (isComplete pending)).2.buffered
  simp only [step, isPending]
  rw [if_pos]
  rw [absent]
  exact ⟨Source.fill_enough filled, outside⟩

/-- The stream ends before the read is complete, and its iterator is the
beginning of the buffer. -/
theorem step_unfilled {reader : Reader} {pending : Pending}
    (isPending : reader.pending = some pending)
    (unfilled : (reader.stream.fill (isComplete pending)).1 = false) :
    step zlib reader =
      resume zlib pending { reader with stream := (reader.stream.fill (isComplete pending)).2 }
        false := by
  have present := condition_isNone pending (reader.stream.fill (isComplete pending)).2.buffered
  simp only [step, isPending, unfilled]
  rw [if_neg]
  rw [present, Source.fill_short unfilled]
  exact fun outside => Bool.false_ne_true outside.1

/-- A step is the handler of the pending read, or it ends the process. -/
theorem step_cases {reader : Reader} {pending : Pending}
    (isPending : reader.pending = some pending) :
    step zlib reader =
        { reader with stream := (reader.stream.fill (isComplete pending)).2 }.abort ∨
      Steps reader pending (step zlib reader) := by
  simp only [step, isPending]
  split
  · exact .inl rfl
  · exact .inr (steps_resume zlib pending)

/-- Before the last step the handler has not been called, after it once if the
process still runs, and no synchronous read has waited. -/
structure Orderly (reader : Reader) : Prop where
  notBlocked : reader.blocked = false
  unanswered : ∀ pending, reader.pending = some pending →
    reader.handled = [] ∧ reader.aborted = false
  answered : reader.pending = none → reader.handled.length = if reader.aborted then 0 else 1

theorem step_orderly {reader : Reader} (orderly : reader.Orderly) :
    (step zlib reader).Orderly := by
  cases isPending : reader.pending with
  | none => rwa [step_done zlib isPending]
  | some pending =>
      obtain ⟨empty, runs⟩ := orderly.unanswered pending isPending
      rcases step_cases zlib isPending with aborted |
        ⟨blocked, lives, ⟨result, done, handled⟩ | ⟨further, waits, handled, _⟩⟩
      · rw [aborted]
        refine ⟨orderly.notBlocked, nofun, fun _ => ?_⟩
        show reader.handled.length = 0
        rw [empty]
        rfl
      · refine ⟨blocked.trans orderly.notBlocked, ?_, fun _ => ?_⟩
        · intro other again
          rw [done] at again
          cases again
        · rw [handled, empty, lives, runs]
          rfl
      · refine ⟨blocked.trans orderly.notBlocked,
          fun _ _ => ⟨handled.trans empty, lives.trans runs⟩, ?_⟩
        intro done
        rw [done] at waits
        cases waits

theorem iterate_orderly {reader : Reader} (orderly : reader.Orderly) (count : Nat) :
    ((step zlib)^[count] reader).Orderly := by
  induction count generalizing reader with
  | zero => exact orderly
  | succ count inductionHypothesis => exact inductionHypothesis (step_orderly zlib orderly)

/-- As many steps as the weight are enough. -/
theorem iterate_done {reader : Reader} {count : Nat}
    (enough : ∀ pending, reader.pending = some pending → weight pending reader.stream ≤ count) :
    ((step zlib)^[count] reader).pending = none := by
  induction count generalizing reader with
  | zero =>
      cases isPending : reader.pending with
      | none => exact isPending
      | some pending =>
          have positive : 0 < weight pending reader.stream := by
            cases pending <;> simp [weight]
          have bound := enough pending isPending
          omega
  | succ count inductionHypothesis =>
      apply inductionHypothesis
      intro further waits
      cases isPending : reader.pending with
      | none =>
          rw [step_done zlib isPending, isPending] at waits
          cases waits
      | some pending =>
          have bound := enough pending isPending
          rcases step_cases zlib isPending with aborted |
            ⟨_, _, ⟨result, done, _⟩ | ⟨next, again, _, smaller⟩⟩
          · rw [aborted] at waits
            cases waits
          · rw [done] at waits
            cases waits
          · rw [again] at waits
            cases waits
            omega

/-- `asyncResponse` comes to an end, calls the handler once unless the process
is aborted, and never waits in a synchronous read. -/
theorem asyncResponse_orderly (stream : Stream) :
    (asyncResponse zlib stream).pending = none ∧ (asyncResponse zlib stream).Orderly := by
  have start : Orderly { stream } := ⟨rfl, fun _ _ => ⟨rfl, rfl⟩, fun done => by cases done⟩
  refine ⟨iterate_done zlib ?_, iterate_orderly zlib start _⟩
  intro pending isPending
  cases isPending
  exact le_rfl

end Reader

/-- The loop of `gzipInflate` ends. -/
theorem inflateLoop_ends (zlib : Zlib) (input : Bytes) (half turns : Nat) (rooms : List Nat)
    (size : Nat) (output : Bytes)
    (soFar : ∀ earlier, earlier <+: rooms → earlier ≠ [] → (zlib.inflate input earlier).1 = .ok)
    (enough : zlib.turns input ≤ rooms.length + turns) :
    (inflateLoop zlib input half turns rooms size output).isSome = true := by
  induction turns generalizing rooms size output with
  | zero =>
      rcases zlib.halts input rooms enough with ⟨earlier, isPrefix, nonempty, stops⟩
      exact absurd (soFar earlier isPrefix nonempty) stops
  | succ turns inductionHypothesis =>
      simp only [inflateLoop]
      generalize (if size ≤ output.length then size + half else size) = grown
      split
      next goesOn =>
        refine inductionHypothesis _ _ _ ?_ ?_
        · intro earlier isPrefix nonempty
          rcases List.prefix_concat_iff.mp isPrefix with rfl | shorter
          · exact goesOn
          · exact soFar earlier shorter nonempty
        · rw [List.length_append, List.length_singleton]
          omega
      next => rfl

/-- The decompression of a body does not go on for ever. -/
theorem gzipInflate_ends (zlib : Zlib) (compressed : Bytes) :
    (inflateLoop zlib (compressed.take (compressed.length % 2 ^ 32)) (compressed.length / 2)
      (zlib.turns (compressed.take (compressed.length % 2 ^ 32)) + 1) []
      (compressed.length / 2 * 3) []).isSome = true := by
  apply inflateLoop_ends
  · intro earlier isPrefix nonempty
    exact absurd (List.prefix_nil.mp isPrefix) nonempty
  · exact Nat.le_add_left_of_le (Nat.le_succ _)

end GeoChat
