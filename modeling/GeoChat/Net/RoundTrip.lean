import GeoChat.Net.Reader

/-!
# Framing round trip

Messages that the client and the server build are read back by
`asyncResponse`, one for each call, from any cut of their bytes into segments.
The end of a header block is the first empty line, and the body is taken by its
length, so its bytes do not matter.
-/

namespace GeoChat

open Library

/-- The lines of a header block, as they stand on the wire. -/
def joinLines (first : Bytes) (lines : List Bytes) : Bytes :=
  first ++ lines.flatMap (crlf ++ ·)

theorem joinLines_cons (first line : Bytes) (lines : List Bytes) :
    joinLines first (line :: lines) = first ++ crlf ++ joinLines line lines := by
  simp [joinLines]

/-- A line that can stand in a header block. -/
def IsLine (line : Bytes) : Prop := line ≠ [] ∧ 13 ∉ line

theorem crlf_eq : crlf = [13, 10] := by decide

theorem crlf2_eq : crlf2 = [13, 10, 13, 10] := by decide

/-- The line end before another line is not the end of the block. -/
theorem search_nextLine {line : Bytes} (isLine : IsLine line) (rest : Bytes) :
    search crlf2 (crlf ++ (line ++ rest)) = (search crlf2 (line ++ rest)).map (2 + ·) := by
  rcases isLine with ⟨nonempty, noReturn⟩
  cases line with
  | nil => exact absurd rfl nonempty
  | cons first others =>
      have different : first ≠ 13 := fun same => noReturn (by simp [same])
      have notHere : ¬ crlf2 <+: 13 :: 10 :: (first :: others ++ rest) := by
        simp [crlf2_eq, List.cons_prefix_cons, different.symm]
      have notNext : ¬ crlf2 <+: 10 :: (first :: others ++ rest) := by
        simp [crlf2_eq, List.cons_prefix_cons]
      rw [crlf_eq]
      simp only [List.cons_append, List.nil_append] at notHere notNext ⊢
      rw [search_cons_of_unmatched notHere, search_cons_of_unmatched notNext, Option.map_map]
      congr 1
      funext position
      simp only [Function.comp_apply]
      omega

/-- The block ends where its lines end. -/
theorem search_joinLines {first : Bytes} {lines : List Bytes} (noReturn : 13 ∉ first)
    (areLines : ∀ line ∈ lines, IsLine line) (rest : Bytes) :
    search crlf2 (joinLines first lines ++ (crlf2 ++ rest)) =
      some (joinLines first lines).length := by
  induction lines generalizing first with
  | nil =>
      have here : search crlf2 (crlf2 ++ rest) = some 0 := search_eq_zero (List.prefix_append _ _)
      simp only [joinLines, List.flatMap_nil, List.append_nil]
      rw [crlf2_eq] at here ⊢
      rw [search_skip noReturn, here]
      rfl
  | cons line lines inductionHypothesis =>
      have isLine := areLines line (by simp)
      have later := inductionHypothesis isLine.2 fun other member =>
        areLines other (by simp [member])
      have next := search_nextLine isLine (lines.flatMap (crlf ++ ·) ++ (crlf2 ++ rest))
      rw [joinLines, List.append_assoc] at later
      rw [joinLines_cons]
      simp only [joinLines, List.append_assoc] at next ⊢
      have skipped : search crlf2 (first ++ (crlf ++ (line ++
          (lines.flatMap (crlf ++ ·) ++ (crlf2 ++ rest))))) =
          (search crlf2 (crlf ++ (line ++ (lines.flatMap (crlf ++ ·) ++ (crlf2 ++ rest))))).map
            (first.length + ·) := by
        rw [crlf2_eq]
        exact search_skip noReturn _
      have width : crlf.length = 2 := by decide
      rw [skipped, next, later]
      simp only [Option.map_some, List.length_append, width]

theorem split_joinLines {first : Bytes} {lines : List Bytes} (noReturn : 13 ∉ first)
    (areLines : ∀ line ∈ lines, IsLine line) :
    Utils.split (joinLines first lines) crlf = first :: lines := by
  induction lines generalizing first with
  | nil =>
      rw [joinLines, crlf_eq]
      simpa using Utils.split_last noReturn
  | cons line lines inductionHypothesis =>
      have isLine := areLines line (by simp)
      rw [joinLines_cons]
      have cut := @Utils.split_part 13 [10] first noReturn (joinLines line lines)
      rw [← crlf_eq] at cut
      rw [cut, inductionHypothesis isLine.2 fun other member => areLines other (by simp [member])]

theorem findIdx?_colon {key rest : Bytes} (noColon : 58 ∉ key) :
    (key ++ 58 :: rest).findIdx? (· = 58) = some key.length := by
  induction key with
  | nil => simp [List.findIdx?_cons]
  | cons head others inductionHypothesis =>
      rw [List.mem_cons, not_or] at noColon
      simp [List.findIdx?_cons, Ne.symm noColon.1, inductionHypothesis noColon.2]

/-- A header line as the builders write it. -/
def headerLine (key value : Bytes) : Bytes := key ++ bytes ": " ++ value

theorem parseHeaderLine_headerLine {key value : Bytes} (nonempty : key ≠ [])
    (noColon : 58 ∉ key) (noBlank : ∀ byte, value.head? = some byte → isspace byte = false)
    (headers : HeaderMap) :
    parseHeaderLine (headerLine key value) headers = headers.set key value := by
  have shape : headerLine key value = key ++ 58 :: 32 :: value := by
    have separator : bytes ": " = [58, 32] := by decide
    simp [headerLine, separator]
  have positive := List.length_pos_of_ne_nil nonempty
  unfold parseHeaderLine
  rw [shape, findIdx?_colon noColon]
  obtain ⟨pos, succ⟩ : ∃ pos, key.length = pos + 1 := ⟨key.length - 1, by omega⟩
  have notLast : key.length ≠ (key ++ 58 :: 32 :: value).length - 1 := by
    simp only [List.length_append, List.length_cons]
    omega
  have dropped : (key ++ 58 :: 32 :: value).drop (key.length + 1) = 32 :: value := by
    rw [List.drop_append]
    simp
  have trimmed : (32 :: value).dropWhile isspace = value := by
    have blank : isspace 32 = true := by decide
    rw [List.dropWhile_cons_of_pos blank]
    cases value with
    | nil => rfl
    | cons byte rest => exact List.dropWhile_cons_of_neg (by simp [noBlank byte rfl])
  simp only [succ]
  rw [← succ, if_neg notLast, dropped, trimmed, List.take_left']
  rfl

theorem decimal_noBlank (value : Nat) (byte : UInt8) (head : (decimal value).head? = some byte) :
    isspace byte = false :=
  (digit_shape (by decide) (decimal_digits (List.mem_of_mem_head? head))).1

theorem decimal_noReturn (value : Nat) : 13 ∉ decimal value := fun member =>
  absurd (decimal_digit member).1 (by decide)

theorem headerLine_isLine {key value : Bytes} (nonempty : key ≠ []) (keyReturn : 13 ∉ key)
    (valueReturn : 13 ∉ value) : IsLine (headerLine key value) := by
  have separator : (13 : UInt8) ∉ bytes ": " := by decide
  refine ⟨by simp [headerLine, nonempty], ?_⟩
  simp [headerLine, keyReturn, separator, valueReturn]

/-- A header that is written behind the length of the body. -/
structure PlainHeader where
  key : Bytes
  value : Bytes
  keyShape : key = bytes "Content-Type" ∨ key = bytes "Access-Control-Allow-Origin"
  noReturn : 13 ∉ value
  noBlank : ∀ byte, value.head? = some byte → isspace byte = false

namespace PlainHeader

def line (header : PlainHeader) : Bytes := headerLine header.key header.value

theorem key_ne_nil (header : PlainHeader) : header.key ≠ [] := by
  rcases header.keyShape with shape | shape <;> rw [shape] <;> decide

theorem key_noColon (header : PlainHeader) : 58 ∉ header.key := by
  rcases header.keyShape with shape | shape <;> rw [shape] <;> decide

theorem key_noReturn (header : PlainHeader) : 13 ∉ header.key := by
  rcases header.keyShape with shape | shape <;> rw [shape] <;> decide

theorem isLine (header : PlainHeader) : IsLine header.line :=
  headerLine_isLine header.key_ne_nil header.key_noReturn header.noReturn

theorem parse (header : PlainHeader) (headers : HeaderMap) :
    parseHeaderLine header.line headers = HeaderMap.set header.key header.value headers :=
  parseHeaderLine_headerLine header.key_ne_nil header.key_noColon header.noBlank headers

end PlainHeader

/-- The line of the length. -/
def lengthLine (length : Nat) : Bytes := headerLine (bytes "Content-Length") (decimal length)

theorem lengthLine_isLine (length : Nat) : IsLine (lengthLine length) :=
  headerLine_isLine (by decide) (by decide) (decimal_noReturn length)

theorem block_isLine (length : Nat) (others : List PlainHeader) :
    ∀ line ∈ lengthLine length :: others.map PlainHeader.line, IsLine line := by
  intro line member
  rcases List.mem_cons.mp member with rfl | later
  · exact lengthLine_isLine length
  · rcases List.mem_map.mp later with ⟨header, _, rfl⟩
    exact header.isLine

/-- The headers that are read back from the lines of a block. -/
def readBack (length : Nat) (others : List PlainHeader) : HeaderMap :=
  others.foldl (fun headers header => HeaderMap.set header.key header.value headers)
    [(bytes "Content-Length", decimal length)]

theorem parseHeaderLines_readBack (length : Nat) (others : List PlainHeader) :
    parseHeaderLines (lengthLine length :: others.map PlainHeader.line) [] =
      readBack length others := by
  have first : parseHeaderLine (lengthLine length) [] =
      [(bytes "Content-Length", decimal length)] :=
    parseHeaderLine_headerLine (by decide) (by decide) (decimal_noBlank length) []
  simp only [parseHeaderLines, List.foldl_cons, first, List.foldl_map, PlainHeader.parse,
    readBack]

/-- A key that no further header has is found as it was. -/
theorem find_foldl_other (others : List PlainHeader) (headers : HeaderMap) {key : Bytes}
    (different : ∀ header ∈ others, strcaseeq header.key key = false) :
    HeaderMap.find (others.foldl
      (fun headers header => HeaderMap.set header.key header.value headers) headers) key =
      HeaderMap.find headers key := by
  induction others generalizing headers with
  | nil => rfl
  | cons header rest inductionHypothesis =>
      rw [List.foldl_cons, inductionHypothesis _ fun other member =>
        different other (List.mem_cons_of_mem _ member), HeaderMap.find_set,
        different header List.mem_cons_self]
      rfl

theorem plain_different {key : Bytes} (notType : strcaseeq (bytes "Content-Type") key = false)
    (notOrigin : strcaseeq (bytes "Access-Control-Allow-Origin") key = false)
    (others : List PlainHeader) : ∀ header ∈ others, strcaseeq header.key key = false := by
  intro header _
  rcases header.keyShape with shape | shape <;> rw [shape] <;> assumption

theorem readBack_length (length : Nat) (others : List PlainHeader) :
    (readBack length others).find (bytes "Content-Length") = some (decimal length) := by
  rw [readBack, find_foldl_other others _ (plain_different (by decide) (by decide) others),
    HeaderMap.find_cons]
  rfl

theorem readBack_encoding (length : Nat) (others : List PlainHeader) :
    (readBack length others).find (bytes "Content-Encoding") = none := by
  rw [readBack, find_foldl_other others _ (plain_different (by decide) (by decide) others),
    HeaderMap.find_cons]
  rfl

/-- The header block of a message with a body of the given length. -/
theorem parseHead_joinLines {first : Bytes} {length : Nat} {others : List PlainHeader}
    {reply : HttpReply} (nonempty : first ≠ []) (noReturn : 13 ∉ first)
    (fits : length < 2 ^ 64)
    (parsed : parseFirstLine first
      { headers := joinLines first (lengthLine length :: others.map PlainHeader.line) } =
        some reply) :
    parseHead (joinLines first (lengthLine length :: others.map PlainHeader.line)) =
      ({ reply with parsedHeaders := readBack length others }, .contentLength length) := by
  unfold parseHead
  rw [split_joinLines noReturn (block_isLine length others)]
  simp only [List.isEmpty_iff, nonempty, if_false, parsed, parseHeaderLines_readBack,
    HttpReply.hasHeader, HttpReply.getHeader, readBack_length, Option.isSome_some, if_true,
    Option.getD_some, stoul_decimal fits]

/-- A prefix of the content that is in the buffer. -/
theorem take_buffered {stream : Stream} {front rest : Bytes}
    (content : stream.content = front ++ rest) (available : front.length ≤ stream.buffered.length) :
    stream.buffered.take front.length = front := by
  have whole := congrArg (List.take front.length) content
  rwa [Source.content, List.take_append_of_le_length available, List.take_left'] at whole
  rfl

theorem consume_front {stream : Stream} {front rest : Bytes}
    (content : stream.content = front ++ rest) (available : front.length ≤ stream.buffered.length) :
    (stream.consume front.length).content = rest := by
  rw [Source.consume_content available, content, List.drop_left']
  rfl

/-- Waiting for a delimiter succeeds on a stream that holds it. -/
theorem fill_contains {stream : Stream} {delimiter : Bytes} :
    (stream.fill (contains delimiter)).1 = true ↔
      (search delimiter stream.content).isSome = true := by
  constructor
  · intro filled
    obtain ⟨pos, found⟩ := Option.isSome_iff_exists.mp (Source.fill_enough filled)
    have whole := search_append found (stream.fill (contains delimiter)).2.segments.flatten
    rw [← Source.content, Source.fill_content] at whole
    rw [whole]
    rfl
  · intro found
    exact Source.fill_complete found

/-- What stands before its first occurrence is then read. -/
theorem readUntil_arrived {stream : Stream} {delimiter : Bytes} {pos : Nat}
    (nonempty : delimiter ≠ []) (found : search delimiter stream.content = some pos) :
    (stream.fill (contains delimiter)).1 = true ∧
      ∃ later : Stream, later.content = stream.content.drop (pos + delimiter.length) ∧
        readUntil delimiter (stream.fill (contains delimiter)).2 =
          ⟨some (stream.content.take pos, pos), later, false⟩ := by
  have filled : (stream.fill (contains delimiter)).1 = true :=
    fill_contains.mpr (by rw [found]; rfl)
  have whole := Source.fill_content (contains delimiter) stream
  obtain ⟨here, foundHere⟩ := Option.isSome_iff_exists.mp (Source.fill_enough filled)
  have same : here = pos := by
    have inContent := search_append foundHere (stream.fill (contains delimiter)).2.segments.flatten
    rw [← Source.content, whole, found] at inContent
    exact (Option.some.inj inContent).symm
  subst same
  have bound := search_bound foundHere
  refine ⟨filled, (stream.fill (contains delimiter)).2.consume (here + delimiter.length), ?_, ?_⟩
  · rw [Source.consume_content bound, whole]
  · rw [readUntil_of_found nonempty foundHere, ← whole, Source.content,
      List.take_append_of_le_length (Nat.le_of_add_right_le bound)]

/-- The same with the parts of the content. -/
theorem readUntil_filled {stream : Stream} {delimiter line rest : Bytes} (nonempty : delimiter ≠ [])
    (content : stream.content = line ++ delimiter ++ rest)
    (found : search delimiter (line ++ delimiter ++ rest) = some line.length) :
    (stream.fill (contains delimiter)).1 = true ∧
      ∃ later : Stream, later.content = rest ∧
        readUntil delimiter (stream.fill (contains delimiter)).2 =
          ⟨some (line, line.length), later, false⟩ := by
  obtain ⟨filled, later, behind, read⟩ := readUntil_arrived nonempty (content ▸ found)
  refine ⟨filled, later, ?_, ?_⟩
  · rw [behind, content, List.drop_left' List.length_append]
  · rw [read, content, List.append_assoc, List.take_left']
    rfl

/-- Waiting for a number of bytes succeeds on a stream that holds them. -/
theorem read_filled {stream : Stream} {front rest : Bytes}
    (content : stream.content = front ++ rest) :
    (stream.fill fun buffered => front.length ≤ buffered.length).1 = true ∧
      ∃ later : Stream, later.content = rest ∧
        read front.length (stream.fill fun buffered => front.length ≤ buffered.length).2 =
          ⟨some (front, front.length), later, false⟩ := by
  have filled : (stream.fill fun buffered => front.length ≤ buffered.length).1 = true := by
    apply Source.fill_complete
    simp [content]
  have whole := Source.fill_content (fun buffered => front.length ≤ buffered.length) stream
  have available := of_decide_eq_true (Source.fill_enough filled)
  rw [content] at whole
  refine ⟨filled, _, consume_front whole available, ?_⟩
  rw [read_of_le available, take_buffered whole available]

namespace Reader

variable (zlib : Zlib)

/-- The step that reads a header block from a stream that begins with it. -/
theorem step_framedHead {stream : Stream} {head body rest : Bytes} {reply : HttpReply}
    (content : stream.content = head ++ crlf2 ++ (body ++ rest))
    (found : search crlf2 (head ++ crlf2 ++ (body ++ rest)) = some head.length)
    (parsed : parseHead head = (reply, .contentLength body.length)) :
    ∃ later : Stream, later.content = body ++ rest ∧
      step zlib { stream } = { stream := later, pending := some (.body body.length reply) } := by
  rcases readUntil_filled (by decide) content found with ⟨filled, later, laterContent, line⟩
  refine ⟨later, laterContent, ?_⟩
  rw [@step_inside zlib { stream } .headers rfl id]
  simp only [resume, isComplete_headers, filled, handleHeaders, Bool.not_true, Bool.false_eq_true,
    if_false, line, afterRead_ready, parsed, wait]

/-- The step that reads a body whose bytes are in the stream. -/
theorem step_framedBody {stream : Stream} {body rest : Bytes} {reply : HttpReply}
    (content : stream.content = body ++ rest) (fits : body.length < 2 ^ 64)
    (plain : reply.hasHeader (bytes "Content-Encoding") = false) :
    ∃ later : Stream, later.content = rest ∧
      step zlib { stream, pending := some (.body body.length reply) } =
        { stream := later, pending := none, handled := [(.none, { reply with body })] } := by
  rcases read_filled content with ⟨filled, later, laterContent, front⟩
  refine ⟨later, laterContent, ?_⟩
  have plainBody : ({ reply with body } : HttpReply).hasHeader (bytes "Content-Encoding") = false :=
    plain
  have inside : ¬ (Pending.body body.length reply).Overruns := Nat.not_le.mpr fits
  rw [@step_inside zlib { stream, pending := _ } _ rfl inside]
  simp only [resume, isComplete_body, filled, handleBody, Bool.not_true, Bool.false_eq_true,
    if_false, front, afterRead_ready, processReply, plainBody, Bool.false_and, answer,
    List.nil_append]

/-- As soon as some number of steps ends the reading, `asyncResponse` has ended
in the same state. -/
theorem asyncResponse_of_iterate {stream : Stream} {last : Reader} {count : Nat}
    (reached : (step zlib)^[count] { stream } = last) (done : last.pending = none) :
    asyncResponse zlib stream = last := by
  rcases Nat.le_total count (2 * stream.content.length + 2) with fewer | more
  · obtain ⟨further, sum⟩ := Nat.exists_eq_add_of_le' fewer
    rw [asyncResponse, sum, Function.iterate_add_apply, reached]
    exact Function.iterate_fixed (step_done zlib done) further
  · obtain ⟨further, rfl⟩ := Nat.exists_eq_add_of_le' more
    have ended : (asyncResponse zlib stream).pending = none := by
      apply iterate_done
      intro pending isPending
      cases isPending
      exact le_rfl
    rw [← reached, Function.iterate_add_apply]
    exact (Function.iterate_fixed (step_done zlib ended) further).symm

/-- A message at the front of the stream is delivered, and the rest stays. -/
theorem asyncResponse_framed {stream : Stream} {head body rest : Bytes} {reply : HttpReply}
    (content : stream.content = head ++ crlf2 ++ (body ++ rest))
    (found : search crlf2 (head ++ crlf2 ++ (body ++ rest)) = some head.length)
    (parsed : parseHead head = (reply, .contentLength body.length)) (fits : body.length < 2 ^ 64)
    (plain : reply.hasHeader (bytes "Content-Encoding") = false) :
    (asyncResponse zlib stream).handled = [(.none, { reply with body })] ∧
      (asyncResponse zlib stream).stream.content = rest := by
  rcases step_framedHead zlib content found parsed with ⟨middle, middleContent, first⟩
  rcases step_framedBody zlib middleContent fits plain with ⟨later, laterContent, second⟩
  have ended : asyncResponse zlib stream =
      { stream := later, pending := none, handled := [(.none, { reply with body })] } := by
    refine @asyncResponse_of_iterate zlib _ _ 2 ?_ rfl
    rw [Function.iterate_succ_apply, Function.iterate_one, first, second]
  rw [ended]
  exact ⟨rfl, laterContent⟩

end Reader

/-- The messages that go over a kept-alive connection. -/
inductive WireMessage where
  | request (resource contentType body : Bytes)
  | okResponse (body : Bytes)
  | errorResponse (httpCode : Nat) (apiCode : ApiStatusCode) (desc : Bytes)

namespace WireMessage

def encode : WireMessage → Bytes
  | .request resource contentType body => buildRequest resource contentType body
  | .okResponse body => buildApiOkResponse body
  | .errorResponse httpCode apiCode desc => buildApiErrorRsponse httpCode apiCode desc

def body : WireMessage → Bytes
  | .request _ _ body => body
  | .okResponse body => body
  | .errorResponse _ apiCode desc => ApiclientUtils.makeApiError apiCode desc

/-- The codes that `http_code_to_string` knows. -/
def knownCodes : List Nat := [200, 400, 403, 404, 409, 429, 500, 503]

/-- The arguments that a message may be built from. The length of a
`std::string` fits in a `size_t`. -/
def Valid (message : WireMessage) : Prop :=
  message.body.length < 2 ^ 64 ∧
    match message with
    | .request resource contentType _ =>
        (∀ byte ∈ resource, byte ≠ 32 ∧ byte ≠ 13 ∧ byte ≠ 10) ∧
          (∀ byte ∈ contentType, byte ≠ 13 ∧ byte ≠ 10) ∧
          ∀ byte, contentType.head? = some byte → isspace byte = false
    | .okResponse _ => True
    | .errorResponse httpCode _ _ => httpCode ∈ knownCodes

/-- What the handler gets for the message. -/
def Delivered (message : WireMessage) (result : ConnectionError × HttpReply) : Prop :=
  result.1 = .none ∧ result.2.body = message.body ∧
    match message with
    | .request resource contentType _ =>
        result.2.method = bytes "post" ∧ result.2.resource = resource ∧
          result.2.getHeader (bytes "Content-Type") = contentType
    | .okResponse _ => result.2.status = 200
    | .errorResponse httpCode _ _ => result.2.status = httpCode

/-- The first line, and the headers behind the length. -/
def firstLine : WireMessage → Bytes
  | .request resource _ _ => bytes "POST" ++ [32] ++ (resource ++ [32] ++ bytes "HTTP/1.1")
  | .okResponse _ => bytes "HTTP/1.1 200 OK"
  | .errorResponse httpCode _ _ => bytes "HTTP/1.1 " ++ httpCodeToString httpCode

def jsonHeader : PlainHeader where
  key := bytes "Content-Type"
  value := bytes "application/json"
  keyShape := .inl rfl
  noReturn := by decide +kernel
  noBlank := by decide +kernel

def originHeader : PlainHeader where
  key := bytes "Access-Control-Allow-Origin"
  value := bytes "*"
  keyShape := .inr rfl
  noReturn := by decide +kernel
  noBlank := by decide +kernel

/-- A built message is a header block, an empty line and the body. -/
theorem encode_shape {message : WireMessage} (valid : message.Valid) :
    ∃ others : List PlainHeader,
      message.encode =
        joinLines message.firstLine
          (lengthLine message.body.length :: others.map PlainHeader.line) ++ crlf2 ++ message.body ∧
      ∀ resource contentType body, message = .request resource contentType body →
        (readBack message.body.length others).find (bytes "Content-Type") = some contentType := by
  have requestEnd : bytes " HTTP/1.1\r\n" = [32] ++ bytes "HTTP/1.1" ++ crlf := by decide
  have requestStart : bytes "POST " = bytes "POST" ++ [32] := by decide
  have statusOk : bytes "HTTP/1.1 200 OK\r\n" = bytes "HTTP/1.1 200 OK" ++ crlf := by decide
  have lengthKey : bytes "Content-Length: " = bytes "Content-Length" ++ bytes ": " := by decide
  have typeKey : bytes "Content-Type: " = bytes "Content-Type" ++ bytes ": " := by decide
  have jsonLine : bytes "Content-Type: application/json\r\n" = jsonHeader.line ++ crlf := by decide
  have originLine : bytes "Access-Control-Allow-Origin: *\r\n" = originHeader.line ++ crlf := by
    decide
  have double : crlf2 = crlf ++ crlf := by decide
  cases message with
  | request resource contentType body =>
      rcases valid with ⟨_, _, typeShape, typeBlank⟩
      let header : PlainHeader :=
        { key := bytes "Content-Type", value := contentType, keyShape := .inl rfl
          noReturn := fun member => (typeShape 13 member).1 rfl, noBlank := typeBlank }
      refine ⟨[header], ?_, ?_⟩
      · simp only [encode, buildRequest, requestEnd, requestStart, lengthKey, typeKey, double,
          firstLine, joinLines, lengthLine, PlainHeader.line, headerLine, WireMessage.body, header,
          List.map_cons, List.map_nil, List.flatMap_cons, List.flatMap_nil, List.append_assoc,
          List.append_nil]
      · rintro _ _ _ same
        cases same
        simp only [readBack, List.foldl_cons, List.foldl_nil, HeaderMap.find_set, header]
        rfl
  | okResponse body =>
      refine ⟨[jsonHeader, originHeader], ?_, fun _ _ _ same => by cases same⟩
      simp only [encode, buildApiOkResponse, statusOk, lengthKey, jsonLine, originLine, double,
        firstLine, joinLines, lengthLine, headerLine, WireMessage.body, List.map_cons,
        List.map_nil, List.flatMap_cons, List.flatMap_nil, List.append_assoc, List.append_nil]
  | errorResponse httpCode apiCode desc =>
      refine ⟨[originHeader, jsonHeader], ?_, fun _ _ _ same => by cases same⟩
      simp only [encode, buildApiErrorRsponse, lengthKey, jsonLine, originLine, double,
        firstLine, joinLines, lengthLine, headerLine, WireMessage.body, List.map_cons,
        List.map_nil, List.flatMap_cons, List.flatMap_nil, List.append_assoc, List.append_nil]

theorem httpCodeToString_noReturn {httpCode : Nat} (known : httpCode ∈ knownCodes) :
    13 ∉ httpCodeToString httpCode := by
  revert known httpCode
  decide

theorem firstLine_isLine {message : WireMessage} (valid : message.Valid) :
    IsLine message.firstLine := by
  cases message with
  | request resource contentType body =>
      rcases valid with ⟨_, resourceShape, _⟩
      have method : (13 : UInt8) ∉ bytes "POST" := by decide
      have version : (13 : UInt8) ∉ bytes "HTTP/1.1" := by decide
      have noReturn : 13 ∉ resource := fun member => (resourceShape 13 member).2.1 rfl
      refine ⟨by simp [firstLine], ?_⟩
      simp [firstLine, method, version, noReturn]
  | okResponse body =>
      exact ⟨show bytes "HTTP/1.1 200 OK" ≠ [] by decide,
        show 13 ∉ bytes "HTTP/1.1 200 OK" by decide⟩
  | errorResponse httpCode apiCode desc =>
      have version : bytes "HTTP/1.1 " ≠ [] ∧ (13 : UInt8) ∉ bytes "HTTP/1.1 " := by decide
      refine ⟨by simp [firstLine, version.1], ?_⟩
      simp [firstLine, version.2, httpCodeToString_noReturn valid.2]

/-- The code is the second word of a status line. -/
theorem parseFirstLine_status {httpCode : Nat} (known : httpCode ∈ knownCodes)
    (reply : HttpReply) :
    parseFirstLine (bytes "HTTP/1.1 " ++ httpCodeToString httpCode) reply =
      some { reply with status := httpCode } := by
  have words : ∀ code ∈ knownCodes,
      (Utils.split (bytes "HTTP/1.1 " ++ httpCodeToString code) (bytes " ")).take 2 =
        [bytes "HTTP/1.1", decimal code] ∧ code < 2 ^ 31 := by
    decide +kernel
  rcases words httpCode known with ⟨cut, small⟩
  have isStatus :
      Utils.startsWith (Utils.lowercased (bytes "HTTP/1.1")) (bytes "http/") = true := by
    decide
  unfold parseFirstLine
  generalize Utils.split (bytes "HTTP/1.1 " ++ httpCodeToString httpCode) (bytes " ") = parts at cut
  match parts, cut with
  | first :: second :: others, cut =>
      simp only [List.take_succ_cons, List.take_zero, List.cons.injEq, and_true] at cut
      rcases cut with ⟨rfl, rfl⟩
      simp only [isStatus, if_true, stoi_decimal small, Option.map_some]

/-- What the first line says about the reply. -/
def announce (reply : HttpReply) : WireMessage → HttpReply
  | .request resource _ _ => { reply with method := bytes "post", resource }
  | .okResponse _ => { reply with status := 200 }
  | .errorResponse httpCode _ _ => { reply with status := httpCode }

theorem parseFirstLine_firstLine {message : WireMessage} (valid : message.Valid)
    (reply : HttpReply) :
    parseFirstLine message.firstLine reply = some (message.announce reply) := by
  cases message with
  | request resource contentType body =>
      rcases valid with ⟨_, resourceShape, _⟩
      have noBlank : 32 ∉ resource := fun member => (resourceShape 32 member).1 rfl
      have blank : bytes " " = [32] := by decide
      have cut : Utils.split (bytes "POST" ++ [32] ++ (resource ++ [32] ++ bytes "HTTP/1.1"))
          (bytes " ") = [bytes "POST", resource, bytes "HTTP/1.1"] := by
        rw [blank, Utils.split_part (by decide), Utils.split_part noBlank,
          Utils.split_last (by decide)]
      have notStatus : Utils.startsWith (bytes "post") (bytes "http/") = false := by decide
      have method : Utils.lowercased (bytes "POST") = bytes "post" := by decide
      simp only [parseFirstLine, firstLine, cut, method, notStatus, Bool.false_eq_true, if_false,
        announce]
  | okResponse body =>
      exact parseFirstLine_status (show 200 ∈ knownCodes by decide) reply
  | errorResponse httpCode apiCode desc => exact parseFirstLine_status valid.2 reply

end WireMessage

namespace Reader

variable (zlib : Zlib)

/-- As many calls of `asyncResponse` as the number says, each on what the one
before it left. -/
def responses : Nat → Stream → List (ConnectionError × HttpReply) × Stream
  | 0, stream => ([], stream)
  | count + 1, stream =>
      let reader := asyncResponse zlib stream
      let later := responses count reader.stream
      (reader.handled ++ later.1, later.2)

/-- A built message at the front of the stream is delivered. -/
theorem asyncResponse_message {message : WireMessage} (valid : message.Valid) {stream : Stream}
    {rest : Bytes} (content : stream.content = message.encode ++ rest) :
    ∃ result, (asyncResponse zlib stream).handled = [result] ∧ message.Delivered result ∧
      (asyncResponse zlib stream).stream.content = rest := by
  rcases WireMessage.encode_shape valid with ⟨others, shape, contentType⟩
  rcases WireMessage.firstLine_isLine valid with ⟨nonempty, noReturn⟩
  have areLines : ∀ line ∈ lengthLine message.body.length :: others.map PlainHeader.line,
      IsLine line := block_isLine message.body.length others
  have parsed := @parseHead_joinLines message.firstLine message.body.length others _ nonempty
    noReturn valid.1 (WireMessage.parseFirstLine_firstLine valid _)
  have found := search_joinLines noReturn areLines (message.body ++ rest)
  rw [← List.append_assoc] at found
  have framed : stream.content =
      joinLines message.firstLine
        (lengthLine message.body.length :: others.map PlainHeader.line) ++ crlf2 ++
        (message.body ++ rest) := by
    rw [content, shape, List.append_assoc]
  have plain : (readBack message.body.length others).find (bytes "Content-Encoding") = none :=
    readBack_encoding _ _
  have delivered := asyncResponse_framed zlib framed found parsed valid.1 (by
    simp [HttpReply.hasHeader, plain])
  refine ⟨_, delivered.1, ⟨rfl, rfl, ?_⟩, delivered.2⟩
  cases message with
  | request resource type body =>
      refine ⟨rfl, rfl, ?_⟩
      simp only [HttpReply.getHeader, contentType resource type body rfl, Option.getD_some]
  | okResponse body => rfl
  | errorResponse httpCode apiCode desc => rfl

end Reader

/-- For every list of built messages and every cut of their bytes, one call of
`asyncResponse` for each delivers them in order, and the buffer is empty at the
end. -/
theorem responses_deliver (zlib : Zlib) (messages : List WireMessage) (stream : Stream)
    (valid : ∀ message ∈ messages, message.Valid)
    (content : stream.content = messages.flatMap WireMessage.encode) :
    List.Forall₂ WireMessage.Delivered messages
        (Reader.responses zlib messages.length stream).1 ∧
      (Reader.responses zlib messages.length stream).2.buffered = [] := by
  induction messages generalizing stream with
  | nil =>
      refine ⟨.nil, ?_⟩
      rw [List.flatMap_nil, Source.content] at content
      exact (List.append_eq_nil_iff.mp content).1
  | cons message messages inductionHypothesis =>
      rw [List.flatMap_cons] at content
      rcases Reader.asyncResponse_message zlib (valid message List.mem_cons_self) content with
        ⟨result, handled, delivered, left⟩
      have later := inductionHypothesis (Reader.asyncResponse zlib stream).stream
        (fun other member => valid other (List.mem_cons_of_mem _ member)) left
      simp only [List.length_cons, Reader.responses, handled, List.singleton_append]
      exact ⟨.cons delivered later.1, later.2⟩

/-- A decompressor that refuses everything. -/
def refusingZlib : Zlib where
  initOk := fun _ => false
  endOk := fun _ => false
  inflate := fun _ _ => (.failed, [])
  turns := fun _ => 1
  halts := fun _ rooms enough =>
    ⟨rooms, List.prefix_rfl, List.ne_nil_of_length_pos enough, by simp⟩

/-- A request whose body is itself the start of a request, and its reply, which
arrive in three pieces. -/
theorem responses_deliver_exchange :
    let request : WireMessage :=
      .request (bytes "/v1/user/login") (bytes "application/json") (bytes "POST / HTTP/1.1\r\n\r\n")
    let reply : WireMessage := .errorResponse 403 .errBadRequest (bytes "no")
    let whole := request.encode ++ reply.encode
    let stream : Stream := ⟨[], [whole.take 30, (whole.drop 30).take 100, whole.drop 130]⟩
    List.Forall₂ WireMessage.Delivered [request, reply]
        (Reader.responses refusingZlib 2 stream).1 ∧
      (Reader.responses refusingZlib 2 stream).2.buffered = [] := by
  intro request reply whole stream
  apply responses_deliver refusingZlib [request, reply] stream
  · have requestShape : request.Valid := by
      refine ⟨by decide +kernel, by decide +kernel, by decide +kernel, by decide +kernel⟩
    have replyShape : reply.Valid := ⟨by decide +kernel, by decide⟩
    simp [requestShape, replyShape]
  · decide +kernel

end GeoChat
