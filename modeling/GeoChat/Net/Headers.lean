import GeoChat.Net.RoundTrip

/-!
# Header lookup and the length of a body

The header map is filled line by line, and a lookup finds the value of the last
line that names the header, in any spelling. What `std::stoul` makes of the
value of `Content-Length` then decides how the rest of the connection is framed.
-/

namespace GeoChat

open Library

/-- The text before the first colon. -/
def headerKey (line : Bytes) : Bytes := line.takeWhile (· ≠ 58)

/-- The rest of the line, without the blanks at its front. -/
def headerValue (line : Bytes) : Bytes :=
  (line.drop ((headerKey line).length + 1)).dropWhile isspace

/-- The line has a colon behind a text that is the key in some spelling. -/
def Names (key line : Bytes) : Prop :=
  58 ∈ line ∧ headerKey line ≠ [] ∧ Utils.lowercased (headerKey line) = Utils.lowercased key

instance (key line : Bytes) : Decidable (Names key line) := by
  unfold Names
  infer_instance

/-- The last of the lines that names the key. -/
def lastNaming (key : Bytes) (lines : List Bytes) : Option Bytes :=
  (lines.filter fun line => Names key line).getLast?

theorem headerKey_noColon (line : Bytes) : 58 ∉ headerKey line := by
  intro member
  have different := @List.mem_takeWhile_imp _ (fun byte : UInt8 => byte ≠ 58) _ _ member
  simp at different

theorem headerKey_subset (line : Bytes) : headerKey line ⊆ line :=
  (List.takeWhile_prefix _).subset

/-- A line with a colon is cut at its first. -/
theorem cut_at_colon {line : Bytes} (colon : 58 ∈ line) :
    ∃ rest, line = headerKey line ++ 58 :: rest := by
  induction line with
  | nil => cases colon
  | cons first others inductionHypothesis =>
      by_cases isColon : first = 58
      · exact ⟨others, by simp [headerKey, isColon]⟩
      · obtain ⟨rest, cut⟩ := inductionHypothesis (by simpa [Ne.symm isColon] using colon)
        have longer : headerKey (first :: others) = first :: headerKey others :=
          List.takeWhile_cons_of_pos (by simpa using isColon)
        exact ⟨rest, by rw [longer, List.cons_append, ← cut]⟩

/-- A line without a colon, or with nothing before it, has no effect. -/
theorem parseHeaderLine_ignored {line : Bytes} (nameless : 58 ∈ line → headerKey line = [])
    (headers : HeaderMap) : parseHeaderLine line headers = headers := by
  unfold parseHeaderLine
  by_cases colon : 58 ∈ line
  · obtain ⟨rest, cut⟩ := cut_at_colon colon
    rw [nameless colon] at cut
    rw [cut, findIdx?_colon List.not_mem_nil]
    rfl
  · have absent : line.findIdx? (· = 58) = none := by
      rw [List.findIdx?_eq_none_iff]
      intro byte member
      exact decide_eq_false fun same => colon (same ▸ member)
    rw [absent]

/-- Every other line sets its key to its value. -/
theorem parseHeaderLine_named {line : Bytes} (colon : 58 ∈ line) (named : headerKey line ≠ [])
    (headers : HeaderMap) :
    parseHeaderLine line headers = headers.set (headerKey line) (headerValue line) := by
  obtain ⟨rest, cut⟩ := cut_at_colon colon
  have noColon := headerKey_noColon line
  unfold headerValue
  generalize headerKey line = key at *
  subst cut
  obtain ⟨pos, succ⟩ : ∃ pos, key.length = pos + 1 :=
    Nat.exists_eq_succ_of_ne_zero (mt List.length_eq_zero_iff.mp named)
  unfold parseHeaderLine
  rw [findIdx?_colon noColon, succ]
  simp only
  rw [← succ, List.take_left']
  split
  next last =>
    have behind : (key ++ 58 :: rest).drop (key.length + 1) = [] := by
      apply List.drop_eq_nil_of_le
      omega
    rw [behind]
    rfl
  next => rfl
  rfl

theorem strcaseeq_eq {first second : Bytes} (firstFree : (0 : UInt8) ∉ first)
    (secondFree : (0 : UInt8) ∉ second) :
    strcaseeq first second = decide (Utils.lowercased first = Utils.lowercased second) := by
  rw [strcaseeq, cstr_of_nul_not_mem firstFree, cstr_of_nul_not_mem secondFree]
  rfl

/-- What a line does to the lookup of a key. -/
theorem find_parseHeaderLine {line key : Bytes} (lineFree : (0 : UInt8) ∉ line)
    (keyFree : (0 : UInt8) ∉ key) (headers : HeaderMap) :
    (parseHeaderLine line headers).find key =
      if Names key line then some (headerValue line) else headers.find key := by
  by_cases ignored : 58 ∈ line → headerKey line = []
  · have notNamed : ¬ Names key line := fun names => names.2.1 (ignored names.1)
    rw [parseHeaderLine_ignored ignored, if_neg notNamed]
  · rw [Classical.not_imp] at ignored
    have keyPart : (0 : UInt8) ∉ headerKey line := fun member =>
      lineFree (headerKey_subset line member)
    rw [parseHeaderLine_named ignored.1 ignored.2, HeaderMap.find_set,
      strcaseeq_eq keyPart keyFree]
    simp only [Names, ignored, decide_eq_true_eq, true_and, ne_eq, not_false_eq_true]

/-- The lookup after all lines, by induction over the lines: the last line
that names the key counts, and without one the map that the lines met. -/
theorem find_parseHeaderLines {lines : List Bytes} {key : Bytes}
    (linesFree : ∀ line ∈ lines, (0 : UInt8) ∉ line) (keyFree : (0 : UInt8) ∉ key)
    (headers : HeaderMap) :
    (parseHeaderLines lines headers).find key =
      match lastNaming key lines with
      | some line => some (headerValue line)
      | none => headers.find key := by
  induction lines generalizing headers with
  | nil => rfl
  | cons line lines inductionHypothesis =>
      have later := inductionHypothesis
        (fun other member => linesFree other (List.mem_cons_of_mem _ member))
        (parseHeaderLine line headers)
      rw [parseHeaderLines, List.foldl_cons, ← parseHeaderLines, later,
        find_parseHeaderLine (linesFree line List.mem_cons_self) keyFree]
      by_cases names : Names key line
      · simp only [lastNaming, List.filter_cons, names, decide_true, if_true, List.getLast?_cons]
        cases (lines.filter fun line => Names key line).getLast? with
        | none => rfl
        | some last => rfl
      · simp only [lastNaming, List.filter_cons, names, decide_false, Bool.false_eq_true, if_false]

/-- `line[pos]`. The byte behind the last one is a NUL, and nothing stands
further back. -/
def charAt (line : Bytes) (pos : Nat) : Option UInt8 :=
  if pos ≤ line.length then some (line.getD pos 0) else none

/-- `while (isspace(line[pos])) ++pos;`, for a number of turns. No result means
a read behind the string, or more turns. -/
def skipBlanks (line : Bytes) : Nat → Nat → Option Nat
  | 0, _ => none
  | turns + 1, pos =>
      match charAt line pos with
      | none => none
      | some byte => if isspace byte then skipBlanks line turns (pos + 1) else some pos

/-- `parseHeaderLine` over positions of the line. -/
def scanHeaderLine (line : Bytes) (headers : HeaderMap) : Option HeaderMap :=
  match line.findIdx? (· = 58) with
  | none => some headers
  | some 0 => some headers
  | some pos =>
      let key := line.take pos
      if pos = line.length - 1 then some (headers.set key [])
      else
        (skipBlanks line (line.length + 1) (pos + 1)).map fun start =>
          headers.set key (line.drop start)

/-- The skip ends at the NUL at the latest. -/
theorem skipBlanks_stops {line : Bytes} {turns pos : Nat} (inside : pos ≤ line.length)
    (enough : line.length < pos + turns) :
    ∃ stop, skipBlanks line turns pos = some stop ∧ stop ≤ line.length ∧
      line.drop stop = (line.drop pos).dropWhile isspace := by
  induction turns generalizing pos with
  | zero => omega
  | succ turns inductionHypothesis =>
      rcases Nat.eq_or_lt_of_le inside with rfl | before
      · refine ⟨line.length, ?_, le_rfl, ?_⟩
        · have nul : isspace 0 = false := by decide
          simp [skipBlanks, charAt, nul]
        · rw [List.drop_length]
          rfl
      · have here : charAt line pos = some (getElem line pos before) := by
          simp [charAt, inside, List.getElem?_eq_getElem before]
        simp only [skipBlanks, here]
        rw [List.drop_eq_getElem_cons before]
        split
        next blank =>
          obtain ⟨stop, reached, bounded, rest⟩ :=
            @inductionHypothesis (pos + 1) before (by omega)
          refine ⟨stop, reached, bounded, ?_⟩
          rw [rest, List.dropWhile_cons_of_pos blank]
        next notBlank =>
          refine ⟨pos, rfl, inside, ?_⟩
          rw [List.dropWhile_cons_of_neg notBlank, List.drop_eq_getElem_cons before]

/-- No line makes the scan leave the string. -/
theorem scanHeaderLine_eq (line : Bytes) (headers : HeaderMap) :
    scanHeaderLine line headers = some (parseHeaderLine line headers) := by
  unfold scanHeaderLine parseHeaderLine
  cases found : line.findIdx? (· = 58) with
  | none => rfl
  | some pos =>
      have inside : pos < line.length := (List.findIdx?_eq_some_iff_findIdx_eq.mp found).1
      cases pos with
      | zero => rfl
      | succ previous =>
          simp only
          split
          next => rfl
          next =>
            obtain ⟨stop, reached, -, rest⟩ :=
              @skipBlanks_stops line (line.length + 1) (previous + 1 + 1) inside (by omega)
            rw [reached, Option.map_some, rest]

namespace Reader

variable (zlib : Zlib)

/-- The reply that the connection holds: with its pending read, or handed over. -/
def reply (reader : Reader) : Option HttpReply :=
  match reader.pending with
  | some (.body _ reply) => some reply
  | some (.chunkSize reply) => some reply
  | some (.chunkData _ reply) => some reply
  | some .headers => none
  | none => reader.handled.getLast?.map Prod.snd

/-- How `handleHeaders` goes on with a parsed header block. -/
def afterHead (reader : Reader) : HttpReply × BodyKind → Reader
  | (reply, .protocolError) => reader.answer .protocolError reply
  | (reply, .contentLength length) => reader.wait (.body length reply)
  | (reply, .chunked) => reader.wait (.chunkSize reply)
  | (reply, .absent) => reader.answer .none reply

theorem reply_afterHead (reader : Reader) (parsed : HttpReply × BodyKind) :
    (reader.afterHead parsed).reply = some parsed.1 := by
  rcases parsed with ⟨reply, _ | length | _ | _⟩ <;> simp [afterHead, Reader.reply, answer, wait]

/-- The step that waits for a header block: the stream ends before, or the
block is parsed. -/
theorem step_headers {reader : Reader} (isPending : reader.pending = some .headers) :
    (search crlf2 reader.stream.content = none ∧
      ∃ later, step zlib reader = answer { reader with stream := later } .eof {}) ∨
    ∃ pos later, search crlf2 reader.stream.content = some pos ∧
      later.content = reader.stream.content.drop (pos + crlf2.length) ∧
      step zlib reader = afterHead { reader with stream := later, pending := none }
        (parseHead (reader.stream.content.take pos)) := by
  rw [step_inside zlib isPending id]
  simp only [resume, isComplete_headers]
  cases found : search crlf2 reader.stream.content with
  | none =>
      have unfilled : (reader.stream.fill (contains crlf2)).1 = false := by
        rw [Bool.eq_false_iff, ne_eq, fill_contains, found]
        exact Bool.false_ne_true
      rw [unfilled]
      exact .inl ⟨rfl, _, rfl⟩
  | some pos =>
      obtain ⟨filled, later, behind, line⟩ := readUntil_arrived (by decide) found
      refine .inr ⟨pos, later, rfl, behind, ?_⟩
      simp only [filled, handleHeaders, Bool.not_true, Bool.false_eq_true, if_false, line,
        afterRead_ready]
      rfl

/-- A stream that begins with the header block. -/
structure StartsWith (reader : Reader) (head : Bytes) : Prop where
  isPending : reader.pending = some .headers
  content : ∃ rest, reader.stream.content = head ++ crlf2 ++ rest
  endsHere : search crlf2 (head ++ crlf2) = some head.length

/-- The step that reads the header block. -/
theorem step_head {reader : Reader} {head : Bytes} (starts : reader.StartsWith head) :
    ∃ later : Stream, step zlib reader =
      afterHead { reader with stream := later, pending := none } (parseHead head) := by
  obtain ⟨rest, content⟩ := starts.content
  have found := search_append starts.endsHere rest
  rw [← content] at found
  rcases step_headers zlib starts.isPending with ⟨absent, -⟩ | ⟨pos, later, here, -, stepped⟩
  · cases absent.symm.trans found
  · obtain rfl := Option.some.inj (here.symm.trans found)
    refine ⟨later, ?_⟩
    rw [stepped, content, List.append_assoc, List.take_left' rfl]

end Reader

/-- A block whose first line is one of a request or a reply is parsed to the end
of its headers, whatever then becomes of the body. -/
theorem parseHead_headers {head first : Bytes} {lines : List Bytes}
    (cut : Utils.split head crlf = first :: lines) (nonempty : first ≠ [])
    (valid : (parseFirstLine first { headers := head }).isSome = true) :
    (parseHead head).1.parsedHeaders = parseHeaderLines lines [] := by
  obtain ⟨start, parsed⟩ := Option.isSome_iff_exists.mp valid
  simp only [parseHead, cut, List.isEmpty_iff, nonempty, if_false, parsed]
  split
  · split <;> rfl
  · split <;> rfl

/-- Header lookup does not mind the case of a name, and the last line that has
the name counts. Lines without a name have no effect, and no line makes the
scan leave the string. -/
theorem getHeader_lastNaming (zlib : Zlib) (reader : Reader) (head first key : Bytes)
    (lines : List Bytes) (starts : reader.StartsWith head)
    (cut : Utils.split head crlf = first :: lines) (nonempty : first ≠ [])
    (valid : (parseFirstLine first { headers := head }).isSome = true)
    (headFree : (0 : UInt8) ∉ head) (keyFree : (0 : UInt8) ∉ key) :
    (∃ reply, (Reader.step zlib reader).reply = some reply ∧
      reply.getHeader key = ((lastNaming key lines).map headerValue).getD [] ∧
      (reply.hasHeader key = true ↔ ∃ line ∈ lines, Names key line)) ∧
    (∀ line headers, 58 ∉ line ∨ line.head? = some 58 → parseHeaderLine line headers = headers) ∧
    ∀ line headers, scanHeaderLine line headers = some (parseHeaderLine line headers) := by
  have linesFree : ∀ line ∈ lines, (0 : UInt8) ∉ line := by
    intro line member zero
    have part : line ∈ Utils.split head crlf := cut ▸ List.mem_cons_of_mem _ member
    exact headFree (Utils.splitFrom_subset _ part zero)
  have found : (parseHead head).1.parsedHeaders.find key =
      (lastNaming key lines).map headerValue := by
    rw [parseHead_headers cut nonempty valid, find_parseHeaderLines linesFree keyFree]
    cases lastNaming key lines with
    | none => rfl
    | some line => rfl
  obtain ⟨later, stepped⟩ := Reader.step_head zlib starts
  refine ⟨⟨(parseHead head).1, ?_, ?_, ?_⟩, ?_, scanHeaderLine_eq⟩
  · rw [stepped, Reader.reply_afterHead]
  · rw [HttpReply.getHeader, found]
  · rw [HttpReply.hasHeader, found, Option.isSome_map, lastNaming, List.getLast?_isSome,
      ne_eq, List.filter_eq_nil_iff]
    simp only [decide_eq_true_eq, not_forall, Classical.not_not, exists_prop]
  · rintro line headers (noColon | atFront)
    · exact parseHeaderLine_ignored (fun colon => absurd colon noColon) headers
    · refine parseHeaderLine_ignored (fun _ => ?_) headers
      obtain ⟨rest, rfl⟩ := List.head?_eq_some_iff.mp atFront
      rfl

theorem getHeader_lastNaming_three :
    let head := bytes "GET / HTTP/1.1\r\nHost: a\r\n: x\r\nHOST:  \t b \r\nHost"
    ∃ reply, (Reader.step refusingZlib { stream := ⟨[], [head, crlf2]⟩ }).reply = some reply ∧
      reply.getHeader (bytes "hOST") = bytes "b " ∧ reply.hasHeader (bytes "Hos") = false := by
  intro head
  have starts : Reader.StartsWith { stream := ⟨[], [head, crlf2]⟩ } head :=
    ⟨rfl, ⟨[], by decide +kernel⟩, by decide +kernel⟩
  have lookup := fun key keyFree => getHeader_lastNaming refusingZlib _ head
    (bytes "GET / HTTP/1.1") key
    [bytes "Host: a", bytes ": x", bytes "HOST:  \t b ", bytes "Host"] starts (by decide +kernel)
    (by decide) (by decide +kernel) (by decide +kernel) keyFree
  obtain ⟨⟨reply, holds, value, -⟩, -⟩ := lookup (bytes "hOST") (by decide)
  obtain ⟨⟨other, holdsOther, -, absent⟩, -⟩ := lookup (bytes "Hos") (by decide)
  cases holds.symm.trans holdsOther
  refine ⟨reply, holds, ?_, ?_⟩
  · rw [value]
    decide +kernel
  · rw [← Bool.not_eq_true, absent]
    decide +kernel

/-- The value without a sign at its front. -/
def unsigned (value : Bytes) : Bytes :=
  match value with
  | 45 :: rest => rest
  | 43 :: rest => rest
  | _ => value

/-- The digits that `stoul` reads, when no blank stands before them. -/
def leadingDigits (value : Bytes) : Bytes :=
  (unsigned value).takeWhile fun byte => (digitValue 10 byte).isSome

theorem takeWhile_cstr (text : Bytes) :
    (cstr text).takeWhile (fun byte => (digitValue 10 byte).isSome) =
      text.takeWhile fun byte => (digitValue 10 byte).isSome := by
  rw [cstr, List.takeWhile_takeWhile]
  congr 1
  funext byte
  by_cases nul : byte = 0
  · subst nul
    decide
  · simp [nul]

theorem unsigned_of_head {value : Bytes} (notPlus : value.head? ≠ some 43)
    (notMinus : value.head? ≠ some 45) : unsigned value = value := by
  unfold unsigned
  split
  next rest => exact absurd rfl notMinus
  next rest => exact absurd rfl notPlus
  next => rfl

/-- What is read of a text that does not begin with a blank. -/
theorem scanInteger_unblank {value : Bytes}
    (noBlank : ∀ byte, value.head? = some byte → isspace byte = false) :
    (scanInteger 10 value).map (fun scanned => (scanned.1, scanned.2.1)) =
      if leadingDigits value = [] then none
      else some (decide (value.head? = some 45), magnitude 10 (leadingDigits value)) := by
  cases value with
  | nil => rfl
  | cons first rest =>
      by_cases nul : first = 0
      · subst nul
        rfl
      · have shape : cstr (first :: rest) = first :: cstr rest :=
          List.takeWhile_cons_of_pos (by simpa using nul)
        have noBlanks : (first :: cstr rest).takeWhile isspace = [] :=
          List.takeWhile_cons_of_neg (by simp [noBlank first rfl])
        by_cases minus : first = 45
        · subst minus
          have digits : leadingDigits (45 :: rest) =
              (cstr rest).takeWhile fun byte => (digitValue 10 byte).isSome :=
            (takeWhile_cstr rest).symm
          unfold scanInteger
          simp only [digits, shape, noBlanks, List.length_nil, List.drop_zero, List.drop_succ_cons,
            List.head?_cons, List.isEmpty_iff]
          split <;> rfl
        · by_cases plus : first = 43
          · subst plus
            have digits : leadingDigits (43 :: rest) =
                (cstr rest).takeWhile fun byte => (digitValue 10 byte).isSome :=
              (takeWhile_cstr rest).symm
            unfold scanInteger
            simp only [digits, shape, noBlanks, List.length_nil, List.drop_zero,
              List.drop_succ_cons, List.head?_cons, List.isEmpty_iff]
            split <;> rfl
          · have noSign := unsigned_sign (first :: cstr rest) (by simpa using plus)
              (by simpa using minus)
            have digits : leadingDigits (first :: rest) =
                (first :: cstr rest).takeWhile fun byte => (digitValue 10 byte).isSome := by
              rw [leadingDigits, unsigned_of_head (by simpa using plus) (by simpa using minus),
                ← shape, takeWhile_cstr]
            unfold scanInteger
            simp only [digits, shape, noBlanks, noSign, List.length_nil, List.drop_zero,
              List.head?_cons, List.isEmpty_iff]
            split <;> rfl

/-- A value that `stoul` refuses, or the whole of which it reads as a number. -/
def Unambiguous (value : Bytes) : Prop :=
  (∀ byte ∈ value, (digitValue 10 byte).isSome = true) ∨ leadingDigits value = [] ∨
    2 ^ 64 ≤ magnitude 10 (leadingDigits value)

/-- The value is the decimal text of the length. -/
structure IsLength (value : Bytes) (length : Nat) : Prop where
  nonempty : value ≠ []
  areDigits : ∀ byte ∈ value, (digitValue 10 byte).isSome = true
  denotes : magnitude 10 value = length
  fits : length < 2 ^ 64

/-- The value begins with no blank. -/
def Trimmed (value : Bytes) : Prop := ∀ byte, value.head? = some byte → isspace byte = false

theorem headerValue_trimmed (line : Bytes) : Trimmed (headerValue line) := by
  intro byte head
  have stops := List.head?_dropWhile_not isspace (line.drop ((headerKey line).length + 1))
  rw [headerValue] at head
  rw [head] at stops
  exact stops

theorem parseHeaderLine_trimmed {line : Bytes} {headers : HeaderMap}
    (trimmed : ∀ key value, headers.find key = some value → Trimmed value) {key value : Bytes}
    (found : (parseHeaderLine line headers).find key = some value) : Trimmed value := by
  by_cases ignored : 58 ∈ line → headerKey line = []
  · rw [parseHeaderLine_ignored ignored] at found
    exact trimmed key value found
  · rw [Classical.not_imp] at ignored
    rw [parseHeaderLine_named ignored.1 ignored.2, HeaderMap.find_set] at found
    split at found
    · cases found
      exact headerValue_trimmed line
    · exact trimmed key value found

/-- Every value in the map is trimmed. -/
theorem parseHeaderLines_trimmed (lines : List Bytes) {headers : HeaderMap}
    (trimmed : ∀ key value, headers.find key = some value → Trimmed value) :
    ∀ key value, (parseHeaderLines lines headers).find key = some value → Trimmed value := by
  induction lines generalizing headers with
  | nil => exact trimmed
  | cons line lines inductionHypothesis =>
      exact inductionHypothesis fun key value => parseHeaderLine_trimmed trimmed

/-- Only a block with a valid first line has headers. -/
theorem parseHead_valid {head key : Bytes} (present : (parseHead head).1.hasHeader key = true) :
    ∃ first lines start, Utils.split head crlf = first :: lines ∧ first ≠ [] ∧
      parseFirstLine first { headers := head } = some start := by
  unfold parseHead at present
  simp only at present
  split at present
  · cases present
  next first lines cut =>
    split at present
    · cases present
    next nonempty =>
      cases parsed : parseFirstLine first { headers := head } with
      | none =>
          rw [parsed] at present
          cases present
      | some start =>
          exact ⟨first, lines, start, cut, fun empty => nonempty (by rw [empty]; rfl), parsed⟩

/-- What follows a block with a `Content-Length`. -/
theorem parseHead_length {head : Bytes}
    (present : (parseHead head).1.hasHeader (bytes "Content-Length") = true) :
    Trimmed ((parseHead head).1.getHeader (bytes "Content-Length")) ∧
      (parseHead head).2 =
        match stoul ((parseHead head).1.getHeader (bytes "Content-Length")) 10 with
        | none => .protocolError
        | some (length, _) => .contentLength length := by
  obtain ⟨first, lines, start, cut, nonempty, parsed⟩ := parseHead_valid present
  have headers := parseHead_headers cut nonempty (by rw [parsed]; rfl)
  rw [HttpReply.hasHeader, headers] at present
  rw [HttpReply.getHeader, headers]
  constructor
  · obtain ⟨value, found⟩ := Option.isSome_iff_exists.mp present
    rw [found]
    exact parseHeaderLines_trimmed lines (fun _ _ nothing => by cases nothing) _ _ found
  · simp only [parseHead, cut, List.isEmpty_iff, nonempty, if_false, parsed, HttpReply.hasHeader,
      HttpReply.getHeader, present, if_true]
    cases stoul (((parseHeaderLines lines []).find (bytes "Content-Length")).getD []) 10 with
    | none => rfl
    | some result => rfl

/-- What `stoul` makes of a value that begins with no blank. -/
theorem stoul_trimmed {value : Bytes} (trimmed : Trimmed value) :
    (stoul value 10).map Prod.fst =
      if leadingDigits value = [] ∨ 2 ^ 64 ≤ magnitude 10 (leadingDigits value) then none
      else some (if value.head? = some 45
        then (2 ^ 64 - magnitude 10 (leadingDigits value)) % 2 ^ 64
        else magnitude 10 (leadingDigits value)) := by
  have scanned := scanInteger_unblank trimmed
  unfold stoul
  by_cases empty : leadingDigits value = []
  · rw [if_pos empty, Option.map_eq_none_iff] at scanned
    rw [scanned, if_pos (.inl empty)]
    rfl
  · rw [if_neg empty, Option.map_eq_some_iff] at scanned
    obtain ⟨⟨negative, number, used⟩, scans, same⟩ := scanned
    simp only [Prod.mk.injEq] at same
    obtain ⟨rfl, rfl⟩ := same
    rw [scans]
    by_cases large : 2 ^ 64 ≤ magnitude 10 (leadingDigits value)
    · simp only [large, or_true, if_true, Option.map_none]
    · simp only [large, empty, or_self, if_false, Option.map_some, decide_eq_true_eq]

/-- A value of digits is all there is to read. -/
theorem leadingDigits_of_digits {value : Bytes}
    (areDigits : ∀ byte ∈ value, (digitValue 10 byte).isSome = true) :
    value.head? ≠ some 45 ∧ leadingDigits value = value := by
  have notSign : ∀ sign, (sign = 43 ∨ sign = 45) → value.head? ≠ some sign := by
    rintro sign isSign head
    have isDigit := areDigits sign (List.mem_of_mem_head? head)
    rcases isSign with rfl | rfl
    · exact absurd isDigit (by decide)
    · exact absurd isDigit (by decide)
  refine ⟨notSign 45 (.inr rfl), ?_⟩
  rw [leadingDigits, unsigned_of_head (notSign 43 (.inl rfl)) (notSign 45 (.inr rfl))]
  exact List.takeWhile_eq_self_iff.mpr areDigits

namespace Reader

/-- After the block, the connection has failed or waits for a body of the
length that the value denotes. -/
def LengthTaken (value : Bytes) (reader next : Reader) : Prop :=
  (∃ reply, next.pending = none ∧
    next.handled = reader.handled ++ [(.protocolError, reply)]) ∨
  ∃ length reply, next.pending = some (.body length reply) ∧ IsLength value length

theorem lengthTaken_refused {value : Bytes} {reader : Reader} {later : Stream}
    {parsed : HttpReply × BodyKind} (kind : parsed.2 = .protocolError) :
    LengthTaken value reader
      (afterHead { reader with stream := later, pending := none } parsed) := by
  rcases parsed with ⟨reply, _⟩
  cases kind
  exact .inl ⟨reply, rfl, rfl⟩

theorem lengthTaken_waiting {value : Bytes} {reader : Reader} {later : Stream} {length : Nat}
    {parsed : HttpReply × BodyKind} (kind : parsed.2 = .contentLength length) :
    LengthTaken value reader (afterHead { reader with stream := later, pending := none } parsed) ↔
      IsLength value length := by
  rcases parsed with ⟨reply, _⟩
  cases kind
  constructor
  · rintro (⟨_, done, -⟩ | ⟨other, _, waits, isLength⟩)
    · cases done
    · cases waits
      exact isLength
  · exact fun isLength => .inr ⟨length, reply, rfl, isLength⟩

end Reader

/-- A length that `stoul` returns is the one that the value denotes when the
value has digits only. -/
theorem isLength_iff {value : Bytes} {length used : Nat} (trimmed : Trimmed value)
    (converted : stoul value 10 = some (length, used)) :
    IsLength value length ↔ Unambiguous value := by
  have reads := stoul_trimmed trimmed
  rw [converted] at reads
  split at reads
  next => cases reads
  next accepted =>
    constructor
    · exact fun isLength => .inl isLength.areDigits
    · rintro (areDigits | refused)
      · obtain ⟨notMinus, whole⟩ := leadingDigits_of_digits areDigits
        rw [not_or, whole] at accepted
        rw [if_neg notMinus, whole] at reads
        exact ⟨accepted.1, areDigits, (Option.some.inj reads).symm, stoul_lt converted⟩
      · exact absurd refused accepted

/-- A header that is missing has no value. -/
theorem getHeader_missing {reply : HttpReply} {key : Bytes}
    (missing : ¬ reply.hasHeader key = true) : reply.getHeader key = [] := by
  rw [HttpReply.hasHeader, Bool.not_eq_true, Option.isSome_eq_false_iff,
    Option.isNone_iff_eq_none] at missing
  rw [HttpReply.getHeader, missing]
  rfl

/-- The length of a body is taken at its value or rejected exactly when `stoul`
refuses the value or reads nothing but its digits. The block has the header, or
it is refused before its headers are read. -/
theorem contentLength_taken_iff (zlib : Zlib) (reader : Reader) (head : Bytes)
    (starts : reader.StartsWith head)
    (present : (parseHead head).1.hasHeader (bytes "Content-Length") = true ∨
      (parseHead head).2 = .protocolError) :
    let value := (parseHead head).1.getHeader (bytes "Content-Length")
    Reader.LengthTaken value reader (Reader.step zlib reader) ↔ Unambiguous value := by
  intro value
  obtain ⟨later, stepped⟩ := Reader.step_head zlib starts
  rw [stepped]
  by_cases has : (parseHead head).1.hasHeader (bytes "Content-Length") = true
  swap
  · have empty : value = [] := getHeader_missing has
    refine iff_of_true (Reader.lengthTaken_refused (present.resolve_left has)) (.inl ?_)
    rw [empty]
    exact fun byte member => absurd member List.not_mem_nil
  obtain ⟨trimmed, kind⟩ := parseHead_length has
  cases converted : stoul value 10 with
  | none =>
      rw [converted] at kind
      have reads := stoul_trimmed trimmed
      rw [converted, Option.map_none] at reads
      have refused := ite_eq_left_iff.mp reads.symm
      refine iff_of_true (Reader.lengthTaken_refused kind) (.inr (Classical.byContradiction ?_))
      intro accepted
      cases refused accepted
  | some result =>
      obtain ⟨length, used⟩ := result
      rw [converted] at kind
      rw [Reader.lengthTaken_waiting kind]
      exact isLength_iff trimmed converted

/-- A connection that gets a header block with this `Content-Length`. -/
def lengthBlock (value : String) : Bytes :=
  bytes "POST / HTTP/1.1\r\ncontent-length: " ++ bytes value

theorem contentLength_taken_iff_twelve :
    Reader.LengthTaken (bytes "0012") { stream := ⟨[], [lengthBlock "0012", crlf2]⟩ }
      (Reader.step refusingZlib { stream := ⟨[], [lengthBlock "0012", crlf2]⟩ }) := by
  have starts : Reader.StartsWith { stream := ⟨[], [lengthBlock "0012", crlf2]⟩ }
      (lengthBlock "0012") := ⟨rfl, ⟨[], by decide +kernel⟩, by decide +kernel⟩
  have value : (parseHead (lengthBlock "0012")).1.getHeader (bytes "Content-Length") =
      bytes "0012" := by
    decide +kernel
  have taken := contentLength_taken_iff refusingZlib _ _ starts (.inl (by decide +kernel))
  simp only [value] at taken
  exact taken.mpr (.inl (by decide +kernel))

/-- Garbage behind the digits is dropped, and a minus sign makes the largest
length. -/
theorem contentLength_not_taken :
    let garbage : Reader := { stream := ⟨[], [lengthBlock "5abc", crlf2]⟩ }
    let minus : Reader := { stream := ⟨[], [lengthBlock "-1", crlf2]⟩ }
    (∃ reply, (Reader.step refusingZlib garbage).pending = some (.body 5 reply)) ∧
      ¬ Reader.LengthTaken (bytes "5abc") garbage (Reader.step refusingZlib garbage) ∧
      (∃ reply, (Reader.step refusingZlib minus).pending = some (.body (2 ^ 64 - 1) reply)) ∧
      ¬ Reader.LengthTaken (bytes "-1") minus (Reader.step refusingZlib minus) := by
  intro garbage minus
  have garbageWaits : (Reader.step refusingZlib garbage).pending =
      some (.body 5 (parseHead (lengthBlock "5abc")).1) := by
    decide +kernel
  have minusWaits : (Reader.step refusingZlib minus).pending =
      some (.body (2 ^ 64 - 1) (parseHead (lengthBlock "-1")).1) := by
    decide +kernel
  refine ⟨⟨_, garbageWaits⟩, ?_, ⟨_, minusWaits⟩, ?_⟩
  · rintro (⟨reply, done, -⟩ | ⟨length, reply, -, isLength⟩)
    · rw [garbageWaits] at done
      cases done
    · exact absurd (isLength.areDigits 97 (by decide)) (by decide)
  · rintro (⟨reply, done, -⟩ | ⟨length, reply, -, isLength⟩)
    · rw [minusWaits] at done
      cases done
    · exact absurd (isLength.areDigits 45 (by decide)) (by decide)

end GeoChat
