import GeoChat.Rapidjson.Completeness

/-!
# `Document::Parse`

The memory of a C string is its text and one NUL.
-/

namespace GeoChat.Rapidjson

open Library

section Memory

variable {text before rest : Bytes}

/-- The NUL that is read last is the one that ends the text. -/
theorem text_of_terminator (free : (0 : UInt8) ∉ text)
    (split : text ++ [0] = before ++ 0 :: rest) : text = before ∧ rest = [] := by
  rcases List.append_eq_append_iff.mp split with
    ⟨more, beforeSplit, tail⟩ | ⟨more, textSplit, tail⟩
  · cases more with
    | nil =>
        rw [List.nil_append, List.cons.injEq] at tail
        exact ⟨by rw [beforeSplit, List.append_nil], tail.2.symm⟩
    | cons byte more =>
        rw [List.cons_append, List.cons.injEq] at tail
        exact absurd tail.2 (by simp)
  · cases more with
    | nil =>
        rw [List.nil_append, List.cons.injEq] at tail
        exact ⟨by rw [textSplit, List.append_nil], tail.2⟩
    | cons byte more =>
        rw [List.cons_append, List.cons.injEq] at tail
        exact absurd (by rw [textSplit, tail.1]; simp) free

theorem nul_not_mem_cstr (text : Bytes) : (0 : UInt8) ∉ cstr text := fun member => by
  simpa using List.mem_takeWhile_imp member

theorem held_whole (text : Bytes) : Held (text ++ [0]) (text ++ [0]) :=
  ⟨by simp, List.suffix_refl _⟩

/-- What holds no NUL ends in front of the one that ends the text. -/
theorem before_terminator {inner behind : Bytes} (split : text ++ [0] = before ++ inner ++ behind)
    (some : inner ≠ []) (free : (0 : UInt8) ∉ inner) :
    ∃ start, text = before ++ inner ++ start := by
  rcases List.append_eq_append_iff.mp split with ⟨more, front, tail⟩ | ⟨start, front, -⟩
  · cases more with
    | nil => exact ⟨[], by rw [List.append_nil, front, List.append_nil]⟩
    | cons byte more =>
        -- the text would end with the inner part
        obtain ⟨rfl, rest⟩ := List.cons.inj tail
        obtain ⟨rfl, -⟩ := List.append_eq_nil_iff.mp rest.symm
        obtain ⟨start, last, rfl⟩ := (List.eq_nil_or_concat inner).resolve_left some
        rw [List.concat_eq_append, ← List.append_assoc] at front
        obtain rfl : last = 0 := List.singleton_inj.mp (List.append_inj' front rfl).2
        exact absurd (by simp) free
  · exact ⟨start, front⟩

/-- The NUL is no part of a number. -/
theorem Deep.of_terminated (deep : Deep (text ++ [0])) : Deep text := by
  generalize same : text ++ [0] = whole at deep
  cases deep with
  | @exponent before fraction exponent behind mark areFraction areExponent sum =>
      obtain ⟨start, rfl⟩ := @before_terminator text (before ++ 46 :: fraction ++ [mark])
        (45 :: exponent) behind (by rw [same]; simp) nofun
        (List.not_mem_cons_of_ne_of_not_mem (by decide) areExponent.free)
      have number := @Deep.exponent before fraction exponent start mark areFraction areExponent sum
      simpa using number
  | @fraction before fraction behind areFraction long =>
      obtain ⟨start, rfl⟩ := before_terminator same nofun
        (List.not_mem_cons_of_ne_of_not_mem (by decide) areFraction.free)
      exact .fraction areFraction long

@[simp]
theorem openings_terminated (text : Bytes) : openings (text ++ [0]) = openings text := by
  simp [openings]

end Memory

variable (doubles : Doubles) (levels : Nat) {text : Bytes}

theorem ensures_parseRoot (free : (0 : UInt8) ∉ text) (short : (text ++ [0]).length < 2 ^ 31) :
    Ensures (Tolerated levels (text ++ [0]))
      (fun stack => ∃ document, stack = [document] ∧ DocumentText text document)
      (parseRoot doubles levels (text ++ [0])) := by
  refine .bind (ensures_skipWhitespace (held_whole text)) ?_
  rintro memory ⟨lead, passedLead, blankLead⟩
  refine .bind (ensures_peek passedLead.held) ?_
  rintro first ⟨_, _⟩
  refine .ite (fun _ => trivial) fun _ => ?_
  have opened : Opened levels (text ++ [0]) levels memory :=
    Nat.add_le_add_left passedLead.openings_le levels
  refine .bind ((sound short _).value levels memory [] passedLead.held opened (Nat.le_refl _)) ?_
  rintro ⟨stack, behind⟩ ⟨body, document, passedBody, derives, same⟩
  refine .bind (ensures_skipWhitespace passedBody.held) ?_
  rintro last ⟨trail, passedTrail, blankTrail⟩
  refine .bind (ensures_peek passedTrail.held) ?_
  rintro terminator ⟨rest, rfl⟩
  refine .ite (fun _ => trivial) fun ended => ?_
  obtain rfl : terminator = 0 := not_not.mp ended
  have split := ((passedLead.trans passedBody).trans passedTrail).split
  exact ⟨document, same, lead, body, trail, (text_of_terminator free split).1, blankLead,
    blankTrail, derives⟩

theorem ensures_parseStream (free : (0 : UInt8) ∉ text) (short : (text ++ [0]).length < 2 ^ 31) :
    Ensures (Tolerated levels (text ++ [0])) (DocumentText text)
      (parseStream doubles levels (text ++ [0])) := by
  refine .bind (ensures_parseRoot doubles levels free short) ?_
  rintro stack ⟨document, rfl, isText⟩
  exact isText

/-- Whatever the text of a C string is, the parser reads only its bytes and its
NUL and comes to an end. It aborts only where the exponents of a number leave the
range of `int`, and exhausts a native stack only where the text opens as many
brackets and braces as the stack has room for levels. -/
theorem parseStream_stops (text : Bytes) (short : (cstr text ++ [0]).length < 2 ^ 31)
    (stop : Stop) (stopped : parseStream doubles levels (cstr text ++ [0]) = .error stop) :
    (∃ code, stop = .error code) ∨ (stop = .assertion ∧ Deep (cstr text)) ∨
      stop = .stackExhausted ∧ levels ≤ openings (cstr text) := by
  have tolerated := ensures_parseStream doubles levels (nul_not_mem_cstr text) short
  rw [stopped] at tolerated
  cases stop with
  | error code => exact .inl ⟨code, rfl⟩
  | assertion => exact .inr (.inl ⟨rfl, tolerated.of_terminated⟩)
  | stackExhausted => exact .inr (.inr ⟨rfl, openings_terminated (cstr text) ▸ tolerated⟩)
  | beyond => exact tolerated.elim
  | unfinished => exact tolerated.elim

/-- The numbers that `double` has, without its rounding. -/
def wholeDoubles : Doubles where
  Double := Nat
  ofInteger := id
  push value digit := value * 10 + digit
  tooBig value := 17976931348623157 * 10 ^ 291 ≤ value
  positive value := 0 < value

/-- A number of 25 bytes aborts the process. -/
theorem parseStream_stops_deep :
    let text := bytes "0.0000000001e-2147483639"
    parseStream wholeDoubles 1 (cstr text ++ [0]) = .error .assertion ∧
      Deep (cstr text) := by
  intro text
  have stopped : parseStream wholeDoubles 1 (cstr text ++ [0]) = .error .assertion := rfl
  refine ⟨stopped, ?_⟩
  rcases parseStream_stops wholeDoubles 1 text (by decide) .assertion stopped with
    ⟨code, wrong⟩ | ⟨-, deep⟩ | ⟨wrong, -⟩
  · cases wrong
  · exact deep
  · cases wrong

/-- A bracket takes one level. -/
theorem parseValue_bracket {turns : Nat} {next : UInt8} {memory : Memory} {stack : Stack}
    (solid : isBlank next = false) (other : next ≠ 93) :
    parseValue doubles (levels + 1) (turns + 1) (91 :: next :: memory) stack =
      parseElements doubles levels turns (next :: memory) (.array [] :: stack) 0 := by
  have skipped : skipWhitespace (next :: memory) = .ok (next :: memory) := by
    rw [skipWhitespace, if_neg (Bool.eq_false_iff.mp solid)]
  rw [parseValue]
  simp only [peek_cons, take_cons, ok_bind, skipped, if_neg other]
  rfl

theorem brackets_head (levels : Nat) :
    ∃ next rest, isBlank next = false ∧ next ≠ 93 ∧
      List.replicate levels 91 ++ [0] = next :: rest := by
  cases levels with
  | zero => exact ⟨0, [], by decide, by decide, rfl⟩
  | succ levels => exact ⟨91, _, by decide, by decide, rfl⟩

theorem parseElements_brackets {turns : Nat} (enough : 2 * levels + 2 ≤ turns) (stack : Stack) :
    parseElements doubles levels turns (List.replicate levels 91 ++ [0]) stack 0 =
      .error .stackExhausted := by
  induction levels generalizing turns stack with
  | zero =>
      obtain ⟨turns, rfl⟩ := Nat.exists_eq_add_of_le' enough
      rw [parseElements, parseValue]
      rfl
  | succ levels inductionHypothesis =>
      obtain ⟨turns, rfl⟩ := Nat.exists_eq_add_of_le' (show 2 ≤ turns by omega)
      obtain ⟨next, rest, solid, other, memory⟩ := brackets_head levels
      have deeper := @inductionHypothesis turns (by omega) (.array [] :: stack)
      rw [memory] at deeper
      rw [parseElements, List.replicate_succ, List.cons_append, memory,
        parseValue_bracket doubles levels solid other, deeper]
      rfl

/-- So many brackets exhaust a native stack with room for so many levels. -/
theorem parseStream_brackets :
    parseStream doubles (levels + 1) (List.replicate (levels + 1) 91 ++ [0]) =
      .error .stackExhausted := by
  obtain ⟨next, rest, solid, other, memory⟩ := brackets_head levels
  have enough : 2 * levels + 2 ≤ 2 * (91 :: next :: rest).length := by
    rw [← memory, List.length_cons, List.length_append, List.length_replicate]
    omega
  have deeper := parseElements_brackets doubles levels enough [.array []]
  rw [memory] at deeper
  have value := (parseValue_bracket doubles levels solid other).trans deeper
  have skipped : skipWhitespace (91 :: next :: rest) = .ok (91 :: next :: rest) := rfl
  have notEmpty : (91 : UInt8) ≠ 0 := by decide
  simp only [parseStream, parseRoot, List.replicate_succ, List.cons_append, memory, skipped,
    ok_bind, peek_cons, if_neg notEmpty, value]
  rfl

/-- A text of the grammar is read in full when its document is exact. -/
theorem parseStream_complete {document : Json} (isText : DocumentText text document)
    (exact : Exact document) (room : text.length < levels) :
    parseStream doubles levels (text ++ [0]) = .ok document := by
  obtain ⟨lead, body, trail, rfl, blankLead, blankTrail, derives⟩ := isText
  simp only [List.length_append] at room
  have read := derives.accepted doubles exact levels (2 * (body ++ (trail ++ [0])).length + 1) []
    (trail ++ [0]) (by omega) (by rw [List.length_append]; omega)
    (.of_blank blankTrail (by decide))
  obtain ⟨byte, rest, rfl, isSolid⟩ := derives.head
  have memory : lead ++ byte :: rest ++ trail ++ [0] =
      lead ++ (byte :: rest ++ (trail ++ [0])) := by simp
  have skipped : skipWhitespace (lead ++ (byte :: rest ++ (trail ++ [0]))) =
      .ok (byte :: rest ++ (trail ++ [0])) :=
    skipWhitespace_blank blankLead (isBlank_of_solid isSolid)
  have ahead : peek (byte :: rest ++ (trail ++ [0])) = .ok byte := rfl
  have skippedTrail : skipWhitespace (trail ++ [0]) = .ok [0] :=
    skipWhitespace_blank blankTrail (by decide)
  simp only [parseStream, parseRoot, memory, skipped, ok_bind, ahead, if_neg (solid_ne isSolid).2.2,
    read, skippedTrail, peek_cons, ne_eq, not_true_eq_false, if_false]
  rfl

/-- The parser accepts the texts of the grammar and nothing else, and gives the
document that the grammar gives. -/
theorem parse_iff (text : Bytes) (short : (cstr text ++ [0]).length < 2 ^ 31) (document : Json) :
    (parse doubles text = some document → DocumentText (cstr text) document) ∧
      (Exact document →
        (parse doubles text = some document ↔ DocumentText (cstr text) document)) := by
  have accepts : parse doubles text = some document → DocumentText (cstr text) document := by
    intro returned
    have specified := ensures_parseStream doubles ((cstr text).length + 1) (nul_not_mem_cstr text)
      short
    rw [parse] at returned
    cases read : parseStream doubles ((cstr text).length + 1) (cstr text ++ [0]) with
    | error stop =>
        rw [read] at returned
        cases returned
    | ok other =>
        rw [read] at returned specified
        cases returned
        exact specified
  refine ⟨accepts, fun exact => ⟨accepts, fun isText => ?_⟩⟩
  rw [parse, parseStream_complete doubles _ isText exact (Nat.lt_succ_self _)]
  rfl

theorem parse_iff_list :
    let text := bytes " [1, -2]"
    let document := Json.array [.int 1, .int (-2)]
    parse wholeDoubles text = some document ∧ DocumentText (cstr text) document := by
  intro text document
  have read : parse wholeDoubles text = some document := rfl
  exact ⟨read, (parse_iff wholeDoubles text (by decide) document).1 read⟩

end GeoChat.Rapidjson
