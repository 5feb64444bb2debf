import GeoChat.Rapidjson.Soundness

/-!
# What the parser does not refuse

A text of the grammar is read to its end, when what follows does not go on with
its last number. A document is exact when it has no doubles: only then the
parser can decide about it without arithmetic on them.
-/

namespace GeoChat.Rapidjson

open Library

section Leaves

variable {behind : Memory}

@[simp] theorem peek_cons (byte : UInt8) (rest : Memory) : peek (byte :: rest) = .ok byte := rfl

@[simp] theorem take_cons (byte : UInt8) (rest : Memory) :
    take (byte :: rest) = .ok (byte, rest) := rfl

theorem skipWhitespace_blank {blank : Bytes} (isBlank : Blank blank) {byte : UInt8}
    (solid : Rapidjson.isBlank byte = false) :
    skipWhitespace (blank ++ byte :: behind) = .ok (byte :: behind) := by
  induction blank with
  | nil => simp [skipWhitespace, solid]
  | cons first rest inductionHypothesis =>
      rcases List.forall_mem_cons.mp isBlank with ⟨firstBlank, others⟩
      rw [List.cons_append, skipWhitespace, if_pos firstBlank]
      exact inductionHypothesis others

theorem parseHex_digits {digits : Bytes}
    (areHex : ∀ byte ∈ digits, (digitValue 16 byte).isSome = true) (codepoint : Nat) :
    parseHex digits.length codepoint (digits ++ behind) =
      .ok (digits.foldl (fun value byte => 16 * value + (digitValue 16 byte).getD 0) codepoint,
        behind) := by
  induction digits generalizing codepoint with
  | nil => rfl
  | cons byte rest inductionHypothesis =>
      rcases List.forall_mem_cons.mp areHex with ⟨hex, others⟩
      rcases Option.isSome_iff_exists.mp hex with ⟨value, known⟩
      simp only [List.length_cons, List.cons_append, parseHex, take_cons, ok_bind, known,
        List.foldl_cons, Option.getD_some, Nat.mul_comm codepoint]
      exact inductionHypothesis others _

theorem HexText.parsed {digits : Bytes} {codepoint : Nat} (hex : HexText digits codepoint) :
    parseHex 4 0 (digits ++ behind) = .ok (codepoint, behind) := by
  rcases hex with ⟨length, areHex, rfl⟩
  rw [← length, parseHex_digits areHex]
  rfl

theorem EscapeText.parsed {symbols put : Bytes} (escaped : EscapeText symbols put) :
    parseEscape (symbols ++ behind) = .ok (put, behind) := by
  have letter : escapes.lookup 117 = none := by decide
  cases escaped with
  | listed listed => simp only [parseEscape, List.cons_append, take_cons, ok_bind, listed]; rfl
  | unicode hex single encodes =>
      rw [HighSurrogate] at single
      simp only [parseEscape, List.cons_append, take_cons, ok_bind, letter, if_true, parseUnicode,
        hex.parsed, if_neg single, encodes]
      rfl
  | pair hexHigh isHigh hexLow isLow encodes =>
      rw [HighSurrogate] at isHigh
      rcases isLow with ⟨lower, upper⟩
      have inRange : ¬ (_ < 0xDC00 ∨ 0xDFFF < _) :=
        not_or.mpr ⟨Nat.not_lt.mpr lower, Nat.not_lt.mpr upper⟩
      simp only [parseEscape, List.cons_append, List.append_assoc, take_cons, ok_bind, letter,
        if_true, parseUnicode, hexHigh.parsed, if_pos isHigh, ne_eq, not_true_eq_false, if_false,
        hexLow.parsed, if_neg inRange, encodes]
      rfl

theorem Chars.parsed {text decoded : Bytes} (chars : Chars text decoded) (turns : Nat)
    (os : Bytes) (enough : text.length < turns) :
    parseChars turns (text ++ 34 :: behind) os = .ok (os ++ decoded, behind) := by
  induction chars generalizing turns os with
  | nil =>
      cases turns with
      | zero => exact absurd enough (Nat.not_lt_zero _)
      | succ turns => simp [parseChars]
  | @plain byte text decoded shown noQuote noBackslash rest inductionHypothesis =>
      cases turns with
      | zero => exact absurd enough (Nat.not_lt_zero _)
      | succ turns =>
          have nonzero : byte ≠ 0 := by
            rintro rfl
            exact absurd shown (by decide)
          rw [List.length_cons] at enough
          simp only [List.cons_append, parseChars, peek_cons, ok_bind, if_neg noBackslash,
            if_neg noQuote, if_neg nonzero, if_neg (UInt8.not_lt.mpr shown), take_cons]
          rw [inductionHypothesis turns _ (by omega), List.append_assoc]
          rfl
  | @escape symbols put text decoded escaped rest inductionHypothesis =>
      cases turns with
      | zero => exact absurd enough (Nat.not_lt_zero _)
      | succ turns =>
          simp only [List.length_append, List.length_cons] at enough
          simp only [List.cons_append, List.append_assoc, parseChars, peek_cons, ok_bind, if_true,
            take_cons, escaped.parsed]
          rw [inductionHypothesis turns _ (by omega), List.append_assoc]

theorem Chars.parsedString {text decoded : Bytes} (chars : Chars text decoded) :
    parseString (34 :: text ++ 34 :: behind) = .ok (decoded, behind) := by
  simp only [parseString, List.cons_append, take_cons, ok_bind, ne_eq, not_true_eq_false, if_false]
  exact chars.parsed _ [] (by simp only [List.length_append, List.length_cons]; omega)

end Leaves

section Numbers

variable {doubles : Doubles} {behind : Memory}

/-- A byte that does not go on with a number. -/
def ends (byte : UInt8) : Bool := !isDigit byte && byte ≠ 46 && byte ≠ 101 && byte ≠ 69

/-- What is ahead does not go on with a number. -/
def Delimited (behind : Memory) : Prop := ∃ byte rest, behind = byte :: rest ∧ ends byte = true

theorem scanInteger_digits {limit : Nat} {last : UInt8} (lastDigit : isDigit last = true)
    {digits : Bytes} (areDigits : Digits digits) {byte : UInt8} (ended : isDigit byte = false)
    (value significandDigit : Nat) :
    ∃ scanned more, scanInteger limit last (digits ++ byte :: behind) value significandDigit =
        .ok scanned ∧ scanned.memory = more ++ byte :: behind ∧ Digits more ∧
      continued scanned.value more = continued value digits ∧
      (scanned.broke = false → more = []) ∧
      (continued value digits ≤ limit * 10 + digit last → scanned.broke = false) := by
  induction digits generalizing value significandDigit with
  | nil =>
      refine ⟨⟨value, significandDigit, false, byte :: behind⟩, [], ?_, rfl, .nil, rfl,
        fun _ => rfl, fun _ => rfl⟩
      simp [scanInteger, ended]
  | cons first rest inductionHypothesis =>
      rcases List.forall_mem_cons.mp areDigits with ⟨firstDigit, others⟩
      rw [List.cons_append, scanInteger, if_pos firstDigit,
        if_congr (exceeds_iff lastDigit firstDigit) rfl rfl]
      split
      next exceeds =>
        refine ⟨_, first :: rest, rfl, rfl, areDigits, rfl,
          (fun broke => Bool.noConfusion broke), ?_⟩
        intro fits
        have grows := le_continued (value * 10 + digit first) rest
        rw [continued_cons] at fits
        omega
      next => exact inductionHypothesis others _ _

theorem scanInteger_whole {limit : Nat} {last : UInt8} (lastDigit : isDigit last = true)
    {digits : Bytes} (areDigits : Digits digits) {byte : UInt8} (ended : isDigit byte = false)
    (value significandDigit : Nat) (fits : continued value digits ≤ limit * 10 + digit last) :
    ∃ scanned, scanInteger limit last (digits ++ byte :: behind) value significandDigit =
        .ok scanned ∧ scanned.memory = byte :: behind ∧ scanned.value = continued value digits ∧
      scanned.broke = false := by
  rcases @scanInteger_digits behind limit last lastDigit digits areDigits byte ended value
    significandDigit with ⟨scanned, more, returned, memory, _, sum, whole, unbroken⟩
  have unbroken := unbroken fits
  obtain rfl := whole unbroken
  exact ⟨scanned, returned, memory, sum, unbroken⟩

/-- The second loop goes on where the first one stopped. -/
theorem continueInteger_whole (minus : Bool) {more : Bytes} (areDigits : Digits more) {byte : UInt8}
    (ended : isDigit byte = false) {small : Scanned}
    (memory : small.memory = more ++ byte :: behind) (whole : small.broke = false → more = [])
    (fits : continued small.value more ≤ bound minus) :
    ∃ scanned, (if small.broke then
        if minus then
          scanInteger 0x0CCCCCCCCCCCCCCC 56 small.memory small.value small.significandDigit
        else scanInteger 0x1999999999999999 53 small.memory small.value small.significandDigit
      else pure small) = .ok scanned ∧ scanned.memory = byte :: behind ∧
      scanned.value = continued small.value more ∧ scanned.broke = false := by
  cases broke : small.broke with
  | true =>
      rw [if_pos rfl, memory]
      cases minus with
      | true =>
          rw [if_pos rfl]
          exact scanInteger_whole (by decide) areDigits ended _ _ fits
      | false =>
          rw [if_neg Bool.false_ne_true]
          exact scanInteger_whole (by decide) areDigits ended _ _ fits
  | false =>
      obtain rfl := whole broke
      rw [if_neg Bool.false_ne_true]
      exact ⟨small, rfl, memory, rfl, broke⟩

theorem parseInteger_whole (minus : Bool) {int : Bytes} (isInt : IntText int) {byte : UInt8}
    (ended : isDigit byte = false) (fits : continued 0 int ≤ bound minus) :
    ∃ scanned, parseInteger minus (int ++ byte :: behind) = .ok scanned ∧
      scanned.memory = byte :: behind ∧ scanned.value = continued 0 int ∧
      scanned.broke = false := by
  cases isInt with
  | zero => exact ⟨⟨0, 0, false, byte :: behind⟩, rfl, rfl, rfl, rfl⟩
  | @digits first rest lead nonzero areDigits =>
      rw [continued_cons, Nat.zero_mul, Nat.zero_add] at fits ⊢
      simp only [parseInteger, List.cons_append, take_cons, ok_bind, if_neg nonzero, if_pos lead]
      cases minus with
      | true =>
          rcases @scanInteger_digits behind 214748364 56 (by decide) rest areDigits byte ended
            (digit first) 0 with ⟨small, more, returned, memory, areMore, sum, whole, -⟩
          rw [if_pos rfl, returned, ok_bind, ← sum]
          exact continueInteger_whole true areMore ended memory whole (sum ▸ fits)
      | false =>
          rcases @scanInteger_digits behind 429496729 53 (by decide) rest areDigits byte ended
            (digit first) 0 with ⟨small, more, returned, memory, areMore, sum, whole, -⟩
          rw [if_neg Bool.false_ne_true, returned, ok_bind, ← sum]
          exact continueInteger_whole false areMore ended memory whole (sum ▸ fits)

theorem IntText.first {int : Bytes} (isInt : IntText int) :
    ∃ first rest, int = first :: rest ∧ isDigit first = true := by
  cases isInt with
  | zero => exact ⟨48, [], rfl, rfl⟩
  | digits lead _ _ => exact ⟨_, _, rfl, lead⟩

theorem takeMinus_text (minus : Bool) {int : Bytes} (isInt : IntText int) :
    takeMinus (minusText minus ++ int ++ behind) = .ok (minus, int ++ behind) := by
  cases minus with
  | true => rfl
  | false =>
      obtain ⟨first, rest, rfl, lead⟩ := isInt.first
      have notMinus : first ≠ 45 := by
        rintro rfl
        cases lead
      simp [takeMinus, minusText, notMinus]
      rfl

/-- An integer that its type has is read without a `double`. -/
theorem parseNumber_int (minus : Bool) {int : Bytes} (isInt : IntText int)
    (delimited : Delimited behind) (fits : continued 0 int ≤ bound minus) :
    parseNumber doubles (minusText minus ++ int ++ behind) =
      .ok (.int (if minus then -(continued 0 int : Int) else continued 0 int), behind) := by
  obtain ⟨byte, rest, rfl, ended⟩ := delimited
  simp only [ends, Bool.and_eq_true, Bool.not_eq_true', decide_eq_true_eq] at ended
  rcases ended with ⟨⟨⟨notDigit, notPoint⟩, notSmall⟩, notLarge⟩
  rcases @parseInteger_whole rest minus int isInt byte notDigit fits with
    ⟨scanned, returned, memory, value, unbroken⟩
  have notMark : ¬ (byte = 101 ∨ byte = 69) := not_or.mpr ⟨notSmall, notLarge⟩
  simp only [parseNumber, takeMinus_text minus isInt, ok_bind, returned, forceBig, unbroken,
    Bool.false_eq_true, if_false, pure, Except.pure, parseFraction, memory, peek_cons,
    if_neg notPoint, parseExponent, if_neg notMark, value]

end Numbers

/-- The document has no doubles, and its integers have 64 bits. -/
inductive Exact : Json → Prop
  | null : Exact .null
  | bool (value : Bool) : Exact (.bool value)
  | int {value : Int} (lower : -2 ^ 63 ≤ value) (upper : value < 2 ^ 64) : Exact (.int value)
  | string (text : Bytes) : Exact (.string text)
  | array {elements : List Json} (each : ∀ element ∈ elements, Exact element) :
      Exact (.array elements)
  | object {members : List (Bytes × Json)} (each : ∀ member ∈ members, Exact member.2) :
      Exact (.object members)

section Heads

/-- A byte that starts a value or a member, and ends neither blanks nor the
text. -/
def solid (byte : UInt8) : Bool := !isBlank byte && byte ≠ 93 && byte ≠ 125 && byte ≠ 0

theorem solid_digit {byte : UInt8} (digit : isDigit byte = true) : solid byte = true :=
  @forall_byte (fun byte => isDigit byte = true → solid byte = true) (by decide +kernel) byte digit

/-- Where a number starts, no other value does. -/
theorem number_head {byte : UInt8} (starts : byte = 45 ∨ isDigit byte = true) :
    byte ≠ 110 ∧ byte ≠ 116 ∧ byte ≠ 102 ∧ byte ≠ 34 ∧ byte ≠ 123 ∧ byte ≠ 91 :=
  @forall_byte (fun byte => byte = 45 ∨ isDigit byte = true →
    byte ≠ 110 ∧ byte ≠ 116 ∧ byte ≠ 102 ∧ byte ≠ 34 ∧ byte ≠ 123 ∧ byte ≠ 91)
    (by decide +kernel) byte starts

theorem NumberText.head {text : Bytes} {number : Json} (isNumber : NumberText text number) :
    ∃ byte rest, text = byte :: rest ∧ (byte = 45 ∨ isDigit byte = true) := by
  cases isNumber with
  | parts minus isInt isFrac isExp =>
      obtain ⟨first, rest, rfl, lead⟩ := isInt.first
      cases minus with
      | true => exact ⟨45, _, rfl, .inl rfl⟩
      | false => exact ⟨first, _, rfl, .inr lead⟩

theorem Derives.head {text : Bytes} {part : Part} (derives : Derives text part) :
    ∃ byte rest, text = byte :: rest ∧ solid byte = true := by
  induction derives with
  | null => exact ⟨110, _, rfl, by decide⟩
  | isTrue => exact ⟨116, _, rfl, by decide⟩
  | isFalse => exact ⟨102, _, rfl, by decide⟩
  | string => exact ⟨34, _, rfl, by decide⟩
  | number isNumber =>
      obtain ⟨byte, rest, same, starts⟩ := isNumber.head
      refine ⟨byte, rest, same, ?_⟩
      rcases starts with rfl | digit
      · decide
      · exact solid_digit digit
  | emptyArray => exact ⟨91, _, rfl, by decide⟩
  | array => exact ⟨91, _, rfl, by decide⟩
  | emptyObject => exact ⟨123, _, rfl, by decide⟩
  | object => exact ⟨123, _, rfl, by decide⟩
  | member => exact ⟨34, _, rfl, by decide⟩
  | lastElement element blank inductionHypothesis =>
      obtain ⟨byte, rest, rfl, isSolid⟩ := inductionHypothesis
      exact ⟨byte, _, rfl, isSolid⟩
  | moreElements element blank blankLead others inductionHypothesis =>
      obtain ⟨byte, rest, rfl, isSolid⟩ := inductionHypothesis
      exact ⟨byte, _, rfl, isSolid⟩
  | lastMember isMember inductionHypothesis => exact inductionHypothesis
  | moreMembers isMember blankLead others inductionHypothesis =>
      obtain ⟨byte, rest, rfl, isSolid⟩ := inductionHypothesis
      exact ⟨byte, _, rfl, isSolid⟩

theorem isBlank_of_solid {byte : UInt8} (isSolid : solid byte = true) : isBlank byte = false := by
  simp only [solid, Bool.and_eq_true, Bool.not_eq_true'] at isSolid
  exact isSolid.1.1.1

/-- Blanks and a closing byte end a number. -/
theorem Delimited.of_blank {blank : Bytes} (isBlank : Blank blank) {byte : UInt8} {rest : Memory}
    (ended : ends byte = true) : Delimited (blank ++ byte :: rest) := by
  cases blank with
  | nil => exact ⟨byte, rest, rfl, ended⟩
  | cons first others =>
      refine ⟨first, others ++ byte :: rest, rfl, ?_⟩
      exact @forall_byte (fun byte => Rapidjson.isBlank byte = true → ends byte = true)
        (by decide +kernel) first (isBlank first List.mem_cons_self)

end Heads

section Values

variable (doubles : Doubles)

/-- The rest of a turn of `ParseObject`, behind the value of a member. -/
def afterMember (levels turns : Nat) (next : UInt8) (memory : Memory) (stack : Stack)
    (memberCount : Nat) : Parsing (Stack × Memory) :=
  if next = 44 then do
    let memory ← skipWhitespace memory
    parseMembers doubles levels turns memory stack (memberCount + 1)
  else if next = 125 then do
    let stack ← endObject (memberCount + 1) stack
    pure (stack, memory)
  else .error (.error .objectMissCommaOrCurlyBracket)

/-- The parser takes the text of the part off the memory. -/
def Accepts (text : Bytes) : Part → Prop
  | .value value => Exact value → ∀ levels turns stack behind, text.length < levels →
      text.length + 1 ≤ turns → Delimited behind →
      parseValue doubles levels turns (text ++ behind) stack = .ok (value :: stack, behind)
  | .elements elements => (∀ element ∈ elements, Exact element) →
      ∀ levels turns before opener below behind, text.length < levels → text.length + 2 ≤ turns →
      parseElements doubles levels turns (text ++ 93 :: behind) (before.reverse ++ opener :: below)
        before.length = .ok (.array (before ++ elements) :: below, behind)
  | .member member => Exact member.2 → ∀ levels turns stack memberCount next behind,
      text.length < levels → text.length + 1 ≤ turns → ends next = true → isBlank next = false →
      parseMembers doubles levels (turns + 1) (text ++ next :: behind) stack memberCount =
        afterMember doubles levels turns next behind (member.2 :: .string member.1 :: stack)
          memberCount
  | .members members => (∀ member ∈ members, Exact member.2) →
      ∀ levels turns before opener below behind, text.length < levels → text.length + 2 ≤ turns →
      parseMembers doubles levels turns (text ++ 125 :: behind) (pushed before ++ opener :: below)
        before.length = .ok (.object (before ++ members) :: below, behind)

section Cases

variable {doubles} {turns : Nat} {behind : Memory} {stack : Stack}

theorem accepts_number {text : Bytes} {number : Json} (isNumber : NumberText text number) :
    Accepts doubles text (.value number) := by
  intro exact levels turns stack behind room enough delimited
  obtain ⟨levels, rfl⟩ := Nat.exists_eq_add_one_of_ne_zero (Nat.ne_zero_of_lt room)
  cases turns with
  | zero => omega
  | succ turns =>
      obtain ⟨byte, rest, same, starts⟩ := isNumber.head
      rcases number_head starts with ⟨notNull, notTrue, notFalse, notQuote, notBrace, notBracket⟩
      have ahead : peek (text ++ behind) = .ok byte := by rw [same]; rfl
      simp only [parseValue, ahead, ok_bind, if_neg notNull, if_neg notTrue, if_neg notFalse,
        if_neg notQuote, if_neg notBrace, if_neg notBracket]
      cases isNumber with
      | @parts minus int frac exp isInt isFrac isExp =>
          by_cases plain : frac = [] ∧ exp = [] ∧ continued 0 int ≤ bound minus
          · rw [numberValue, if_pos plain]
            rcases plain with ⟨rfl, rfl, fits⟩
            rw [List.append_nil, List.append_nil, parseNumber_int minus isInt delimited fits]
            rfl
          · rw [numberValue, if_neg plain] at exact
            cases exact

theorem accepts_string {text decoded : Bytes} (chars : Chars text decoded) :
    Accepts doubles (34 :: text ++ [34]) (.value (.string decoded)) := by
  intro _ levels turns stack behind room enough _
  obtain ⟨levels, rfl⟩ := Nat.exists_eq_add_one_of_ne_zero (Nat.ne_zero_of_lt room)
  cases turns with
  | zero => omega
  | succ turns =>
      have memory : 34 :: text ++ [34] ++ behind = 34 :: text ++ 34 :: behind := by simp
      have ahead : peek (34 :: text ++ 34 :: behind) = .ok 34 := rfl
      rw [memory]
      simp only [parseValue, ahead, ok_bind, chars.parsedString, if_true]
      rfl

theorem accepts_emptyArray {lead : Bytes} (blank : Blank lead) :
    Accepts doubles (91 :: lead ++ [93]) (.value (.array [])) := by
  intro _ levels turns stack behind room enough _
  obtain ⟨levels, rfl⟩ := Nat.exists_eq_add_one_of_ne_zero (Nat.ne_zero_of_lt room)
  cases turns with
  | zero => omega
  | succ turns =>
      have memory : 91 :: lead ++ [93] ++ behind = 91 :: (lead ++ 93 :: behind) := by simp
      have skipped : skipWhitespace (lead ++ 93 :: behind) = .ok (93 :: behind) :=
        skipWhitespace_blank blank (by decide)
      rw [memory]
      simp only [parseValue, peek_cons, take_cons, ok_bind, skipped, if_true]
      rfl

theorem accepts_emptyObject {lead : Bytes} (blank : Blank lead) :
    Accepts doubles (123 :: lead ++ [125]) (.value (.object [])) := by
  intro _ levels turns stack behind room enough _
  obtain ⟨levels, rfl⟩ := Nat.exists_eq_add_one_of_ne_zero (Nat.ne_zero_of_lt room)
  cases turns with
  | zero => omega
  | succ turns =>
      have memory : 123 :: lead ++ [125] ++ behind = 123 :: (lead ++ 125 :: behind) := by simp
      have skipped : skipWhitespace (lead ++ 125 :: behind) = .ok (125 :: behind) :=
        skipWhitespace_blank blank (by decide)
      rw [memory]
      simp only [parseValue, peek_cons, take_cons, ok_bind, skipped, if_true]
      rfl

theorem solid_ne {byte : UInt8} (isSolid : solid byte = true) :
    byte ≠ 93 ∧ byte ≠ 125 ∧ byte ≠ 0 := by
  simp only [solid, Bool.and_eq_true, decide_eq_true_eq] at isSolid
  exact ⟨isSolid.1.1.2, isSolid.1.2, isSolid.2⟩

theorem accepts_array {lead text : Bytes} {elements : List Json} (blank : Blank lead)
    (inside : Derives text (.elements elements))
    (accepted : Accepts doubles text (.elements elements)) :
    Accepts doubles (91 :: lead ++ text ++ [93]) (.value (.array elements)) := by
  intro exact levels turns stack behind room enough _
  obtain ⟨levels, rfl⟩ := Nat.exists_eq_add_one_of_ne_zero (Nat.ne_zero_of_lt room)
  cases turns with
  | zero => omega
  | succ turns =>
      cases exact with
      | array each =>
          simp only [List.length_append, List.length_cons, List.length_nil] at room enough
          have read := accepted each levels turns [] (.array []) stack behind (by omega) (by omega)
          obtain ⟨byte, rest, rfl, isSolid⟩ := inside.head
          have memory : 91 :: lead ++ byte :: rest ++ [93] ++ behind =
              91 :: (lead ++ byte :: (rest ++ 93 :: behind)) := by simp
          rw [memory]
          simp only [parseValue, peek_cons, take_cons, ok_bind,
            skipWhitespace_blank blank (isBlank_of_solid isSolid), if_neg (solid_ne isSolid).1]
          exact read

theorem accepts_object {lead text : Bytes} {members : List (Bytes × Json)} (blank : Blank lead)
    (inside : Derives text (.members members))
    (accepted : Accepts doubles text (.members members)) :
    Accepts doubles (123 :: lead ++ text ++ [125]) (.value (.object members)) := by
  intro exact levels turns stack behind room enough _
  obtain ⟨levels, rfl⟩ := Nat.exists_eq_add_one_of_ne_zero (Nat.ne_zero_of_lt room)
  cases turns with
  | zero => omega
  | succ turns =>
      cases exact with
      | object each =>
          simp only [List.length_append, List.length_cons, List.length_nil] at room enough
          have read := accepted each levels turns [] (.object []) stack behind (by omega) (by omega)
          obtain ⟨byte, rest, rfl, isSolid⟩ := inside.head
          have memory : 123 :: lead ++ byte :: rest ++ [125] ++ behind =
              123 :: (lead ++ byte :: (rest ++ 125 :: behind)) := by simp
          rw [memory]
          simp only [parseValue, peek_cons, take_cons, ok_bind,
            skipWhitespace_blank blank (isBlank_of_solid isSolid), if_neg (solid_ne isSolid).2.1]
          exact read

theorem accepts_lastElement {text trail : Bytes} {value : Json}
    (accepted : Accepts doubles text (.value value)) (blank : Blank trail) :
    Accepts doubles (text ++ trail) (.elements [value]) := by
  intro exact levels turns before opener below behind room enough
  cases turns with
  | zero => omega
  | succ turns =>
      rw [List.length_append] at room enough
      have read := accepted (exact value List.mem_cons_self) levels turns
        (before.reverse ++ opener :: below) (trail ++ 93 :: behind) (by omega) (by omega)
        (.of_blank blank (by decide))
      have grown : value :: (before.reverse ++ opener :: below) =
          (before ++ [value]).reverse ++ opener :: below := by simp
      have counted : before.length + 1 = (before ++ [value]).length := by simp
      simp only [parseElements, List.append_assoc, read, ok_bind,
        skipWhitespace_blank blank (show isBlank 93 = false by decide), take_cons, if_true]
      rw [grown, counted, endArray_reverse]
      rfl

theorem accepts_moreElements {text trail lead rest : Bytes} {value : Json} {elements : List Json}
    (accepted : Accepts doubles text (.value value)) (blank : Blank trail) (blankLead : Blank lead)
    (others : Derives rest (.elements elements))
    (acceptedOthers : Accepts doubles rest (.elements elements)) :
    Accepts doubles (text ++ trail ++ 44 :: lead ++ rest) (.elements (value :: elements)) := by
  intro exact levels turns before opener below behind room enough
  cases turns with
  | zero => omega
  | succ turns =>
      simp only [List.length_append, List.length_cons] at room enough
      rcases List.forall_mem_cons.mp exact with ⟨exactFirst, exactOthers⟩
      have read := accepted exactFirst levels turns (before.reverse ++ opener :: below)
        (trail ++ 44 :: (lead ++ (rest ++ 93 :: behind))) (by omega) (by omega)
        (.of_blank blank (by decide))
      have readOthers := acceptedOthers exactOthers levels turns (before ++ [value]) opener below
        behind (by omega) (by omega)
      obtain ⟨byte, tail, rfl, isSolid⟩ := others.head
      have memory : text ++ trail ++ 44 :: lead ++ byte :: tail ++ 93 :: behind =
          text ++ (trail ++ 44 :: (lead ++ (byte :: tail ++ 93 :: behind))) := by simp
      have grown : value :: (before.reverse ++ opener :: below) =
          (before ++ [value]).reverse ++ opener :: below := by simp
      have counted : before.length + 1 = (before ++ [value]).length := by simp
      have skipped : skipWhitespace (lead ++ (byte :: tail ++ 93 :: behind)) =
          .ok (byte :: tail ++ 93 :: behind) :=
        skipWhitespace_blank blankLead (isBlank_of_solid isSolid)
      rw [memory]
      simp only [parseElements, read, ok_bind,
        skipWhitespace_blank blank (show isBlank 44 = false by decide), take_cons, if_true, skipped]
      rw [grown, counted, readOthers]
      simp

theorem accepts_member {name decoded before after text trail : Bytes} {value : Json}
    (chars : Chars name decoded) (blankBefore : Blank before) (blankAfter : Blank after)
    (inside : Derives text (.value value)) (accepted : Accepts doubles text (.value value))
    (blank : Blank trail) :
    Accepts doubles (34 :: name ++ 34 :: before ++ 58 :: after ++ text ++ trail)
      (.member (decoded, value)) := by
  intro exact levels turns stack memberCount next behind room enough ended solidNext
  simp only [List.length_append, List.length_cons] at room enough
  have read := accepted exact levels turns (.string decoded :: stack) (trail ++ next :: behind)
    (by omega) (by omega) (.of_blank blank ended)
  obtain ⟨byte, rest, rfl, isSolid⟩ := inside.head
  have memory : 34 :: name ++ 34 :: before ++ 58 :: after ++ byte :: rest ++ trail ++
      next :: behind = 34 :: name ++ 34 :: (before ++ 58 :: (after ++ (byte :: rest ++
        (trail ++ next :: behind)))) := by simp
  have ahead (memory : Memory) : peek (34 :: name ++ memory) = .ok 34 := rfl
  have skipped : skipWhitespace (after ++ (byte :: rest ++ (trail ++ next :: behind))) =
      .ok (byte :: rest ++ (trail ++ next :: behind)) :=
    skipWhitespace_blank blankAfter (isBlank_of_solid isSolid)
  rw [memory]
  simp only [parseMembers, ahead, ok_bind, ne_eq, not_true_eq_false, if_false, chars.parsedString,
    skipWhitespace_blank blankBefore (show isBlank 58 = false by decide), take_cons, skipped, read,
    skipWhitespace_blank blank solidNext]
  rfl

theorem accepts_lastMember {text : Bytes} {member : Bytes × Json}
    (accepted : Accepts doubles text (.member member)) :
    Accepts doubles text (.members [member]) := by
  intro exact levels turns before opener below behind room enough
  cases turns with
  | zero => omega
  | succ turns =>
      rw [accepted (exact member List.mem_cons_self) levels turns _ _ 125 behind room (by omega)
        (by decide) (by decide)]
      have grown : member.2 :: .string member.1 :: (pushed before ++ opener :: below) =
          pushed (before ++ [member]) ++ opener :: below := by
        rw [pushed_concat]
        rfl
      have counted : before.length + 1 = (before ++ [member]).length := by simp
      have notComma : ¬ (125 : UInt8) = 44 := by decide
      rw [afterMember, if_neg notComma, if_pos rfl, grown, counted, endObject_pushed]
      rfl

theorem accepts_moreMembers {text lead rest : Bytes} {member : Bytes × Json}
    {members : List (Bytes × Json)} (accepted : Accepts doubles text (.member member))
    (blankLead : Blank lead) (others : Derives rest (.members members))
    (acceptedOthers : Accepts doubles rest (.members members)) :
    Accepts doubles (text ++ 44 :: lead ++ rest) (.members (member :: members)) := by
  intro exact levels turns before opener below behind room enough
  cases turns with
  | zero => omega
  | succ turns =>
      simp only [List.length_append, List.length_cons] at room enough
      rcases List.forall_mem_cons.mp exact with ⟨exactFirst, exactOthers⟩
      have readOthers := acceptedOthers exactOthers levels turns (before ++ [member]) opener below
        behind (by omega) (by omega)
      obtain ⟨byte, tail, rfl, isSolid⟩ := others.head
      have memory : text ++ 44 :: lead ++ byte :: tail ++ 125 :: behind =
          text ++ 44 :: (lead ++ (byte :: tail ++ 125 :: behind)) := by simp
      have grown : member.2 :: .string member.1 :: (pushed before ++ opener :: below) =
          pushed (before ++ [member]) ++ opener :: below := by
        rw [pushed_concat]
        rfl
      have counted : before.length + 1 = (before ++ [member]).length := by simp
      have skipped : skipWhitespace (lead ++ (byte :: tail ++ 125 :: behind)) =
          .ok (byte :: tail ++ 125 :: behind) :=
        skipWhitespace_blank blankLead (isBlank_of_solid isSolid)
      rw [memory, accepted exactFirst levels turns _ _ 44 _ (by omega) (by omega) (by decide)
        (by decide),
        afterMember, if_pos rfl, skipped, ok_bind, grown, counted, readOthers]
      simp

end Cases

theorem Derives.accepted {text : Bytes} {part : Part} (derives : Derives text part) :
    Accepts doubles text part := by
  induction derives with
  | null =>
      intro _ levels turns stack behind room enough _
      obtain ⟨levels, rfl⟩ := Nat.exists_eq_add_one_of_ne_zero (Nat.ne_zero_of_lt room)
      cases turns with
      | zero => omega
      | succ turns => rw [parseValue]; rfl
  | isTrue =>
      intro _ levels turns stack behind room enough _
      obtain ⟨levels, rfl⟩ := Nat.exists_eq_add_one_of_ne_zero (Nat.ne_zero_of_lt room)
      cases turns with
      | zero => omega
      | succ turns => rw [parseValue]; rfl
  | isFalse =>
      intro _ levels turns stack behind room enough _
      obtain ⟨levels, rfl⟩ := Nat.exists_eq_add_one_of_ne_zero (Nat.ne_zero_of_lt room)
      cases turns with
      | zero => omega
      | succ turns => rw [parseValue]; rfl
  | string chars => exact accepts_string chars
  | number isNumber => exact accepts_number isNumber
  | emptyArray blank => exact accepts_emptyArray blank
  | array blank inside inductionHypothesis => exact accepts_array blank inside inductionHypothesis
  | emptyObject blank => exact accepts_emptyObject blank
  | object blank inside inductionHypothesis => exact accepts_object blank inside inductionHypothesis
  | lastElement element blank inductionHypothesis =>
      exact accepts_lastElement inductionHypothesis blank
  | moreElements element blank blankLead others first rest =>
      exact accepts_moreElements first blank blankLead others rest
  | member chars blankBefore blankAfter inside blank inductionHypothesis =>
      exact accepts_member chars blankBefore blankAfter inside inductionHypothesis blank
  | lastMember isMember inductionHypothesis => exact accepts_lastMember inductionHypothesis
  | moreMembers isMember blankLead others first rest =>
      exact accepts_moreMembers first blankLead others rest

end Values

end GeoChat.Rapidjson
