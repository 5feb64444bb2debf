import GeoChat.Library.Outcome
import GeoChat.Rapidjson.Grammar

/-!
# What the parser reads of a string

A function that reads leaves the memory behind a text of its own kind. The NUL
stays ahead of every read position, so no function reads behind the memory.
-/

namespace GeoChat.Rapidjson

open Library

/-- How a computation on the memory may stop: with a parse error, at an assertion
where the memory holds a number that is too deep, or without room for one more
level where the memory opens more of them than the native stack had room for. -/
def Tolerated (room : Nat) (whole : Memory) : Stop → Prop
  | .error _ => True
  | .assertion => Deep whole
  | .stackExhausted => room ≤ openings whole
  | .beyond => False
  | .unfinished => False

variable {room : Nat} {whole : Memory}

/-- A read position: a NUL is ahead of it. -/
structure Held (whole memory : Memory) : Prop where
  terminated : (0 : UInt8) ∈ memory
  within : memory <:+ whole

/-- The read position has moved over the text. -/
structure Passed (whole memory : Memory) (text : Bytes) (rest : Memory) : Prop where
  split : memory = text ++ rest
  held : Held whole rest

namespace Passed

variable {memory middle rest : Memory} {first second text : Bytes}

theorem refl (held : Held whole memory) : Passed whole memory [] memory := ⟨rfl, held⟩

theorem trans (before : Passed whole memory first middle)
    (after : Passed whole middle second rest) : Passed whole memory (first ++ second) rest where
  split := by rw [before.split, after.split, List.append_assoc]
  held := after.held

theorem of_free (held : Held whole memory) (split : memory = text ++ rest)
    (free : (0 : UInt8) ∉ text) : Passed whole memory text rest where
  split := split
  held := by
    subst split
    exact ⟨(List.mem_append.mp held.terminated).resolve_left free,
      (List.suffix_append text rest).trans held.within⟩

/-- What is ahead opens no more than what was. -/
theorem openings_le (passed : Passed whole memory text rest) : openings rest ≤ openings memory := by
  rw [passed.split, openings, openings, List.countP_append]
  exact Nat.le_add_left _ _

theorem cast (passed : Passed whole memory first rest) (same : first = second) :
    Passed whole memory second rest := same ▸ passed

end Passed

/-- The result leaves the memory behind a text of the kind. -/
def Reads {Result : Type} (whole : Memory) (kind : Bytes → Result → Prop) (memory : Memory)
    (result : Result × Memory) : Prop :=
  ∃ text, Passed whole memory text result.2 ∧ kind text result.1

section Bytes

variable {memory : Memory}

theorem ensures_peek (held : Held whole memory) :
    Ensures (Tolerated room whole) (fun byte => ∃ rest, memory = byte :: rest) (peek memory) := by
  cases memory with
  | nil => cases held.terminated
  | cons byte rest => exact ⟨rest, rfl⟩

theorem ensures_take (held : Held whole memory) :
    Ensures (Tolerated room whole) (fun result => memory = result.1 :: result.2) (take memory) := by
  cases memory with
  | nil => cases held.terminated
  | cons byte rest => rfl

theorem Held.passed_one {byte : UInt8} {rest : Memory} (held : Held whole memory)
    (split : memory = byte :: rest) (nonzero : byte ≠ 0) : Passed whole memory [byte] rest :=
  .of_free held split fun member => nonzero (List.mem_singleton.mp member).symm

theorem ensures_skipWhitespace (held : Held whole memory) :
    Ensures (Tolerated room whole)
      (fun rest => ∃ blank, Passed whole memory blank rest ∧ Blank blank)
      (skipWhitespace memory) := by
  induction memory with
  | nil => cases held.terminated
  | cons byte rest inductionHypothesis =>
      rw [skipWhitespace]
      refine .ite (fun blank => ?_) fun _ => ⟨[], .refl held, fun _ member => nomatch member⟩
      have nonzero : byte ≠ 0 := by
        rintro rfl
        cases blank
      have step := held.passed_one rfl nonzero
      refine (inductionHypothesis step.held).mono ?_
      rintro last ⟨blanks, passed, areBlank⟩
      exact ⟨byte :: blanks, step.trans passed, List.forall_mem_cons.mpr ⟨blank, areBlank⟩⟩

theorem ensures_takeLiteral {literal : Bytes} (free : (0 : UInt8) ∉ literal)
    (held : Held whole memory) :
    Ensures (Tolerated room whole) (fun rest => Passed whole memory literal rest)
      (takeLiteral literal memory) := by
  induction literal generalizing memory with
  | nil => exact .refl held
  | cons expected literal inductionHypothesis =>
      rcases not_or.mp (List.mem_cons.not.mp free) with ⟨nonzero, others⟩
      refine .bind (ensures_take held) ?_
      rintro ⟨byte, rest⟩ split
      refine .ite (fun same => ?_) fun _ => trivial
      subst same
      have step := held.passed_one split (Ne.symm nonzero)
      exact (inductionHypothesis others step.held).mono fun last passed => step.trans passed

end Bytes

section Escapes

variable {memory : Memory}

theorem hexDigit_ne_zero {byte : UInt8} (hex : (digitValue 16 byte).isSome = true) : byte ≠ 0 :=
  (digit_shape (by decide) hex).2.1

/-- The digits that `ParseHex4` takes, behind a number that it has. -/
theorem ensures_parseHex (digits codepoint : Nat) (held : Held whole memory) :
    Ensures (Tolerated room whole)
      (Reads whole (fun text result => text.length = digits ∧
        (∀ byte ∈ text, (digitValue 16 byte).isSome = true) ∧
        result = text.foldl (fun value byte => 16 * value + (digitValue 16 byte).getD 0) codepoint)
        memory)
      (parseHex digits codepoint memory) := by
  induction digits generalizing codepoint memory with
  | zero => exact ⟨[], .refl held, rfl, (fun _ member => nomatch member), rfl⟩
  | succ digits inductionHypothesis =>
      refine .bind (ensures_take held) ?_
      rintro ⟨byte, rest⟩ split
      cases known : digitValue 16 byte with
      | none =>
          simp only [known]
          trivial
      | some value =>
          simp only [known]
          have hex : (digitValue 16 byte).isSome = true := by rw [known, Option.isSome_some]
          have step := held.passed_one split (hexDigit_ne_zero hex)
          refine (inductionHypothesis _ step.held).mono ?_
          rintro ⟨result, last⟩ ⟨text, passed, length, areHex, folded⟩
          refine ⟨byte :: text, step.trans passed, by simp [length],
            List.forall_mem_cons.mpr ⟨hex, areHex⟩, ?_⟩
          rw [folded, List.foldl_cons, known, Option.getD_some, Nat.mul_comm codepoint]

theorem ensures_parseHex4 (held : Held whole memory) :
    Ensures (Tolerated room whole) (Reads whole HexText memory) (parseHex 4 0 memory) :=
  (ensures_parseHex 4 0 held).mono fun _ ⟨text, passed, length, areHex, folded⟩ =>
    ⟨text, passed, length, areHex, folded.symm⟩

theorem encode_returns {codepoint : Nat} (scalar : codepoint ≤ 0x10FFFF) :
    ∃ encoded, encode codepoint = .ok encoded := by
  unfold encode
  split_ifs
  all_goals exact ⟨_, rfl⟩

theorem digitValue_lt {base value : Nat} {byte : UInt8}
    (known : digitValue base byte = some value) : value < base := by
  unfold digitValue at known
  rw [Option.ite_none_right_eq_some] at known
  rcases known with ⟨small, same⟩
  cases same
  exact small

theorem magnitude_fold_lt (base : Nat) (positive : 0 < base) (text : Bytes) (start : Nat) :
    text.foldl (fun value byte => base * value + (digitValue base byte).getD 0) start <
      (start + 1) * base ^ text.length := by
  induction text generalizing start with
  | nil => simp
  | cons byte rest inductionHypothesis =>
      have small : (digitValue base byte).getD 0 < base := by
        cases known : digitValue base byte with
        | none => exact positive
        | some value => exact digitValue_lt known
      rw [List.foldl_cons]
      calc _ < (base * start + (digitValue base byte).getD 0 + 1) * base ^ rest.length :=
            inductionHypothesis _
        _ ≤ (base * (start + 1)) * base ^ rest.length :=
            Nat.mul_le_mul_right _ (by rw [Nat.mul_add]; omega)
        _ = (start + 1) * base ^ (byte :: rest).length := by
            rw [List.length_cons, Nat.pow_succ, Nat.mul_comm base, Nat.mul_assoc,
              Nat.mul_comm base]

theorem HexText.lt {text : Bytes} {codepoint : Nat} (hex : HexText text codepoint) :
    codepoint < 2 ^ 16 := by
  rcases hex with ⟨length, -, rfl⟩
  have small := magnitude_fold_lt 16 (by decide) text 0
  rw [length] at small
  exact small

theorem HexText.free {text : Bytes} {codepoint : Nat} (hex : HexText text codepoint) :
    (0 : UInt8) ∉ text := fun member => hexDigit_ne_zero (hex.2.1 0 member) rfl

/-- The code point of a surrogate pair is one that `Encode` takes. -/
theorem pair_encodes {high low : Nat} (isHigh : HighSurrogate high) (isLow : LowSurrogate low) :
    (high - 0xD800) * 1024 + (low - 0xDC00) + 0x10000 ≤ 0x10FFFF := by
  rcases isHigh with ⟨_, upperHigh⟩
  rcases isLow with ⟨_, upperLow⟩
  omega

/-- The second half of a surrogate pair. -/
theorem ensures_pair {start : Memory} {first : Bytes} {high : Nat}
    (hexHigh : HexText first high) (isHigh : HighSurrogate high) (held : Held whole start) :
    Ensures (Tolerated room whole)
      (Reads whole (fun text put => EscapeText (117 :: first ++ text) put) start)
      (do
        let (first, memory) ← take start
        if first ≠ 92 then .error (.error .stringUnicodeSurrogateInvalid)
        else do
          let (second, memory) ← take memory
          if second ≠ 117 then .error (.error .stringUnicodeSurrogateInvalid)
          else do
            let (codepoint2, memory) ← parseHex 4 0 memory
            if codepoint2 < 0xDC00 ∨ 0xDFFF < codepoint2 then
              .error (.error .stringUnicodeSurrogateInvalid)
            else do
              let encoded ← encode ((high - 0xD800) * 1024 + (codepoint2 - 0xDC00) + 0x10000)
              pure (encoded, memory)) := by
  refine .bind (ensures_take held) ?_
  rintro ⟨backslash, memory⟩ split
  refine .ite (fun _ => trivial) fun isBackslash => ?_
  obtain rfl : backslash = 92 := not_not.mp isBackslash
  have passedBackslash : Passed whole start [92] memory := held.passed_one split (by decide)
  refine .bind (ensures_take passedBackslash.held) ?_
  rintro ⟨letter, inside⟩ split
  refine .ite (fun _ => trivial) fun isLetter => ?_
  obtain rfl : letter = 117 := not_not.mp isLetter
  have passedLetter : Passed whole memory [117] inside :=
    passedBackslash.held.passed_one split (by decide)
  refine .bind (ensures_parseHex4 passedLetter.held) ?_
  rintro ⟨low, rest⟩ ⟨second, passedLow, hexLow⟩
  dsimp only
  refine .ite (fun _ => trivial) fun isLow => ?_
  have isLow : LowSurrogate low := ⟨by omega, by omega⟩
  cases encode_returns (pair_encodes isHigh isLow) with
  | intro encoded encodes =>
      rw [encodes]
      refine ⟨92 :: 117 :: second, ?_, .pair hexHigh isHigh hexLow isLow encodes⟩
      exact (passedBackslash.trans passedLetter).trans passedLow

theorem ensures_parseUnicode (held : Held whole memory) :
    Ensures (Tolerated room whole)
      (Reads whole (fun text put => EscapeText (117 :: text) put) memory)
      (parseUnicode memory) := by
  refine .bind (ensures_parseHex4 held) ?_
  rintro ⟨codepoint, memory⟩ ⟨digits, passed, hex⟩
  refine .ite (fun isHigh => ?_) fun single => ?_
  · refine (ensures_pair hex isHigh passed.held).mono ?_
    rintro result ⟨text, further, escape⟩
    exact ⟨digits ++ text, passed.trans further, by simpa using escape⟩
  · have scalar : codepoint ≤ 0x10FFFF := by
      have small := hex.lt
      omega
    obtain ⟨encoded, encodes⟩ := encode_returns scalar
    rw [encodes]
    exact ⟨digits, passed, .unicode hex single encodes⟩

/-- No listed escape is the NUL. -/
theorem escapes_ne_zero {symbol value : UInt8} (listed : escapes.lookup symbol = some value) :
    symbol ≠ 0 := by
  rintro rfl
  cases listed

theorem ensures_parseEscape {start : Memory} (held : Held whole start) :
    Ensures (Tolerated room whole) (Reads whole EscapeText start) (parseEscape start) := by
  refine .bind (ensures_take held) ?_
  rintro ⟨symbol, memory⟩ split
  cases listed : escapes.lookup symbol with
  | some value =>
      simp only [listed]
      exact ⟨[symbol], held.passed_one split (escapes_ne_zero listed), .listed listed⟩
  | none =>
      simp only [listed]
      refine .ite (fun isLetter => ?_) fun _ => trivial
      subst isLetter
      have step : Passed whole start [117] memory := held.passed_one split (by decide)
      refine (ensures_parseUnicode step.held).mono ?_
      rintro result ⟨text, passed, escape⟩
      exact ⟨117 :: text, step.trans passed, escape⟩

end Escapes

section Strings

variable {memory : Memory}

theorem Passed.length_le {text : Bytes} {rest : Memory} (passed : Passed whole memory text rest) :
    rest.length ≤ memory.length := by
  rw [passed.split, List.length_append]
  omega

theorem ensures_parseChars (turns : Nat) (os : Bytes) (held : Held whole memory)
    (enough : memory.length < turns) :
    Ensures (Tolerated room whole)
      (Reads whole (fun text result => ∃ chars decoded, text = chars ++ [34] ∧
        Chars chars decoded ∧ result = os ++ decoded) memory)
      (parseChars turns memory os) := by
  induction turns generalizing memory os with
  | zero => exact absurd enough (Nat.not_lt_zero _)
  | succ turns inductionHypothesis =>
      rw [parseChars]
      refine .bind (ensures_peek held) ?_
      rintro c ⟨inside, rfl⟩
      simp only [List.length_cons] at enough
      refine .ite (fun isBackslash => ?_) fun noBackslash => .ite (fun isQuote => ?_)
        fun noQuote => .ite (fun _ => trivial) fun nonzero =>
          .ite (fun _ => trivial) fun shown => ?_
      · subst isBackslash
        have step := held.passed_one rfl (by decide)
        refine .bind (ensures_take held) ?_
        rintro ⟨_, inside⟩ ⟨⟩
        dsimp only at enough
        refine .bind (ensures_parseEscape step.held) ?_
        rintro ⟨put, rest⟩ ⟨symbols, passed, escaped⟩
        have shorter : rest.length ≤ inside.length := passed.length_le
        refine (inductionHypothesis (os ++ put) passed.held (by dsimp only; omega)).mono ?_
        rintro ⟨result, last⟩ ⟨_, further, chars, decoded, rfl, isChars, rfl⟩
        exact ⟨_, (step.trans passed).trans further, 92 :: symbols ++ chars, put ++ decoded,
          by simp, .escape escaped isChars, by simp⟩
      · subst isQuote
        exact ⟨[34], held.passed_one rfl (by decide), [], [], rfl, .nil, by simp⟩
      · have step := held.passed_one rfl nonzero
        refine (inductionHypothesis (os ++ [c]) step.held (by omega)).mono ?_
        rintro ⟨result, last⟩ ⟨_, further, chars, decoded, rfl, isChars, rfl⟩
        exact ⟨_, step.trans further, c :: chars, c :: decoded, by simp,
          .plain (UInt8.not_lt.mp shown) noQuote noBackslash isChars, by simp⟩

theorem ensures_parseString {inside : Memory} (opened : memory = 34 :: inside)
    (held : Held whole memory) :
    Ensures (Tolerated room whole)
      (Reads whole (fun text result => ∃ chars, text = 34 :: chars ++ [34] ∧ Chars chars result)
        memory)
      (parseString memory) := by
  subst opened
  have step := held.passed_one rfl (by decide)
  refine (ensures_parseChars (inside.length + 1) [] step.held (Nat.lt_succ_self _)).mono ?_
  rintro ⟨result, last⟩ ⟨_, further, chars, decoded, rfl, isChars, rfl⟩
  exact ⟨_, step.trans further, chars, by simp, by simpa using isChars⟩

end Strings

end GeoChat.Rapidjson
