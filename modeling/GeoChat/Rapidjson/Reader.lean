import GeoChat.Common.Json

/-!
# `rapidjson::GenericReader`

The parser behind `Document::Parse`, with the default flags, on a
`StringStream`. The stream is the memory from the read position on; a read
behind its end and a violated assertion are outcomes of their own. The document
is the handler: it builds the values on its stack. Of `double` only the
operations that decide how a number is read are left, as a parameter.
-/

namespace GeoChat.Rapidjson

/-- `ParseErrorCode`. -/
inductive ParseErrorCode where
  | documentEmpty
  | documentRootNotSingular
  | valueInvalid
  | objectMissName
  | objectMissColon
  | objectMissCommaOrCurlyBracket
  | arrayMissCommaOrSquareBracket
  | stringUnicodeEscapeInvalidHex
  | stringUnicodeSurrogateInvalid
  | stringEscapeInvalid
  | stringMissQuotationMark
  | numberTooBig
  | numberMissFraction
  | numberMissExponent
  deriving DecidableEq, Repr

/-- Why a computation stops: a parse error, a read behind the memory, a
violated `RAPIDJSON_ASSERT`, a native stack without room for one more level, or
turns that run out. -/
inductive Stop where
  | error (code : ParseErrorCode)
  | beyond
  | assertion
  | stackExhausted
  | unfinished
  deriving DecidableEq, Repr

abbrev Parsing := Except Stop

/-- What the `StringStream` points to. -/
abbrev Memory := Bytes

/-- The stack of the document, with the top first. -/
abbrev Stack := List Json

/-- The operations on `double` that the parser makes before the last one. -/
structure Doubles where
  Double : Type
  /-- `(double)i64`. -/
  ofInteger : Nat → Double
  /-- `d * 10 + digit`. -/
  push : Double → Nat → Double
  /-- `d >= 1.7976931348623157e307`. -/
  tooBig : Double → Bool
  /-- `d > 0.0`. -/
  positive : Double → Bool

def peek : Memory → Parsing UInt8
  | [] => .error .beyond
  | byte :: _ => .ok byte

def take : Memory → Parsing (UInt8 × Memory)
  | [] => .error .beyond
  | byte :: rest => .ok (byte, rest)

def isBlank (byte : UInt8) : Bool := byte = 32 || byte = 10 || byte = 13 || byte = 9

/-- `SkipWhitespace`. -/
def skipWhitespace : Memory → Parsing Memory
  | [] => .error .beyond
  | byte :: rest => if isBlank byte then skipWhitespace rest else .ok (byte :: rest)

/-- The text of a literal, as `ParseNull`, `ParseTrue` and `ParseFalse` take
it. -/
def takeLiteral : Bytes → Memory → Parsing Memory
  | [], memory => .ok memory
  | expected :: literal, memory => do
      let (byte, memory) ← take memory
      if byte = expected then takeLiteral literal memory else .error (.error .valueInvalid)

section Strings

/-- `ParseHex4`, for a number of digits. -/
def parseHex : Nat → Nat → Memory → Parsing (Nat × Memory)
  | 0, codepoint, memory => .ok (codepoint, memory)
  | digits + 1, codepoint, memory => do
      let (byte, memory) ← take memory
      match digitValue 16 byte with
      | none => .error (.error .stringUnicodeEscapeInvalidHex)
      | some value => parseHex digits (codepoint * 16 + value) memory

/-- `UTF8::Encode`. -/
def encode (codepoint : Nat) : Parsing Bytes :=
  let byte (value : Nat) : UInt8 := UInt8.ofNat value
  if codepoint ≤ 0x7F then .ok [byte codepoint]
  else if codepoint ≤ 0x7FF then
    .ok [byte (0xC0 + codepoint / 64), byte (0x80 + codepoint % 64)]
  else if codepoint ≤ 0xFFFF then
    .ok [byte (0xE0 + codepoint / 4096), byte (0x80 + codepoint / 64 % 64),
      byte (0x80 + codepoint % 64)]
  else if codepoint ≤ 0x10FFFF then
    .ok [byte (0xF0 + codepoint / 262144), byte (0x80 + codepoint / 4096 % 64),
      byte (0x80 + codepoint / 64 % 64), byte (0x80 + codepoint % 64)]
  else .error .assertion

/-- The table `escape` of `ParseStringToStream`. -/
def escapes : List (UInt8 × UInt8) :=
  [(34, 34), (47, 47), (92, 92), (98, 8), (102, 12), (110, 10), (114, 13), (116, 9)]

/-- The part of an escape sequence behind its `u`. -/
def parseUnicode (memory : Memory) : Parsing (Bytes × Memory) := do
  let (codepoint, memory) ← parseHex 4 0 memory
  if 0xD800 ≤ codepoint ∧ codepoint ≤ 0xDBFF then do
    let (first, memory) ← take memory
    if first ≠ 92 then .error (.error .stringUnicodeSurrogateInvalid)
    else do
      let (second, memory) ← take memory
      if second ≠ 117 then .error (.error .stringUnicodeSurrogateInvalid)
      else do
        let (codepoint2, memory) ← parseHex 4 0 memory
        if codepoint2 < 0xDC00 ∨ 0xDFFF < codepoint2 then
          .error (.error .stringUnicodeSurrogateInvalid)
        else do
          let encoded ← encode ((codepoint - 0xD800) * 1024 + (codepoint2 - 0xDC00) + 0x10000)
          pure (encoded, memory)
  else do
    let encoded ← encode codepoint
    pure (encoded, memory)

/-- The part of an escape sequence behind its backslash. -/
def parseEscape (memory : Memory) : Parsing (Bytes × Memory) := do
  let (symbol, memory) ← take memory
  match escapes.lookup symbol with
  | some value => pure ([value], memory)
  | none =>
      if symbol = 117 then parseUnicode memory else .error (.error .stringEscapeInvalid)

/-- The loop of `ParseStringToStream`, for a number of turns. -/
def parseChars : Nat → Memory → Bytes → Parsing (Bytes × Memory)
  | 0, _, _ => .error .unfinished
  | turns + 1, memory, os => do
      let c ← peek memory
      if c = 92 then do
        let (_, memory) ← take memory
        let (put, memory) ← parseEscape memory
        parseChars turns memory (os ++ put)
      else if c = 34 then do
        let (_, memory) ← take memory
        pure (os, memory)
      else if c = 0 then .error (.error .stringMissQuotationMark)
      else if c < 32 then .error (.error .stringEscapeInvalid)
      else do
        let (c, memory) ← take memory
        parseChars turns memory (os ++ [c])

/-- `ParseString`, up to the call of the handler. -/
def parseString (memory : Memory) : Parsing (Bytes × Memory) := do
  let (quote, memory) ← take memory
  if quote ≠ 34 then .error .assertion else parseChars (memory.length + 1) memory []

end Strings

section Numbers

variable (doubles : Doubles)

def isDigit (byte : UInt8) : Bool := 48 ≤ byte && byte ≤ 57

/-- The number that a digit stands for. -/
def digit (byte : UInt8) : Nat := byte.toNat - 48

/-- The minus in front of a number. -/
def takeMinus (memory : Memory) : Parsing (Bool × Memory) := do
  let sign ← peek memory
  if sign = 45 then do
    let (_, memory) ← take memory
    pure (true, memory)
  else pure (false, memory)

/-- The integer that was read. `broke` says that a loop stopped at a digit
which the integer type cannot take. -/
structure Scanned where
  value : Nat
  significandDigit : Nat
  broke : Bool
  memory : Memory

/-- A loop over the digits of an integer, up to `limit * 10 + last`. -/
def scanInteger (limit : Nat) (last : UInt8) : Memory → Nat → Nat → Parsing Scanned
  | [], _, _ => .error .beyond
  | byte :: rest, value, significandDigit =>
      if isDigit byte then
        if limit ≤ value ∧ (value ≠ limit ∨ last < byte) then
          .ok ⟨value, significandDigit, true, byte :: rest⟩
        else scanInteger limit last rest (value * 10 + digit byte) (significandDigit + 1)
      else .ok ⟨value, significandDigit, false, byte :: rest⟩

/-- The integer part, first in 32 and then in 64 bits. -/
def parseInteger (minus : Bool) (memory : Memory) : Parsing Scanned := do
  let (byte, memory) ← take memory
  if byte = 48 then pure ⟨0, 0, false, memory⟩
  else if isDigit byte then do
    let small ←
      if minus then scanInteger 214748364 56 memory (digit byte) 0
      else scanInteger 429496729 53 memory (digit byte) 0
    if small.broke then
      if minus then
        scanInteger 0x0CCCCCCCCCCCCCCC 56 small.memory small.value small.significandDigit
      else scanInteger 0x1999999999999999 53 small.memory small.value small.significandDigit
    else pure small
  else .error (.error .valueInvalid)

/-- A number that is read. `double` is `d` once `useDouble` is set. -/
structure Number where
  value : Nat
  double : Option doubles.Double
  significandDigit : Nat
  expFrac : Int
  memory : Memory

/-- The loop over the digits of an integer that no integer type can take. -/
def scanBig : Memory → doubles.Double → Parsing (doubles.Double × Memory)
  | [], _ => .error .beyond
  | byte :: rest, d =>
      if isDigit byte then
        if doubles.tooBig d then .error (.error .numberTooBig)
        else scanBig rest (doubles.push d (digit byte))
      else .ok (d, byte :: rest)

/-- Force `double` for a big integer. -/
def forceBig (scanned : Scanned) : Parsing (Number doubles) :=
  if scanned.broke then do
    let (d, memory) ← scanBig doubles scanned.memory (doubles.ofInteger scanned.value)
    pure ⟨scanned.value, some d, scanned.significandDigit, 0, memory⟩
  else pure ⟨scanned.value, none, scanned.significandDigit, 0, scanned.memory⟩

/-- The loop over the digits of a fraction that keeps the significand in 64
bits: the significand, its number of digits, `expFrac` and the memory. -/
def scanSignificand : Memory → Nat → Nat → Int → Parsing (Nat × Nat × Int × Memory)
  | [], _, _, _ => .error .beyond
  | byte :: rest, value, significandDigit, expFrac =>
      if isDigit byte ∧ value ≤ 0x1FFFFFFFFFFFFF then
        let value := value * 10 + digit byte
        scanSignificand rest value
          (if value ≠ 0 then significandDigit + 1 else significandDigit) (expFrac - 1)
      else .ok (value, significandDigit, expFrac, byte :: rest)

/-- The loop over the other digits of a fraction. -/
def scanFraction : Memory → doubles.Double → Nat → Int → Parsing (doubles.Double × Int × Memory)
  | [], _, _, _ => .error .beyond
  | byte :: rest, d, significandDigit, expFrac =>
      if isDigit byte then
        if significandDigit < 17 then
          let d := doubles.push d (digit byte)
          scanFraction rest d
            (if doubles.positive d then significandDigit + 1 else significandDigit) (expFrac - 1)
        else scanFraction rest d significandDigit expFrac
      else .ok (d, expFrac, byte :: rest)

/-- The digits of a fraction, which make the number a `double`. -/
def parseDigits (number : Number doubles) (memory : Memory) : Parsing (Number doubles) := do
  let (d, significandDigit, expFrac, memory) ←
    match number.double with
    | some d => pure (d, number.significandDigit, number.expFrac, memory)
    | none => do
        let (value, significandDigit, expFrac, memory) ←
          scanSignificand memory number.value number.significandDigit number.expFrac
        pure (doubles.ofInteger value, significandDigit, expFrac, memory)
  let (d, expFrac, memory) ← scanFraction doubles memory d significandDigit expFrac
  pure { number with double := some d, expFrac, memory }

def parseFraction (number : Number doubles) : Parsing (Number doubles) := do
  let point ← peek number.memory
  if point = 46 then do
    let (_, memory) ← take number.memory
    let first ← peek memory
    if isDigit first then parseDigits doubles number memory
    else .error (.error .numberMissFraction)
  else pure number

/-- Consume the rest of an exponent. -/
def skipDigits : Memory → Parsing Memory
  | [] => .error .beyond
  | byte :: rest => if isDigit byte then skipDigits rest else .ok (byte :: rest)

/-- The loop over the digits of a negative exponent. -/
def scanNegative : Memory → Nat → Parsing (Nat × Memory)
  | [], _ => .error .beyond
  | byte :: rest, exp =>
      if isDigit byte then
        let exp := exp * 10 + digit byte
        if 214748364 ≤ exp then do
          let memory ← skipDigits rest
          pure (exp, memory)
        else scanNegative rest exp
      else .ok (exp, byte :: rest)

/-- What a sum of `int` comes to. -/
def int32 (value : Int) : Int := value.bmod (2 ^ 32)

/-- The loop over the digits of a positive exponent. -/
def scanPositive (maxExp : Int) : Memory → Int → Parsing (Int × Memory)
  | [], _ => .error .beyond
  | byte :: rest, exp =>
      if isDigit byte then
        let exp := int32 (exp * 10 + digit byte)
        if maxExp < exp then .error (.error .numberTooBig) else scanPositive maxExp rest exp
      else .ok (exp, byte :: rest)

/-- The sign of an exponent. -/
def takeSign (memory : Memory) : Parsing (Bool × Memory) := do
  let sign ← peek memory
  if sign = 43 then do
    let (_, memory) ← take memory
    pure (false, memory)
  else if sign = 45 then do
    let (_, memory) ← take memory
    pure (true, memory)
  else pure (false, memory)

/-- The exponent. A number with one is a `double`. -/
def parseExponent (number : Number doubles) : Parsing (Number doubles × Int) := do
  let mark ← peek number.memory
  if mark = 101 ∨ mark = 69 then do
    let (_, memory) ← take number.memory
    let (expMinus, memory) ← takeSign memory
    let (first, memory) ← take memory
    if isDigit first then do
      let (exp, memory) ←
        if expMinus then do
          let (exp, memory) ← scanNegative memory (digit first)
          pure (-(exp : Int), memory)
        else scanPositive (int32 (308 - number.expFrac)) memory (digit first)
      let d := number.double.getD (doubles.ofInteger number.value)
      pure ({ number with double := some d, memory }, exp)
    else .error (.error .numberMissExponent)
  else pure (number, 0)

/-- `internal::Pow10`. -/
def pow10 (n : Int) : Parsing Unit := if 0 ≤ n ∧ n ≤ 308 then .ok () else .error .assertion

/-- `internal::FastPath`, without its value. -/
def fastPath (exp : Int) : Parsing Unit :=
  if exp < -308 then .ok () else if 0 ≤ exp then pow10 exp else pow10 (-exp)

/-- `internal::StrtodNormalPrecision`, without its value. -/
def strtodNormalPrecision (p : Int) : Parsing Unit :=
  if p < -308 then do
    fastPath (-308)
    fastPath (p + 308)
  else fastPath p

/-- `ParseNumber`, up to the call of the handler. -/
def parseNumber (memory : Memory) : Parsing (Json × Memory) := do
  let (minus, memory) ← takeMinus memory
  let scanned ← parseInteger minus memory
  let number ← forceBig doubles scanned
  let number ← parseFraction doubles number
  let (number, exp) ← parseExponent doubles number
  match number.double with
  | some _ => do
      strtodNormalPrecision (int32 (exp + number.expFrac))
      pure (.double, number.memory)
  | none => pure (.int (if minus then -(number.value : Int) else number.value), number.memory)

end Numbers

section Values

/-- The members that lie on the stack, each as its name and its value. -/
def members : List Json → List (Bytes × Json)
  | .string name :: value :: rest => (name, value) :: members rest
  | _ => []

/-- `Document::EndObject`. -/
def endObject (memberCount : Nat) (stack : Stack) : Parsing Stack :=
  match stack.drop (2 * memberCount) with
  | [] => .error .assertion
  | _ :: below => .ok (.object (members (stack.take (2 * memberCount)).reverse) :: below)

/-- `Document::EndArray`. -/
def endArray (elementCount : Nat) (stack : Stack) : Parsing Stack :=
  match stack.drop elementCount with
  | [] => .error .assertion
  | _ :: below => .ok (.array (stack.take elementCount).reverse :: below)

variable (doubles : Doubles)

mutual

/-- `ParseValue`, for a number of turns, where the native stack has room for so
many levels of it. -/
def parseValue : Nat → Nat → Memory → Stack → Parsing (Stack × Memory)
  | _, 0, _, _ => .error .unfinished
  | 0, _ + 1, _, _ => .error .stackExhausted
  | levels + 1, turns + 1, memory, stack => do
      let first ← peek memory
      if first = 110 then do
        let memory ← takeLiteral (bytes "null") memory
        pure (.null :: stack, memory)
      else if first = 116 then do
        let memory ← takeLiteral (bytes "true") memory
        pure (.bool true :: stack, memory)
      else if first = 102 then do
        let memory ← takeLiteral (bytes "false") memory
        pure (.bool false :: stack, memory)
      else if first = 34 then do
        let (text, memory) ← parseString memory
        pure (.string text :: stack, memory)
      else if first = 123 then do
        let (_, memory) ← take memory
        let memory ← skipWhitespace memory
        let next ← peek memory
        if next = 125 then do
          let (_, memory) ← take memory
          let stack ← endObject 0 (.object [] :: stack)
          pure (stack, memory)
        else parseMembers levels turns memory (.object [] :: stack) 0
      else if first = 91 then do
        let (_, memory) ← take memory
        let memory ← skipWhitespace memory
        let next ← peek memory
        if next = 93 then do
          let (_, memory) ← take memory
          let stack ← endArray 0 (.array [] :: stack)
          pure (stack, memory)
        else parseElements levels turns memory (.array [] :: stack) 0
      else do
        let (number, memory) ← parseNumber doubles memory
        pure (number :: stack, memory)
termination_by structural _ turns => turns

/-- The loop of `ParseObject`. -/
def parseMembers : Nat → Nat → Memory → Stack → Nat → Parsing (Stack × Memory)
  | _, 0, _, _, _ => .error .unfinished
  | levels, turns + 1, memory, stack, memberCount => do
      let quote ← peek memory
      if quote ≠ 34 then .error (.error .objectMissName)
      else do
        let (name, memory) ← parseString memory
        let memory ← skipWhitespace memory
        let (colon, memory) ← take memory
        if colon ≠ 58 then .error (.error .objectMissColon)
        else do
          let memory ← skipWhitespace memory
          let (stack, memory) ← parseValue levels turns memory (.string name :: stack)
          let memory ← skipWhitespace memory
          let (next, memory) ← take memory
          if next = 44 then do
            let memory ← skipWhitespace memory
            parseMembers levels turns memory stack (memberCount + 1)
          else if next = 125 then do
            let stack ← endObject (memberCount + 1) stack
            pure (stack, memory)
          else .error (.error .objectMissCommaOrCurlyBracket)
termination_by structural _ turns => turns

/-- The loop of `ParseArray`. -/
def parseElements : Nat → Nat → Memory → Stack → Nat → Parsing (Stack × Memory)
  | _, 0, _, _, _ => .error .unfinished
  | levels, turns + 1, memory, stack, elementCount => do
      let (stack, memory) ← parseValue levels turns memory stack
      let memory ← skipWhitespace memory
      let (next, memory) ← take memory
      if next = 44 then do
        let memory ← skipWhitespace memory
        parseElements levels turns memory stack (elementCount + 1)
      else if next = 93 then do
        let stack ← endArray (elementCount + 1) stack
        pure (stack, memory)
      else .error (.error .arrayMissCommaOrSquareBracket)
termination_by structural _ turns => turns

end

/-- `GenericReader::Parse` into the empty stack of a document. -/
def parseRoot (levels : Nat) (memory : Memory) : Parsing Stack := do
  let memory ← skipWhitespace memory
  let first ← peek memory
  if first = 0 then .error (.error .documentEmpty)
  else do
    let (stack, memory) ← parseValue doubles levels (2 * memory.length + 1) memory []
    let memory ← skipWhitespace memory
    let last ← peek memory
    if last ≠ 0 then .error (.error .documentRootNotSingular) else pure stack

/-- `Document::ParseStream`, which asserts that there is one root. -/
def parseStream (levels : Nat) (memory : Memory) : Parsing Json := do
  let stack ← parseRoot doubles levels memory
  match stack with
  | [root] => pure root
  | _ => .error .assertion

/-- `Document::Parse` of a C string, and then `HasParseError`, where the native
stack has room for every level of the text. The memory of the string ends with
its NUL. -/
def parse (text : Bytes) : Option Json :=
  (parseStream doubles ((cstr text).length + 1) (cstr text ++ [0])).toOption

end Values

end GeoChat.Rapidjson
