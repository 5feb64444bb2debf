import GeoChat.Rapidjson.Reader

/-!
# The texts that rapidjson accepts

The grammar of JSON with the value that each text stands for. It leaves the
order of the work and the stack of the parser out.
-/

namespace GeoChat.Rapidjson

/-- `ws`. -/
def Blank (text : Bytes) : Prop := ∀ byte ∈ text, isBlank byte = true

def Digits (text : Bytes) : Prop := ∀ byte ∈ text, isDigit byte = true

/-- The number that a number becomes with more digits. -/
def continued (value : Nat) (digits : Bytes) : Nat :=
  digits.foldl (fun value byte => value * 10 + digit byte) value

section Numbers

/-- `int`. -/
inductive IntText : Bytes → Prop
  | zero : IntText [48]
  | digits {first : UInt8} {rest : Bytes} (lead : isDigit first = true) (nonzero : first ≠ 48)
      (digits : Digits rest) : IntText (first :: rest)

/-- `frac`, or nothing. -/
inductive FracText : Bytes → Prop
  | none : FracText []
  | digits {first : UInt8} {rest : Bytes} (lead : isDigit first = true) (digits : Digits rest) :
      FracText (46 :: first :: rest)

/-- `exp`, or nothing. -/
inductive ExpText : Bytes → Prop
  | none : ExpText []
  | digits {mark : UInt8} {sign : Bytes} {first : UInt8} {rest : Bytes}
      (marked : mark = 101 ∨ mark = 69) (signed : sign = [] ∨ sign = [43] ∨ sign = [45])
      (lead : isDigit first = true) (digits : Digits rest) :
      ExpText (mark :: sign ++ first :: rest)

def minusText (minus : Bool) : Bytes := if minus then [45] else []

/-- The largest magnitude of an integer of 64 bits. -/
def bound (minus : Bool) : Nat := if minus then 2 ^ 63 else 2 ^ 64 - 1

/-- A text without `frac` and `exp` is an integer where its type has one. -/
def numberValue (minus : Bool) (int frac exp : Bytes) : Json :=
  if frac = [] ∧ exp = [] ∧ continued 0 int ≤ bound minus then
    .int (if minus then -(continued 0 int : Int) else continued 0 int)
  else .double

/-- `number`. -/
inductive NumberText : Bytes → Json → Prop
  | parts (minus : Bool) {int frac exp : Bytes} (isInt : IntText int) (isFrac : FracText frac)
      (isExp : ExpText exp) :
      NumberText (minusText minus ++ int ++ frac ++ exp) (numberValue minus int frac exp)

/-- The text holds a number whose exponents leave the range of `int`: the sum of
its fraction and its negative exponent, or those of a very long fraction. -/
inductive Deep : Bytes → Prop
  | exponent {before fraction exponent behind : Bytes} {mark : UInt8}
      (areFraction : Digits fraction) (areExponent : Digits exponent)
      (sum : 2 ^ 31 < fraction.length + continued 0 exponent) :
      Deep (before ++ 46 :: fraction ++ mark :: 45 :: exponent ++ behind)
  | fraction {before fraction behind : Bytes} (areFraction : Digits fraction)
      (long : 2 * 10 ^ 8 < fraction.length) : Deep (before ++ 46 :: fraction ++ behind)

end Numbers

section Strings

/-- Four hexadecimal digits and their number. -/
def HexText (text : Bytes) (codepoint : Nat) : Prop :=
  text.length = 4 ∧ (∀ byte ∈ text, (digitValue 16 byte).isSome = true) ∧
    magnitude 16 text = codepoint

def HighSurrogate (codepoint : Nat) : Prop := 0xD800 ≤ codepoint ∧ codepoint ≤ 0xDBFF

def LowSurrogate (codepoint : Nat) : Prop := 0xDC00 ≤ codepoint ∧ codepoint ≤ 0xDFFF

/-- What follows a backslash, and the bytes that it stands for. -/
inductive EscapeText : Bytes → Bytes → Prop
  | listed {symbol value : UInt8} (listed : escapes.lookup symbol = some value) :
      EscapeText [symbol] [value]
  | unicode {digits encoded : Bytes} {codepoint : Nat} (hex : HexText digits codepoint)
      (single : ¬ HighSurrogate codepoint) (encodes : encode codepoint = .ok encoded) :
      EscapeText (117 :: digits) encoded
  | pair {first second encoded : Bytes} {high low : Nat} (hexHigh : HexText first high)
      (isHigh : HighSurrogate high) (hexLow : HexText second low) (isLow : LowSurrogate low)
      (encodes : encode ((high - 0xD800) * 1024 + (low - 0xDC00) + 0x10000) = .ok encoded) :
      EscapeText (117 :: first ++ 92 :: 117 :: second) encoded

/-- The characters between two quotes, and the bytes that they stand for. -/
inductive Chars : Bytes → Bytes → Prop
  | nil : Chars [] []
  | plain {byte : UInt8} {text decoded : Bytes} (shown : 32 ≤ byte) (noQuote : byte ≠ 34)
      (noBackslash : byte ≠ 92) (rest : Chars text decoded) :
      Chars (byte :: text) (byte :: decoded)
  | escape {symbols put text decoded : Bytes} (escaped : EscapeText symbols put)
      (rest : Chars text decoded) : Chars (92 :: symbols ++ text) (put ++ decoded)

end Strings

/-- How many brackets and braces the text opens. -/
def openings (text : Bytes) : Nat := text.countP fun byte => byte = 91 || byte = 123

/-- What a piece of a text stands for. -/
inductive Part where
  | value (value : Json)
  | elements (elements : List Json)
  | member (member : Bytes × Json)
  | members (members : List (Bytes × Json))

/-- The text is derived for the part. An element and a member end with their
blanks. -/
inductive Derives : Bytes → Part → Prop
  | null : Derives (bytes "null") (.value .null)
  | isTrue : Derives (bytes "true") (.value (.bool true))
  | isFalse : Derives (bytes "false") (.value (.bool false))
  | string {text decoded : Bytes} (chars : Chars text decoded) :
      Derives (34 :: text ++ [34]) (.value (.string decoded))
  | number {text : Bytes} {number : Json} (isNumber : NumberText text number) :
      Derives text (.value number)
  | emptyArray {lead : Bytes} (blank : Blank lead) :
      Derives (91 :: lead ++ [93]) (.value (.array []))
  | array {lead text : Bytes} {elements : List Json} (blank : Blank lead)
      (inside : Derives text (.elements elements)) :
      Derives (91 :: lead ++ text ++ [93]) (.value (.array elements))
  | emptyObject {lead : Bytes} (blank : Blank lead) :
      Derives (123 :: lead ++ [125]) (.value (.object []))
  | object {lead text : Bytes} {members : List (Bytes × Json)} (blank : Blank lead)
      (inside : Derives text (.members members)) :
      Derives (123 :: lead ++ text ++ [125]) (.value (.object members))
  | lastElement {text trail : Bytes} {value : Json} (element : Derives text (.value value))
      (blank : Blank trail) : Derives (text ++ trail) (.elements [value])
  | moreElements {text trail lead rest : Bytes} {value : Json} {elements : List Json}
      (element : Derives text (.value value)) (blank : Blank trail) (blankLead : Blank lead)
      (others : Derives rest (.elements elements)) :
      Derives (text ++ trail ++ 44 :: lead ++ rest) (.elements (value :: elements))
  | member {name decoded before after text trail : Bytes} {value : Json}
      (chars : Chars name decoded) (blankBefore : Blank before) (blankAfter : Blank after)
      (inside : Derives text (.value value)) (blank : Blank trail) :
      Derives (34 :: name ++ 34 :: before ++ 58 :: after ++ text ++ trail)
        (.member (decoded, value))
  | lastMember {text : Bytes} {member : Bytes × Json} (isMember : Derives text (.member member)) :
      Derives text (.members [member])
  | moreMembers {text lead rest : Bytes} {member : Bytes × Json}
      {members : List (Bytes × Json)} (isMember : Derives text (.member member))
      (blankLead : Blank lead) (others : Derives rest (.members members)) :
      Derives (text ++ 44 :: lead ++ rest) (.members (member :: members))

/-- The text of a document. -/
def DocumentText (text : Bytes) (document : Json) : Prop :=
  ∃ lead body trail, text = lead ++ body ++ trail ∧ Blank lead ∧ Blank trail ∧
    Derives body (.value document)

section Terminator

theorem Blank.free {text : Bytes} (blank : Blank text) : (0 : UInt8) ∉ text :=
  fun member => absurd (blank 0 member) (by decide)

theorem Digits.free {text : Bytes} (digits : Digits text) : (0 : UInt8) ∉ text :=
  fun member => absurd (digits 0 member) (by decide)

end Terminator

section Continued

@[simp] theorem continued_nil (value : Nat) : continued value [] = value := rfl

@[simp] theorem continued_cons (value : Nat) (byte : UInt8) (rest : Bytes) :
    continued value (byte :: rest) = continued (value * 10 + digit byte) rest := by
  rw [continued, List.foldl_cons, continued]

theorem continued_append (value : Nat) (first second : Bytes) :
    continued value (first ++ second) = continued (continued value first) second := by
  rw [continued, continued, continued, List.foldl_append]

/-- More digits make no number smaller. -/
theorem le_continued (value : Nat) (digits : Bytes) : value ≤ continued value digits := by
  induction digits generalizing value with
  | nil => exact Nat.le_refl value
  | cons byte rest inductionHypothesis =>
      have step := inductionHypothesis (value * 10 + digit byte)
      rw [continued_cons]
      omega

theorem digit_le (byte : UInt8) (isDigit : isDigit byte = true) : digit byte ≤ 9 := by
  simp only [Rapidjson.isDigit, Bool.and_eq_true, decide_eq_true_eq, UInt8.le_iff_toNat_le]
    at isDigit
  have upper : byte.toNat ≤ 57 := isDigit.2
  unfold digit
  omega

end Continued

end GeoChat.Rapidjson
