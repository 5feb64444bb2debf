import GeoChat.Library.Stream
import Mathlib.Data.Int.Basic
import Mathlib.Data.List.TakeWhile
import Mathlib.Tactic.IntervalCases

/-!
# Byte strings and `common/utils.cpp`

A `std::string` is a list of bytes. Machine integers are naturals or integers
with the wrap written where the source can reach it.
-/

namespace GeoChat

open Library

/-- A `std::string`. -/
abbrev Bytes := List UInt8

/-- The bytes of a string literal. -/
def bytes (text : String) : Bytes := text.toUTF8.data.toList

/-- What a `const char *` reader sees: the bytes before the first NUL. -/
def cstr (text : Bytes) : Bytes := text.takeWhile (· ≠ 0)

theorem cstr_of_nul_not_mem {text : Bytes} (free : (0 : UInt8) ∉ text) : cstr text = text := by
  rw [cstr, List.takeWhile_eq_self_iff]
  intro byte member
  have nonzero : byte ≠ 0 := by
    rintro rfl
    exact free member
  simpa using nonzero

/-- `isspace` in the C locale. -/
def isspace (byte : UInt8) : Bool := byte = 32 || (9 ≤ byte && byte ≤ 13)

/-- `tolower` in the C locale. -/
def tolower (byte : UInt8) : UInt8 := if 65 ≤ byte && byte ≤ 90 then byte + 32 else byte

/-- `strcasecmp(a.c_str(), b.c_str()) == 0`. -/
def strcaseeq (first second : Bytes) : Bool :=
  (cstr first).map tolower = (cstr second).map tolower

/-- What the values of a byte have, every byte has. -/
theorem forall_byte {shape : UInt8 → Prop} (shapes : ∀ value < 256, shape (UInt8.ofNat value))
    (byte : UInt8) : shape byte := by
  have here := shapes byte.toNat byte.toNat_lt
  rwa [UInt8.ofNat_toNat] at here

namespace Utils

def lowercased (text : Bytes) : Bytes := text.map tolower

def ltrim (s : Bytes) : Bytes := s.dropWhile isspace

def rtrim (s : Bytes) : Bytes := (s.reverse.dropWhile isspace).reverse

def trimmed (s : Bytes) : Bytes := rtrim (ltrim s)

/-- `strncmp` over the length of the predicate. No predicate in the source
holds a NUL, so the comparison cannot stop early. -/
def startsWith (text predicate : Bytes) : Bool := predicate.isPrefixOf text

/-- The loop of `split` on the rest of the line. The loop consumes the
delimiter at every turn, so `line.length + 1` turns are enough for every
delimiter that is not empty. -/
def splitFrom (delimiter : Bytes) : Nat → Bytes → List Bytes
  | 0, line => [line]
  | turns + 1, line =>
      match search delimiter line with
      | none => [line]
      | some position =>
          line.take position ::
            splitFrom delimiter turns (line.drop (position + delimiter.length))

def split (line delimiter : Bytes) : List Bytes :=
  splitFrom delimiter (line.length + 1) line

/-- The number of turns does not matter once it exceeds the line. -/
theorem splitFrom_turns {delimiter : Bytes} (nonempty : delimiter ≠ [])
    {first second : Nat} {line : Bytes} (firstBound : line.length < first)
    (secondBound : line.length < second) :
    splitFrom delimiter first line = splitFrom delimiter second line := by
  induction first generalizing second line with
  | zero => omega
  | succ turns inductionHypothesis =>
      cases second with
      | zero => omega
      | succ other =>
          simp only [splitFrom]
          cases found : search delimiter line with
          | none => rfl
          | some position =>
              have bound := search_bound found
              have positive := List.length_pos_of_ne_nil nonempty
              have shorter : (line.drop (position + delimiter.length)).length < turns := by
                rw [List.length_drop]
                omega
              have shorterOther :
                  (line.drop (position + delimiter.length)).length < other := by
                rw [List.length_drop]
                omega
              simp only [inductionHypothesis shorter shorterOther]

theorem split_of_none {line delimiter : Bytes} (absent : search delimiter line = none) :
    split line delimiter = [line] := by
  simp [split, splitFrom, absent]

/-- One turn of the loop. -/
theorem split_of_some {line delimiter : Bytes} (nonempty : delimiter ≠ []) {position : Nat}
    (found : search delimiter line = some position) :
    split line delimiter =
      line.take position :: split (line.drop (position + delimiter.length)) delimiter := by
  have bound := search_bound found
  have positive := List.length_pos_of_ne_nil nonempty
  rw [split, splitFrom, found]
  simp only [split]
  congr 1
  apply splitFrom_turns nonempty
  · rw [List.length_drop]
    omega
  · omega

/-- The parts hold no byte that the line does not hold. -/
theorem splitFrom_subset {delimiter : Bytes} (turns : Nat) {line part : Bytes}
    (member : part ∈ splitFrom delimiter turns line) : part ⊆ line := by
  induction turns generalizing line with
  | zero =>
      rw [splitFrom, List.mem_singleton] at member
      exact member ▸ List.Subset.refl _
  | succ turns inductionHypothesis =>
      simp only [splitFrom] at member
      split at member
      next =>
        rw [List.mem_singleton] at member
        exact member ▸ List.Subset.refl _
      next position _ =>
        rcases List.mem_cons.mp member with rfl | later
        · exact List.take_subset _ _
        · exact fun byte here => List.drop_subset _ _ (inductionHypothesis later here)

/-- A part that does not hold the first byte of the delimiter is cut off at
the delimiter that follows it. -/
theorem split_part {first : UInt8} {pattern part : Bytes} (absent : first ∉ part)
    (rest : Bytes) :
    split (part ++ (first :: pattern) ++ rest) (first :: pattern) =
      part :: split rest (first :: pattern) := by
  have found : search (first :: pattern) (part ++ (first :: pattern) ++ rest) =
      some part.length := by
    rw [List.append_assoc, search_skip absent]
    rw [search_eq_zero (List.prefix_append _ _)]
    rfl
  rw [split_of_some (by simp) found]
  simp

theorem split_last {first : UInt8} {pattern part : Bytes} (absent : first ∉ part) :
    split part (first :: pattern) = [part] :=
  split_of_none (search_none_of_not_mem absent)

/-- One bit of the reflected CRC-32. -/
def crcBit (register : Nat) : Nat :=
  if register % 2 = 1 then (register >>> 1) ^^^ 0xEDB88320 else register >>> 1

def crcByte (register : Nat) (byte : UInt8) : Nat :=
  crcBit^[8] (register ^^^ byte.toNat)

/-- `boost::crc_32_type` over the bytes, returned through `int`. -/
def crc32 (data : Bytes) : Int :=
  let checksum := data.foldl crcByte 0xFFFFFFFF ^^^ 0xFFFFFFFF
  if checksum < 2 ^ 31 then checksum else (checksum : Int) - 2 ^ 32

end Utils

/-- The conversion of a signed integer to `uint64_t`. -/
def toUint64 (value : Int) : Nat := (value % 2 ^ 64).toNat

theorem toUint64_of_range {value : Int} (lower : 0 ≤ value) (upper : value < 2 ^ 63) :
    (toUint64 value : Int) = value := by
  unfold toUint64
  omega

/-- `std::to_string` of an unsigned integer. -/
def decimal (value : Nat) : Bytes :=
  (Nat.toDigits 10 value).map fun digit => UInt8.ofNat digit.toNat

/-- `std::to_string` of a signed integer. -/
def decimalInt (value : Int) : Bytes :=
  if value < 0 then 45 :: decimal value.natAbs else decimal value.natAbs

/-- The value of a digit in the given base. -/
def digitValue (base : Nat) (byte : UInt8) : Option Nat :=
  let value :=
    if 48 ≤ byte && byte ≤ 57 then byte.toNat - 48
    else if 97 ≤ byte && byte ≤ 122 then byte.toNat - 87
    else if 65 ≤ byte && byte ≤ 90 then byte.toNat - 55
    else base
  if value < base then some value else none

/-- The magnitude of a digit string. -/
def magnitude (base : Nat) (digits : Bytes) : Nat :=
  digits.foldl (fun value byte => base * value + (digitValue base byte).getD 0) 0

/-- The common scan of `strtoul` and `strtol`: blanks, one sign, the `0x` of
base 16 when a digit follows it, then digits. The result is the sign, the
magnitude and the number of bytes used; `none` is "no conversion". -/
def scanInteger (base : Nat) (text : Bytes) : Option (Bool × Nat × Nat) :=
  let body := cstr text
  let blanks := (body.takeWhile isspace).length
  let signed := body.drop blanks
  let sign := match signed with
    | 45 :: _ => 1
    | 43 :: _ => 1
    | _ => 0
  let unsigned := signed.drop sign
  let lead := match base, unsigned with
    | 16, 48 :: mark :: digit :: _ =>
        if (mark = 120 || mark = 88) && (digitValue 16 digit).isSome then 2 else 0
    | _, _ => 0
  let digits := (unsigned.drop lead).takeWhile fun byte => (digitValue base byte).isSome
  if digits.isEmpty then none
  else some (signed.head? = some 45, magnitude base digits, blanks + sign + lead + digits.length)

/-- `std::stoul`: the value and the number of bytes used, or an exception. A
negated magnitude is taken modulo the width of the type. -/
def stoul (text : Bytes) (base : Nat) : Option (Nat × Nat) :=
  match scanInteger base text with
  | none => none
  | some (negative, value, used) =>
      if 2 ^ 64 ≤ value then none
      else some (if negative then (2 ^ 64 - value) % 2 ^ 64 else value, used)

/-- `std::stoi`. -/
def stoi (text : Bytes) : Option Int :=
  match scanInteger 10 text with
  | none => none
  | some (negative, value, _) =>
      let signed : Int := if negative then -value else value
      if -(2 ^ 31) ≤ signed ∧ signed < 2 ^ 31 then some signed else none

example : stoul (bytes " -1") 16 = some (2 ^ 64 - 1, 3) := by decide

/-- A decimal digit is one of ten bytes, each with its own value. -/
theorem digit_byte {digit : Char} (isDigit : digit.isDigit = true) :
    48 ≤ UInt8.ofNat digit.toNat ∧ UInt8.ofNat digit.toNat ≤ 57 ∧
      digitValue 10 (UInt8.ofNat digit.toNat) = some (digit.toNat - 48) := by
  have bounds : 48 ≤ digit.toNat ∧ digit.toNat ≤ 57 := Char.isDigit_iff_toNat.mp isDigit
  rcases bounds with ⟨lower, upper⟩
  interval_cases digit.toNat <;> decide

theorem decimal_digit {value : Nat} {byte : UInt8} (member : byte ∈ decimal value) :
    48 ≤ byte ∧ byte ≤ 57 := by
  rcases List.mem_map.mp member with ⟨digit, digitMember, rfl⟩
  have shape := digit_byte (Nat.isDigit_of_mem_toDigits (by decide) (by decide) digitMember)
  exact ⟨shape.1, shape.2.1⟩

theorem decimal_ne_nil (value : Nat) : decimal value ≠ [] := by
  simp [decimal, Nat.toDigits_ne_nil]

theorem magnitude_decimal (value : Nat) : magnitude 10 (decimal value) = value := by
  have folded : ∀ (digits : List Char) (start : Nat), (∀ digit ∈ digits, digit.isDigit = true) →
      (digits.map fun digit => UInt8.ofNat digit.toNat).foldl
        (fun value byte => 10 * value + (digitValue 10 byte).getD 0) start =
      Nat.ofDigitChars 10 digits start := by
    intro digits
    induction digits with
    | nil => simp
    | cons digit rest inductionHypothesis =>
        intro start each
        simp only [List.map_cons, List.foldl_cons, Nat.ofDigitChars_cons,
          (digit_byte (each digit (by simp))).2.2, Option.getD_some]
        exact inductionHypothesis _ fun other member => each other (by simp [member])
  rw [magnitude, decimal, folded _ _ fun digit member =>
    Nat.isDigit_of_mem_toDigits (by decide) (by decide) member]
  exact Nat.ofDigitChars_ten_toDigits

theorem decimal_injective : Function.Injective decimal := by
  intro first second same
  rw [← magnitude_decimal first, same, magnitude_decimal]

/-- A sign is no digit, so two integers of one text are the same. -/
theorem decimalInt_injective : Function.Injective decimalInt := by
  have unsigned : ∀ first second : Nat, 45 :: decimal first ≠ decimal second := by
    intro first second same
    have digit := decimal_digit (same ▸ List.mem_cons_self : (45 : UInt8) ∈ decimal second)
    exact absurd digit.1 (by decide)
  intro first second same
  unfold decimalInt at same
  split at same <;> split at same
  · have magnitudes := decimal_injective (List.cons_injective same)
    omega
  · exact absurd same (unsigned _ _)
  · exact absurd same.symm (unsigned _ _)
  · have magnitudes := decimal_injective same
    omega

/-- A digit neither is blank, nor starts a sign, nor marks a base, nor ends a
line or a string. -/
theorem digit_shape {base : Nat} (small : base ≤ 16) {byte : UInt8}
    (isDigit : (digitValue base byte).isSome = true) :
    isspace byte = false ∧ byte ≠ 0 ∧ byte ≠ 13 ∧ byte ≠ 43 ∧ byte ≠ 45 ∧ byte ≠ 88 ∧
      byte ≠ 120 := by
  have hexadecimal : (digitValue 16 byte).isSome = true := by
    simp only [digitValue] at isDigit ⊢
    split_ifs at isDigit ⊢ <;> first | rfl | omega
  have shapes := @forall_byte (fun byte => (digitValue 16 byte).isSome = true →
    isspace byte = false ∧ byte ≠ 0 ∧ byte ≠ 13 ∧ byte ≠ 43 ∧ byte ≠ 45 ∧ byte ≠ 88 ∧
      byte ≠ 120) (by decide +kernel)
  exact shapes byte hexadecimal

theorem unmarked_lead (base : Nat) (text : List UInt8) : (∀ byte ∈ text, byte ≠ 88 ∧ byte ≠ 120) →
    (match base, text with
      | 16, 48 :: mark :: digit :: _ =>
          if (mark = 120 || mark = 88) && (digitValue 16 digit).isSome then 2 else 0
      | _, _ => 0 : Nat) = 0 := by
  intro unmarked
  split
  next mark digit others =>
    have other := unmarked mark (by simp)
    simp [other]
  next => rfl

theorem unsigned_sign (text : List UInt8) : text.head? ≠ some 43 → text.head? ≠ some 45 →
    (match text with
      | 45 :: _ => 1
      | 43 :: _ => 1
      | _ => 0 : Nat) = 0 := by
  intro notPlus notMinus
  split
  next rest => exact absurd rfl notMinus
  next rest => exact absurd rfl notPlus
  next => rfl

/-- A string of digits is read in full. -/
theorem scanInteger_digits {base : Nat} (small : base ≤ 16) {digits : Bytes}
    (nonempty : digits ≠ []) (areDigits : ∀ byte ∈ digits, (digitValue base byte).isSome = true) :
    scanInteger base digits = some (false, magnitude base digits, digits.length) := by
  cases digits with
  | nil => exact absurd rfl nonempty
  | cons first rest =>
      rcases digit_shape small (areDigits first List.mem_cons_self) with
        ⟨notBlank, _, _, notPlus, notMinus, _, _⟩
      have unchanged : cstr (first :: rest) = first :: rest := by
        rw [cstr, List.takeWhile_eq_self_iff]
        intro byte member
        simpa using (digit_shape small (areDigits byte member)).2.1
      have whole : (first :: rest).takeWhile (fun byte => (digitValue base byte).isSome) =
          first :: rest := List.takeWhile_eq_self_iff.mpr areDigits
      have noSign := unsigned_sign (first :: rest) (by simpa using notPlus)
        (by simpa using notMinus)
      have noLead := unmarked_lead base (first :: rest) fun byte member =>
        (digit_shape small (areDigits byte member)).2.2.2.2.2
      have noBlanks : (first :: rest).takeWhile isspace = [] :=
        List.takeWhile_cons_of_neg (by simp [notBlank])
      unfold scanInteger
      simp only [unchanged, noBlanks, List.length_nil, List.drop_zero, noSign, noLead]
      simp [whole, notMinus]

theorem decimal_digits {value : Nat} {byte : UInt8} (member : byte ∈ decimal value) :
    (digitValue 10 byte).isSome = true := by
  rcases List.mem_map.mp member with ⟨digit, digitMember, rfl⟩
  rw [(digit_byte (Nat.isDigit_of_mem_toDigits (by decide) (by decide) digitMember)).2.2]
  rfl

theorem scanInteger_decimal (value : Nat) :
    scanInteger 10 (decimal value) = some (false, value, (decimal value).length) := by
  rw [scanInteger_digits (by decide) (decimal_ne_nil value)
    fun byte member => decimal_digits member, magnitude_decimal]

/-- What `stoul` returns fits in its type. -/
theorem stoul_lt {text : Bytes} {base value used : Nat}
    (converted : stoul text base = some (value, used)) : value < 2 ^ 64 := by
  unfold stoul at converted
  split at converted
  · cases converted
  · split at converted
    next => cases converted
    next negative magnitude _ _ fits =>
      simp only [Option.some.injEq, Prod.mk.injEq] at converted
      rw [← converted.1]
      split
      · exact Nat.mod_lt _ (by decide)
      · exact Nat.lt_of_not_le fits

theorem stoul_digits {base : Nat} (small : base ≤ 16) {digits : Bytes} (nonempty : digits ≠ [])
    (areDigits : ∀ byte ∈ digits, (digitValue base byte).isSome = true)
    (fits : magnitude base digits < 2 ^ 64) :
    stoul digits base = some (magnitude base digits, digits.length) := by
  simp only [stoul, scanInteger_digits small nonempty areDigits, Nat.not_le.mpr fits, if_false,
    Bool.false_eq_true]

/-- The text of a number that fits is read back in full. -/
theorem stoul_decimal {value : Nat} (fits : value < 2 ^ 64) :
    stoul (decimal value) 10 = some (value, (decimal value).length) := by
  simp only [stoul, scanInteger_decimal, Nat.not_le.mpr fits, if_false, Bool.false_eq_true]

theorem stoi_decimal {value : Nat} (fits : value < 2 ^ 31) :
    stoi (decimal value) = some (value : Int) := by
  have inRange : -(2 ^ 31 : Int) ≤ value ∧ (value : Int) < 2 ^ 31 := by omega
  simp only [stoi, scanInteger_decimal, Bool.false_eq_true, if_false, inRange, and_self, if_true]

end GeoChat
