import GeoChat.Rapidjson.Document

/-!
# Writer and parser

The text that `rapidjson::Writer` gives is one of the grammar, so the parser
reads every exact document back, however deep it is and whatever bytes are in its
strings.
-/

namespace GeoChat.Rapidjson

section Numbers

theorem digitValue_ten {byte : UInt8} (isDigit : isDigit byte = true) :
    (digitValue 10 byte).getD 0 = digit byte :=
  @forall_byte (fun byte => Rapidjson.isDigit byte = true →
    (digitValue 10 byte).getD 0 = digit byte) (by decide +kernel) byte isDigit

theorem magnitude_eq_continued {digits : Bytes} (areDigits : Digits digits) :
    magnitude 10 digits = continued 0 digits := by
  have folded : ∀ start : Nat, digits.foldl
      (fun value byte => 10 * value + (digitValue 10 byte).getD 0) start =
      continued start digits := by
    induction digits with
    | nil => exact fun start => rfl
    | cons byte rest inductionHypothesis =>
        intro start
        rcases List.forall_mem_cons.mp areDigits with ⟨isDigit, others⟩
        rw [List.foldl_cons, continued_cons, digitValue_ten isDigit, Nat.mul_comm]
        exact inductionHypothesis others _
  exact folded 0

theorem digits_decimal (value : Nat) : Digits (decimal value) := fun byte member => by
  rcases decimal_digit member with ⟨lower, upper⟩
  simp [isDigit, lower, upper]

theorem continued_decimal (value : Nat) : continued 0 (decimal value) = value := by
  rw [← magnitude_eq_continued (digits_decimal value), magnitude_decimal]

/-- A number of several digits is written behind its tenth. -/
theorem decimal_append {value : Nat} (large : 10 ≤ value) :
    ∃ last, decimal value = decimal (value / 10) ++ [last] ∧ isDigit last = true := by
  have split := Nat.toDigits_of_base_le (by decide : 1 < 10) large
  refine ⟨UInt8.ofNat (value % 10).digitChar.toNat, ?_, ?_⟩
  · rw [decimal, split, List.map_append]
    rfl
  have member : UInt8.ofNat (value % 10).digitChar.toNat ∈ decimal value := by
    rw [decimal, split]
    simp
  exact digits_decimal value _ member

theorem intText_decimal (value : Nat) : IntText (decimal value) := by
  induction value using Nat.strongRecOn with
  | _ value inductionHypothesis =>
      rcases Nat.lt_or_ge value 10 with small | large
      · interval_cases value
        · exact .zero
        all_goals exact .digits (by decide) (by decide) .nil
      · obtain ⟨last, split, isDigit⟩ := decimal_append large
        rw [split]
        refine (inductionHypothesis (value / 10) (by omega)).append ?_ (.cons isDigit .nil)
        intro zero
        have same : value / 10 = 0 := decimal_injective zero
        omega

theorem numberText_decimalInt {value : Int} (lower : -2 ^ 63 ≤ value) (upper : value < 2 ^ 64) :
    NumberText (decimalInt value) (.int value) := by
  have text : decimalInt value =
      minusText (value < 0) ++ decimal value.natAbs ++ [] ++ [] := by
    by_cases negative : value < 0
    · simp [decimalInt, minusText, negative]
    · simp [decimalInt, minusText, negative]
  have fits : value.natAbs ≤ bound (value < 0) := by
    unfold bound
    split
    next negative =>
      simp only [decide_eq_true_eq] at negative
      omega
    next positive =>
      simp only [decide_eq_true_eq] at positive
      omega
  have number : numberValue (value < 0) (decimal value.natAbs) [] [] = .int value := by
    rw [numberValue, continued_decimal, if_pos ⟨rfl, rfl, fits⟩]
    congr 1
    simp only [decide_eq_true_eq]
    split
    next negative => omega
    next positive => omega
  rw [text, ← number]
  exact .parts _ (intText_decimal _) .none .none

end Numbers

section Strings

/-- The digits behind the `u` of an escaped byte. -/
def hexOf (byte : UInt8) : Bytes := (Json.escapeByte byte).drop 2

/-- The three ways to write a byte. -/
theorem escapeByte_cases (byte : UInt8) :
    (Json.escapeByte byte = [byte] ∧ 32 ≤ byte ∧ byte ≠ 34 ∧ byte ≠ 92) ∨
    (∃ symbol ∈ escapes.map (·.1), Json.escapeByte byte = [92, symbol] ∧
      escapes.lookup symbol = some byte) ∨
    (Json.escapeByte byte = 92 :: 117 :: hexOf byte ∧ (hexOf byte).length = 4 ∧
      (∀ digit ∈ hexOf byte, (digitValue 16 digit).isSome = true) ∧
      magnitude 16 (hexOf byte) = byte.toNat ∧ byte.toNat < 32) :=
  @forall_byte (fun byte =>
    (Json.escapeByte byte = [byte] ∧ 32 ≤ byte ∧ byte ≠ 34 ∧ byte ≠ 92) ∨
    (∃ symbol ∈ escapes.map (·.1), Json.escapeByte byte = [92, symbol] ∧
      escapes.lookup symbol = some byte) ∨
    (Json.escapeByte byte = 92 :: 117 :: hexOf byte ∧ (hexOf byte).length = 4 ∧
      (∀ digit ∈ hexOf byte, (digitValue 16 digit).isSome = true) ∧
      magnitude 16 (hexOf byte) = byte.toNat ∧ byte.toNat < 32)) (by decide +kernel) byte

theorem chars_flatMap (text : Bytes) : Chars (text.flatMap Json.escapeByte) text := by
  induction text with
  | nil => exact .nil
  | cons byte rest inductionHypothesis =>
      rw [List.flatMap_cons]
      rcases escapeByte_cases byte with
        ⟨same, shown, noQuote, noBackslash⟩ | ⟨symbol, _, same, listed⟩ |
        ⟨same, length, areHex, value, small⟩
      · rw [same]
        exact .plain shown noQuote noBackslash inductionHypothesis
      · rw [same]
        exact .escape (.listed listed) inductionHypothesis
      · have single : ¬ HighSurrogate byte.toNat := fun high => by
          have lower := high.1
          omega
        have encodes : encode byte.toNat = .ok [byte] := by
          rw [encode, if_pos (by omega)]
          simp only [UInt8.ofNat_toNat]
        rw [same]
        exact .escape (.unicode ⟨length, areHex, value⟩ single encodes) inductionHypothesis

theorem derives_writeString (text : Bytes) :
    Derives (Json.writeString text) (.value (.string text)) := .string (chars_flatMap text)

end Strings

section Documents

theorem Blank.nil : Blank [] := fun _ member => nomatch member

/-- A member is written without blanks. -/
theorem derives_member (name : Bytes) {value : Json}
    (inside : Derives value.write (.value value)) :
    Derives (Json.writeString name ++ 58 :: value.write) (.member (name, value)) := by
  have derives := Derives.member (chars_flatMap name) .nil .nil inside .nil
  have same : Json.writeString name ++ 58 :: value.write =
      34 :: name.flatMap Json.escapeByte ++ 34 :: [] ++ 58 :: [] ++ value.write ++ [] := by
    simp [Json.writeString]
  rwa [same]

theorem derives_writeElements {element : Json} {rest : List Json}
    (each : ∀ value ∈ element :: rest, Derives value.write (.value value)) :
    Derives (Json.writeElements (element :: rest)) (.elements (element :: rest)) := by
  induction rest generalizing element with
  | nil =>
      have derives := Derives.lastElement (each element List.mem_cons_self) .nil
      rwa [List.append_nil] at derives
  | cons second rest inductionHypothesis =>
      rcases List.forall_mem_cons.mp each with ⟨first, others⟩
      have derives := Derives.moreElements first .nil .nil (inductionHypothesis others)
      rwa [List.append_nil, List.append_assoc] at derives

theorem derives_writeMembers {member : Bytes × Json} {rest : List (Bytes × Json)}
    (each : ∀ value ∈ member :: rest, Derives value.2.write (.value value.2)) :
    Derives (Json.writeMembers (member :: rest)) (.members (member :: rest)) := by
  induction rest generalizing member with
  | nil => exact .lastMember (derives_member member.1 (each member List.mem_cons_self))
  | cons second rest inductionHypothesis =>
      rcases List.forall_mem_cons.mp each with ⟨first, others⟩
      have derives := Derives.moreMembers (derives_member member.1 first) .nil
        (inductionHypothesis others)
      rwa [List.append_assoc] at derives

theorem derives_write {document : Json} (exact : Exact document) :
    Derives document.write (.value document) := by
  induction exact with
  | null => exact .null
  | bool value =>
      cases value with
      | true => exact .isTrue
      | false => exact .isFalse
  | int lower upper =>
      rw [Json.write]
      exact .number (numberText_decimalInt lower upper)
  | string text =>
      rw [Json.write]
      exact derives_writeString text
  | @array elements each inductionHypothesis =>
      cases elements with
      | nil => exact .emptyArray .nil
      | cons element rest =>
          rw [Json.write]
          exact .array .nil (derives_writeElements inductionHypothesis)
  | @object members each inductionHypothesis =>
      cases members with
      | nil => exact .emptyObject .nil
      | cons member rest =>
          rw [Json.write]
          exact .object .nil (derives_writeMembers inductionHypothesis)

variable (doubles : Doubles)

/-- What `rapidjson::Writer` writes of an exact document, `Document::Parse`
reads back. -/
theorem parse_write (document : Json) (exact : Exact document) :
    parse doubles document.write = some document := by
  have isText : DocumentText document.write document :=
    ⟨[], document.write, [], by simp, .nil, .nil, derives_write exact⟩
  rw [parse, Json.cstr_write, parseStream_complete doubles _ isText exact (Nat.lt_succ_self _)]
  rfl

theorem parse_write_string :
    parse wholeDoubles (Json.array [.string [0, 34, 255], .int (-(2 ^ 63))]).write =
      some (.array [.string [0, 34, 255], .int (-(2 ^ 63))]) := by
  refine parse_write wholeDoubles _ (.array fun element member => ?_)
  rcases List.mem_pair.mp member with rfl | rfl
  · exact .string _
  · exact .int (Int.le_refl _) (by decide)

end Documents

end GeoChat.Rapidjson
