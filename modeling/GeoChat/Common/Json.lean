import GeoChat.Common.Utils

/-!
# The parts of rapidjson the program uses

A document is a value. An accessor called outside its precondition violates a
`RAPIDJSON_ASSERT`; the build keeps assertions on, so the violation aborts the
process. The writer is the default `rapidjson::Writer`.
-/

namespace GeoChat

/-- A JSON value. Integers outside every integer type and all fractions are
parsed as doubles, whose value the program never reads. -/
inductive Json where
  | null
  | bool (value : Bool)
  | int (value : Int)
  | double
  | string (text : Bytes)
  | array (elements : List Json)
  | object (members : List (Bytes × Json))

/-- The assertion that failed, or the stack that had no room left. -/
inductive Violation where
  | notObject
  | notString
  | notUint
  | notUint64
  | stackExhausted
  deriving DecidableEq, Repr

/-- A computation that the end of the process cuts off. -/
abbrev Checked := Except Violation

theorem Checked.bind_ok {Alpha Beta : Type} {first : Checked Alpha} {next : Alpha → Checked Beta}
    {result : Beta} (returned : first >>= next = .ok result) :
    ∃ value, first = .ok value ∧ next value = .ok result := by
  cases first with
  | error violation => cases returned
  | ok value => exact ⟨value, rfl, returned⟩

theorem Checked.bind_returns {Alpha Beta : Type} {first : Checked Alpha}
    {next : Alpha → Checked Beta} {value : Alpha} (returned : first = .ok value)
    (further : ∃ result, next value = .ok result) : ∃ result, first >>= next = .ok result := by
  subst returned
  exact further

namespace Json

def isObject : Json → Bool
  | .object _ => true
  | _ => false

def isString : Json → Bool
  | .string _ => true
  | _ => false

/-- `IsUint`: the number fits in 32 unsigned bits. -/
def isUint : Json → Bool
  | .int value => 0 ≤ value && value < 2 ^ 32
  | _ => false

/-- `FindMember` and the comparison of its result with `MemberEnd`, where
`none` is `MemberEnd`. The first member of the name wins. -/
def findMember (document : Json) (name : Bytes) : Checked (Option Json) :=
  match document with
  | .object members => .ok ((members.find? fun member => member.1 = name).map (·.2))
  | _ => .error .notObject

/-- `GetString`, read by the callers as a C string. -/
def getString : Json → Checked Bytes
  | .string text => .ok (cstr text)
  | _ => .error .notString

def getUint (value : Json) : Checked Nat :=
  match value with
  | .int number => if value.isUint then .ok number.toNat else .error .notUint
  | _ => .error .notUint

def getUint64 : Json → Checked Nat
  | .int value => if 0 ≤ value ∧ value < 2 ^ 64 then .ok value.toNat else .error .notUint64
  | _ => .error .notUint64

/-- Read the member of a name with an accessor, or leave the default. -/
def memberOr {Alpha : Type} (document : Json) (name : Bytes) (read : Json → Checked Alpha)
    (default : Alpha) : Checked Alpha := do
  match ← document.findMember name with
  | none => pure default
  | some value => read value

/-- The value of a member, for a document that is an object. -/
def member (document : Json) (name : Bytes) : Option Json :=
  match document with
  | .object members => (members.find? fun member => member.1 = name).map (·.2)
  | _ => none

section FindMember

variable {document : Json} {name : Bytes}

theorem findMember_object (object : document.isObject = true) :
    document.findMember name = .ok (document.member name) := by
  cases document with
  | object members => rfl
  | _ => cases object

theorem findMember_notObject (notObject : document.isObject = false) :
    document.findMember name = .error .notObject := by
  cases document with
  | object members => cases notObject
  | _ => rfl

end FindMember

theorem isUint_iff (value : Json) :
    value.isUint = true ↔ ∃ number : Nat, value = .int number ∧ number < 2 ^ 32 := by
  cases value with
  | int number =>
      simp only [isUint, Bool.and_eq_true, decide_eq_true_eq, Json.int.injEq]
      constructor
      · rintro ⟨lower, upper⟩
        exact ⟨number.toNat, by omega, by omega⟩
      · rintro ⟨natural, rfl, bound⟩
        exact ⟨by omega, by omega⟩
  | _ => simp [isUint]

/-- The one-character escapes of the writer, and `00XX` for the other control
characters. -/
def escapeByte (byte : UInt8) : Bytes :=
  let hex (digit : UInt8) : UInt8 := if digit < 10 then 48 + digit else 55 + digit
  if byte = 34 then [92, 34]
  else if byte = 92 then [92, 92]
  else if byte = 8 then bytes "\\b"
  else if byte = 9 then bytes "\\t"
  else if byte = 10 then bytes "\\n"
  else if byte = 12 then bytes "\\f"
  else if byte = 13 then bytes "\\r"
  else if byte < 32 then bytes "\\u00" ++ [hex (byte / 16), hex (byte % 16)]
  else [byte]

def writeString (text : Bytes) : Bytes := 34 :: text.flatMap escapeByte ++ [34]

mutual

/-- The text `rapidjson::Writer` puts into its buffer. The program writes no
doubles. -/
def write : Json → Bytes
  | .null => bytes "null"
  | .bool true => bytes "true"
  | .bool false => bytes "false"
  | .int value => decimalInt value
  | .double => []
  | .string text => writeString text
  | .array elements => 91 :: writeElements elements ++ [93]
  | .object members => 123 :: writeMembers members ++ [125]

def writeElements : List Json → Bytes
  | [] => []
  | [element] => element.write
  | element :: rest => element.write ++ 44 :: writeElements rest

def writeMembers : List (Bytes × Json) → Bytes
  | [] => []
  | [(name, value)] => writeString name ++ 58 :: value.write
  | (name, value) :: rest => writeString name ++ 58 :: value.write ++ 44 :: writeMembers rest

end

theorem nul_not_mem_decimalInt (value : Int) : (0 : UInt8) ∉ decimalInt value := by
  have digits : (0 : UInt8) ∉ decimal value.natAbs := fun member =>
    absurd (decimal_digit member).1 (by decide)
  unfold decimalInt
  split
  next =>
    intro member
    obtain first | rest := List.mem_cons.mp member
    · exact absurd first (by decide)
    · exact digits rest
  next => exact digits

theorem nul_not_mem_escapeByte (byte : UInt8) : (0 : UInt8) ∉ escapeByte byte := by
  have all : ∀ value : Fin 256, (0 : UInt8) ∉ escapeByte (UInt8.ofNat value) := by decide +kernel
  have rebuilt : byte = UInt8.ofNat byte.toNat := by simp
  rw [rebuilt]
  exact all ⟨byte.toNat, byte.toNat_lt⟩

theorem nul_not_mem_writeString (text : Bytes) : (0 : UInt8) ∉ writeString text := by
  simp only [writeString, List.mem_append, List.mem_cons, List.mem_flatMap, List.not_mem_nil,
    or_false, not_or]
  refine ⟨⟨by decide, ?_⟩, by decide⟩
  rintro ⟨byte, _, member⟩
  exact nul_not_mem_escapeByte byte member

mutual

/-- The writer escapes the byte that ends a C string. -/
theorem nul_not_mem_write : ∀ document : Json, (0 : UInt8) ∉ document.write
  | .null => by decide
  | .bool true => by decide
  | .bool false => by decide
  | .int value => by simpa only [write] using nul_not_mem_decimalInt value
  | .double => by simp [write]
  | .string text => by simpa only [write] using nul_not_mem_writeString text
  | .array elements => by
      have inner := nul_not_mem_writeElements elements
      simp only [write, List.cons_append, List.mem_cons, List.mem_append, List.not_mem_nil,
        or_false, not_or]
      exact ⟨by decide, inner, by decide⟩
  | .object members => by
      have inner := nul_not_mem_writeMembers members
      simp only [write, List.cons_append, List.mem_cons, List.mem_append, List.not_mem_nil,
        or_false, not_or]
      exact ⟨by decide, inner, by decide⟩

theorem nul_not_mem_writeElements : ∀ elements : List Json, (0 : UInt8) ∉ writeElements elements
  | [] => by simp [writeElements]
  | [element] => by simpa only [writeElements] using nul_not_mem_write element
  | element :: second :: rest => by
      have first := nul_not_mem_write element
      have others := nul_not_mem_writeElements (second :: rest)
      simp only [writeElements, List.mem_append, List.mem_cons, not_or]
      exact ⟨first, by decide, others⟩

theorem nul_not_mem_writeMembers :
    ∀ members : List (Bytes × Json), (0 : UInt8) ∉ writeMembers members
  | [] => by simp [writeMembers]
  | [(name, value)] => by
      have inner := nul_not_mem_write value
      simp only [writeMembers, List.mem_append, List.mem_cons, not_or]
      exact ⟨nul_not_mem_writeString name, by decide, inner⟩
  | (name, value) :: second :: rest => by
      have inner := nul_not_mem_write value
      have others := nul_not_mem_writeMembers (second :: rest)
      simp only [writeMembers, List.cons_append, List.append_assoc, List.mem_append, List.mem_cons,
        not_or]
      exact ⟨nul_not_mem_writeString name, by decide, inner, by decide, others⟩

end

/-- A written document is read in full as a C string. -/
theorem cstr_write (document : Json) : cstr document.write = document.write := by
  rw [cstr, List.takeWhile_eq_self_iff]
  intro byte member
  have nonzero : byte ≠ 0 := by
    rintro rfl
    exact nul_not_mem_write document member
  simpa using nonzero

/-- The parser gives back the document that was written. -/
def ReadsBack (parse : Bytes → Option Json) (document : Json) : Prop :=
  parse document.write = some document

/-- `writer.Uint64`. -/
def uint64 (value : Nat) : Json := .int (value % 2 ^ 64 : Nat)

/-- `writer.String(text.c_str())`. -/
def ofCString (text : Bytes) : Json := .string (cstr text)

end Json

end GeoChat
