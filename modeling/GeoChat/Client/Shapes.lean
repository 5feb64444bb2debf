import GeoChat.Client.Replies

/-!
# The replies that the client survives

The `parse_*` functions check whether an array is an array and whether an
element is an object, but never whether the document is one, nor the type of a
member before they read it. Each returns on the replies of its shape only.
-/

namespace GeoChat.CliUtils

/-- The computation violates no assertion. -/
def Returns {Alpha : Type} (result : Checked Alpha) : Prop := ∃ value, result = .ok value

theorem returns_ok {Alpha : Type} (value : Alpha) : Returns (.ok value : Checked Alpha) :=
  ⟨value, rfl⟩

theorem not_returns_error {Alpha : Type} (violation : Violation) :
    ¬ Returns (.error violation : Checked Alpha) := by
  rintro ⟨value, returned⟩
  cases returned

/-- A sequence of two computations returns exactly when both do, where what the
first returns does not decide whether the second does. -/
theorem returns_bind_iff {Alpha Beta : Type} {first : Checked Alpha}
    {next : Alpha → Checked Beta} {shape : Prop}
    (further : ∀ value, first = .ok value → (Returns (next value) ↔ shape)) :
    Returns (first >>= next) ↔ Returns first ∧ shape := by
  cases ran : first with
  | error violation =>
      refine iff_of_false (not_returns_error violation) fun both => ?_
      exact not_returns_error violation both.1
  | ok value =>
      change Returns (next value) ↔ _
      rw [further value ran]
      exact (and_iff_right (returns_ok value)).symm

theorem returns_bind_pure_iff {Alpha Beta : Type} {first : Checked Alpha} {make : Alpha → Beta} :
    Returns (first >>= fun value => pure (make value)) ↔ Returns first := by
  cases first with
  | error violation =>
      exact iff_of_false (not_returns_error violation) (not_returns_error violation)
  | ok value => exact iff_of_true (returns_ok _) (returns_ok value)

/-- Four values are read, and one is made of them. -/
theorem returns_four_iff {First Second Third Fourth Result : Type} (first : Checked First)
    (second : Checked Second) (third : Checked Third) (fourth : Checked Fourth)
    (make : First → Second → Third → Fourth → Result) :
    Returns (do
        let one ← first
        let two ← second
        let three ← third
        let four ← fourth
        pure (make one two three four)) ↔
      Returns first ∧ Returns second ∧ Returns third ∧ Returns fourth := by
  refine returns_bind_iff fun one _ => ?_
  refine returns_bind_iff fun two _ => ?_
  refine returns_bind_iff fun three _ => ?_
  exact returns_bind_pure_iff

/-- `IsUint64`. -/
def isUint64 : Json → Bool
  | .int value => 0 ≤ value && value < 2 ^ 64
  | _ => false

/-- The member of this name, if there is one, has the type. -/
def MemberIs (type : Json → Bool) (document : Json) (name : Bytes) : Prop :=
  ∀ value, document.member name = some value → type value = true

theorem returns_getUint64_iff (value : Json) : Returns value.getUint64 ↔ isUint64 value = true := by
  cases value with
  | int number =>
      simp only [Json.getUint64, isUint64, Bool.and_eq_true, decide_eq_true_eq]
      by_cases range : 0 ≤ number ∧ number < 2 ^ 64
      · rw [if_pos range]
        exact iff_of_true (returns_ok _) range
      · rw [if_neg range]
        exact iff_of_false (not_returns_error _) range
  | _ => exact iff_of_false (not_returns_error _) Bool.false_ne_true

theorem returns_getString_iff (value : Json) : Returns value.getString ↔ value.isString = true := by
  cases value with
  | string text => exact iff_of_true (returns_ok _) rfl
  | _ => exact iff_of_false (not_returns_error _) Bool.false_ne_true

/-- A lookup needs an object, and goes on with the member. -/
theorem returns_lookup_iff {Alpha : Type} {document : Json} {name : Bytes}
    {next : Option Json → Checked Alpha} {shape : Prop}
    (further : Returns (next (document.member name)) ↔ shape) :
    Returns (document.findMember name >>= next) ↔ document.isObject = true ∧ shape := by
  by_cases object : document.isObject = true
  · rw [Json.findMember_object object, and_iff_right object]
    exact further
  · rw [Json.findMember_notObject (Bool.eq_false_of_not_eq_true object)]
    exact iff_of_false (not_returns_error _) fun both => object both.1

/-- A member is read when the document is an object and the member, if there is
one, of the type of the accessor. -/
theorem returns_memberOr_iff {Alpha : Type} {type : Json → Bool} {read : Json → Checked Alpha}
    (reads : ∀ value, Returns (read value) ↔ type value = true) (document : Json) (name : Bytes)
    (default : Alpha) :
    Returns (document.memberOr name read default) ↔
      document.isObject = true ∧ MemberIs type document name := by
  unfold Json.memberOr MemberIs
  refine returns_lookup_iff ?_
  cases document.member name with
  | none => exact iff_of_true (returns_ok default) nofun
  | some value =>
      change Returns (read value) ↔ _
      simp only [reads, Option.some.injEq, forall_eq']

/-- The members that `parse_msg_response` reads of an element. -/
structure MsgMembers (v : Json) : Prop where
  ts : MemberIs isUint64 v (bytes "ts")
  sender : MemberIs Json.isString v (bytes "from")
  recipient : MemberIs Json.isString v (bytes "to")
  msg : MemberIs Json.isString v (bytes "message")

theorem returns_readMsg_iff {v : Json} (object : v.isObject = true) :
    Returns (readMsg v) ↔ MsgMembers v := by
  have uint64 := fun name => returns_memberOr_iff returns_getUint64_iff v name 0
  have string := fun name => returns_memberOr_iff returns_getString_iff v name []
  unfold readMsg
  rw [returns_four_iff, uint64, string, string, string]
  simp only [object, true_and]
  exact ⟨fun ⟨ts, sender, recipient, msg⟩ => ⟨ts, sender, recipient, msg⟩,
    fun members => ⟨members.ts, members.sender, members.recipient, members.msg⟩⟩

/-- The loop stops at the first element that is no object. -/
theorem returns_readMsgs_iff (elements : List Json) (response : List MsgResponse) :
    Returns (readMsgs elements response) ↔
      ∀ v ∈ elements.takeWhile Json.isObject, MsgMembers v := by
  induction elements generalizing response with
  | nil => exact iff_of_true (returns_ok _) nofun
  | cons v rest inductionHypothesis =>
      unfold readMsgs
      by_cases object : v.isObject = true
      · rw [if_pos object, List.takeWhile_cons_of_pos object, List.forall_mem_cons,
          ← returns_readMsg_iff object]
        exact returns_bind_iff fun r _ => inductionHypothesis (response ++ [r])
      · rw [if_neg object, List.takeWhile_cons_of_neg object]
        exact iff_of_true (returns_ok _) nofun

/-- The replies that `parse_msg_response` reads or refuses. -/
structure MsgBody (document : Json) : Prop where
  object : document.isObject = true
  msgs : ∀ elements, document.member (bytes "msgs") = some (.array elements) →
    ∀ v ∈ elements.takeWhile Json.isObject, MsgMembers v

/-- The replies that `parse_response_aswer` reads. -/
structure AnswerBody (document : Json) : Prop where
  object : document.isObject = true
  numbers : ∀ name ∈ [bytes "id", bytes "chatid", bytes "heartbit", bytes "server_ts"],
    MemberIs isUint64 document name

/-- The replies with an array of names that `parse_location_response` and
`parse_chat_loc_response` read. -/
structure NamesBody (list key : Bytes) (document : Json) : Prop where
  object : document.isObject = true
  serverTs : MemberIs isUint64 document (bytes "server_ts")
  names : ∀ elements, document.member list = some (.array elements) →
    ∀ v ∈ elements, v.isObject = true → MemberIs Json.isString v key

/-- Past the lookup of the array only its elements can be at fault. -/
theorem returns_msgs_iff (found : Option Json) :
    Returns (match found with
        | none => (pure (bytes "bad message", []) : Checked (Bytes × List MsgResponse))
        | some (.array elements) => readMsgs elements []
        | some _ => pure (bytes "bad format", [])) ↔
      ∀ elements, found = some (.array elements) →
        ∀ v ∈ elements.takeWhile Json.isObject, MsgMembers v := by
  rcases found with - | value
  · exact iff_of_true (returns_ok _) nofun
  · cases value with
    | array elements =>
        change Returns (readMsgs elements []) ↔ _
        rw [returns_readMsgs_iff]
        simp only [Option.some.injEq, Json.array.injEq, forall_eq']
    | _ => exact iff_of_true (returns_ok _) nofun

/-- Of the elements of an array of names the objects alone are read. -/
theorem returns_readNames_iff (key : Bytes) (elements : List Json) (names : List Bytes) :
    Returns (readNames key elements names) ↔
      ∀ v ∈ elements, v.isObject = true → MemberIs Json.isString v key := by
  induction elements generalizing names with
  | nil => exact iff_of_true (returns_ok _) nofun
  | cons v rest inductionHypothesis =>
      rw [List.forall_mem_cons]
      unfold readNames
      by_cases object : v.isObject = true
      · rw [if_pos object]
        rw [Json.findMember_object object, MemberIs]
        cases v.member key with
        | none =>
            change Returns (readNames key rest names) ↔ _
            rw [inductionHypothesis]
            exact (and_iff_right fun _ => nofun).symm
        | some value =>
            change Returns (value.getString >>= fun name =>
              readNames key rest (names ++ [name])) ↔ _
            rw [returns_bind_iff fun name _ => inductionHypothesis (names ++ [name]),
              returns_getString_iff]
            simp only [object, true_implies, Option.some.injEq, forall_eq']
      · rw [if_neg object, inductionHypothesis]
        exact (and_iff_right fun isObject => absurd isObject object).symm

theorem returns_names_iff (key : Bytes) (serverTs : Nat) (found : Option Json) :
    Returns (match found with
        | some (.array elements) => do
            let names ← readNames key elements []
            pure ([], { serverTs, names })
        | _ => (pure ([], { serverTs }) : Checked (Bytes × NamesResponse))) ↔
      ∀ elements, found = some (.array elements) →
        ∀ v ∈ elements, v.isObject = true → MemberIs Json.isString v key := by
  rcases found with - | value
  · exact iff_of_true (returns_ok _) nofun
  · cases value with
    | array elements =>
        change Returns (readNames key elements [] >>= fun names =>
          pure (([], { serverTs, names }) : Bytes × NamesResponse)) ↔ _
        rw [returns_bind_pure_iff, returns_readNames_iff]
        simp only [Option.some.injEq, Json.array.injEq, forall_eq']
    | _ => exact iff_of_true (returns_ok _) nofun

section Parse

variable (parse : Bytes → Option Json) (json : Bytes)

/-- A reply that is no document is refused. -/
theorem returns_parsed_iff {Alpha : Type} {refused : Alpha} {read : Json → Checked Alpha}
    {shape : Json → Prop} (reads : ∀ document, Returns (read document) ↔ shape document) :
    Returns (match parse (cstr json) with
        | none => (pure refused : Checked Alpha)
        | some document => read document) ↔
      ∀ document, parse (cstr json) = some document → shape document := by
  cases parse (cstr json) with
  | none => exact iff_of_true (returns_ok refused) nofun
  | some document => simp only [Option.some.injEq, forall_eq', reads]

theorem returns_parseMsgResponse_iff :
    Returns (parseMsgResponse parse json) ↔
      ∀ document, parse (cstr json) = some document → MsgBody document := by
  refine returns_parsed_iff parse json fun document => ?_
  refine (returns_lookup_iff (returns_msgs_iff _)).trans ?_
  exact ⟨fun ⟨object, msgs⟩ => ⟨object, msgs⟩, fun body => ⟨body.object, body.msgs⟩⟩

theorem returns_parseResponseAswer_iff :
    Returns (parseResponseAswer parse json) ↔
      ∀ document, parse (cstr json) = some document → AnswerBody document := by
  refine returns_parsed_iff parse json fun document => ?_
  have uint64 := fun name => returns_memberOr_iff returns_getUint64_iff document name 0
  rw [returns_four_iff, uint64, uint64, uint64, uint64]
  constructor
  · rintro ⟨⟨object, uid⟩, ⟨-, chatid⟩, ⟨-, heartbit⟩, -, serverTs⟩
    exact ⟨object, by simpa using ⟨uid, chatid, heartbit, serverTs⟩⟩
  · rintro ⟨object, numbers⟩
    simpa [object] using numbers

theorem returns_parseNames_iff (list key : Bytes) :
    Returns (parseNames parse list key json) ↔
      ∀ document, parse (cstr json) = some document → NamesBody list key document := by
  refine returns_parsed_iff parse json fun document => ?_
  refine (returns_bind_iff fun serverTs _ =>
    returns_lookup_iff (returns_names_iff key serverTs _)).trans ?_
  rw [returns_memberOr_iff returns_getUint64_iff]
  constructor
  · rintro ⟨⟨object, serverTs⟩, -, names⟩
    exact ⟨object, serverTs, names⟩
  · exact fun body => ⟨⟨body.object, body.serverTs⟩, body.object, body.names⟩

/-- A reply is survived exactly when it does not parse or has the shape that
the function reads. -/
theorem parse_functions_return_iff :
    (Returns (parseMsgResponse parse json) ↔
      ∀ document, parse (cstr json) = some document → MsgBody document) ∧
    (Returns (parseResponseAswer parse json) ↔
      ∀ document, parse (cstr json) = some document → AnswerBody document) ∧
    (Returns (parseLocationResponse parse json) ↔
      ∀ document, parse (cstr json) = some document →
        NamesBody (bytes "locations") (bytes "location") document) ∧
    (Returns (parseChatLocResponse parse json) ↔
      ∀ document, parse (cstr json) = some document →
        NamesBody (bytes "users") (bytes "user") document) :=
  ⟨returns_parseMsgResponse_iff parse json, returns_parseResponseAswer_iff parse json,
    returns_parseNames_iff parse json _ _, returns_parseNames_iff parse json _ _⟩

end Parse

/-- An array for the whole reply, and a null where a number is read. -/
theorem parse_functions_abort :
    let list (text : Bytes) : Option Json := if text = bytes "[]" then some (.array []) else none
    let stamp : Json := .object
      [(bytes "server_ts", .null), (bytes "msgs", .array [.object [(bytes "ts", .null)]])]
    let body := bytes "\x7b\"server_ts\":null,\"msgs\":[\x7b\"ts\":null\x7d]\x7d"
    let stamped (text : Bytes) : Option Json := if text = body then some stamp else none
    (¬ Returns (parseMsgResponse list (bytes "[]")) ∧
      ¬ Returns (parseResponseAswer list (bytes "[]")) ∧
      ¬ Returns (parseLocationResponse list (bytes "[]")) ∧
      ¬ Returns (parseChatLocResponse list (bytes "[]"))) ∧
    ¬ Returns (parseMsgResponse stamped body) ∧
    ¬ Returns (parseResponseAswer stamped body) ∧
    ¬ Returns (parseLocationResponse stamped body) ∧
    ¬ Returns (parseChatLocResponse stamped body) := by
  intro list stamp body stamped
  have parsedList : list (cstr (bytes "[]")) = some (.array []) := if_pos (by decide)
  have parsedStamp : stamped (cstr body) = some stamp := if_pos (by decide +kernel)
  have atStamp : stamp.member (bytes "server_ts") = some .null := by rfl
  have atMsgs : stamp.member (bytes "msgs") =
      some (.array [.object [(bytes "ts", .null)]]) := by rfl
  refine ⟨⟨?_, ?_, ?_, ?_⟩, ?_, ?_, ?_, ?_⟩
  · rw [returns_parseMsgResponse_iff]
    exact fun shape => nomatch (shape _ parsedList).object
  · rw [returns_parseResponseAswer_iff]
    exact fun shape => nomatch (shape _ parsedList).object
  · rw [parseLocationResponse, returns_parseNames_iff]
    exact fun shape => nomatch (shape _ parsedList).object
  · rw [parseChatLocResponse, returns_parseNames_iff]
    exact fun shape => nomatch (shape _ parsedList).object
  · rw [returns_parseMsgResponse_iff]
    intro shape
    have members := (shape _ parsedStamp).msgs _ atMsgs _ (.head _)
    exact nomatch members.ts .null rfl
  · rw [returns_parseResponseAswer_iff]
    exact fun shape => nomatch (shape _ parsedStamp).numbers _ (by simp) .null atStamp
  · rw [parseLocationResponse, returns_parseNames_iff]
    exact fun shape => nomatch (shape _ parsedStamp).serverTs .null atStamp
  · rw [parseChatLocResponse, returns_parseNames_iff]
    exact fun shape => nomatch (shape _ parsedStamp).serverTs .null atStamp

end GeoChat.CliUtils
