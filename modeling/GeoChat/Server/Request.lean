import GeoChat.Common.Json
import GeoChat.Server.Database

/-!
# Requests and `parse_meta`

The body of a request is parsed before anything about its sender is known.
`parse_meta` returns an error text, which is empty when the request is good;
a call of an accessor outside its precondition aborts the process. The parser
of rapidjson and the option `pass_len` are parameters, and so are the texts on
which `std::regex_match` exhausts the stack.
-/

namespace GeoChat

/-- `RequestDetails`, without the session id of the log. -/
structure RequestDetails where
  params : Params := {}
  command : Cmd
  remoteAddress : Bytes := []
  resource : Bytes := []
  method : Bytes := []
  deriving DecidableEq, Repr

/-- What `apiclient_utils::password_check` returns. -/
def passwordCheck (password : Bytes) (minLen : Nat) : Bool :=
  minLen ≤ password.length && password.all fun byte =>
    (97 ≤ byte && byte ≤ 122) || (65 ≤ byte && byte ≤ 90) || (48 ≤ byte && byte ≤ 57) || byte = 95

/-- `apiclient_utils::password_check`. The matcher of `std::regex` calls itself
for every letter that it takes, and `exhausts` says for which texts the stack has
no room; a text that is too short is not matched. -/
def passwordCheckOn (exhausts : Bytes → Bool) (password : Bytes) (minLen : Nat) : Checked Bool :=
  if password.length < minLen then pure false
  else if exhausts password then .error .stackExhausted
  else pure (passwordCheck password minLen)

/-- The least length of a password under the option `pass_len`. -/
def minPassLen (passLen : Int) : Nat := (if passLen < 0 then 8 else passLen).toNat

def badRequest (pattern complaint : Bytes) : Bytes :=
  bytes "bad request, " ++ pattern ++ complaint

/-- `find_required_string_param`: the text of the error, or the value that the
iterator points to. -/
def findRequiredStringParam (document : Json) (pattern : Bytes) :
    Checked (Except Bytes Json) := do
  match ← document.findMember pattern with
  | none => pure (.error (badRequest pattern (bytes " required")))
  | some value =>
      if !value.isString then
        pure (.error (badRequest pattern (bytes " is not string")))
      else do
        let text ← value.getString
        if text.isEmpty then
          pure (.error (badRequest pattern (bytes " is empty")))
        else
          pure (.ok value)

/-- `find_required_uint_param`. -/
def findRequiredUintParam (document : Json) (pattern : Bytes) :
    Checked (Except Bytes Json) := do
  match ← document.findMember pattern with
  | none => pure (.error (badRequest pattern (bytes " required")))
  | some value =>
      if !value.isUint then
        pure (.error (badRequest pattern (bytes " is not uint")))
      else
        pure (.ok value)

/-- What `parse_meta` leaves in the details, and the text it returns. -/
abbrev Parsed := RequestDetails × Bytes

/-- The block that reads one required string: an error ends `parse_meta`. -/
def requireString (document : Json) (pattern : Bytes) (details : RequestDetails)
    (next : Bytes → Checked Parsed) : Checked Parsed := do
  match ← findRequiredStringParam document pattern with
  | .error fatalError => pure (details, fatalError)
  | .ok value => do
      let text ← value.getString
      next text

/-- The block that reads one required number. -/
def requireUint (document : Json) (pattern : Bytes) (details : RequestDetails)
    (next : Nat → Checked Parsed) : Checked Parsed := do
  match ← findRequiredUintParam document pattern with
  | .error fatalError => pure (details, fatalError)
  | .ok value => do
      let number ← value.getUint
      next number

/-- The block that reads a number and drops the error: the request is good
without it. -/
def optionalUint (document : Json) (pattern : Bytes) (details : RequestDetails)
    (set : Params → Nat → Params) : Checked Parsed := do
  match ← findRequiredUintParam document pattern with
  | .error _ => pure (details, [])
  | .ok value => do
      let number ← value.getUint
      pure ({ details with params := set details.params number }, [])

/-- The part of `parse_meta` for the two commands that need no user id. -/
def parseCredentialsOn (exhausts : Bytes → Bool) (passLen : Int) (document : Json)
    (details : RequestDetails) (command : Cmd) : Checked Parsed :=
  requireString document (bytes "user") details fun user => do
    let details := { details with params := { details.params with user } }
    if command = .userCreate then
      if !(← passwordCheckOn exhausts details.params.password (minPassLen passLen)) then
        pure (details, bytes "weak password")
      else
        pure (details, [])
    else
      pure (details, [])

/-- The part of `parse_meta` after the user id is read. -/
def parseParams (document : Json) (details : RequestDetails) (command : Cmd) : Checked Parsed :=
  if command = .chatCreate ∨ command = .chatAdduser then
    requireString document (bytes "chatname") details fun name =>
      let details :=
        { details with params := { details.params with chat := { details.params.chat with name } } }
      if command = .chatAdduser then
        requireString document (bytes "adduser") details fun adduser =>
          pure ({ details with params :=
            { details.params with chat := { details.params.chat with adduser } } }, [])
      else
        pure (details, [])
  else if command = .idle then
    optionalUint document (bytes "heartbit") details fun params number =>
      { params with ts := number }
  else if command = .userHistory ∨ command = .userStatus then
    requireString document (bytes "user") details fun user =>
      optionalUint document (bytes "count")
        { details with params := { details.params with user } } fun params number =>
          { params with count := number }
  else if command = .messageSend ∨ command = .messageSendChat then
    requireString document (bytes "message") details fun message =>
      let details := { details with params := { details.params with message } }
      if command = .messageSend then
        requireString document (bytes "to") details fun toUser =>
          pure ({ details with params := { details.params with toUser } }, [])
      else
        requireString document (bytes "chatname") details fun name =>
          pure ({ details with params :=
            { details.params with chat := { details.params.chat with name } } }, [])
  else if command = .chatWithLocation then
    requireString document (bytes "city") details fun city =>
      pure ({ details with params := { details.params with city } }, [])
  else
    pure (details, [])

/-- `parse_meta`. The parser reads a C string. -/
def parseMetaOn (exhausts : Bytes → Bool) (parse : Bytes → Option Json) (passLen : Int)
    (details : RequestDetails) (json : Bytes) (command : Cmd) : Checked Parsed :=
  match parse (cstr json) with
  | none => pure (details, bytes "bad request, invalid json")
  | some document =>
      requireString document (bytes "password") details fun password =>
        let details := { details with params := { details.params with password } }
        if command = .userCreate ∨ command = .userLogin then
          parseCredentialsOn exhausts passLen document details command
        else
          requireUint document (bytes "uid") details fun uid =>
            parseParams document { details with params := { details.params with uid } } command

/-- `parse_meta` with a stack that no password exhausts. -/
def parseMeta (parse : Bytes → Option Json) (passLen : Int) (details : RequestDetails)
    (json : Bytes) (command : Cmd) : Checked Parsed :=
  parseMetaOn (fun _ => false) parse passLen details json command

/-- The check returns where the stack has room. -/
theorem passwordCheckOn_returns {exhausts : Bytes → Bool} {password : Bytes} {minLen : Nat}
    (room : minLen ≤ password.length → exhausts password = false) :
    passwordCheckOn exhausts password minLen = .ok (passwordCheck password minLen) := by
  unfold passwordCheckOn
  split
  next short =>
    have weak : passwordCheck password minLen = false := by
      simp [passwordCheck, Nat.not_le.mpr short]
    rw [weak]
    rfl
  next long =>
    rw [room (Nat.not_lt.mp long)]
    rfl

@[simp]
theorem passwordCheckOn_unbounded (password : Bytes) (minLen : Nat) :
    passwordCheckOn (fun _ => false) password minLen = .ok (passwordCheck password minLen) :=
  passwordCheckOn_returns fun _ => rfl

/-- A member that is a string, and not an empty one. -/
def Json.hasString (document : Json) (name : Bytes) : Prop :=
  ∃ text, document.member name = some (.string text) ∧ cstr text ≠ []

/-- A member that is an unsigned number of 32 bits. -/
def Json.hasUint (document : Json) (name : Bytes) : Prop :=
  ∃ value, document.member name = some value ∧ value.isUint = true

/-- The strings that a command requires besides the password. -/
def requiredStrings : Cmd → List Bytes
  | .userCreate | .userLogin | .userHistory | .userStatus => [bytes "user"]
  | .chatCreate => [bytes "chatname"]
  | .chatAdduser => [bytes "chatname", bytes "adduser"]
  | .messageSend => [bytes "message", bytes "to"]
  | .messageSendChat => [bytes "message", bytes "chatname"]
  | .chatWithLocation => [bytes "city"]
  | _ => []

/-- The shape of the body of a command: an object with the members the command
requires, each of its type. A `heartbit` and a `count` are not required. -/
structure ExpectedShape (command : Cmd) (document : Json) : Prop where
  object : document.isObject = true
  password : document.hasString (bytes "password")
  strings : ∀ name ∈ requiredStrings command, document.hasString name
  uid : command ≠ .userCreate → command ≠ .userLogin → document.hasUint (bytes "uid")

/-- The computation returns, and where the shape is wrong it returns an error
text. -/
def Answers (shape : Prop) (result : Checked Parsed) : Prop :=
  ∃ details text, result = .ok (details, text) ∧ (¬ shape → text ≠ [])

theorem answers_error {shape : Prop} {details : RequestDetails} {text : Bytes}
    (nonempty : text ≠ []) : Answers shape (pure (details, text)) :=
  ⟨details, text, rfl, fun _ => nonempty⟩

theorem answers_of_shape {shape : Prop} {details : RequestDetails} {text : Bytes}
    (right : shape) : Answers shape (pure (details, text)) :=
  ⟨details, text, rfl, fun wrong => absurd right wrong⟩

theorem badRequest_ne_nil (pattern complaint : Bytes) : badRequest pattern complaint ≠ [] := by
  have nonempty : bytes "bad request, " ≠ [] := by decide
  simp [badRequest, nonempty]

section Fields

variable {shape : Prop} {document : Json} {pattern : Bytes} {details : RequestDetails}

/-- The search for a string in an object never leaves the preconditions. -/
theorem findRequiredStringParam_object (pattern : Bytes) (object : document.isObject = true) :
    (∃ text, findRequiredStringParam document pattern = .ok (.ok (.string text)) ∧
      document.hasString pattern) ∨
    ∃ fatalError, findRequiredStringParam document pattern = .ok (.error fatalError) ∧
      fatalError ≠ [] := by
  unfold findRequiredStringParam
  rw [Json.findMember_object object]
  cases found : document.member pattern with
  | none => exact .inr ⟨_, rfl, badRequest_ne_nil _ _⟩
  | some value =>
      cases value with
      | string text =>
          by_cases empty : cstr text = []
          · refine .inr ⟨_, ?_, badRequest_ne_nil pattern (bytes " is empty")⟩
            simp [Json.isString, Json.getString, empty, bind, Except.bind, pure, Except.pure]
          · refine .inl ⟨text, ?_, text, found, empty⟩
            simp [Json.isString, Json.getString, empty, bind, Except.bind, pure, Except.pure]
      | _ => exact .inr ⟨_, rfl, badRequest_ne_nil _ _⟩

theorem findRequiredUintParam_object (pattern : Bytes) (object : document.isObject = true) :
    (∃ value, findRequiredUintParam document pattern = .ok (.ok value) ∧
      value.isUint = true ∧ document.hasUint pattern) ∨
    ∃ fatalError, findRequiredUintParam document pattern = .ok (.error fatalError) ∧
      fatalError ≠ [] := by
  unfold findRequiredUintParam
  rw [Json.findMember_object object]
  cases found : document.member pattern with
  | none => exact .inr ⟨_, rfl, badRequest_ne_nil _ _⟩
  | some value =>
      by_cases fits : value.isUint = true
      · refine .inl ⟨value, ?_, fits, value, found, fits⟩
        simp [fits, bind, Except.bind, pure, Except.pure]
      · refine .inr ⟨_, ?_, badRequest_ne_nil pattern (bytes " is not uint")⟩
        simp [fits, bind, Except.bind, pure, Except.pure]

theorem getUint_of_isUint {value : Json} (fits : value.isUint = true) :
    ∃ number, value.getUint = .ok number := by
  cases value with
  | int number => exact ⟨number.toNat, by simp [Json.getUint, fits]⟩
  | _ => simp [Json.isUint] at fits

/-- The block reads the string that is there. -/
theorem requireString_of_member {text : Bytes} (next : Bytes → Checked Parsed)
    (found : document.member pattern = some (.string text)) (nonempty : cstr text ≠ []) :
    requireString document pattern details next = next (cstr text) := by
  have object : document.isObject = true := by
    cases document with
    | object members => rfl
    | _ => cases found
  unfold requireString findRequiredStringParam
  rw [Json.findMember_object object, found]
  simp [Json.isString, Json.getString, nonempty, bind, Except.bind, pure, Except.pure]

theorem findRequiredUintParam_of_member {value : Json}
    (found : document.member pattern = some value) (fits : value.isUint = true) :
    findRequiredUintParam document pattern = .ok (.ok value) := by
  have object : document.isObject = true := by
    cases document with
    | object members => rfl
    | _ => cases found
  unfold findRequiredUintParam
  rw [Json.findMember_object object, found]
  simp [fits, bind, Except.bind, pure, Except.pure]

theorem requireUint_of_member {value : Json} {number : Nat} (next : Nat → Checked Parsed)
    (found : document.member pattern = some value) (fits : value.isUint = true)
    (got : value.getUint = .ok number) :
    requireUint document pattern details next = next number := by
  unfold requireUint
  rw [findRequiredUintParam_of_member found fits]
  simp only [bind, Except.bind, got]

theorem optionalUint_of_member {value : Json} {number : Nat} (set : Params → Nat → Params)
    (found : document.member pattern = some value) (fits : value.isUint = true)
    (got : value.getUint = .ok number) :
    optionalUint document pattern details set =
      .ok ({ details with params := set details.params number }, []) := by
  unfold optionalUint
  rw [findRequiredUintParam_of_member found fits]
  simp only [bind, Except.bind, got, pure, Except.pure]

theorem optionalUint_of_none (set : Params → Nat → Params) (object : document.isObject = true)
    (missing : document.member pattern = none) :
    optionalUint document pattern details set = .ok (details, []) := by
  unfold optionalUint findRequiredUintParam
  rw [Json.findMember_object object, missing]
  rfl

theorem answers_requireString {next : Bytes → Checked Parsed}
    (object : document.isObject = true)
    (further : document.hasString pattern → ∀ text, Answers shape (next text)) :
    Answers shape (requireString document pattern details next) := by
  unfold requireString
  rcases findRequiredStringParam_object pattern object with
    ⟨text, found, has⟩ | ⟨fatalError, failed, nonempty⟩
  · rw [found]
    exact further has (cstr text)
  · rw [failed]
    exact answers_error nonempty

theorem answers_requireUint {next : Nat → Checked Parsed} (object : document.isObject = true)
    (further : document.hasUint pattern → ∀ number, Answers shape (next number)) :
    Answers shape (requireUint document pattern details next) := by
  unfold requireUint
  rcases findRequiredUintParam_object pattern object with
    ⟨value, found, fits, has⟩ | ⟨fatalError, failed, nonempty⟩
  · rcases getUint_of_isUint fits with ⟨number, got⟩
    rw [found]
    simpa [bind, Except.bind, got] using further has number
  · rw [failed]
    exact answers_error nonempty

theorem answers_optionalUint {set : Params → Nat → Params} (object : document.isObject = true)
    (right : shape) : Answers shape (optionalUint document pattern details set) := by
  unfold optionalUint
  rcases findRequiredUintParam_object pattern object with
    ⟨value, found, fits, _⟩ | ⟨fatalError, failed, _⟩
  · rcases getUint_of_isUint fits with ⟨number, got⟩
    rw [found]
    simpa [bind, Except.bind, got] using answers_of_shape right
  · rw [failed]
    exact answers_of_shape right

end Fields

/-- The request creates a user, and the stack has no room for the check of the
password. -/
def ExhaustsStack (exhausts : Bytes → Bool) (passLen : Int) (command : Cmd) (document : Json) :
    Prop :=
  command = .userCreate ∧ document.hasString (bytes "user") ∧
    ∃ password, document.member (bytes "password") = some (.string password) ∧
      cstr password ≠ [] ∧ minPassLen passLen ≤ (cstr password).length ∧
      exhausts (cstr password) = true

theorem answers_parseCredentialsOn {exhausts : Bytes → Bool} {passLen : Int} {document : Json}
    {details : RequestDetails} {command : Cmd} (object : document.isObject = true)
    (credentials : command = .userCreate ∨ command = .userLogin)
    (password : document.hasString (bytes "password"))
    (room : command = .userCreate → document.hasString (bytes "user") →
      minPassLen passLen ≤ details.params.password.length →
        exhausts details.params.password = false) :
    Answers (ExpectedShape command document)
      (parseCredentialsOn exhausts passLen document details command) := by
  refine answers_requireString object fun user text => ?_
  have right : ExpectedShape command document := by
    refine ⟨object, password, ?_, fun noCreate noLogin => ?_⟩
    · rcases credentials with rfl | rfl <;> simpa [requiredStrings] using user
    · exact absurd credentials (by simp [noCreate, noLogin])
  by_cases creates : command = .userCreate
  · simp only [creates, if_true] at right ⊢
    rw [passwordCheckOn_returns (room creates user)]
    cases passwordCheck details.params.password (minPassLen passLen) with
    | false => exact answers_of_shape right
    | true => exact answers_of_shape right
  · simp only [creates, if_false]
    exact answers_of_shape right

theorem answers_parseParams {document : Json} {details : RequestDetails} {command : Cmd}
    (object : document.isObject = true) (password : document.hasString (bytes "password"))
    (uid : document.hasUint (bytes "uid"))
    (other : ¬ (command = .userCreate ∨ command = .userLogin)) :
    Answers (ExpectedShape command document) (parseParams document details command) := by
  have right : (∀ name ∈ requiredStrings command, document.hasString name) →
      ExpectedShape command document :=
    fun strings => ⟨object, password, strings, fun _ _ => uid⟩
  unfold parseParams
  split
  next chat =>
    refine answers_requireString object fun chatname name => ?_
    simp only
    split
    next adds =>
      refine answers_requireString object fun adduser user => answers_of_shape (right ?_)
      simp [adds, requiredStrings, chatname, adduser]
    next creates =>
      refine answers_of_shape (right ?_)
      simp [chat.resolve_right creates, requiredStrings, chatname]
  next =>
    split
    next idle => exact answers_optionalUint object (right (by simp [idle, requiredStrings]))
    next =>
      split
      next lookup =>
        refine answers_requireString object fun user name => answers_optionalUint object (right ?_)
        rcases lookup with rfl | rfl <;> simpa [requiredStrings] using user
      next =>
        split
        next send =>
          refine answers_requireString object fun message text => ?_
          simp only
          split
          next direct =>
            refine answers_requireString object fun recipient user => answers_of_shape (right ?_)
            simp [direct, requiredStrings, message, recipient]
          next notDirect =>
            refine answers_requireString object fun chatname name => answers_of_shape (right ?_)
            simp [send.resolve_left notDirect, requiredStrings, message, chatname]
        next =>
          split
          next location =>
            refine answers_requireString object fun city name => answers_of_shape (right ?_)
            simp [location, requiredStrings, city]
          next =>
            refine answers_of_shape (right ?_)
            cases command <;> simp_all [requiredStrings]

/-- The first block reads the password, or it ends the parsing. -/
theorem answers_requirePassword {shape : Prop} {document : Json} {details : RequestDetails}
    {next : Bytes → Checked Parsed} (object : document.isObject = true)
    (further : ∀ password, document.member (bytes "password") = some (.string password) →
      cstr password ≠ [] → Answers shape (next (cstr password))) :
    Answers shape (requireString document (bytes "password") details next) := by
  rcases findRequiredStringParam_object (bytes "password") object with
    ⟨text, -, password, found, nonempty⟩ | ⟨fatalError, failed, nonempty⟩
  · rw [requireString_of_member next found nonempty]
    exact further password found nonempty
  · unfold requireString
    rw [failed]
    exact answers_error nonempty

theorem answers_parseMetaOn {exhausts : Bytes → Bool} {parse : Bytes → Option Json} {passLen : Int}
    {details : RequestDetails} {json : Bytes} {command : Cmd} {document : Json}
    (parsed : parse (cstr json) = some document) (object : document.isObject = true)
    (room : ¬ ExhaustsStack exhausts passLen command document) :
    Answers (ExpectedShape command document)
      (parseMetaOn exhausts parse passLen details json command) := by
  unfold parseMetaOn
  rw [parsed]
  refine answers_requirePassword object fun password found nonempty => ?_
  simp only
  split
  next credentials =>
    refine answers_parseCredentialsOn object credentials ⟨password, found, nonempty⟩ ?_
    intro creates user long
    by_contra exhausted
    exact room ⟨creates, user, password, found, nonempty, long, by simpa using exhausted⟩
  next other =>
    exact answers_requireUint object fun uid number =>
      answers_parseParams object ⟨password, found, nonempty⟩ uid other

/-- Where the check of the password exhausts the stack, the process ends. -/
theorem parseMetaOn_exhausted {exhausts : Bytes → Bool} {parse : Bytes → Option Json}
    {passLen : Int} {details : RequestDetails} {json : Bytes} {command : Cmd} {document : Json}
    (parsed : parse (cstr json) = some document)
    (exhausted : ExhaustsStack exhausts passLen command document) :
    parseMetaOn exhausts parse passLen details json command = .error .stackExhausted := by
  obtain ⟨rfl, ⟨user, named, someUser⟩, password, found, nonempty, long, noRoom⟩ := exhausted
  unfold parseMetaOn parseCredentialsOn
  simp only [parsed, requireString_of_member _ found nonempty,
    requireString_of_member _ named someUser, true_or, if_true, passwordCheckOn,
    Nat.not_lt.mpr long, if_false, noRoom]
  rfl

/-- On a document that is not an object the first search aborts. -/
theorem parseMetaOn_notObject {exhausts : Bytes → Bool} {parse : Bytes → Option Json}
    {passLen : Int} {details : RequestDetails} {json : Bytes} {command : Cmd} {document : Json}
    (parsed : parse (cstr json) = some document) (notObject : document.isObject = false) :
    parseMetaOn exhausts parse passLen details json command = .error .notObject := by
  unfold parseMetaOn requireString findRequiredStringParam
  rw [parsed]
  simp only [Json.findMember_notObject notObject]
  rfl

/-- The computation changes nothing of the details but the parameters, and the
timestamp only to a number of 32 bits. -/
def OnlyParams (details : RequestDetails) (result : Checked Parsed) : Prop :=
  ∀ later text, result = .ok (later, text) → ∃ params, later = { details with params } ∧
    (params.ts = details.params.ts ∨ ∃ number : Nat, number < 2 ^ 32 ∧ params.ts = number)

section OnlyParams

variable {details : RequestDetails} {document : Json} {pattern : Bytes} {params : Params}

theorem onlyParams_pure {text : Bytes} (kept : params.ts = details.params.ts) :
    OnlyParams details (pure ({ details with params }, text)) := by
  rintro later other same
  cases same
  exact ⟨params, rfl, .inl kept⟩

theorem onlyParams_bind {Alpha : Type} {first : Checked Alpha} {next : Alpha → Checked Parsed}
    (further : ∀ value, first = .ok value → OnlyParams details (next value)) :
    OnlyParams details (first >>= next) := by
  intro later text returned
  rcases Checked.bind_ok returned with ⟨value, got, rest⟩
  exact further value got later text rest

theorem onlyParams_requireString {next : Bytes → Checked Parsed}
    (kept : params.ts = details.params.ts) (further : ∀ text, OnlyParams details (next text)) :
    OnlyParams details (requireString document pattern { details with params } next) := by
  refine onlyParams_bind fun result _ => ?_
  cases result with
  | error fatalError => exact onlyParams_pure kept
  | ok value => exact onlyParams_bind fun text _ => further text

theorem onlyParams_requireUint {next : Nat → Checked Parsed}
    (kept : params.ts = details.params.ts) (further : ∀ number, OnlyParams details (next number)) :
    OnlyParams details (requireUint document pattern { details with params } next) := by
  refine onlyParams_bind fun result _ => ?_
  cases result with
  | error fatalError => exact onlyParams_pure kept
  | ok value => exact onlyParams_bind fun number _ => further number

theorem getUint_lt {value : Json} {number : Nat} (got : value.getUint = .ok number) :
    number < 2 ^ 32 := by
  unfold Json.getUint at got
  split at got
  next natural =>
    split at got
    next fits =>
      cases got
      simp only [Json.isUint, Bool.and_eq_true, decide_eq_true_eq] at fits
      omega
    next => cases got
  next => cases got

theorem onlyParams_optionalUint {set : Params → Nat → Params}
    (kept : params.ts = details.params.ts)
    (sets : ∀ number, (set params number).ts = params.ts ∨ (set params number).ts = number) :
    OnlyParams details (optionalUint document pattern { details with params } set) := by
  refine onlyParams_bind fun result _ => ?_
  cases result with
  | error fatalError => exact onlyParams_pure kept
  | ok value =>
      refine onlyParams_bind fun number got => ?_
      rintro later text same
      cases same
      refine ⟨set params number, rfl, ?_⟩
      rcases sets number with same | same
      · exact .inl (same.trans kept)
      · exact .inr ⟨number, getUint_lt got, same⟩

end OnlyParams

/-- `parse_meta` changes only the parameters of the request, whatever it
returns. -/
theorem parseMeta_onlyParams (parse : Bytes → Option Json) (passLen : Int)
    (details : RequestDetails) (json : Bytes) (command : Cmd) :
    OnlyParams details (parseMeta parse passLen details json command) := by
  unfold parseMeta parseMetaOn
  split
  · exact @onlyParams_pure details details.params _ rfl
  · refine @onlyParams_requireString details _ _ details.params _ rfl fun password => ?_
    simp only
    split
    · refine onlyParams_requireString rfl fun user => ?_
      simp only
      split
      · refine onlyParams_bind fun strong _ => ?_
        split <;> exact onlyParams_pure rfl
      · exact onlyParams_pure rfl
    · refine onlyParams_requireUint rfl fun uid => ?_
      unfold parseParams
      split
      · refine onlyParams_requireString rfl fun name => ?_
        simp only
        split
        · exact onlyParams_requireString rfl fun adduser => onlyParams_pure rfl
        · exact onlyParams_pure rfl
      · split
        · exact onlyParams_optionalUint rfl fun number => .inr rfl
        · split
          · exact onlyParams_requireString rfl fun user =>
              onlyParams_optionalUint rfl fun number => .inl rfl
          · split
            · refine onlyParams_requireString rfl fun message => ?_
              simp only
              split
              · exact onlyParams_requireString rfl fun toUser => onlyParams_pure rfl
              · exact onlyParams_requireString rfl fun name => onlyParams_pure rfl
            · split
              · exact onlyParams_requireString rfl fun city => onlyParams_pure rfl
              · exact onlyParams_pure rfl

/-- `parse_meta` returns, with an error text for every document of the wrong
shape, exactly when the body is no JSON or an object, and the stack has room for
the check of the password of a new user. -/
theorem parseMetaOn_returns_iff (exhausts : Bytes → Bool) (parse : Bytes → Option Json)
    (passLen : Int) (details : RequestDetails) (json : Bytes) (command : Cmd) :
    ((∃ parsed, parseMetaOn exhausts parse passLen details json command = .ok parsed) ∧
      ∀ document, parse (cstr json) = some document → ¬ ExpectedShape command document →
        ∃ later text, parseMetaOn exhausts parse passLen details json command =
          .ok (later, text) ∧ text ≠ []) ↔
      ∀ document, parse (cstr json) = some document →
        document.isObject = true ∧ ¬ ExhaustsStack exhausts passLen command document := by
  constructor
  · rintro ⟨⟨result, returned⟩, _⟩ document parsed
    constructor
    · by_contra notObject
      rw [parseMetaOn_notObject parsed (by simpa using notObject)] at returned
      cases returned
    · intro exhausted
      rw [parseMetaOn_exhausted parsed exhausted] at returned
      cases returned
  · intro good
    cases parsed : parse (cstr json) with
    | none => exact ⟨⟨_, by unfold parseMetaOn; rw [parsed]; rfl⟩, by simp⟩
    | some document =>
        obtain ⟨object, room⟩ := good document parsed
        rcases @answers_parseMetaOn _ _ _ details _ _ _ parsed object room with
          ⟨later, text, returned, complains⟩
        refine ⟨⟨_, returned⟩, ?_⟩
        rintro other same wrong
        cases same
        exact ⟨later, text, returned, complains wrong⟩

/-- A parser of rapidjson on the two documents of this example. -/
def parseEmpty (text : Bytes) : Option Json :=
  if text = bytes "[]" then some (.array [])
  else if text = bytes "\x7b\x7d" then some (.object [])
  else none

/-- The body `[]` of any command aborts the server, however large its stack. -/
theorem parseMeta_aborts :
    (parseEmpty (cstr (bytes "[]"))).isSome = true ∧
      parseMetaOn (fun _ => false) parseEmpty 8 { command := .userLogin } (bytes "[]")
        .userLogin = .error .notObject := by
  refine ⟨by decide, ?_⟩
  have parsed : parseEmpty (cstr (bytes "[]")) = some (.array []) := rfl
  exact parseMetaOn_notObject parsed rfl

end GeoChat
