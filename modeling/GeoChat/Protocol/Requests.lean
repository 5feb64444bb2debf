import GeoChat.Client.Client
import GeoChat.Server.Routing

/-!
# Requests of the client, read by the server

Each request that the client builds is routed to its own command, and
`parse_meta` reads back the arguments it was built from. That the parser gives
back a written document is the assumption about rapidjson.
-/

namespace GeoChat

namespace Json

variable {number : Nat}

theorem uint64_eq (fits : number < 2 ^ 64) : uint64 number = .int number := by
  unfold uint64
  rw [Nat.mod_eq_of_lt fits]

theorem isUint_uint64 (fits : number < 2 ^ 32) : (uint64 number).isUint = true := by
  rw [uint64_eq (by omega)]
  exact (isUint_iff _).mpr ⟨number, rfl, fits⟩

theorem getUint_uint64 (fits : number < 2 ^ 32) : (uint64 number).getUint = .ok number := by
  rw [uint64_eq (by omega)]
  unfold getUint
  exact if_pos ((isUint_iff _).mpr ⟨number, rfl, fits⟩)

end Json

namespace ApiRequest

/-- A string argument of a request. -/
def IsText (text : Bytes) : Prop := text ≠ [] ∧ (0 : UInt8) ∉ text

instance (text : Bytes) : Decidable (IsText text) := inferInstanceAs (Decidable (_ ∧ _))

theorem IsText.cstr {text : Bytes} (isText : IsText text) : cstr text = text :=
  cstr_of_nul_not_mem isText.2

theorem IsText.cstr_ne_nil {text : Bytes} (isText : IsText text) : GeoChat.cstr text ≠ [] := by
  rw [isText.cstr]
  exact isText.1

/-- The smallest length of a password under the option `pass_len`. -/
def minLen (passLen : Int) : Nat := (if passLen < 0 then 8 else passLen).toNat

/-- The arguments a request is built from: texts, and numbers of 32 bits. -/
def Valid (passLen : Int) : ApiRequest → Prop
  | .userCreate user password =>
      IsText user ∧ IsText password ∧ passwordCheck password (minLen passLen) = true
  | .userLogin user password => IsText user ∧ IsText password
  | .messageSend uid recipient message password =>
      uid < 2 ^ 32 ∧ IsText recipient ∧ IsText message ∧ IsText password
  | .messageSendChat uid chatname message password =>
      uid < 2 ^ 32 ∧ IsText chatname ∧ IsText message ∧ IsText password
  | .userHistory uid user count password =>
      uid < 2 ^ 32 ∧ IsText user ∧ count < 2 ^ 32 ∧ IsText password
  | .userStatus uid user password => uid < 2 ^ 32 ∧ IsText user ∧ IsText password
  | .chatCreate uid chatname password => uid < 2 ^ 32 ∧ IsText chatname ∧ IsText password
  | .chatAdduser uid chatname adduser password =>
      uid < 2 ^ 32 ∧ IsText chatname ∧ IsText adduser ∧ IsText password
  | .chatWithLocation uid city password => uid < 2 ^ 32 ∧ IsText city ∧ IsText password
  | .getLocations uid clientIp password => uid < 2 ^ 32 ∧ IsText clientIp ∧ IsText password
  | .idle uid heartbit password => uid < 2 ^ 32 ∧ heartbit < 2 ^ 32 ∧ IsText password

/-- The document that the body of a request is the text of. -/
def document : ApiRequest → Json
  | .userCreate user password | .userLogin user password =>
      .object [(bytes "user", .ofCString user), (bytes "password", .ofCString password)]
  | .messageSend uid recipient message password =>
      .object [(bytes "uid", .uint64 uid), (bytes "to", .ofCString recipient),
        (bytes "message", .ofCString message), (bytes "password", .ofCString password)]
  | .messageSendChat uid chatname message password =>
      .object [(bytes "uid", .uint64 uid), (bytes "chatname", .ofCString chatname),
        (bytes "message", .ofCString message), (bytes "password", .ofCString password)]
  | .userHistory uid user count password =>
      .object [(bytes "uid", .uint64 uid), (bytes "user", .ofCString user),
        (bytes "count", .uint64 count), (bytes "password", .ofCString password)]
  | .userStatus uid user password =>
      .object [(bytes "uid", .uint64 uid), (bytes "user", .ofCString user),
        (bytes "count", .uint64 0), (bytes "password", .ofCString password)]
  | .chatCreate uid chatname password =>
      .object [(bytes "uid", .uint64 uid), (bytes "chatname", .ofCString chatname),
        (bytes "password", .ofCString password)]
  | .chatAdduser uid chatname adduser password =>
      .object [(bytes "uid", .uint64 uid), (bytes "chatname", .ofCString chatname),
        (bytes "adduser", .ofCString adduser), (bytes "password", .ofCString password)]
  | .chatWithLocation uid city password | .getLocations uid city password =>
      .object [(bytes "uid", .uint64 uid), (bytes "city", .ofCString city),
        (bytes "password", .ofCString password)]
  | .idle uid heartbit password =>
      .object ([(bytes "uid", .uint64 uid)] ++
        (if heartbit ≠ 0 then [(bytes "heartbit", .uint64 heartbit)] else []) ++
        [(bytes "to", .ofCString []), (bytes "message", .ofCString []),
          (bytes "password", .ofCString password)])

/-- The parameters of the command that the request gives. The server has no
parameter for the address in a request for locations. -/
def params : ApiRequest → Params
  | .userCreate user password | .userLogin user password => { user, password }
  | .messageSend uid recipient message password => { uid, toUser := recipient, message, password }
  | .messageSendChat uid chatname message password =>
      { uid, chat := { name := chatname }, message, password }
  | .userHistory uid user count password => { uid, user, count, password }
  | .userStatus uid user password => { uid, user, password }
  | .chatCreate uid chatname password => { uid, chat := { name := chatname }, password }
  | .chatAdduser uid chatname adduser password =>
      { uid, chat := { name := chatname, adduser }, password }
  | .chatWithLocation uid city password => { uid, city, password }
  | .getLocations uid _ password => { uid, password }
  | .idle uid heartbit password => { uid, ts := heartbit, password }

variable {passLen : Int}

theorem body_eq {request : ApiRequest} (valid : request.Valid passLen) :
    request.body = request.document.write := by
  have filled : ∀ {text : Bytes}, IsText text → text.isEmpty = false := by
    rintro text ⟨nonempty, _⟩
    cases text with
    | nil => exact absurd rfl nonempty
    | cons first rest => rfl
  cases request with
  | messageSendChat uid chatname message password =>
      simp only [body, CliUtils.buildGroupsMsgBody, filled valid.2.2.1]
      rfl
  | chatAdduser uid chatname adduser password =>
      simp only [body, CliUtils.buildGroupsMsgBody, filled valid.2.2.1]
      rfl
  | _ => rfl

/-- The server parses the document that the client has written. -/
theorem parse_body {parse : Bytes → Option Json} {request : ApiRequest}
    (written : request.body = request.document.write)
    (returned : Json.ReadsBack parse request.document) :
    parse (cstr request.body) = some request.document := by
  rw [written, Json.cstr_write]
  exact returned

section ParseMeta

variable {parse : Bytes → Option Json} {json : Bytes} {document : Json} {details : RequestDetails}
  {password : Bytes} {uid : Nat} {command : Cmd}

/-- `parse_meta` up to the user id. -/
theorem parseMeta_uid (parsed : parse (cstr json) = some document)
    (passwordMember : document.member (bytes "password") = some (.ofCString password))
    (isText : IsText password) (uidMember : document.member (bytes "uid") = some (.uint64 uid))
    (fits : uid < 2 ^ 32) (other : ¬ (command = .userCreate ∨ command = .userLogin)) :
    parseMeta parse passLen details json command =
      parseParams document
        { details with params := { details.params with password, uid } } command := by
  unfold parseMeta parseMetaOn
  rw [parsed]
  simp only
  rw [requireString_of_member _ passwordMember (by rw [isText.cstr]; exact isText.cstr_ne_nil)]
  simp only [isText.cstr]
  rw [if_neg other, requireUint_of_member _ uidMember (Json.isUint_uint64 fits)
    (Json.getUint_uint64 fits)]

/-- `parse_meta` for the two commands without a user id. -/
theorem parseMeta_credentials {user : Bytes} (parsed : parse (cstr json) = some document)
    (passwordMember : document.member (bytes "password") = some (.ofCString password))
    (isText : IsText password)
    (userMember : document.member (bytes "user") = some (.ofCString user))
    (userText : IsText user) (credentials : command = .userCreate ∨ command = .userLogin)
    (strong : command = .userCreate → passwordCheck password (minLen passLen) = true) :
    parseMeta parse passLen details json command =
      .ok ({ details with params := { details.params with password, user } }, []) := by
  unfold parseMeta parseMetaOn
  rw [parsed]
  simp only
  rw [requireString_of_member _ passwordMember (by rw [isText.cstr]; exact isText.cstr_ne_nil)]
  simp only [isText.cstr]
  rw [if_pos credentials, parseCredentialsOn,
    requireString_of_member _ userMember (by rw [userText.cstr]; exact userText.cstr_ne_nil)]
  simp only [userText.cstr]
  split
  next create =>
    rw [passwordCheckOn_unbounded]
    have accepted : passwordCheck password (minPassLen passLen) = true := strong create
    simp only [accepted]
    rfl
  next => rfl

theorem requireString_text {pattern text : Bytes} {next : Bytes → Checked Parsed}
    (found : document.member pattern = some (.ofCString text)) (isText : IsText text) :
    requireString document pattern details next = next text := by
  rw [requireString_of_member next found (by rw [isText.cstr]; exact isText.cstr_ne_nil)]
  rw [isText.cstr, isText.cstr]

end ParseMeta

section Idle

variable (uid : Nat) {heartbit : Nat} (password : Bytes)

theorem member_idle_password (heartbit : Nat) :
    (idle uid heartbit password).document.member (bytes "password") =
      some (.ofCString password) := by
  by_cases zero : heartbit = 0
  · subst zero
    rfl
  · simp only [document, if_pos zero]
    rfl

theorem member_idle_heartbit_zero :
    (idle uid 0 password).document.member (bytes "heartbit") = none := rfl

theorem member_idle_heartbit {uid : Nat} {password : Bytes} (nonzero : heartbit ≠ 0) :
    (idle uid heartbit password).document.member (bytes "heartbit") =
      some (.uint64 heartbit) := by
  simp only [document, if_pos nonzero]
  rfl

end Idle

/-- `parse_meta` reads a built body back into the parameters of the request. -/
theorem parseMeta_body {parse : Bytes → Option Json} {request : ApiRequest}
    (valid : request.Valid passLen) (returned : Json.ReadsBack parse request.document)
    {details : RequestDetails} (fresh : details.params = {}) :
    parseMeta parse passLen details request.body request.cmd =
      .ok ({ details with params := request.params }, []) := by
  have parsed := parse_body (body_eq valid) returned
  cases request with
  | userCreate user password =>
      obtain ⟨userText, passwordText, strong⟩ := valid
      have understood := @parseMeta_credentials passLen parse _ _ details _ _ _ parsed rfl
        passwordText rfl userText (.inl rfl) fun _ => strong
      rw [fresh] at understood
      exact understood
  | userLogin user password =>
      obtain ⟨userText, passwordText⟩ := valid
      have understood := @parseMeta_credentials passLen parse _ _ details _ _ _ parsed rfl
        passwordText rfl userText (.inr rfl) fun create => by cases create
      rw [fresh] at understood
      exact understood
  | messageSend uid recipient message password =>
      obtain ⟨fits, recipientText, messageText, passwordText⟩ := valid
      rw [parseMeta_uid parsed rfl passwordText rfl fits (by simp [cmd]), fresh]
      refine (requireString_text rfl messageText).trans ?_
      exact requireString_text rfl recipientText
  | messageSendChat uid chatname message password =>
      obtain ⟨fits, chatnameText, messageText, passwordText⟩ := valid
      rw [parseMeta_uid parsed rfl passwordText rfl fits (by simp [cmd]), fresh]
      refine (requireString_text rfl messageText).trans ?_
      exact requireString_text rfl chatnameText
  | userHistory uid user count password =>
      obtain ⟨fits, userText, countFits, passwordText⟩ := valid
      rw [parseMeta_uid parsed rfl passwordText rfl fits (by simp [cmd]), fresh]
      refine (requireString_text rfl userText).trans ?_
      exact optionalUint_of_member _ rfl (Json.isUint_uint64 countFits)
        (Json.getUint_uint64 countFits)
  | userStatus uid user password =>
      obtain ⟨fits, userText, passwordText⟩ := valid
      rw [parseMeta_uid parsed rfl passwordText rfl fits (by simp [cmd]), fresh]
      refine (requireString_text rfl userText).trans ?_
      exact optionalUint_of_member _ rfl (Json.isUint_uint64 (by decide))
        (Json.getUint_uint64 (by decide))
  | chatCreate uid chatname password =>
      obtain ⟨fits, chatnameText, passwordText⟩ := valid
      rw [parseMeta_uid parsed rfl passwordText rfl fits (by simp [cmd]), fresh]
      exact requireString_text rfl chatnameText
  | chatAdduser uid chatname adduser password =>
      obtain ⟨fits, chatnameText, adduserText, passwordText⟩ := valid
      rw [parseMeta_uid parsed rfl passwordText rfl fits (by simp [cmd]), fresh]
      refine (requireString_text rfl chatnameText).trans ?_
      exact requireString_text rfl adduserText
  | chatWithLocation uid city password =>
      obtain ⟨fits, cityText, passwordText⟩ := valid
      rw [parseMeta_uid parsed rfl passwordText rfl fits (by simp [cmd]), fresh]
      exact requireString_text rfl cityText
  | getLocations uid clientIp password =>
      obtain ⟨fits, _, passwordText⟩ := valid
      rw [parseMeta_uid parsed rfl passwordText rfl fits (by simp [cmd]), fresh]
      rfl
  | idle uid heartbit password =>
      obtain ⟨fits, heartbitFits, passwordText⟩ := valid
      rw [parseMeta_uid parsed (member_idle_password ..) passwordText rfl fits (by simp [cmd]),
        fresh]
      change optionalUint _ (bytes "heartbit") _
        (fun params number => { params with ts := number }) = _
      by_cases zero : heartbit = 0
      · subst zero
        rw [optionalUint_of_none _ rfl (member_idle_heartbit_zero ..)]
        rfl
      · rw [optionalUint_of_member _ (member_idle_heartbit zero) (Json.isUint_uint64 heartbitFits)
          (Json.getUint_uint64 heartbitFits)]
        rfl

/-- `parse_meta` returns, also from details in which the parameters of a
creation have been touched. -/
theorem parseMeta_returns {parse : Bytes → Option Json} {request : ApiRequest}
    (valid : request.Valid passLen) (returned : Json.ReadsBack parse request.document)
    {details : RequestDetails} (fresh : request.cmd ≠ .userCreate → details.params = {}) :
    ∃ parsed, parseMeta parse passLen details request.body request.cmd = .ok parsed := by
  by_cases create : request.cmd = .userCreate
  · cases request with
    | userCreate user password =>
        have parsed := parse_body (body_eq valid) returned
        obtain ⟨userText, passwordText, strong⟩ := valid
        exact ⟨_, parseMeta_credentials parsed rfl passwordText rfl userText (.inl rfl)
          fun _ => strong⟩
    | _ => cases create
  · exact ⟨_, parseMeta_body valid returned (fresh create)⟩

/-- The commands of the requests, each with a resource of its own. -/
theorem dispatch_cmd (request : ApiRequest) :
    ApiClient.dispatch (Utils.lowercased (cmd2string request.cmd)) = some request.cmd := by
  have table : ∀ cmd ∈ [Cmd.userCreate, .userLogin, .messageSend, .messageSendChat, .userHistory,
      .userStatus, .chatCreate, .chatAdduser, .chatWithLocation, .getLocations, .idle],
      ApiClient.dispatch (Utils.lowercased (cmd2string cmd)) = some cmd := by
    decide +kernel
  apply table
  cases request <;> simp [cmd]

end ApiRequest

/-- Every request of the client is handled as its command, whatever its body,
once the lookup of its city has returned, and with its own body the handler
returns. `parse_meta` sets the parameters of
that command to the arguments, from a body that the parser reads back. -/
theorem requests_understood (parse : Bytes → Option Json) (passLen : Int) (request : ApiRequest)
    (valid : request.Valid passLen) (returned : Json.ReadsBack parse request.document) :
    (∀ reply city now expired client, reply.resource = cmd2string request.cmd →
      (∀ later tasks,
        ApiClient.requestFromClientReadHandler parse passLen reply (some (.ok city)) now expired
          client = .ok (later, tasks) →
        later.requestDetails.command = request.cmd ∧ ∀ task ∈ tasks, task.cmd = request.cmd) ∧
      (reply.body = request.body → client.requestDetails.params = {} →
        ∃ outcome,
          ApiClient.requestFromClientReadHandler parse passLen reply (some (.ok city)) now expired
            client = .ok outcome)) ∧
    ∀ details : RequestDetails, details.params = {} →
      parseMeta parse passLen details request.body request.cmd =
        .ok ({ details with params := request.params }, []) := by
  constructor
  · intro reply city now expired client resource
    have dispatched := request.dispatch_cmd
    rw [← resource] at dispatched
    constructor
    · intro later tasks ran
      cases ApiClient.requestFromClientReadHandler_handled ran with
      | refused _ named => exact ⟨named _ dispatched, fun task member => by cases member⟩
      | idle _ named command =>
          have same := Option.some.inj (dispatched.symm.trans named)
          exact ⟨command.trans same.symm, fun task member => by cases member⟩
      | queued _ _ named =>
          have same := Option.some.inj (dispatched.symm.trans named)
          refine ⟨same.symm, fun task member => ?_⟩
          rw [List.mem_singleton.mp member]
          exact same.symm
      | unanswered _ _ noCity => exact absurd rfl (noCity city)
    · intro body fresh
      refine ApiClient.requestFromClientReadHandler_returns client fun cmd details named kept => ?_
      have same := Option.some.inj (dispatched.symm.trans named)
      subst same
      rw [body]
      exact ApiRequest.parseMeta_returns valid returned fun other => (kept other).trans fresh
  · intro details fresh
    exact ApiRequest.parseMeta_body valid returned fresh

/-- The parser at the text of one document. -/
def parseOnly (document : Json) (text : Bytes) : Option Json :=
  if text = document.write then some document else none

theorem readsBack_parseOnly (document : Json) : Json.ReadsBack (parseOnly document) document :=
  if_pos rfl

theorem requests_understood_history :
    let request : ApiRequest := .userHistory 7 (bytes "bob") 20 (bytes "secret_pass")
    parseMeta (parseOnly request.document) 8 { command := .userHistory } request.body .userHistory =
      .ok ({ command := .userHistory, params := request.params }, []) := by
  intro request
  have valid : request.Valid 8 := by
    refine ⟨by decide, ?_, by decide, ?_⟩ <;> decide +kernel
  exact (requests_understood (parseOnly request.document) 8 request valid
    (readsBack_parseOnly request.document)).2 _ rfl

end GeoChat
