import GeoChat.Server.Answers
import GeoChat.Server.Connection
import GeoChat.Server.Store.History

/-!
# Requests of one connection

The details of a request stay in the connection when the next request is read,
and `parse_meta` overwrites them field by field. Two runs of the same request
after different histories are compared. Each command reads only fields that its
own request has set, with one exception: the number of messages of a history is
not required.
-/

namespace GeoChat

open Library InMemory

/-- The text of a member that is a string, and not an empty one. -/
def Json.text (document : Json) (name : Bytes) : Option Bytes :=
  match document.member name with
  | some (.string text) => if cstr text = [] then none else some (cstr text)
  | _ => none

/-- The value of a member that is an unsigned number of 32 bits. -/
def Json.number (document : Json) (name : Bytes) : Option Nat :=
  match document.member name with
  | some value => value.getUint.toOption
  | none => none

section Fields

variable (document : Json) (pattern : Bytes)

/-- What is read does not depend on the details. -/
theorem requireString_cases :
    (∃ text, document.text pattern = some text ∧
      ∀ details next, requireString document pattern details next = next text) ∨
    (∃ complaint, complaint ≠ [] ∧ document.text pattern = none ∧
      ∀ details next, requireString document pattern details next = .ok (details, complaint)) ∨
    (document.isObject = false ∧
      ∀ details next, requireString document pattern details next = .error .notObject) := by
  cases object : document.isObject with
  | false =>
      refine .inr (.inr ⟨rfl, fun details next => ?_⟩)
      unfold requireString findRequiredStringParam
      rw [Json.findMember_notObject object]
      rfl
  | true =>
      unfold requireString findRequiredStringParam Json.text
      rw [Json.findMember_object object]
      cases document.member pattern with
      | none => exact .inr (.inl ⟨_, badRequest_ne_nil _ _, rfl, fun _ _ => rfl⟩)
      | some value =>
          cases value with
          | string text =>
              by_cases empty : cstr text = []
              · refine .inr (.inl ⟨_, badRequest_ne_nil pattern (bytes " is empty"), ?_, ?_⟩)
                · simp only [empty, if_true]
                · intro details next
                  simp [Json.isString, Json.getString, empty, bind, Except.bind, pure, Except.pure]
              · refine .inl ⟨cstr text, ?_, ?_⟩
                · simp only [empty, if_false]
                · intro details next
                  simp [Json.isString, Json.getString, empty, bind, Except.bind, pure, Except.pure]
          | _ => exact .inr (.inl ⟨_, badRequest_ne_nil _ _, rfl, fun _ _ => rfl⟩)

theorem findRequiredUintParam_cases :
    (∃ value number, document.number pattern = some number ∧ value.getUint = .ok number ∧
      findRequiredUintParam document pattern = .ok (.ok value)) ∨
    (∃ complaint, complaint ≠ [] ∧ document.number pattern = none ∧
      findRequiredUintParam document pattern = .ok (.error complaint)) ∨
    (document.isObject = false ∧
      findRequiredUintParam document pattern = .error .notObject) := by
  cases object : document.isObject with
  | false =>
      refine .inr (.inr ⟨rfl, ?_⟩)
      unfold findRequiredUintParam
      rw [Json.findMember_notObject object]
      rfl
  | true =>
      unfold findRequiredUintParam Json.number
      rw [Json.findMember_object object]
      cases document.member pattern with
      | none => exact .inr (.inl ⟨_, badRequest_ne_nil _ _, rfl, rfl⟩)
      | some value =>
          by_cases fits : value.isUint = true
          · obtain ⟨number, got⟩ := getUint_of_isUint fits
            refine .inl ⟨value, number, ?_, got, ?_⟩
            · simp only [got]
              rfl
            · simp [fits, bind, Except.bind, pure, Except.pure]
          · refine .inr (.inl ⟨_, badRequest_ne_nil pattern (bytes " is not uint"), ?_, ?_⟩)
            · cases value with
              | int number =>
                  simp only [Json.getUint, fits]
                  rfl
              | _ => rfl
            · simp [fits, bind, Except.bind, pure, Except.pure]

theorem requireUint_cases :
    (∃ number, document.number pattern = some number ∧
      ∀ details next, requireUint document pattern details next = next number) ∨
    (∃ complaint, complaint ≠ [] ∧ document.number pattern = none ∧
      ∀ details next, requireUint document pattern details next = .ok (details, complaint)) ∨
    (document.isObject = false ∧
      ∀ details next, requireUint document pattern details next = .error .notObject) := by
  unfold requireUint
  obtain ⟨value, number, same, got, found⟩ | ⟨complaint, nonempty, missing, failed⟩ |
      ⟨notObject, failed⟩ := findRequiredUintParam_cases document pattern
  · refine .inl ⟨number, same, fun details next => ?_⟩
    simp only [found, bind, Except.bind, got]
  · refine .inr (.inl ⟨complaint, nonempty, missing, fun details next => ?_⟩)
    rw [failed]
    rfl
  · refine .inr (.inr ⟨notObject, fun details next => ?_⟩)
    rw [failed]
    rfl

theorem optionalUint_cases :
    (∃ number, document.number pattern = some number ∧
      ∀ details set, optionalUint document pattern details set =
        .ok ({ details with params := set details.params number }, [])) ∨
    (document.number pattern = none ∧
      ∀ details set, optionalUint document pattern details set = .ok (details, [])) ∨
    (document.isObject = false ∧
      ∀ details set, optionalUint document pattern details set = .error .notObject) := by
  unfold optionalUint
  obtain ⟨value, number, same, got, found⟩ | ⟨complaint, _, missing, failed⟩ |
      ⟨notObject, failed⟩ := findRequiredUintParam_cases document pattern
  · refine .inl ⟨number, same, fun details set => ?_⟩
    simp only [found, bind, Except.bind, got, pure, Except.pure]
  · refine .inr (.inl ⟨missing, fun details set => ?_⟩)
    rw [failed]
    rfl
  · refine .inr (.inr ⟨notObject, fun details set => ?_⟩)
    rw [failed]
    rfl

variable {document pattern}

theorem isObject_of_text {text : Bytes} (reads : document.text pattern = some text) :
    document.isObject = true := by
  cases document with
  | object members => rfl
  | _ => cases reads

/-- Where one text is read no later search aborts. -/
theorem requireString_of_text {text : Bytes} (reads : document.text pattern = some text)
    (details : RequestDetails) (next : Bytes → Checked Parsed) :
    requireString document pattern details next = next text := by
  obtain ⟨other, same, read⟩ | ⟨_, _, missing, _⟩ | ⟨notObject, _⟩ :=
    requireString_cases document pattern
  · cases same.symm.trans reads
    exact read details next
  · cases missing.symm.trans reads
  · cases notObject.symm.trans (isObject_of_text reads)

theorem requireUint_of_number {number : Nat} (object : document.isObject = true)
    (reads : document.number pattern = some number) (details : RequestDetails)
    (next : Nat → Checked Parsed) :
    requireUint document pattern details next = next number := by
  obtain ⟨other, same, read⟩ | ⟨_, _, missing, _⟩ | ⟨notObject, _⟩ :=
    requireUint_cases document pattern
  · cases same.symm.trans reads
    exact read details next
  · cases missing.symm.trans reads
  · cases notObject.symm.trans object

end Fields

/-- The parameters that the branch of a command reads. -/
def Params.relevant (params : Params) : Cmd → Params
  | .userCreate =>
      { user := params.user, password := params.password, ipAddress := params.ipAddress,
        city := params.city }
  | .userLogin => { user := params.user, password := params.password }
  | .userStatus => { uid := params.uid, password := params.password, user := params.user }
  | .userHistory =>
      { uid := params.uid, password := params.password, user := params.user,
        count := params.count }
  | .messageSend =>
      { uid := params.uid, password := params.password, message := params.message,
        toUser := params.toUser }
  | .messageSendChat =>
      { uid := params.uid, password := params.password, message := params.message,
        chat := { name := params.chat.name } }
  | .chatCreate =>
      { uid := params.uid, password := params.password, chat := { name := params.chat.name } }
  | .chatAdduser => { uid := params.uid, password := params.password, chat := params.chat }
  | .getLocations => { uid := params.uid, password := params.password }
  | .chatWithLocation =>
      { uid := params.uid, password := params.password, city := params.city }
  | .idle => params
  | .chatHistory | .chatStatus | .messageRecent | .cmdLast => {}

/-- A task depends on nothing but the parameters that are relevant. -/
theorem DatabaseWorker.serve_relevant (sort : TimestampSort) (now : Int) (storage : Storage)
    (task : Task) :
    serve now storage
        (processTask sort { task with request := task.request.relevant task.cmd }) =
      serve now storage (processTask sort task) := by
  unfold processTask
  cases task.cmd with
  | messageSend =>
      simp only
      rw [serve_processMessageSend, serve_processMessageSend]
      rfl
  | messageSendChat =>
      simp only
      rw [serve_processMessageSendChat, serve_processMessageSendChat]
      rfl
  | chatAdduser =>
      simp only
      rw [serve_processChatAdduser, serve_processChatAdduser]
      rfl
  | _ => rfl

/-- The members of a request for a history that does not say how many messages
to send. -/
structure Uncounted (document : Json) (uid : Nat) (user password : Bytes) : Prop where
  readsPassword : document.text (bytes "password") = some password
  readsUid : document.number (bytes "uid") = some uid
  readsUser : document.text (bytes "user") = some user
  noCount : document.number (bytes "count") = none

/-- The request sets everything that its command reads. -/
def SetsRelevant (parse : Bytes → Option Json) (json : Bytes) (command : Cmd) : Prop :=
  command ≠ .idle ∧ (command = .userHistory → ∀ document uid user password,
    parse (cstr json) = some document → ¬ Uncounted document uid user password)

/-- Two runs of one computation on different details. Both abort, or both return
the same text and change only the parameters. If the request is good and
`settled`, the parameters agree as far as the command reads them. -/
def Parallel (settled : Prop) (command : Cmd) (first second : RequestDetails)
    (one two : Checked Parsed) : Prop :=
  (∃ violation, one = .error violation ∧ two = .error violation) ∨
  ∃ left right text, one = .ok ({ first with params := left }, text) ∧
    two = .ok ({ second with params := right }, text) ∧
    left.ipAddress = first.params.ipAddress ∧ right.ipAddress = second.params.ipAddress ∧
    (text = [] → settled → left.relevant command = right.relevant command)

section Parallel

variable {settled : Prop} {command : Cmd} {first second : RequestDetails} {left right : Params}
  {document : Json} {pattern : Bytes}

theorem parallel_complaint {text : Bytes} (nonempty : text ≠ [])
    (keptLeft : left.ipAddress = first.params.ipAddress)
    (keptRight : right.ipAddress = second.params.ipAddress) :
    Parallel settled command first second (.ok ({ first with params := left }, text))
      (.ok ({ second with params := right }, text)) :=
  .inr ⟨left, right, text, rfl, rfl, keptLeft, keptRight, fun empty => absurd empty nonempty⟩

theorem parallel_good (keptLeft : left.ipAddress = first.params.ipAddress)
    (keptRight : right.ipAddress = second.params.ipAddress)
    (agree : settled → left.relevant command = right.relevant command) :
    Parallel settled command first second (pure ({ first with params := left }, []))
      (pure ({ second with params := right }, [])) :=
  .inr ⟨left, right, [], rfl, rfl, keptLeft, keptRight, fun _ => agree⟩

theorem parallel_requireString {next nextTwo : Bytes → Checked Parsed}
    (keptLeft : left.ipAddress = first.params.ipAddress)
    (keptRight : right.ipAddress = second.params.ipAddress)
    (further : ∀ text, document.text pattern = some text →
      Parallel settled command first second (next text) (nextTwo text)) :
    Parallel settled command first second
      (requireString document pattern { first with params := left } next)
      (requireString document pattern { second with params := right } nextTwo) := by
  obtain ⟨text, reads, read⟩ | ⟨complaint, nonempty, _, refused⟩ | ⟨_, failed⟩ :=
    requireString_cases document pattern
  · rw [read, read]
    exact further text reads
  · rw [refused, refused]
    exact parallel_complaint nonempty keptLeft keptRight
  · rw [failed, failed]
    exact .inl ⟨_, rfl, rfl⟩

theorem parallel_requireUint {next nextTwo : Nat → Checked Parsed}
    (keptLeft : left.ipAddress = first.params.ipAddress)
    (keptRight : right.ipAddress = second.params.ipAddress)
    (further : ∀ number, document.number pattern = some number →
      Parallel settled command first second (next number) (nextTwo number)) :
    Parallel settled command first second
      (requireUint document pattern { first with params := left } next)
      (requireUint document pattern { second with params := right } nextTwo) := by
  obtain ⟨number, reads, read⟩ | ⟨complaint, nonempty, _, refused⟩ | ⟨_, failed⟩ :=
    requireUint_cases document pattern
  · rw [read, read]
    exact further number reads
  · rw [refused, refused]
    exact parallel_complaint nonempty keptLeft keptRight
  · rw [failed, failed]
    exact .inl ⟨_, rfl, rfl⟩

/-- A number that is missing leaves the parameters as they were. -/
theorem parallel_optionalUint {set : Params → Nat → Params}
    (keptLeft : left.ipAddress = first.params.ipAddress)
    (keptRight : right.ipAddress = second.params.ipAddress)
    (keeps : ∀ params number, (set params number).ipAddress = params.ipAddress)
    (present : settled → ∀ number,
      (set left number).relevant command = (set right number).relevant command)
    (absent : document.number pattern = none → settled →
      left.relevant command = right.relevant command) :
    Parallel settled command first second
      (optionalUint document pattern { first with params := left } set)
      (optionalUint document pattern { second with params := right } set) := by
  obtain ⟨number, _, read⟩ | ⟨missing, read⟩ | ⟨_, failed⟩ :=
    optionalUint_cases document pattern
  · rw [read, read]
    refine parallel_good ((keeps _ _).trans keptLeft) ((keeps _ _).trans keptRight) ?_
    exact fun holds => present holds number
  · rw [read, read]
    exact parallel_good keptLeft keptRight (absent missing)
  · rw [failed, failed]
    exact .inl ⟨_, rfl, rfl⟩

theorem parallel_parseCredentialsOn {passLen : Int} {password : Bytes}
    (sameIp : first.params.ipAddress = second.params.ipAddress)
    (sameCity : command = .userCreate → first.params.city = second.params.city)
    (credentials : command = .userCreate ∨ command = .userLogin) :
    Parallel settled command first second
      (parseCredentialsOn (fun _ => false) passLen document
        { first with params := { first.params with password } } command)
      (parseCredentialsOn (fun _ => false) passLen document
        { second with params := { second.params with password } } command) := by
  unfold parseCredentialsOn
  refine parallel_requireString rfl rfl fun user readsUser => ?_
  simp only
  split
  next creates =>
    subst creates
    simp only [passwordCheckOn_unbounded, bind, Except.bind]
    split
    next => exact parallel_complaint (by decide) rfl rfl
    next =>
      refine parallel_good rfl rfl fun _ => ?_
      simp only [Params.relevant, sameIp, sameCity rfl]
  next notCreate =>
    refine parallel_good rfl rfl fun _ => ?_
    rw [credentials.resolve_left notCreate]
    rfl

theorem parallel_parseParams {parse : Bytes → Option Json} {json password : Bytes} {uid : Nat}
    (parsed : parse (cstr json) = some document)
    (readsPassword : document.text (bytes "password") = some password)
    (readsUid : document.number (bytes "uid") = some uid)
    (others : ¬ (command = .userCreate ∨ command = .userLogin)) :
    Parallel (SetsRelevant parse json command) command first second
      (parseParams document { first with params := { first.params with password, uid } } command)
      (parseParams document { second with params := { second.params with password, uid } }
        command) := by
  unfold parseParams
  split
  next chats =>
    refine parallel_requireString rfl rfl fun name _ => ?_
    simp only
    split
    next adds =>
      refine parallel_requireString rfl rfl fun adduser _ => parallel_good rfl rfl fun _ => ?_
      rw [adds]
      rfl
    next notAdds =>
      refine parallel_good rfl rfl fun _ => ?_
      rw [chats.resolve_right notAdds]
      rfl
  next =>
    split
    next idle =>
      exact parallel_optionalUint rfl rfl (fun _ _ => rfl)
        (fun settled => absurd idle settled.1) fun _ settled => absurd idle settled.1
    next =>
      split
      next reads =>
        refine parallel_requireString rfl rfl fun user readsUser => ?_
        refine parallel_optionalUint rfl rfl (fun _ _ => rfl) (fun _ number => ?_) ?_
        · obtain rfl | rfl := reads <;> rfl
        · intro missing settled
          obtain rfl | rfl := reads
          · exact absurd ⟨readsPassword, readsUid, readsUser, missing⟩
              (settled.2 rfl document uid user password parsed)
          · rfl
      next =>
        split
        next sends =>
          refine parallel_requireString rfl rfl fun message _ => ?_
          simp only
          split
          next direct =>
            refine parallel_requireString rfl rfl fun toUser _ =>
              parallel_good rfl rfl fun _ => ?_
            rw [direct]
            rfl
          next notDirect =>
            refine parallel_requireString rfl rfl fun name _ =>
              parallel_good rfl rfl fun _ => ?_
            rw [sends.resolve_left notDirect]
            rfl
        next =>
          split
          next located =>
            refine parallel_requireString rfl rfl fun city _ =>
              parallel_good rfl rfl fun _ => ?_
            rw [located]
            rfl
          next =>
            refine parallel_good rfl rfl fun _ => ?_
            cases command <;> first | rfl | simp_all

end Parallel

/-- A good request sets what its command reads, whatever was there before. -/
theorem parallel_parseMeta (parse : Bytes → Option Json) (passLen : Int) (json : Bytes)
    (command : Cmd) (first second : RequestDetails)
    (sameIp : first.params.ipAddress = second.params.ipAddress)
    (sameCity : command = .userCreate → first.params.city = second.params.city) :
    Parallel (SetsRelevant parse json command) command first second
      (parseMeta parse passLen first json command)
      (parseMeta parse passLen second json command) := by
  unfold parseMeta parseMetaOn
  cases parsed : parse (cstr json) with
  | none => exact @parallel_complaint _ _ _ _ first.params second.params _ (by decide) rfl rfl
  | some document =>
      simp only
      refine @parallel_requireString _ _ _ _ first.params second.params _ _ _ _ rfl rfl ?_
      intro password readsPassword
      split
      next credentials => exact parallel_parseCredentialsOn sameIp sameCity credentials
      next others =>
        refine parallel_requireUint rfl rfl fun uid readsUid => ?_
        exact parallel_parseParams parsed readsPassword readsUid others

/-- A content type that is accepted. -/
def HttpReply.AcceptedContent (reply : HttpReply) : Prop :=
  (Utils.startsWith (reply.getHeader (bytes "Content-Type")) (bytes "text/plain") ||
    Utils.startsWith (reply.getHeader (bytes "Content-Type")) (bytes "application/json")) = true

/-- A request as it arrives. -/
structure Arrival where
  reply : HttpReply
  lookup : Lookup := none
  now : Int := 0
  expired : Nat := 0

namespace ApiClient

section Responses

variable (setup : Setup)

def arrive (arrival : Arrival) (client : ApiClient) : Checked (ApiClient × List Task) :=
  requestFromClientReadHandler setup.parse setup.passLen arrival.reply arrival.lookup arrival.now
    arrival.expired client

/-- The connection after a history of requests, accepted or rejected. -/
def afterHistory : List Arrival → ApiClient → Checked ApiClient
  | [], client => pure client
  | arrival :: rest, client => do
      let (later, _) ← arrive setup arrival client
      afterHistory rest later

/-- Serve tasks one after the other. -/
def serveTasks (now : Int) : Storage → List Task → Served
  | storage, [] => ([], storage)
  | storage, task :: rest =>
      let first := serve now storage (DatabaseWorker.processTask setup.sort task)
      let others := serveTasks now first.2 rest
      (first.1 ++ others.1, others.2)

/-- What the handler of a request has written to its client, what its tasks
then tell the client, and the storage after them. -/
def outcome (now : Int) (storage : Storage) (client : ApiClient)
    (handled : ApiClient × List Task) : List Bytes × Served :=
  ((handled.1.writes.drop client.writes.length).map (·.1),
    serveTasks setup now storage handled.2)

/-- The response to a request. -/
def respond (arrival : Arrival) (now : Int) (storage : Storage) (client : ApiClient) :
    Checked (List Bytes × Served) :=
  (arrive setup arrival client).map (outcome setup now storage client)

end Responses

variable {setup : Setup} {now : Int} {storage : Storage}

theorem outcome_error {client : ApiClient} {details : RequestDetails} {httpCode : Nat}
    {apiCode : ApiStatusCode} {desc : Bytes} :
    outcome setup now storage client
        ({ client with requestDetails := details }.sendErrorResponse httpCode apiCode desc, []) =
      ([buildApiErrorRsponse httpCode apiCode desc], [], storage) := by
  unfold outcome sendErrorResponse asyncRequest
  simp only [List.drop_left, List.map_singleton]
  rfl

theorem outcome_task {client : ApiClient} {details : RequestDetails} {task : Task} :
    outcome setup now storage client ({ client with requestDetails := details }, [task]) =
      ([], serve now storage (DatabaseWorker.processTask setup.sort task)) := by
  unfold outcome serveTasks serveTasks
  simp only [List.drop_length, List.map_nil, List.append_nil]

theorem outcome_unanswered {client : ApiClient} {details : RequestDetails} :
    outcome setup now storage client ({ client with requestDetails := details }, []) =
      ([], [], storage) := by
  unfold outcome serveTasks
  simp only [List.drop_length, List.map_nil]

/-- Tasks of one command that agree on what it reads are served alike. -/
theorem serve_of_relevant {cmd : Cmd} {left right : Params} (stpath : Bytes)
    (agree : left.relevant cmd = right.relevant cmd) :
    serve now storage
        (DatabaseWorker.processTask setup.sort { cmd, request := left, storage := stpath }) =
      serve now storage
        (DatabaseWorker.processTask setup.sort { cmd, request := right, storage := stpath }) := by
  rw [← DatabaseWorker.serve_relevant _ _ _ { cmd, request := left, storage := stpath },
    ← DatabaseWorker.serve_relevant _ _ _ { cmd, request := right, storage := stpath }]
  simp only [agree]

/-- Two connections on which the same request arrives. -/
theorem v1Handler_same {reply : HttpReply} {cmd : Cmd} {one two : ApiClient}
    {first second : RequestDetails}
    (sameIp : first.params.ipAddress = second.params.ipAddress)
    (sameCity : cmd = .userCreate → first.params.city = second.params.city)
    (settled : reply.AcceptedContent → SetsRelevant setup.parse reply.body cmd) :
    (v1Handler setup.parse setup.passLen reply cmd { one with requestDetails := first }).map
        (outcome setup now storage one) =
      (v1Handler setup.parse setup.passLen reply cmd { two with requestDetails := second }).map
        (outcome setup now storage two) := by
  unfold v1Handler handlerImpl
  simp only
  split
  next accepted =>
    obtain ⟨violation, failedOne, failedTwo⟩ |
        ⟨left, right, text, parsedOne, parsedTwo, _, _, agree⟩ :=
      parallel_parseMeta setup.parse setup.passLen reply.body cmd
        { first with command := cmd } { second with command := cmd } sameIp sameCity
    · rw [failedOne, failedTwo]
      rfl
    · rw [parsedOne, parsedTwo]
      simp only [bind, Except.bind]
      cases text with
      | nil =>
          simp only [List.isEmpty_nil, Bool.not_true, Bool.false_eq_true, if_false]
          refine congrArg Except.ok ?_
          rw [outcome_task, outcome_task]
          exact congrArg (Prod.mk []) (serve_of_relevant _ (agree rfl (settled accepted)))
      | cons byte rest =>
          simp only [List.isEmpty_cons, Bool.not_false, if_true]
          refine congrArg Except.ok ?_
          rw [outcome_error, outcome_error]
  next =>
    refine congrArg Except.ok ?_
    rw [outcome_error, outcome_error]

/-- A request that sets what its command reads gets the same response on every
connection. -/
theorem respond_same {arrival : Arrival} {one two : ApiClient}
    (notIdle : Utils.lowercased arrival.reply.resource ≠ bytes "/v1/idle")
    (sameIp : one.requestDetails.params.ipAddress = two.requestDetails.params.ipAddress)
    (settled : ∀ cmd, route (Utils.lowercased arrival.reply.resource) = some cmd →
      arrival.reply.AcceptedContent → SetsRelevant setup.parse arrival.reply.body cmd) :
    respond setup arrival now storage one = respond setup arrival now storage two := by
  unfold respond arrive requestFromClientReadHandler
  simp only [if_neg notIdle]
  split
  next =>
    refine congrArg Except.ok ?_
    rw [outcome_error, outcome_error]
  next routed =>
    unfold getCity
    split
    next => exact v1Handler_same sameIp (fun _ => rfl) (settled _ routed)
    next => rfl
    all_goals
      refine congrArg Except.ok ?_
      rw [outcome_unanswered, outcome_unanswered]
  next cmd notCreate routed =>
    exact v1Handler_same sameIp (fun creates => absurd creates notCreate) (settled _ routed)

/-- No request sets the address that tasks report. -/
theorem parseMeta_ipAddress {parse : Bytes → Option Json} {passLen : Int}
    {details later : RequestDetails} {json text : Bytes} {command : Cmd}
    (parsed : parseMeta parse passLen details json command = .ok (later, text)) :
    later.params.ipAddress = details.params.ipAddress := by
  obtain ⟨violation, failed, _⟩ | ⟨left, right, other, returned, _, kept, _⟩ :=
    parallel_parseMeta parse passLen json command details details rfl fun _ => rfl
  · rw [failed] at parsed
    cases parsed
  · rw [returned] at parsed
    cases parsed
    exact kept

theorem arrive_ipAddress {arrival : Arrival} {client later : ApiClient} {tasks : List Task}
    (arrived : arrive setup arrival client = .ok (later, tasks)) :
    later.requestDetails.params.ipAddress = client.requestDetails.params.ipAddress := by
  have routed : ∀ {cmd : Cmd} {details : RequestDetails},
      v1Handler setup.parse setup.passLen arrival.reply cmd
        { client with requestDetails := details } = .ok (later, tasks) →
      later.requestDetails.params.ipAddress = details.params.ipAddress := by
    intro cmd details ran
    unfold v1Handler handlerImpl at ran
    simp only at ran
    split at ran
    next =>
      obtain ⟨⟨parsed, err⟩, returned, rest⟩ := Checked.bind_ok ran
      have kept := parseMeta_ipAddress returned
      simp only at rest
      split at rest <;> cases rest <;> exact kept
    next =>
      cases ran
      rfl
  unfold arrive requestFromClientReadHandler at arrived
  simp only at arrived
  split at arrived
  next =>
    obtain ⟨⟨parsed, err⟩, returned, rest⟩ := Checked.bind_ok arrived
    have kept := parseMeta_ipAddress returned
    simp only at rest
    split at rest <;> cases rest <;> exact kept
  next =>
    split at arrived
    next =>
      cases arrived
      rfl
    next =>
      rcases getCity_cases arrived with ⟨city, -, handled⟩ | ⟨-, rfl, -⟩
      · have kept := routed handled
        exact kept
      · rfl
    next =>
      have kept := routed arrived
      exact kept

theorem afterHistory_ipAddress {arrivals : List Arrival} {client later : ApiClient}
    (ended : afterHistory setup arrivals client = .ok later) :
    later.requestDetails.params.ipAddress = client.requestDetails.params.ipAddress := by
  induction arrivals generalizing client with
  | nil =>
      cases ended
      rfl
  | cons arrival rest inductionHypothesis =>
      obtain ⟨⟨middle, tasks⟩, arrived, remaining⟩ := Checked.bind_ok ended
      exact (inductionHypothesis remaining).trans (arrive_ipAddress arrived)

end ApiClient

/-- A message from one of two users to the other. -/
def Message.Between (userFrom userTo : User) (msg : Message) : Prop :=
  (msg.userFrom = userFrom.id ∧ msg.chatTo = userTo.selfChatId) ∨
    (msg.userFrom = userTo.id ∧ msg.chatTo = userFrom.selfChatId)

/-- The storage holds a history of the user of the id, who has this password,
and the one user of the name. -/
def HasHistory (storage : Storage) (uid : Nat) (user password : Bytes) : Prop :=
  (lookupUserById uid storage).id ≠ 0 ∧
    encryptedPass password = (lookupUserById uid storage).password ∧
    ∃ userTo, lookupUserByName user storage = [userTo] ∧ userTo.id ≠ 0 ∧
      ∃ msg ∈ storage.messages, msg.Between (lookupUserById uid storage) userTo

namespace DatabaseWorker

variable {storage : Storage} {sort : TimestampSort} {userFrom userTo : User}

theorem selectMessages_eq_nil_iff {pred : Message → Bool} {opt : GetMsgOpt} :
    selectMessages pred opt storage = [] ↔ ∀ msg ∈ storage.messages, ¬ pred msg = true := by
  rw [selectMessages_result, ← List.filter_eq_nil_iff]
  unfold cutAt
  split
  next => exact List.reverse_eq_nil_iff
  next limited => rw [List.take_eq_nil_iff, or_iff_right limited, List.reverse_eq_nil_iff]

theorem mixFromAndToMessages_eq_nil_iff {fromMsgs toMsgs : List Message} {max : Nat}
    (positive : 0 < max) :
    mixFromAndToMessages sort fromMsgs toMsgs max = [] ↔ fromMsgs = [] ∧ toMsgs = [] := by
  have sorted : sort.sort (fromMsgs ++ toMsgs) = [] ↔ fromMsgs = [] ∧ toMsgs = [] := by
    rw [← List.length_eq_zero_iff, (sort.perm _).length_eq, List.length_eq_zero_iff,
      List.append_eq_nil_iff]
  rw [mixFromAndToMessages_eq_take, List.take_eq_nil_iff, or_iff_right (by omega), sorted]

/-- Some messages are sent if there are any, and some are asked for. -/
theorem history_eq_nil_iff {count : Nat} (positive : 0 < count) :
    history storage sort userFrom userTo count = [] ↔
      ∀ msg ∈ storage.messages, ¬ msg.Between userFrom userTo := by
  unfold history
  rw [mixFromAndToMessages_eq_nil_iff positive, selectMessages_eq_nil_iff,
    selectMessages_eq_nil_iff, ← forall₂_and]
  refine forall₂_congr fun msg _ => ?_
  simp only [Bool.and_eq_true, decide_eq_true_eq, Message.Between]
  rw [not_or, and_comm]

theorem history_zero : history storage sort userFrom userTo 0 = [] := by
  rw [history_eq, List.take_zero]

/-- Without messages the number that is asked for does not matter. -/
theorem history_of_none (count : Nat)
    (none : ∀ msg ∈ storage.messages, ¬ msg.Between userFrom userTo) :
    history storage sort userFrom userTo count = [] := by
  obtain rfl | positive := Nat.eq_zero_or_pos count
  · exact history_zero
  · exact (history_eq_nil_iff positive).mpr none

variable {uid : Nat} {user password : Bytes}

/-- A task of the command with the members of its request. -/
def historyTaskOf (uid : Nat) (user password : Bytes) (params : Params) : Task :=
  { cmd := .userHistory, request := { params with uid, user, password } }

/-- A lookup by name without a password goes on with the one user it finds. -/
theorem guardedByName_congr {name : Bytes} {first second : Task} {next other : User → Served}
    (same : ∀ userTo, lookupUserByName name storage = [userTo] → userTo.id ≠ 0 →
      next userTo = other userTo) :
    guardedByName storage name first false next =
      guardedByName storage name second false other := by
  unfold guardedByName refusalByName checkPassByName
  simp only [Bool.false_and, Bool.false_eq_true, if_false]
  generalize lookupUserByName name storage = found at same
  rcases found with _ | ⟨userTo, _ | ⟨another, rest⟩⟩
  · rfl
  · simp only
    split
    next => rfl
    next stored => exact same userTo rfl stored
  · rfl

/-- The answer shows how many messages were asked for only if there are some. -/
theorem serve_history_same (now : Int) (params other : Params)
    (nothing : ¬ HasHistory storage uid user password) :
    serve now storage (processTask sort (historyTaskOf uid user password params)) =
      serve now storage (processTask sort (historyTaskOf uid user password other)) := by
  show serve now storage (processUserHistory sort (historyTaskOf uid user password params)) =
    serve now storage (processUserHistory sort (historyTaskOf uid user password other))
  rw [serve_processUserHistory, serve_processUserHistory]
  by_cases denied : (checkPass (historyTaskOf uid user password params) storage).id = 0
  · have deniedOther : (checkPass (historyTaskOf uid user password other) storage).id = 0 := denied
    rw [guarded_of_denied denied, guarded_of_denied deniedOther]
    rfl
  · refine (if_neg denied).trans (Eq.trans ?_ (if_neg denied).symm)
    refine guardedByName_congr fun userTo found stored => ?_
    obtain ⟨accepted, right⟩ := checkPass_of_accepted storage denied
    have none : ∀ msg ∈ storage.messages,
        ¬ msg.Between (checkPass (historyTaskOf uid user password params) storage) userTo := by
      intro msg member between
      rw [accepted] at denied between
      exact nothing ⟨denied, right, userTo, found, stored, msg, member, between⟩
    have noneOther : ∀ msg ∈ storage.messages,
        ¬ msg.Between (checkPass (historyTaskOf uid user password other) storage) userTo := none
    rw [history_of_none _ none, history_of_none _ noneOther]

/-- The task of a user with a history sends what was asked for. -/
theorem serve_history {now : Int} {params : Params}
    (found : HasHistory storage uid user password) :
    ∃ userTo, (∃ msg ∈ storage.messages, msg.Between (lookupUserById uid storage) userTo) ∧
      serve now storage (processTask sort (historyTaskOf uid user password params)) =
        ([.sendMessages ((history storage sort (lookupUserById uid storage) userTo
          params.count).map storage.apiForm)], storage) := by
  obtain ⟨present, right, userTo, named, stored, messages⟩ := found
  refine ⟨userTo, messages, ?_⟩
  have asks : AsksHistory storage (historyTaskOf uid user password params)
      (lookupUserById uid storage) userTo :=
    ⟨rfl, checkPass_of_found storage rfl present right, present, named, stored⟩
  exact asks.serve sort now

end DatabaseWorker

section Histories

variable {document : Json} {uid : Nat} {user password : Bytes}

/-- What a request for a history sets. The number of messages stays as it was
if the request does not give one. -/
theorem parseMeta_userHistory {parse : Bytes → Option Json} {json : Bytes} (passLen : Int)
    (details : RequestDetails) (parsed : parse (cstr json) = some document)
    (readsPassword : document.text (bytes "password") = some password)
    (readsUid : document.number (bytes "uid") = some uid)
    (readsUser : document.text (bytes "user") = some user) :
    parseMeta parse passLen details json .userHistory =
      .ok ({ details with params :=
        { details.params with
          password, uid, user
          count := (document.number (bytes "count")).getD details.params.count } }, []) := by
  have object := isObject_of_text readsPassword
  unfold parseMeta parseMetaOn
  simp only [parsed]
  rw [requireString_of_text readsPassword, if_neg (by decide),
    requireUint_of_number object readsUid]
  unfold parseParams
  rw [if_neg (by decide), if_neg (by decide), if_pos (by decide),
    requireString_of_text readsUser]
  obtain ⟨number, reads, read⟩ | ⟨missing, read⟩ | ⟨notObject, _⟩ :=
    optionalUint_cases document (bytes "count")
  · rw [read, reads]
    rfl
  · rw [read, missing]
    rfl
  · cases notObject.symm.trans object

theorem ApiClient.arrive_userHistory {setup : Setup} {arrival : Arrival} (client : ApiClient)
    (resource : Utils.lowercased arrival.reply.resource = bytes "/v1/user/history")
    (accepted : arrival.reply.AcceptedContent)
    (parsed : setup.parse (cstr arrival.reply.body) = some document)
    (readsPassword : document.text (bytes "password") = some password)
    (readsUid : document.number (bytes "uid") = some uid)
    (readsUser : document.text (bytes "user") = some user) :
    ∃ details : RequestDetails, details.params.count =
        (document.number (bytes "count")).getD client.requestDetails.params.count ∧
      arrive setup arrival client = .ok ({ client with requestDetails := details },
        [DatabaseWorker.historyTaskOf uid user password details.params]) := by
  let details : RequestDetails :=
    { command := .userHistory, remoteAddress := client.remoteAddr,
      resource := bytes "/v1/user/history", method := arrival.reply.method
      params :=
        { client.requestDetails.params with
          password, uid, user
          count := (document.number (bytes "count")).getD client.requestDetails.params.count } }
  refine ⟨details, rfl, ?_⟩
  unfold arrive requestFromClientReadHandler
  simp only [resource]
  rw [if_neg (by decide)]
  have routed : route (bytes "/v1/user/history") = some .userHistory := by decide
  simp only [routed]
  unfold v1Handler handlerImpl
  unfold HttpReply.AcceptedContent at accepted
  simp only
  rw [if_pos accepted, parseMeta_userHistory setup.passLen _ parsed readsPassword readsUid
    readsUser]
  rfl

end Histories

/-- The request leaves open how many messages it asks for, and there are some. -/
def LeavesCountOpen (setup : Setup) (arrival : Arrival) (storage : Storage) : Prop :=
  Utils.lowercased arrival.reply.resource = bytes "/v1/user/history" ∧
    arrival.reply.AcceptedContent ∧ ∃ document uid user password,
      setup.parse (cstr arrival.reply.body) = some document ∧
      Uncounted document uid user password ∧ HasHistory storage uid user password

/-- A request for one message of a history. -/
def countDocument : Json :=
  .object [(bytes "uid", .int 1), (bytes "password", .string (bytes "secret_pass")),
    (bytes "user", .string (bytes "bob")), (bytes "count", .int 1)]

def countArrival : Arrival :=
  { reply := ApiClient.jsonRequest (bytes "/v1/user/history") countDocument.write }

namespace ApiClient

theorem route_ne_idle {resource : Bytes} {cmd : Cmd} (routed : route resource = some cmd) :
    cmd ≠ .idle := by
  rintro rfl
  obtain command | history := route_served routed
  · exact absurd command (by decide)
  · cases history

variable {setup : Setup} {arrival : Arrival} {now : Int} {storage : Storage}

/-- The response to a request that leaves the number of messages open. -/
theorem respond_uncounted {document : Json} {uid : Nat} {user password : Bytes}
    (client : ApiClient)
    (resource : Utils.lowercased arrival.reply.resource = bytes "/v1/user/history")
    (accepted : arrival.reply.AcceptedContent)
    (parsed : setup.parse (cstr arrival.reply.body) = some document)
    (uncounted : Uncounted document uid user password) :
    ∃ params : Params, params.count = client.requestDetails.params.count ∧
      respond setup arrival now storage client = .ok ([], serve now storage
        (DatabaseWorker.processTask setup.sort
          (DatabaseWorker.historyTaskOf uid user password params))) := by
  obtain ⟨details, count, arrived⟩ := arrive_userHistory client resource accepted parsed
    uncounted.readsPassword uncounted.readsUid uncounted.readsUser
  refine ⟨details.params, ?_, ?_⟩
  · rw [count, uncounted.noCount]
    rfl
  · unfold respond
    rw [arrived]
    exact congrArg Except.ok outcome_task

theorem parse_countArrival (readsBack : Json.ReadsBack setup.parse countDocument) :
    setup.parse (cstr countArrival.reply.body) = some countDocument := by
  rw [← readsBack]
  exact congrArg setup.parse (Json.cstr_write _)

/-- A history after which the number of messages is one. -/
theorem afterHistory_count (client : ApiClient)
    (readsBack : Json.ReadsBack setup.parse countDocument) :
    ∃ later, afterHistory setup [countArrival] client = .ok later ∧
      later.requestDetails.params.count = 1 := by
  have parsed := parse_countArrival readsBack
  have accepted : countArrival.reply.AcceptedContent := by
    unfold HttpReply.AcceptedContent
    decide
  obtain ⟨details, count, arrived⟩ := @arrive_userHistory countDocument 1 (bytes "bob")
    (bytes "secret_pass") setup countArrival client (by decide) accepted parsed (by decide)
    (by decide) (by decide)
  refine ⟨{ client with requestDetails := details }, ?_, ?_⟩
  · unfold afterHistory
    rw [arrived]
    rfl
  · rw [count]
    rfl

end ApiClient

open ApiClient in
/-- A request that does not start the idle mode gets the same response after
every history of requests on its connection if and only if it is not a request
for a history of messages, which exist, that does not give their number. -/
theorem requests_independent_iff (setup : Setup) (arrival : Arrival) (now : Int)
    (storage : Storage) (command : Cmd) (remoteAddr : Bytes)
    (notIdle : Utils.lowercased arrival.reply.resource ≠ bytes "/v1/idle")
    (readsBack : Json.ReadsBack setup.parse countDocument) :
    (∀ first second one two,
      afterHistory setup first { requestDetails := { command }, remoteAddr } = .ok one →
      afterHistory setup second { requestDetails := { command }, remoteAddr } = .ok two →
      respond setup arrival now storage one = respond setup arrival now storage two) ↔
      ¬ LeavesCountOpen setup arrival storage := by
  constructor
  · rintro same ⟨resource, accepted, document, uid, user, password, parsed, uncounted, found⟩
    obtain ⟨later, ended, counted⟩ := afterHistory_count
      { requestDetails := { command }, remoteAddr } readsBack
    have agree := same [] [countArrival] _ later rfl ended
    obtain ⟨none, zero, responseNone⟩ := @respond_uncounted setup arrival now storage document uid
      user password { requestDetails := { command }, remoteAddr } resource accepted parsed uncounted
    obtain ⟨one, single, responseOne⟩ := @respond_uncounted setup arrival now storage document uid
      user password later resource accepted parsed uncounted
    obtain ⟨_, _, servedNone⟩ := @DatabaseWorker.serve_history storage setup.sort uid user password
      now none found
    obtain ⟨userTo, ⟨msg, member, between⟩, servedOne⟩ := @DatabaseWorker.serve_history storage
      setup.sort uid user password now one found
    rw [responseNone, responseOne, servedNone, servedOne, zero, single, counted,
      DatabaseWorker.history_zero] at agree
    simp only [Except.ok.injEq, Prod.mk.injEq, List.cons.injEq, ClientCall.sendMessages.injEq,
      List.map_nil, and_true, true_and] at agree
    have nothing := List.map_eq_nil_iff.mp agree.symm
    exact (DatabaseWorker.history_eq_nil_iff Nat.one_pos).mp nothing msg member between
  · intro safe first second one two ended endedTwo
    have sameIp : one.requestDetails.params.ipAddress = two.requestDetails.params.ipAddress :=
      (afterHistory_ipAddress ended).trans (afterHistory_ipAddress endedTwo).symm
    by_cases uncountedRequest : Utils.lowercased arrival.reply.resource = bytes "/v1/user/history" ∧
      arrival.reply.AcceptedContent ∧ ∃ document uid user password,
        setup.parse (cstr arrival.reply.body) = some document ∧
        Uncounted document uid user password
    · obtain ⟨resource, accepted, document, uid, user, password, parsed, uncounted⟩ :=
        uncountedRequest
      have nothing : ¬ HasHistory storage uid user password := fun found =>
        safe ⟨resource, accepted, document, uid, user, password, parsed, uncounted, found⟩
      obtain ⟨params, _, response⟩ := @respond_uncounted setup arrival now storage document uid
        user password one resource accepted parsed uncounted
      obtain ⟨other, _, responseTwo⟩ := @respond_uncounted setup arrival now storage document uid
        user password two resource accepted parsed uncounted
      rw [response, responseTwo, DatabaseWorker.serve_history_same now params other nothing]
    · refine respond_same notIdle sameIp fun cmd routed accepted => ⟨route_ne_idle routed, ?_⟩
      rintro rfl document uid user password parsed uncounted
      exact uncountedRequest ⟨route_resource (by decide) routed, accepted, document, uid, user,
        password, parsed, uncounted⟩

section Leak

/-- The same request without the number. -/
def openDocument : Json :=
  .object [(bytes "uid", .int 1), (bytes "password", .string (bytes "secret_pass")),
    (bytes "user", .string (bytes "bob"))]

def openArrival : Arrival :=
  { reply := ApiClient.jsonRequest (bytes "/v1/user/history") openDocument.write }

def parseHistory (text : Bytes) : Option Json :=
  if text = countDocument.write then some countDocument
  else if text = openDocument.write then some openDocument
  else none

def historySetup : Setup := ⟨parseHistory, 8, .stable⟩

/-- Two users, and a message of the first to the second. -/
def historyStorage : Storage :=
  { twoUsers (bytes "secret_pass") (bytes "other_pass") with
    messages := [{ userFrom := 1, chatTo := 2, ts := 50, message := bytes "hello" }] }

/-- The number of messages in each reply with messages. -/
def messageCounts (response : Checked (List Bytes × Served)) : List Nat :=
  match response with
  | .ok (_, calls, _) =>
      calls.flatMap fun made =>
        match made with
        | .sendMessages msgs => [msgs.length]
        | _ => []
  | .error _ => []

open ApiClient

/-- The connection after a history that does not abort, with a property of it. -/
theorem afterHistory_of_toOption {setup : Setup} {arrivals : List Arrival} {client : ApiClient}
    {Alpha : Type} {shown : ApiClient → Alpha} {value : Alpha}
    (ended : (afterHistory setup arrivals client).toOption.map shown = some value) :
    ∃ later, afterHistory setup arrivals client = .ok later ∧ shown later = value := by
  cases after : afterHistory setup arrivals client with
  | error violation =>
      rw [after] at ended
      cases ended
  | ok later =>
      rw [after] at ended
      exact ⟨later, rfl, Option.some.inj ended⟩

/-- A history is asked for without a number. On a new connection none of its
messages is sent, after a request with a number that many are. -/
theorem earlier_count_leaks :
    ∃ one two, afterHistory historySetup [] connected = .ok one ∧
      afterHistory historySetup [countArrival] connected = .ok two ∧
      respond historySetup openArrival 100 historyStorage one ≠
        respond historySetup openArrival 100 historyStorage two := by
  have none : (afterHistory historySetup [] connected).toOption.map (fun client =>
      messageCounts (respond historySetup openArrival 100 historyStorage client)) =
      some [0] := by
    decide +kernel
  have one : (afterHistory historySetup [countArrival] connected).toOption.map (fun client =>
      messageCounts (respond historySetup openArrival 100 historyStorage client)) =
      some [1] := by
    decide +kernel
  obtain ⟨fresh, endedFresh, countsFresh⟩ := afterHistory_of_toOption none
  obtain ⟨used, endedUsed, countsUsed⟩ := afterHistory_of_toOption one
  refine ⟨fresh, used, endedFresh, endedUsed, fun same => ?_⟩
  rw [same, countsUsed] at countsFresh
  cases countsFresh

/-- The request with a number is answered as on a new connection. -/
theorem requests_independent_counted :
    ∃ one two, afterHistory historySetup [] connected = .ok one ∧
      afterHistory historySetup [openArrival] connected = .ok two ∧
      respond historySetup countArrival 100 historyStorage one =
        respond historySetup countArrival 100 historyStorage two := by
  have readsBack : Json.ReadsBack historySetup.parse countDocument := by
    show parseHistory countDocument.write = some countDocument
    exact if_pos rfl
  have counted : ¬ LeavesCountOpen historySetup countArrival historyStorage := by
    rintro ⟨_, _, document, _, _, _, parsed, uncounted, _⟩
    cases (parse_countArrival readsBack).symm.trans parsed
    have number : countDocument.number (bytes "count") = some 1 := by decide
    cases number.symm.trans uncounted.noCount
  have ended : (afterHistory historySetup [openArrival] connected).toOption.map (fun _ => ()) =
      some () := by
    decide +kernel
  obtain ⟨later, endedLater, _⟩ := afterHistory_of_toOption ended
  have same := (requests_independent_iff historySetup countArrival 100 historyStorage .cmdLast []
    (by decide) readsBack).mpr counted
  exact ⟨connected, later, rfl, endedLater, same [] [openArrival] connected later rfl endedLater⟩

end Leak

end GeoChat
