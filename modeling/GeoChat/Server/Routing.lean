import GeoChat.Server.ApiClient

/-!
# What a request does to its connection

Every request that is read is refused with an error reply, or starts the idle
mode, or puts one task into the queue, of the command that the resource names. A
registration whose lookup gives no city does none of these.
-/

namespace GeoChat.ApiClient

/-- The command that a resource names. -/
def dispatch (resource : Bytes) : Option Cmd :=
  if resource = bytes "/v1/idle" then some .idle else route resource

/-- The outcomes of a request, with the tasks they put into the queue. -/
inductive Handled (lookup : Lookup) (now : Int) (expired : Nat) (resource : Bytes)
    (client : ApiClient) : ApiClient → List Task → Prop
  | refused {details : RequestDetails} {httpCode : Nat} {apiCode : ApiStatusCode} {desc : Bytes} :
      details.resource = resource →
      (∀ cmd, dispatch resource = some cmd → details.command = cmd) →
      Handled lookup now expired resource client
        ({ client with requestDetails := details }.sendErrorResponse httpCode apiCode desc) []
  | idle {details : RequestDetails} :
      details.resource = resource → dispatch resource = some .idle → details.command = .idle →
      Handled lookup now expired resource client
        ({ client with requestDetails := details }.sendOkResponseAndStartIdle now expired) []
  | queued {details : RequestDetails} {storage : Bytes} :
      details.resource = resource → route resource = some details.command →
      dispatch resource = some details.command →
      Handled lookup now expired resource client { client with requestDetails := details }
        [{ details.task with storage }]
  | unanswered {details : RequestDetails} :
      details.resource = resource → route resource = some .userCreate →
      (∀ city, lookup ≠ some (.ok city)) →
      Handled lookup now expired resource client { client with requestDetails := details } []

variable {parse : Bytes → Option Json} {passLen : Int} {req : HttpReply} {lookup : Lookup}
  {now : Int} {expired : Nat} {client later : ApiClient} {tasks : List Task}

theorem handled_v1Handler {details : RequestDetails} {cmd : Cmd}
    (routed : route details.resource = some cmd) (dispatched : dispatch details.resource = some cmd)
    (ran : v1Handler parse passLen req cmd { client with requestDetails := details } =
      .ok (later, tasks)) :
    Handled lookup now expired details.resource client later tasks := by
  have named : ∀ other, dispatch details.resource = some other → cmd = other := by
    intro other found
    exact Option.some.inj (dispatched.symm.trans found)
  unfold v1Handler handlerImpl at ran
  simp only at ran
  split at ran
  next =>
    obtain ⟨⟨parsed, err⟩, returned, rest⟩ := Checked.bind_ok ran
    obtain ⟨params, rfl, _⟩ := parseMeta_onlyParams parse passLen _ _ _ parsed err returned
    simp only at rest
    split at rest
    next =>
      cases rest
      exact .refused rfl named
    next =>
      cases rest
      exact .queued rfl routed dispatched
  next =>
    cases ran
    exact .refused rfl named

theorem handled_idleHandler {details : RequestDetails}
    (dispatched : dispatch details.resource = some .idle)
    (ran : idleHandler parse passLen req now expired { client with requestDetails := details } =
      .ok (later, tasks)) :
    Handled lookup now expired details.resource client later tasks := by
  obtain ⟨⟨parsed, err⟩, returned, rest⟩ := Checked.bind_ok ran
  obtain ⟨params, rfl, _⟩ := parseMeta_onlyParams parse passLen _ _ _ parsed err returned
  simp only at rest
  split at rest
  next =>
    cases rest
    refine .refused rfl fun cmd found => ?_
    exact Option.some.inj (dispatched.symm.trans found)
  next =>
    cases rest
    exact .idle rfl dispatched rfl

/-- Every command has one resource. -/
theorem route_resource {path resource : Bytes} {cmd : Cmd} (listed : (path, cmd) ∈ routes)
    (routed : route resource = some cmd) : resource = path := by
  have table : ∀ one ∈ routes, ∀ two ∈ routes, one.2 = two.2 → one.1 = two.1 := by
    decide
  obtain ⟨branch, found, command⟩ := Option.map_eq_some_iff.mp routed
  have same : branch.1 = resource := by simpa using List.find?_some found
  exact same ▸ table branch (List.mem_of_find?_eq_some found) _ listed command

/-- A lookup gives the handler its city, or ends the request. -/
theorem getCity_cases {handler : Bytes → Checked (ApiClient × List Task)}
    (ran : client.getCity lookup handler = .ok (later, tasks)) :
    (∃ city, lookup = some (.ok city) ∧ handler city = .ok (later, tasks)) ∨
      (∀ city, lookup ≠ some (.ok city)) ∧ later = client ∧ tasks = [] := by
  unfold getCity at ran
  split at ran
  next city => exact .inl ⟨city, rfl, ran⟩
  next => cases ran
  all_goals
    cases ran
    exact .inr ⟨nofun, rfl, rfl⟩

/-- The outcomes of `requestFromClientReadHandler`. -/
theorem requestFromClientReadHandler_handled
    (ran : requestFromClientReadHandler parse passLen req lookup now expired client =
      .ok (later, tasks)) :
    Handled lookup now expired (Utils.lowercased req.resource) client later tasks := by
  unfold requestFromClientReadHandler at ran
  simp only at ran
  split at ran
  next idle =>
    refine handled_idleHandler ?_ ran
    simp only [dispatch, idle, if_true]
  next notIdle =>
    have same : dispatch (Utils.lowercased req.resource) = route (Utils.lowercased req.resource) :=
      if_neg notIdle
    split at ran
    next unknown =>
      cases ran
      refine .refused rfl fun cmd found => ?_
      rw [same, unknown] at found
      cases found
    next routed =>
      rcases getCity_cases ran with ⟨city, -, handled⟩ | ⟨noCity, rfl, rfl⟩
      · exact handled_v1Handler routed (same.trans routed) handled
      · exact .unanswered rfl routed noCity
    next cmd _ routed => exact handled_v1Handler routed (same.trans routed) ran

theorem v1Handler_returns {cmd : Cmd} (client : ApiClient)
    (returned : ∃ parsed, parseMeta parse passLen { client.requestDetails with command := cmd }
      req.body cmd = .ok parsed) :
    ∃ outcome, v1Handler parse passLen req cmd client = .ok outcome := by
  unfold v1Handler handlerImpl
  simp only
  split
  · obtain ⟨⟨details, err⟩, ran⟩ := returned
    refine Checked.bind_returns ran ?_
    simp only
    split <;> exact ⟨_, rfl⟩
  · exact ⟨_, rfl⟩

theorem idleHandler_returns (client : ApiClient)
    (returned : ∃ parsed, parseMeta parse passLen { client.requestDetails with command := .idle }
      req.body .idle = .ok parsed) :
    ∃ outcome, idleHandler parse passLen req now expired client = .ok outcome := by
  obtain ⟨⟨details, err⟩, ran⟩ := returned
  refine Checked.bind_returns ran ?_
  simp only
  split <;> exact ⟨_, rfl⟩

/-- The handler returns when `parse_meta` does for the command of the resource,
and the lookup of a city, if there is one, has returned. Only `USER_CREATE` comes
to `parse_meta` with a parameter set. -/
theorem requestFromClientReadHandler_returns {city : Bytes} (client : ApiClient)
    (returned : ∀ cmd (details : RequestDetails),
      dispatch (Utils.lowercased req.resource) = some cmd →
      (cmd ≠ .userCreate → details.params = client.requestDetails.params) →
      ∃ parsed, parseMeta parse passLen details req.body cmd = .ok parsed) :
    ∃ outcome, requestFromClientReadHandler parse passLen req (some (.ok city)) now expired
      client = .ok outcome := by
  unfold requestFromClientReadHandler
  simp only
  split
  next idle =>
    exact idleHandler_returns _ (returned .idle _ (if_pos idle) fun _ => rfl)
  next notIdle =>
    rw [dispatch, if_neg notIdle] at returned
    split
    next => exact ⟨_, rfl⟩
    next routed =>
      exact v1Handler_returns _ (returned .userCreate _ routed fun other => absurd rfl other)
    next cmd _ routed => exact v1Handler_returns _ (returned cmd _ routed fun _ => rfl)

end GeoChat.ApiClient
