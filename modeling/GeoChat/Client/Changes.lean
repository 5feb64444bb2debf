import GeoChat.Client.Pairing

/-!
# What a step does to the login of the client

The id of the user is set by a reply, the password by a line. The requests of a
login carry the password of the moment, and those on the idle connection the id
of the moment.
-/

namespace GeoChat

open Library

namespace Client

/-- The password that a line of the user sets. -/
def linePassword (client : Client) (msg : Bytes) : Option Bytes :=
  let args := Input.parse msg
  if !client.chats msg args && args.cmd = .login then some args.login.pass else none

/-- The password that an event sets. -/
def newPassword (client : Client) : SessionEvent → Option Bytes
  | .line msg => client.linePassword msg
  | _ => none

/-- The id that an event sets. -/
def newId (parse : Bytes → Option Json) (client : Client) : SessionEvent → Option Nat
  | .reply _ reply => client.loginId parse reply
  | _ => none

/-- A request that is no login, or a login with the password of the client. -/
def LogsIn (client : Client) (asked : Asked) : Prop :=
  asked.cmd = .login → ∃ user, asked.request = .userLogin user client.password

/-- A request on the idle connection for the user of the client. -/
def Subscribes (client : Client) (request : ApiRequest) : Prop :=
  ∃ heartbit password, request = .idle client.selfId heartbit password

/-- What a step that sets the given id and password does to the login. -/
structure Changes (client next : Client) (id : Option Nat) (password : Option Bytes) :
    Prop where
  selfId : next.selfId = id.getD client.selfId
  password : next.password = password.getD client.password
  logins : ∀ asked ∈ next.http.pending, asked ∈ client.http.pending ∨ next.LogsIn asked
  idles : ∀ request ∈ next.httpIdle.held,
    request ∈ client.httpIdle.held ∨ next.Subscribes request

variable {client next : Client}

theorem changes_pending (selfId : next.selfId = client.selfId)
    (password : next.password = client.password)
    (pending : next.http.pending ⊆ client.http.pending)
    (held : next.httpIdle.held ⊆ client.httpIdle.held) : client.Changes next none none :=
  ⟨selfId, password, fun _ member => .inl (pending member), fun _ member => .inl (held member)⟩

theorem changes_self (selfId : next.selfId = client.selfId)
    (password : next.password = client.password) (http : next.http = client.http)
    (httpIdle : next.httpIdle = client.httpIdle) : client.Changes next none none :=
  changes_pending selfId password (http ▸ List.Subset.refl _) (httpIdle ▸ List.Subset.refl _)

/-- A change of what the operations on the connections have ended with. -/
theorem Changes.of_subset {middle : Client} {id : Option Nat} {password : Option Bytes}
    (changes : middle.Changes next id password) (selfId : middle.selfId = client.selfId)
    (samePassword : middle.password = client.password)
    (pending : middle.http.pending ⊆ client.http.pending)
    (held : middle.httpIdle.held ⊆ client.httpIdle.held) :
    client.Changes next id password where
  selfId := selfId ▸ changes.selfId
  password := samePassword ▸ changes.password
  logins asked member := (changes.logins asked member).imp_left (pending ·)
  idles request member := (changes.idles request member).imp_left (held ·)

/-- A request that is no login. -/
theorem changes_sendRequest {cmd : InputCmd} {request : ApiRequest} (other : cmd ≠ .login) :
    client.Changes (client.sendRequest cmd request) none none := by
  refine ⟨rfl, rfl, fun asked member => ?_, fun _ member => .inl member⟩
  obtain before | rfl := Channel.mem_pending_write member
  · exact .inl before
  · exact .inr fun login => absurd login other

/-- A login with a password that becomes that of the client. -/
theorem changes_login (client : Client) (user pass : Bytes) :
    client.Changes { client.sendRequest .login (.userLogin user pass) with password := pass }
      none (some pass) := by
  refine ⟨rfl, rfl, fun asked member => ?_, fun _ member => .inl member⟩
  obtain before | rfl := Channel.mem_pending_write member
  · exact .inl before
  · exact .inr fun _ => ⟨user, rfl⟩

theorem changes_onUserInput (client : Client) (msg : Bytes) :
    client.Changes (client.onUserInput msg) none (client.linePassword msg) := by
  unfold onUserInput linePassword
  by_cases chatting : client.chats msg (Input.parse msg) = true
  · simp only [chatting, if_true, Bool.not_true, Bool.false_and, Bool.false_eq_true, if_false]
    exact changes_sendRequest (by decide)
  · simp only [chatting, Bool.not_false, Bool.true_and]
    unfold onCommand
    cases cmd : (Input.parse msg).cmd with
    | login =>
        simp only [decide_true, if_true]
        exact changes_login client _ _
    | none | unchat | quit | help | chatWithUser | historyGroup | statusGroup =>
        simp only [reduceCtorEq, decide_false, Bool.false_eq_true, if_false]
        exact changes_self rfl rfl rfl rfl
    | registerUser | registerGroup | getLocations | chatWithLocation | addToGroup
    | historyUser | directMsgUser | directMsgGroup | statusUser =>
        simp only [reduceCtorEq, decide_false, Bool.false_eq_true, if_false]
        exact changes_sendRequest (by decide)

theorem changes_onHttpConnect (client : Client) (failed : Bool) :
    client.Changes (client.onHttpConnect failed) none none := by
  unfold onHttpConnect
  cases failed with
  | true =>
      exact changes_pending rfl rfl (Channel.pending_connect_subset _) (List.Subset.refl _)
  | false =>
      simp only [Bool.false_eq_true, if_false]
      split
      next =>
        have login := changes_login client client.user client.password
        exact ⟨rfl, rfl, login.logins, login.idles⟩
      next => exact changes_self rfl rfl rfl rfl

theorem changes_onHttpWrite (client : Client) (failed : Bool) :
    client.Changes (client.onHttpWrite failed) none none := by
  cases failed with
  | true => exact changes_self rfl rfl rfl rfl
  | false => exact changes_pending rfl rfl (Channel.pending_read_subset _) (List.Subset.refl _)

theorem changes_onHttpIdleConnect (client : Client) (failed : Bool) :
    client.Changes (client.onHttpIdleConnect failed) none none := by
  cases failed with
  | true => exact changes_pending rfl rfl (List.Subset.refl _) (Channel.held_connect_subset _)
  | false =>
      refine ⟨rfl, rfl, fun _ member => .inl member, fun request member => ?_⟩
      obtain before | rfl := Channel.mem_held_write member
      · exact .inl before
      · exact .inr ⟨client.heartBit, client.password, rfl⟩

theorem changes_onHttpIdleWrite (client : Client) (failed : Bool) :
    client.Changes (client.onHttpIdleWrite failed) none none := by
  cases failed with
  | true => exact changes_self rfl rfl rfl rfl
  | false => exact changes_pending rfl rfl (List.Subset.refl _) (Channel.held_read_subset _)

theorem changes_onHttpIdleError (client : Client) :
    client.Changes client.onHttpIdleError none none := by
  refine changes_pending rfl rfl (pending_create_connect _) ?_
  show client.httpIdle.create.held ⊆ _
  rw [Channel.held_create]
  exact List.nil_subset _

section Checked

variable {parse : Bytes → Option Json} {reply : HttpReply}

theorem changes_onHttpRead (read : client.onHttpRead parse reply = .ok next) :
    client.Changes next (client.loginId parse reply) none := by
  obtain ⟨none, shown, rfl⟩ | ⟨resp, shown, some, rfl⟩ := onHttpRead_cases read
  · rw [none]
    exact changes_self rfl rfl rfl rfl
  · rw [some]
    refine ⟨rfl, rfl, fun _ member => .inl member, fun request member => .inl ?_⟩
    simp only [loggedIn] at member
    split at member
    · exact member
    · exact Channel.held_connect_subset _ member

theorem changes_onHttpIdleRead (read : client.onHttpIdleRead parse reply = .ok next) :
    client.Changes next none none := by
  obtain rfl | ⟨idleState, shown, rfl⟩ := onHttpIdleRead_cases read
  · exact changes_onHttpIdleError client
  · exact changes_pending rfl rfl (List.Subset.refl _) (Channel.held_read_subset _)

/-- A reply that cannot be read sets no id. -/
theorem loginId_of_error {error : Violation} (read : client.onHttpRead parse reply = .error error) :
    client.loginId parse reply = none := by
  unfold loginId
  split
  next both =>
    split
    next resp parsed =>
      -- a response that can be read is never an error
      have taken : client.onHttpRead parse reply =
          (client.showMsg (bytes "200 OK")).readLogin parse reply.body := by
        rw [onHttpRead, if_neg (not_not.mpr both.1), both.2]
        rfl
      rw [taken, readLogin, parsed] at read
      simp only [bind, Except.bind, List.isEmpty_nil, Bool.not_true, Bool.false_eq_true,
        if_false] at read
      split at read <;> cases read
    next => rfl
  next => rfl

theorem changes_of_handles {event : SessionEvent} (handles : client.Handles parse next event) :
    client.Changes next (client.newId parse event) (client.newPassword event) := by
  cases event with
  | line msg => exact handles ▸ changes_onUserInput client msg
  | opened index => exact handles ▸ changes_self rfl rfl rfl rfl
  | connected index failed => exact handles ▸ changes_onHttpConnect client failed
  | written index failed => exact handles ▸ changes_onHttpWrite client failed
  | reply index reply =>
      obtain read | ⟨error, failed, rfl⟩ := handles
      · exact changes_onHttpRead read
      · simp only [newId, loginId_of_error failed]
        exact changes_self rfl rfl rfl rfl
  | readFailed index =>
      exact handles ▸ changes_pending rfl rfl (pending_create_connect _) (List.Subset.refl _)
  | idleOpened index => exact handles ▸ changes_self rfl rfl rfl rfl
  | idleConnected index failed => exact handles ▸ changes_onHttpIdleConnect client failed
  | idleWritten index failed => exact handles ▸ changes_onHttpIdleWrite client failed
  | idleReply index reply =>
      obtain read | ⟨_, _, rfl⟩ := handles
      · exact changes_onHttpIdleRead read
      · exact changes_self rfl rfl rfl rfl
  | idleReadFailed index => exact handles ▸ changes_onHttpIdleError client

end Checked

end Client

namespace Session

open Client

variable {parse : Bytes → Option Json} {session next : Session} {event : SessionEvent}

/-- What a step does to the login. -/
theorem changes_of_step (stepped : session.stepHttp parse event = some next) :
    session.client.Changes next.client (session.client.newId parse event)
      (session.client.newPassword event) := by
  obtain ⟨http, httpIdle, pending, held, handles⟩ := handles_of_step stepped
  have id : ({ session.client with http, httpIdle } : Client).newId parse event =
      session.client.newId parse event := by
    cases event <;> rfl
  have password : ({ session.client with http, httpIdle } : Client).newPassword event =
      session.client.newPassword event := by
    cases event <;> rfl
  rw [← id, ← password]
  exact (changes_of_handles handles).of_subset rfl rfl pending held

end Session

end GeoChat
