import GeoChat.Client.Changes

/-!
# The credentials of the client

A line changes the password when the login is sent, the reply changes the id
when it is answered. Both belong to one login as long as no other password is
tried while a user is logged in, and no reply to another request is taken for
that to a login.
-/

namespace GeoChat

open Library

/-- The login that a reply of status 200 answers: the id that the server
returned, and the password that was sent. -/
def Session.answeredLogin (parse : Bytes → Option Json) (session : Session) :
    SessionEvent → Option (Nat × Bytes)
  | .reply index reply =>
      match session.client.http.answered index, CliUtils.parseResponseAswer parse reply.body with
      | some (⟨_, .userLogin _ password⟩, _), .ok ([], resp) =>
          if reply.status = 200 then some (resp.uid, password) else none
      | _, _ => none
  | _ => none

/-- A session, and the logins that were answered in it. -/
structure Tracked where
  session : Session
  logins : List (Nat × Bytes) := []
  deriving DecidableEq, Repr

/-- The id and the password are those of one answered login. -/
def Tracked.Coherent (tracked : Tracked) : Prop :=
  tracked.session.client.selfId ≠ 0 →
    (tracked.session.client.selfId, tracked.session.client.password) ∈ tracked.logins

namespace Session

/-- Every reply arrives before the next line is handled. -/
def repliesFirst (session : Session) : SessionEvent → Bool
  | .line _ => session.client.http.pending.isEmpty
  | _ => true

/-- No login with another password is sent while a user is logged in. -/
def keepsPassword (session : Session) (event : SessionEvent) : Bool :=
  match session.client.newPassword event with
  | none => true
  | some password => session.client.selfId = 0 || password = session.client.password

section Steps

variable (parse : Bytes → Option Json)

/-- No reply to another request gives the user another id. -/
def readsLogins (session : Session) : SessionEvent → Bool
  | .reply index reply =>
      match session.client.http.answered index, session.client.loginId parse reply with
      | some (asked, _), some id =>
          asked.cmd = .login || id = 0 || id = session.client.selfId
      | _, _ => true
  | _ => true

/-- The session with its answered logins. -/
def tracked : System Tracked SessionEvent where
  step state event :=
    ((system parse).step state.session event).map fun session =>
      { session, logins := state.logins ++ (state.session.answeredLogin parse event).toList }

end Steps

open Client

variable {parse : Bytes → Option Json} {session next : Session} {event : SessionEvent}

/-- An answer that sets an id, to a login that carries the password of the client. -/
theorem answeredLogin_of_reply {index : Nat} {reply : HttpReply} {asked : Asked}
    {http : Channel Asked} {id : Nat}
    (ended : session.client.http.answered index = some (asked, http))
    (read : session.client.loginId parse reply = some id) (login : asked.cmd = .login)
    (sent : session.client.LogsIn asked) :
    session.answeredLogin parse (.reply index reply) = some (id, session.client.password) := by
  obtain ⟨user, request⟩ := sent login
  obtain ⟨cmd, _⟩ := asked
  cases request
  unfold loginId at read
  split at read
  next both =>
    split at read
    next resp parsed =>
      cases read
      simp only [answeredLogin, ended, parsed, if_pos both.1]
    next => cases read
  next => cases read

/-- What a session keeps under the conditions. -/
structure Trusted (state : Tracked) : Prop where
  logins : ∀ asked ∈ state.session.client.http.pending, state.session.client.LogsIn asked
  coherent : state.Coherent

/-- A step that sets no password. -/
theorem Trusted.keep {state : Tracked} (trusted : Trusted state)
    (reads : state.session.readsLogins parse event = true)
    (unchanged : state.session.client.newPassword event = none)
    (stepped : state.session.stepHttp parse event = some next) :
    Trusted ⟨next, state.logins ++ (state.session.answeredLogin parse event).toList⟩ := by
  have changes := changes_of_step stepped
  have password : next.client.password = state.session.client.password := by
    rw [changes.password, unchanged]
    rfl
  constructor
  · intro asked member
    obtain before | new := changes.logins asked member
    · have sent := trusted.logins asked before
      unfold LogsIn at sent ⊢
      rwa [← password] at sent
    · exact new
  · unfold Tracked.Coherent
    simp only [changes.selfId, password]
    intro known
    cases read : state.session.client.newId parse event with
    | none =>
        rw [read] at known
        exact List.mem_append_left _ (trusted.coherent known)
    | some id =>
        cases event with
        | reply index reply =>
            obtain ⟨⟨asked, http⟩, ended, -⟩ := Option.map_eq_some_iff.mp stepped
            have given : state.session.client.loginId parse reply = some id := read
            simp only [readsLogins, ended, given, Bool.or_eq_true, decide_eq_true_eq] at reads
            rw [read] at known
            obtain (login | zero) | same := reads
            · have sent := trusted.logins asked (Channel.answered_pending ended).1
              rw [answeredLogin_of_reply ended given login sent]
              exact List.mem_append_right _ (List.mem_singleton_self _)
            · exact absurd zero known
            · subst same
              exact List.mem_append_left _ (trusted.coherent known)
        | _ => cases read

/-- A line that sets a password. -/
theorem Trusted.login {state : Tracked} {msg password : Bytes} (trusted : Trusted state)
    (first : state.session.repliesFirst (.line msg) = true)
    (keeps : state.session.keepsPassword (.line msg) = true)
    (set : state.session.client.newPassword (.line msg) = some password)
    (stepped : state.session.stepHttp parse (.line msg) = some next) :
    Trusted ⟨next, state.logins⟩ := by
  have changes := changes_of_step stepped
  constructor
  · intro asked member
    obtain before | new := changes.logins asked member
    · rw [List.isEmpty_iff.mp first] at before
      exact absurd before List.not_mem_nil
    · exact new
  · unfold Tracked.Coherent
    simp only [changes.selfId, changes.password, set]
    intro known
    simp only [keepsPassword, set, Bool.or_eq_true, decide_eq_true_eq] at keeps
    obtain loggedOut | same := keeps
    · exact absurd loggedOut known
    · subst same
      exact trusted.coherent known

theorem Trusted.step {state later : Tracked} (trusted : Trusted state)
    (first : state.session.repliesFirst event = true)
    (keeps : state.session.keepsPassword event = true)
    (reads : state.session.readsLogins parse event = true)
    (stepped : (tracked parse).step state event = some later) : Trusted later := by
  obtain ⟨next, moved, rfl⟩ := Option.map_eq_some_iff.mp stepped
  simp only [system] at moved
  split at moved
  next => cases moved
  next =>
    cases set : state.session.client.newPassword event with
    | none => exact trusted.keep reads set moved
    | some password =>
        cases event with
        | line msg =>
            have none : state.session.answeredLogin parse (.line msg) = .none := rfl
            rw [none, Option.toList_none, List.append_nil]
            exact trusted.login first keeps set moved
        | _ => cases set

end Session

open Session in
/-- In every session in which each reply arrives before the next line, in which no
other password is tried while a user is logged in and in which no reply to another
request sets another id, the id and the password are those of one answered login. -/
theorem credentials_coherent (parse : Bytes → Option Json) (host : Bytes) (port : Int)
    (user password : Bytes) (state : Tracked)
    (reached : (tracked parse).ReachesWithin (fun state event =>
        (state.session.repliesFirst event && state.session.keepsPassword event &&
          state.session.readsLogins parse event) = true)
      ⟨started host port user password, []⟩ state) : state.Coherent := by
  have trusted : Trusted state := by
    apply reached.invariant Trusted
    · have quiet : (started host port user password).client.http.pending = [] := rfl
      exact ⟨fun asked member => absurd (quiet ▸ member) List.not_mem_nil,
        fun known => absurd rfl known⟩
    · intro state event later held admitted stepped
      simp only [Bool.and_eq_true] at admitted
      exact held.step admitted.1.1 admitted.1.2 admitted.2 stepped
  exact trusted.coherent

open Session in
theorem credentials_coherent_login :
    ∃ state, (tracked parseLoginBody).runWithin (fun state event =>
          (state.session.repliesFirst event && state.session.keepsPassword event &&
            state.session.readsLogins parseLoginBody event) = true)
        (connecting ++ loginLine ++ [.reply 0 loginReply] ++ historyLine)
        ⟨started (bytes "localhost") 7788 [] [], []⟩ = some state ∧
      state.session.client.selfId = 1 ∧
      state.session.client.password = bytes "secret_pass" ∧
      (1, bytes "secret_pass") ∈ state.logins := by
  have shape : ((tracked parseLoginBody).runWithin (fun state event =>
          (state.session.repliesFirst event && state.session.keepsPassword event &&
            state.session.readsLogins parseLoginBody event) = true)
        (connecting ++ loginLine ++ [.reply 0 loginReply] ++ historyLine)
        ⟨started (bytes "localhost") 7788 [] [], []⟩).map (fun state : Tracked =>
          (state.session.client.selfId, state.session.client.password)) =
      some (1, bytes "secret_pass") := by
    decide +kernel
  obtain ⟨state, replayed, same⟩ := Option.map_eq_some_iff.mp shape
  simp only [Prod.mk.injEq] at same
  have coherent := credentials_coherent parseLoginBody _ _ _ _ state
    (System.reachesWithin_of_run replayed)
  unfold Tracked.Coherent at coherent
  rw [same.1, same.2] at coherent
  exact ⟨state, replayed, same.1, same.2, coherent (by decide)⟩

namespace Session

/-- A login with a password that the server refuses. -/
def refusedLogin : List SessionEvent :=
  [.line (bytes "login alice another_pass"), .written 0 false,
    .reply 0 { status := 403, body := bytes "wrong password" }]

end Session

open Session in
/-- After a login with a wrong password the id is still that of the login before. -/
theorem credentials_mixed :
    ∃ state, (tracked parseLoginBody).runWithin
        (fun state event => state.session.repliesFirst event = true)
        (connecting ++ loginLine ++ [.reply 0 loginReply] ++ refusedLogin)
        ⟨started (bytes "localhost") 7788 [] [], []⟩ = some state ∧
      state.session.client.http.pending = [] ∧ state.session.client.selfId = 1 ∧
      state.session.client.password = bytes "another_pass" ∧
      state.logins = [(1, bytes "secret_pass")] ∧ ¬ state.Coherent := by
  have shape : ((tracked parseLoginBody).runWithin
        (fun state event => state.session.repliesFirst event = true)
        (connecting ++ loginLine ++ [.reply 0 loginReply] ++ refusedLogin)
        ⟨started (bytes "localhost") 7788 [] [], []⟩).map (fun state : Tracked =>
          (state.session.client.http.pending.isEmpty, state.session.client.selfId,
            state.session.client.password, state.logins)) =
      some (true, 1, bytes "another_pass", [(1, bytes "secret_pass")]) := by
    decide +kernel
  obtain ⟨state, replayed, same⟩ := Option.map_eq_some_iff.mp shape
  simp only [Prod.mk.injEq] at same
  obtain ⟨pending, selfId, password, logins⟩ := same
  refine ⟨state, replayed, List.isEmpty_iff.mp pending, selfId, password, logins, ?_⟩
  intro coherent
  unfold Tracked.Coherent at coherent
  rw [selfId, password, logins] at coherent
  exact absurd (coherent (by decide)) (by decide)

end GeoChat
