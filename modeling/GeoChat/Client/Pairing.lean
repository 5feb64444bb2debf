import GeoChat.Client.Session

/-!
# Replies and the commands they are read under

One variable holds the command of the last request. The replies of a session are
read under the commands they answer as long as the requests that can still be
answered were all sent under one command.
-/

namespace GeoChat

open Library

/-- The commands that send a request. -/
def InputCmd.sends : InputCmd → Bool
  | .none | .unchat | .quit | .help | .chatWithUser | .historyGroup | .statusGroup => false
  | _ => true

namespace Client

/-- The command under which a line of the user is sent. -/
def lineCmd (client : Client) (msg : Bytes) : Option InputCmd :=
  let args := Input.parse msg
  if client.chats msg args then some .directMsgUser
  else if args.cmd.sends then some args.cmd
  else none

/-- The command of the request that the handler of an event sends. -/
def sentCmd (client : Client) : SessionEvent → Option InputCmd
  | .line msg => client.lineCmd msg
  | .connected _ false =>
      if client.hasCredentials then some .login else none
  | _ => none

/-- What a step does to the last command and to the requests that can still be
answered. -/
def Asks (client next : Client) : Option InputCmd → Prop
  | none => next.lastCmd = client.lastCmd ∧ next.http.pending ⊆ client.http.pending
  | some cmd => next.lastCmd = cmd ∧
      ∀ asked ∈ next.http.pending, asked ∈ client.http.pending ∨ asked.cmd = cmd

/-- The requests that can still be answered carry the last command. -/
def Paired (client : Client) : Prop := ∀ asked ∈ client.http.pending, asked.cmd = client.lastCmd

variable {client next : Client}

theorem asks_sendRequest (client : Client) (cmd : InputCmd) (request : ApiRequest) :
    client.Asks (client.sendRequest cmd request) (some cmd) := by
  refine ⟨rfl, fun asked member => ?_⟩
  obtain before | rfl := Channel.mem_pending_write member
  · exact .inl before
  · exact .inr rfl

theorem asks_self (lastCmd : next.lastCmd = client.lastCmd) (http : next.http = client.http) :
    client.Asks next none :=
  ⟨lastCmd, fun _ member => http ▸ member⟩

theorem Asks.of_subset {middle : Client} {sent : Option InputCmd} (asks : middle.Asks next sent)
    (lastCmd : middle.lastCmd = client.lastCmd)
    (smaller : middle.http.pending ⊆ client.http.pending) : client.Asks next sent := by
  cases sent with
  | none => exact ⟨asks.1.trans lastCmd, fun _ member => smaller (asks.2 member)⟩
  | some cmd => exact ⟨asks.1, fun asked member => (asks.2 asked member).imp_left (smaller ·)⟩

theorem asks_onCommand (client : Client) (args : Args) :
    client.Asks (client.onCommand args) (if args.cmd.sends then some args.cmd else none) := by
  unfold onCommand
  cases args.cmd with
  | none | unchat | quit | help | chatWithUser | historyGroup | statusGroup =>
      exact asks_self rfl rfl
  | login | registerUser | registerGroup | getLocations | chatWithLocation | addToGroup
  | historyUser | directMsgUser | directMsgGroup | statusUser =>
      exact asks_sendRequest client _ _

theorem asks_onUserInput (client : Client) (msg : Bytes) :
    client.Asks (client.onUserInput msg) (client.lineCmd msg) := by
  unfold onUserInput lineCmd
  by_cases chatting : client.chats msg (Input.parse msg) = true
  · simp only [if_pos chatting]
    exact asks_sendRequest client _ _
  · simp only [if_neg chatting]
    exact asks_onCommand client _

theorem asks_onHttpConnect (client : Client) (index : Nat) (failed : Bool) :
    client.Asks (client.onHttpConnect failed) (client.sentCmd (.connected index failed)) := by
  cases failed with
  | true => exact ⟨rfl, Channel.pending_connect_subset _⟩
  | false =>
      simp only [onHttpConnect, sentCmd, Bool.false_eq_true, if_false]
      split
      next => exact asks_sendRequest _ _ _
      next => exact asks_self rfl rfl

theorem asks_onHttpWrite (client : Client) (failed : Bool) :
    client.Asks (client.onHttpWrite failed) none := by
  cases failed with
  | true => exact asks_self rfl rfl
  | false => exact ⟨rfl, Channel.pending_read_subset _⟩

theorem pending_create_connect (channel : Channel Asked) :
    channel.create.connect.pending ⊆ channel.pending := fun _ member =>
  Channel.pending_create_subset _ (Channel.pending_connect_subset _ member)

section Checked

variable {parse : Bytes → Option Json}

theorem asks_onHttpRead {reply : HttpReply} (read : client.onHttpRead parse reply = .ok next) :
    client.Asks next none := by
  obtain ⟨-, shown, rfl⟩ | ⟨resp, shown, -, rfl⟩ := onHttpRead_cases read
  · exact asks_self rfl rfl
  · exact asks_self rfl rfl

theorem asks_onHttpIdleRead {reply : HttpReply}
    (read : client.onHttpIdleRead parse reply = .ok next) : client.Asks next none := by
  obtain rfl | ⟨idleState, shown, rfl⟩ := onHttpIdleRead_cases read
  · exact ⟨rfl, pending_create_connect _⟩
  · exact asks_self rfl rfl

/-- A handler asks at most the request that `sentCmd` names. -/
theorem asks_of_handles {event : SessionEvent} (handles : client.Handles parse next event) :
    client.Asks next (client.sentCmd event) := by
  cases event with
  | line msg => exact handles ▸ asks_onUserInput client msg
  | opened index => exact handles ▸ asks_self rfl rfl
  | connected index failed => exact handles ▸ asks_onHttpConnect client index failed
  | written index failed => exact handles ▸ asks_onHttpWrite client failed
  | reply index reply =>
      obtain read | ⟨_, _, rfl⟩ := handles
      · exact asks_onHttpRead read
      · exact asks_self rfl rfl
  | readFailed index => exact handles ▸ ⟨rfl, pending_create_connect _⟩
  | idleOpened index => exact handles ▸ asks_self rfl rfl
  | idleConnected index failed =>
      cases handles
      cases failed <;> exact asks_self rfl rfl
  | idleWritten index failed =>
      cases handles
      cases failed <;> exact asks_self rfl rfl
  | idleReply index reply =>
      obtain read | ⟨_, _, rfl⟩ := handles
      · exact asks_onHttpIdleRead read
      · exact asks_self rfl rfl
  | idleReadFailed index => exact handles ▸ ⟨rfl, pending_create_connect _⟩

end Checked

end Client

namespace Session

open Client

variable {parse : Bytes → Option Json} {session next : Session} {event : SessionEvent}

/-- Every event asks at most the request that `sentCmd` names. -/
theorem asks_of_step (stepped : session.stepHttp parse event = some next) :
    session.client.Asks next.client (session.client.sentCmd event) := by
  obtain ⟨http, httpIdle, pending, -, handles⟩ := handles_of_step stepped
  have sent : ({ session.client with http, httpIdle } : Client).sentCmd event =
      session.client.sentCmd event := rfl
  exact (sent ▸ asks_of_handles handles).of_subset rfl pending

/-- A request is sent only while each request that can still be answered was
sent under the same command. -/
def oneCommand (session : Session) (event : SessionEvent) : Bool :=
  match session.client.sentCmd event with
  | none => true
  | some cmd => session.client.http.pending.all fun asked => asked.cmd = cmd

theorem paired_step (paired : session.client.Paired) (admitted : session.oneCommand event = true)
    (stepped : session.stepHttp parse event = some next) : next.client.Paired := by
  have asks := asks_of_step stepped
  unfold oneCommand at admitted
  intro asked member
  cases sent : session.client.sentCmd event with
  | none =>
      rw [sent] at asks
      rw [asks.1]
      exact paired asked (asks.2 member)
  | some cmd =>
      rw [sent] at asks
      simp only [sent, List.all_eq_true, decide_eq_true_eq] at admitted
      rw [asks.1]
      exact (asks.2 asked member).elim (admitted asked) id

/-- Only a reply is noted, and it was asked on a pending request. -/
theorem interpreted_of_step (stepped : session.stepHttp parse event = some next) :
    next.interpreted = session.interpreted ∨ ∃ asked ∈ session.client.http.pending,
      next.interpreted = session.interpreted ++ [⟨asked.cmd, session.client.lastCmd⟩] := by
  have checked : ∀ (middle : Session) (handler : Client → Checked Client),
      (middle.handleChecked handler).interpreted = middle.interpreted := by
    intro middle handler
    unfold handleChecked
    split <;> rfl
  cases event with
  | line msg =>
      cases stepped
      exact .inl rfl
  | reply index reply =>
      obtain ⟨⟨asked, http⟩, ended, rfl⟩ := Option.map_eq_some_iff.mp stepped
      rw [checked]
      unfold note
      split
      next => exact .inr ⟨asked, (Channel.answered_pending ended).1, rfl⟩
      next => exact .inl rfl
  | idleReply index reply =>
      obtain ⟨httpIdle, _, rfl⟩ := Option.map_eq_some_iff.mp stepped
      exact .inl (checked _ _)
  | _ =>
      obtain ⟨_, _, rfl⟩ := Option.map_eq_some_iff.mp stepped
      exact .inl rfl

/-- What a session keeps while it holds to one command. -/
structure Reading (session : Session) : Prop where
  paired : session.client.Paired
  interpreted : ∀ entry ∈ session.interpreted, entry.under = entry.asked

theorem Reading.step (reading : session.Reading) (admitted : session.oneCommand event = true)
    (stepped : (system parse).step session event = some next) : next.Reading := by
  simp only [system] at stepped
  split at stepped
  next => cases stepped
  next =>
    refine ⟨paired_step reading.paired admitted stepped, ?_⟩
    obtain same | ⟨asked, member, same⟩ := interpreted_of_step stepped
    · rw [same]
      exact reading.interpreted
    · intro entry noted
      rw [same] at noted
      obtain before | new := List.mem_append.mp noted
      · exact reading.interpreted entry before
      · rw [List.mem_singleton.mp new]
        exact (reading.paired asked member).symm

end Session

open Session in
/-- In every session that holds to one command, each reply of status 200 was
interpreted under the command of the request it answers. -/
theorem replies_paired (parse : Bytes → Option Json) (host : Bytes) (port : Int)
    (user password : Bytes) (session : Session)
    (reached : (system parse).ReachesWithin (fun session event => session.oneCommand event = true)
      (started host port user password) session) :
    ∀ entry ∈ session.interpreted, entry.under = entry.asked := by
  have reading : session.Reading := by
    apply reached.invariant Reading
    · have quiet : (started host port user password).client.http.pending = [] := rfl
      exact ⟨fun asked member => absurd (quiet ▸ member) List.not_mem_nil,
        fun entry member => absurd member List.not_mem_nil⟩
    · intro state event next held admitted stepped
      exact held.step admitted stepped
  exact reading.interpreted

namespace Session

/-- The parser at the body of a reply to a login. -/
def parseLoginBody (text : Bytes) : Option Json :=
  if text = bytes "\x7b\"id\":1,\"chatid\":1,\"heartbit\":5\x7d" then
    some (.object [(bytes "id", .int 1), (bytes "chatid", .int 1), (bytes "heartbit", .int 5)])
  else none

def loginReply : HttpReply :=
  { status := 200, body := bytes "\x7b\"id\":1,\"chatid\":1,\"heartbit\":5\x7d" }

def connecting : List SessionEvent := [.opened 0, .connected 0 false]

def loginLine : List SessionEvent := [.line (bytes "login alice secret_pass"), .written 0 false]

def historyLine : List SessionEvent := [.line (bytes "history bob"), .written 0 false]

end Session

open Session in
/-- The reply to the login comes after the next line was sent. -/
theorem reply_misread :
    ∃ session, (system parseLoginBody).run
        (connecting ++ loginLine ++ historyLine ++ [.reply 0 loginReply])
        (started (bytes "localhost") 7788 [] []) = some session ∧
      ¬ ∀ entry ∈ session.interpreted, entry.under = entry.asked := by
  have shape : ((system parseLoginBody).run
        (connecting ++ loginLine ++ historyLine ++ [.reply 0 loginReply])
        (started (bytes "localhost") 7788 [] [])).map (fun session => session.interpreted) =
      some [⟨.login, .historyUser⟩] := by
    decide +kernel
  obtain ⟨session, replayed, noted⟩ := Option.map_eq_some_iff.mp shape
  refine ⟨session, replayed, fun paired => ?_⟩
  rw [noted] at paired
  cases paired _ List.mem_cons_self

open Session in
theorem replies_paired_login :
    ∃ session, (system parseLoginBody).runWithin
        (fun session event => session.oneCommand event = true)
        (connecting ++ loginLine ++ [.reply 0 loginReply] ++ historyLine)
        (started (bytes "localhost") 7788 [] []) = some session ∧
      session.interpreted = [⟨.login, .login⟩] ∧
      ∀ entry ∈ session.interpreted, entry.under = entry.asked := by
  have shape : ((system parseLoginBody).runWithin
        (fun session event => session.oneCommand event = true)
        (connecting ++ loginLine ++ [.reply 0 loginReply] ++ historyLine)
        (started (bytes "localhost") 7788 [] [])).map (fun session => session.interpreted) =
      some [⟨.login, .login⟩] := by
    decide +kernel
  obtain ⟨session, replayed, noted⟩ := Option.map_eq_some_iff.mp shape
  exact ⟨session, replayed, noted, replies_paired parseLoginBody _ _ _ _ session
    (System.reachesWithin_of_run replayed)⟩

end GeoChat
