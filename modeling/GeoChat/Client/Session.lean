import GeoChat.Client.Client
import GeoChat.Library.System

/-!
# A session of the client

The system around one `Client`: lines of the user, and the ends of the
operations on its connections, in any order. A server answers the requests of a
link in the order in which they were written. The parser of rapidjson is a
parameter.
-/

namespace GeoChat

open Library

/-- A reply of status 200: the command of the request it answers, and the
command it was interpreted under. -/
structure Interpretation where
  asked : InputCmd
  under : InputCmd
  deriving DecidableEq, Repr

structure Session where
  client : Client
  interpreted : List Interpretation := []
  /-- An assertion was violated. -/
  aborted : Bool := false
  deriving DecidableEq, Repr

/-- The index is that of the link. -/
inductive SessionEvent where
  | line (msg : Bytes)
  | opened (index : Nat)
  | connected (index : Nat) (failed : Bool)
  | written (index : Nat) (failed : Bool)
  | reply (index : Nat) (reply : HttpReply)
  | readFailed (index : Nat)
  | idleOpened (index : Nat)
  | idleConnected (index : Nat) (failed : Bool)
  | idleWritten (index : Nat) (failed : Bool)
  | idleReply (index : Nat) (reply : HttpReply)
  | idleReadFailed (index : Nat)
  deriving DecidableEq, Repr

namespace Session

def started (host : Bytes) (port : Int) (user password : Bytes) : Session :=
  { client := .started host port user password }

def setHttp (session : Session) (http : Channel Asked) : Session :=
  { session with client := { session.client with http } }

def setHttpIdle (session : Session) (httpIdle : Channel ApiRequest) : Session :=
  { session with client := { session.client with httpIdle } }

/-- Run a handler that cannot abort. -/
def handle (session : Session) (handler : Client → Client) : Session :=
  { session with client := handler session.client }

/-- Run a handler that may abort. -/
def handleChecked (session : Session) (handler : Client → Checked Client) : Session :=
  match handler session.client with
  | .ok client => { session with client }
  | .error _ => { session with aborted := true }

/-- Note how a reply to a request is interpreted. -/
def note (session : Session) (asked : Asked) (reply : HttpReply) : Session :=
  if reply.status = 200 then
    { session with
      interpreted := session.interpreted ++ [⟨asked.cmd, session.client.lastCmd⟩] }
  else session

section Steps

variable (parse : Bytes → Option Json)

def stepHttp (session : Session) : SessionEvent → Option Session
  | .line msg => some (session.handle (·.onUserInput msg))
  | .opened index => (session.client.http.opened index).map session.setHttp
  | .connected index failed =>
      (session.client.http.connected index failed).map fun http =>
        (session.setHttp http).handle (·.onHttpConnect failed)
  | .written index failed =>
      (session.client.http.written index failed).map fun http =>
        (session.setHttp http).handle (·.onHttpWrite failed)
  | .reply index reply =>
      (session.client.http.answered index).map fun (asked, http) =>
        ((session.setHttp http).note asked reply).handleChecked (·.onHttpRead parse reply)
  | .readFailed index =>
      (session.client.http.readEnds index).map fun http =>
        (session.setHttp http).handle (·.onHttpReadError)
  | .idleOpened index => (session.client.httpIdle.opened index).map session.setHttpIdle
  | .idleConnected index failed =>
      (session.client.httpIdle.connected index failed).map fun httpIdle =>
        (session.setHttpIdle httpIdle).handle (·.onHttpIdleConnect failed)
  | .idleWritten index failed =>
      (session.client.httpIdle.written index failed).map fun httpIdle =>
        (session.setHttpIdle httpIdle).handle (·.onHttpIdleWrite failed)
  | .idleReply index reply =>
      (session.client.httpIdle.readEnds index).map fun httpIdle =>
        (session.setHttpIdle httpIdle).handleChecked (·.onHttpIdleRead parse reply)
  | .idleReadFailed index =>
      (session.client.httpIdle.readEnds index).map fun httpIdle =>
        (session.setHttpIdle httpIdle).handle (·.onHttpIdleError)

/-- An aborted process takes no further step. Each handler is one step: in the
source those of the lines run on the thread of the events and those of the links
on the I/O thread, over the same members and without a lock, and what they do
while they overlap is left out. -/
def system : System Session SessionEvent where
  step session event := if session.aborted then none else session.stepHttp parse event

end Steps

end Session

/-- What the handler of an event makes of the client. An event that has no handler
leaves the client as it is, and so does a handler that aborts. -/
def Client.Handles (parse : Bytes → Option Json) (client next : Client) : SessionEvent → Prop
  | .line msg => next = client.onUserInput msg
  | .opened _ => next = client
  | .connected _ failed => next = client.onHttpConnect failed
  | .written _ failed => next = client.onHttpWrite failed
  | .reply _ reply =>
      client.onHttpRead parse reply = .ok next ∨
        ∃ error, client.onHttpRead parse reply = .error error ∧ next = client
  | .readFailed _ => next = client.onHttpReadError
  | .idleOpened _ => next = client
  | .idleConnected _ failed => next = client.onHttpIdleConnect failed
  | .idleWritten _ failed => next = client.onHttpIdleWrite failed
  | .idleReply _ reply =>
      client.onHttpIdleRead parse reply = .ok next ∨
        ∃ error, client.onHttpIdleRead parse reply = .error error ∧ next = client
  | .idleReadFailed _ => next = client.onHttpIdleError

namespace Session

variable {parse : Bytes → Option Json} {session next : Session} {event : SessionEvent}

theorem handleChecked_cases (session : Session) (handler : Client → Checked Client) :
    handler session.client = .ok (session.handleChecked handler).client ∨
      ∃ error, handler session.client = .error error ∧
        (session.handleChecked handler).client = session.client := by
  unfold handleChecked
  split
  next handled => exact .inl handled
  next error failed => exact .inr ⟨error, failed, rfl⟩

@[simp]
theorem note_client (session : Session) (asked : Asked) (reply : HttpReply) :
    (session.note asked reply).client = session.client := by
  unfold note
  split <;> rfl

/-- A step ends at most one operation of a connection and runs the handler. -/
theorem handles_of_step (stepped : session.stepHttp parse event = some next) :
    ∃ http httpIdle, http.pending ⊆ session.client.http.pending ∧
      httpIdle.held ⊆ session.client.httpIdle.held ∧
      Client.Handles parse { session.client with http, httpIdle } next.client event := by
  have idle : session.client.httpIdle.held ⊆ session.client.httpIdle.held := List.Subset.refl _
  have usual : session.client.http.pending ⊆ session.client.http.pending := List.Subset.refl _
  cases event with
  | line msg =>
      cases stepped
      exact ⟨_, _, usual, idle, rfl⟩
  | opened index =>
      obtain ⟨http, ended, rfl⟩ := Option.map_eq_some_iff.mp stepped
      exact ⟨http, _, Channel.pending_opened_subset ended, idle, rfl⟩
  | connected index failed =>
      obtain ⟨http, ended, rfl⟩ := Option.map_eq_some_iff.mp stepped
      exact ⟨http, _, Channel.pending_connected_subset ended, idle, rfl⟩
  | written index failed =>
      obtain ⟨http, ended, rfl⟩ := Option.map_eq_some_iff.mp stepped
      exact ⟨http, _, Channel.pending_written_subset ended, idle, rfl⟩
  | reply index reply =>
      obtain ⟨⟨asked, http⟩, ended, rfl⟩ := Option.map_eq_some_iff.mp stepped
      have handled := handleChecked_cases ((session.setHttp http).note asked reply)
        (·.onHttpRead parse reply)
      rw [note_client] at handled
      exact ⟨http, _, (Channel.answered_pending ended).2, idle, handled⟩
  | readFailed index =>
      obtain ⟨http, ended, rfl⟩ := Option.map_eq_some_iff.mp stepped
      exact ⟨http, _, Channel.pending_readEnds_subset ended, idle, rfl⟩
  | idleOpened index =>
      obtain ⟨httpIdle, ended, rfl⟩ := Option.map_eq_some_iff.mp stepped
      exact ⟨_, httpIdle, usual, Channel.held_opened_subset ended, rfl⟩
  | idleConnected index failed =>
      obtain ⟨httpIdle, ended, rfl⟩ := Option.map_eq_some_iff.mp stepped
      exact ⟨_, httpIdle, usual, Channel.held_connected_subset ended, rfl⟩
  | idleWritten index failed =>
      obtain ⟨httpIdle, ended, rfl⟩ := Option.map_eq_some_iff.mp stepped
      exact ⟨_, httpIdle, usual, Channel.held_written_subset ended, rfl⟩
  | idleReply index reply =>
      obtain ⟨httpIdle, ended, rfl⟩ := Option.map_eq_some_iff.mp stepped
      have handled := handleChecked_cases (session.setHttpIdle httpIdle)
        (·.onHttpIdleRead parse reply)
      exact ⟨_, httpIdle, usual, Channel.held_readEnds_subset ended, handled⟩
  | idleReadFailed index =>
      obtain ⟨httpIdle, ended, rfl⟩ := Option.map_eq_some_iff.mp stepped
      exact ⟨_, httpIdle, usual, Channel.held_readEnds_subset ended, rfl⟩

end Session

end GeoChat
