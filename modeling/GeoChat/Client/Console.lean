import GeoChat.Common.Queue
import GeoChat.Client.Session

/-!
# The console

One thread reads lines from the user and puts them into the queue of
`EventsWorker`, the one thread of which gives them to `Client::onUserInput`,
while the replies of the server arrive. The events of `event_worker.cpp` and
the loop of `ConsoleUi::pollingUserInput`.
-/

namespace GeoChat

open Library

/-- `event::type_t`. -/
inductive EventType where
  | none
  | peer
  | interface
  deriving DecidableEq, Repr

/-- `Event`. Its fields `from` and `to` are `sender` and `recipient`. -/
structure Event where
  type : EventType := .none
  sender : Bytes := []
  recipient : Bytes := []
  msg : Bytes := []
  deriving DecidableEq, Repr

/-- One turn of `pollingUserInput`: the event for a line, if it is not blank. -/
def ConsoleUi.polled (line : Bytes) : Option Event :=
  let msg := Utils.trimmed line
  if msg.isEmpty then none else some ⟨.interface, bytes "dummy", bytes "dummy", msg⟩

/-- The queue of the events, and the rest of the client. -/
structure Console where
  queue : Queue Event := {}
  session : Session
  needStop : Bool := false
  deriving DecidableEq, Repr

/-- A line is typed, the thread of the events takes a turn, the process is told
to stop, or something happens on a connection. -/
inductive ConsoleEvent where
  | typed (line : Bytes)
  | turn
  | stop
  | network (event : SessionEvent)
  deriving DecidableEq, Repr

/-- The lines that an event of the session hands to `onUserInput`. -/
def SessionEvent.lines : SessionEvent → List Bytes
  | .line msg => [msg]
  | _ => []

namespace Console

variable (parse : Bytes → Option Json)

/-- One turn of `EventsWorker::processQueue`. -/
def processQueue (console : Console) : Option Console :=
  match console.queue.getTask with
  | none => some console
  | some (event, queue) =>
      match event.type with
      | .interface =>
          ((Session.system parse).step console.session (.line event.msg)).map fun session =>
            { console with queue, session }
      | _ => some { console with queue }

/-- Lines reach the client through the queue only. An aborted process takes no
further step. -/
def system : System Console ConsoleEvent where
  step console
    | .typed line =>
        if console.needStop || console.session.aborted then none
        else some (match ConsoleUi.polled line with
          | none => console
          | some event => { console with queue := console.queue.push event })
    | .turn =>
        if console.needStop || console.session.aborted then none else console.processQueue parse
    | .stop => some { console with needStop := true }
    | .network event =>
        if event.lines.isEmpty then
          ((Session.system parse).step console.session event).map fun session =>
            { console with session }
        else none

/-- The lines that an event makes ready for the client. -/
def typedLines : ConsoleEvent → List Bytes
  | .typed line => (ConsoleUi.polled line).toList.map (·.msg)
  | _ => []

/-- What an event does on a connection. -/
def networkEvents : ConsoleEvent → List SessionEvent
  | .network event => [event]
  | _ => []

variable {parse} {console next : Console}

/-- Nothing but lines is in the queue. -/
def OnlyLines (console : Console) : Prop :=
  ∀ event ∈ console.queue.items, event.type = .interface

/-- What an event is to the session: the event on a connection, the oldest line
in the queue, or nothing. -/
theorem step_session (only : console.OnlyLines) {event : ConsoleEvent}
    (stepped : (system parse).step console event = some next) :
    ∃ steps, (Session.system parse).run steps console.session = some next.session ∧
      steps.flatMap SessionEvent.lines ++ next.queue.items.map (·.msg) =
        console.queue.items.map (·.msg) ++ typedLines event ∧
      steps.filter (fun step => step.lines.isEmpty) = networkEvents event ∧
      next.OnlyLines := by
  cases event with
  | typed line =>
      simp only [system] at stepped
      split at stepped
      next => cases stepped
      next =>
        cases shown : ConsoleUi.polled line with
        | none =>
            rw [shown] at stepped
            cases stepped
            exact ⟨[], rfl, by simp [typedLines, shown], rfl, only⟩
        | some event =>
            rw [shown] at stepped
            cases stepped
            refine ⟨[], rfl, by simp [typedLines, shown, Queue.push], rfl, ?_⟩
            intro other member
            rcases List.mem_append.mp member with old | new
            · exact only other old
            · unfold ConsoleUi.polled at shown
              simp only at shown
              split at shown
              next => cases shown
              next => rw [List.mem_singleton.mp new, ← Option.some.inj shown]
  | turn =>
      simp only [system] at stepped
      split at stepped
      next => cases stepped
      next =>
        unfold processQueue at stepped
        cases taken : console.queue.getTask with
        | none =>
            rw [taken] at stepped
            cases stepped
            exact ⟨[], rfl, by simp [typedLines], rfl, only⟩
        | some pair =>
            obtain ⟨event, rest⟩ := pair
            have items : console.queue.items = event :: rest.items :=
              Queue.fifo.contents_of_some taken
            have isLine : event.type = .interface := only event (items ▸ List.mem_cons_self)
            simp only [taken, isLine, Option.map_eq_some_iff] at stepped
            obtain ⟨session, handled, rfl⟩ := stepped
            refine ⟨[.line event.msg], System.run_singleton handled, ?_, rfl, ?_⟩
            · rw [items]
              simp [SessionEvent.lines, typedLines]
            · exact fun other member => only other (items ▸ List.mem_cons_of_mem _ member)
  | stop =>
      cases stepped
      exact ⟨[], rfl, by simp [typedLines], rfl, only⟩
  | network event =>
      simp only [system] at stepped
      split at stepped
      next silent =>
        obtain ⟨session, handled, rfl⟩ := Option.map_eq_some_iff.mp stepped
        refine ⟨[event], System.run_singleton handled, ?_, ?_, only⟩
        · simp [typedLines, List.isEmpty_iff.mp silent]
        · simp [silent, networkEvents]
      next => cases stepped

theorem run_session (only : console.OnlyLines) {events : List ConsoleEvent}
    (ran : (system parse).run events console = some next) :
    ∃ steps, (Session.system parse).run steps console.session = some next.session ∧
      steps.flatMap SessionEvent.lines ++ next.queue.items.map (·.msg) =
        console.queue.items.map (·.msg) ++ events.flatMap typedLines ∧
      steps.filter (fun step => step.lines.isEmpty) = events.flatMap networkEvents := by
  induction events generalizing console with
  | nil =>
      cases ran
      exact ⟨[], rfl, by simp, rfl⟩
  | cons event rest inductionHypothesis =>
      obtain ⟨middle, stepped, remaining⟩ := System.run_cons ran
      obtain ⟨first, made, lines, network, kept⟩ := step_session only stepped
      obtain ⟨later, further, others, arrived⟩ := inductionHypothesis kept remaining
      refine ⟨first ++ later, System.run_append made further, ?_, ?_⟩
      · rw [List.flatMap_append, List.append_assoc, others, ← List.append_assoc, lines,
          List.flatMap_cons, List.append_assoc]
      · rw [List.filter_append, network, arrived, List.flatMap_cons]

end Console

/-- The lines reach the client as they were typed: whatever happens on the
connections in between, and whenever the thread of the events runs, the session
is one in which `onUserInput` gets the lines of the user in their order, trimmed
and without the blank ones, each once, but for those that are still queued. -/
theorem lines_in_order {parse : Bytes → Option Json} {session : Session}
    {events : List ConsoleEvent} {console : Console}
    (ran : (Console.system parse).run events { session } = some console) :
    ∃ steps, (Session.system parse).run steps session = some console.session ∧
      steps.flatMap SessionEvent.lines ++ console.queue.items.map (·.msg) =
        (events.flatMap Console.typedLines) ∧
      steps.filter (fun step => step.lines.isEmpty) = events.flatMap Console.networkEvents :=
  Console.run_session
    (show Console.OnlyLines { session } from fun _ member => absurd member List.not_mem_nil) ran

/-- The user asks for help and writes to bob before the connection is there, with
an empty line in between. -/
def typing : List ConsoleEvent :=
  [.typed (bytes "  help "), .typed (bytes "\t"), .typed (bytes "direct_msg bob hi"), .turn,
    .network (.opened 0), .turn, .turn, .typed (bytes "unchat")]

theorem lines_in_order_three :
    ∃ steps console,
      (Console.system fun _ => none).run typing
        { session := Session.started (bytes "localhost") 8080 [] [] } = some console ∧
      steps.flatMap SessionEvent.lines = [bytes "help", bytes "direct_msg bob hi"] ∧
      console.queue.items.map (·.msg) = [bytes "unchat"] ∧
      (Session.system fun _ => none).run steps (Session.started (bytes "localhost") 8080 [] []) =
        some console.session := by
  have shape : ((Console.system fun _ => none).run typing
      { session := Session.started (bytes "localhost") 8080 [] [] }).map
      (fun console : Console => console.queue.items.map (·.msg)) = some [bytes "unchat"] := by
    decide +kernel
  obtain ⟨console, ran, queued⟩ := Option.map_eq_some_iff.mp shape
  obtain ⟨steps, session, lines, -⟩ := lines_in_order ran
  have typed : typing.flatMap Console.typedLines =
      [bytes "help", bytes "direct_msg bob hi"] ++ [bytes "unchat"] := by
    decide +kernel
  rw [queued, typed] at lines
  exact ⟨steps, console, ran, List.append_cancel_right lines, queued, session⟩

end GeoChat
