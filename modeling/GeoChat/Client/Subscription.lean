import GeoChat.Client.Changes

/-!
# The idle subscription of the client

The idle connection is opened by the reply to a login and keeps the request it
was opened with. It is that of the user who is logged in as long as no other
user logs in meanwhile.
-/

namespace GeoChat

open Library

/-- The last request on an open idle connection is for the user of the client. -/
def Client.Subscribed (client : Client) : Prop :=
  client.httpIdle.isOpen = true →
    ∀ request, client.httpIdle.held.getLast? = some request → client.Subscribes request

namespace Session

/-- No reply gives the user another id while an idle request is out. -/
def keepsUser (parse : Bytes → Option Json) (session : Session) (event : SessionEvent) : Bool :=
  match session.client.newId parse event with
  | none => true
  | some id => id = session.client.selfId || session.client.httpIdle.held.isEmpty

variable {parse : Bytes → Option Json} {session next : Session} {event : SessionEvent}

/-- Every request on the idle connection stays one for the user. -/
theorem subscribes_step
    (subscribed : ∀ request ∈ session.client.httpIdle.held, session.client.Subscribes request)
    (keeps : session.keepsUser parse event = true)
    (stepped : (system parse).step session event = some next) :
    ∀ request ∈ next.client.httpIdle.held, next.client.Subscribes request := by
  simp only [system] at stepped
  split at stepped
  next => cases stepped
  next =>
    have changes := changes_of_step stepped
    intro request member
    obtain before | new := changes.idles request member
    · have same : next.client.selfId = session.client.selfId := by
        rw [changes.selfId]
        unfold keepsUser at keeps
        split at keeps
        next none =>
          rw [none]
          rfl
        next id some =>
          simp only [Bool.or_eq_true, decide_eq_true_eq] at keeps
          obtain rfl | empty := keeps
          · rw [some]
            rfl
          · rw [List.isEmpty_iff.mp empty] at before
            exact absurd before List.not_mem_nil
      have held := subscribed request before
      unfold Client.Subscribes at held ⊢
      rwa [← same] at held
    · exact new

end Session

open Session in
/-- In every session in which no reply gives the user another id while an idle
request is out, the subscription is that of the user. -/
theorem subscription_follows (parse : Bytes → Option Json) (host : Bytes) (port : Int)
    (user password : Bytes) (session : Session)
    (reached : (system parse).ReachesWithin
      (fun session event => session.keepsUser parse event = true)
      (started host port user password) session) : session.client.Subscribed := by
  have subscribes : ∀ request ∈ session.client.httpIdle.held,
      session.client.Subscribes request := by
    apply reached.invariant fun session : Session =>
      ∀ request ∈ session.client.httpIdle.held, session.client.Subscribes request
    · have quiet : (started host port user password).client.httpIdle.held = [] := rfl
      exact fun request member => absurd (quiet ▸ member) List.not_mem_nil
    · intro state event later held admitted stepped
      exact subscribes_step held admitted stepped
  intro _ request last
  exact subscribes request (List.mem_of_getLast? last)

namespace Session

/-- The idle connection is opened, and its request written. -/
def subscribing : List SessionEvent :=
  [.idleOpened 0, .idleConnected 0 false, .idleWritten 0 false]

/-- The parser at the bodies of the replies to the logins of two users. -/
def parseLogins (text : Bytes) : Option Json :=
  if text = bytes "\x7b\"id\":2,\"chatid\":2,\"heartbit\":6\x7d" then
    some (.object [(bytes "id", .int 2), (bytes "chatid", .int 2), (bytes "heartbit", .int 6)])
  else parseLoginBody text

def otherLogin : List SessionEvent :=
  [.line (bytes "login bob other_pass"), .written 0 false,
    .reply 0 { status := 200, body := bytes "\x7b\"id\":2,\"chatid\":2,\"heartbit\":6\x7d" }]

end Session

open Session in
theorem subscription_follows_login :
    ∃ session, (system parseLoginBody).runWithin
        (fun session event => session.keepsUser parseLoginBody event = true)
        (connecting ++ loginLine ++ [.reply 0 loginReply] ++ subscribing ++
          loginLine ++ [.reply 0 loginReply])
        (started (bytes "localhost") 7788 [] []) = some session ∧
      session.client.httpIdle.isOpen = true ∧ session.client.selfId = 1 ∧
      session.client.httpIdle.held.getLast? = some (.idle 1 5 (bytes "secret_pass")) ∧
      session.client.Subscribed := by
  have shape : ((system parseLoginBody).runWithin
        (fun session event => session.keepsUser parseLoginBody event = true)
        (connecting ++ loginLine ++ [.reply 0 loginReply] ++ subscribing ++
          loginLine ++ [.reply 0 loginReply])
        (started (bytes "localhost") 7788 [] [])).map (fun session =>
          (session.client.httpIdle.isOpen, session.client.selfId,
            session.client.httpIdle.held.getLast?)) =
      some (true, 1, some (.idle 1 5 (bytes "secret_pass"))) := by
    decide +kernel
  obtain ⟨session, replayed, same⟩ := Option.map_eq_some_iff.mp shape
  simp only [Prod.mk.injEq] at same
  exact ⟨session, replayed, same.1, same.2.1, same.2.2,
    subscription_follows parseLoginBody _ _ _ _ session (System.reachesWithin_of_run replayed)⟩

open Session in
/-- The subscription of the first user stays after the second has logged in. -/
theorem subscription_left_behind :
    ∃ session, (system parseLogins).run
        (connecting ++ loginLine ++ [.reply 0 loginReply] ++ subscribing ++ otherLogin)
        (started (bytes "localhost") 7788 [] []) = some session ∧
      session.client.httpIdle.isOpen = true ∧ session.client.selfId = 2 ∧
      session.client.httpIdle.held.getLast? = some (.idle 1 5 (bytes "secret_pass")) ∧
      ¬ session.client.Subscribed := by
  have shape : ((system parseLogins).run
        (connecting ++ loginLine ++ [.reply 0 loginReply] ++ subscribing ++ otherLogin)
        (started (bytes "localhost") 7788 [] [])).map (fun session =>
          (session.client.httpIdle.isOpen, session.client.selfId,
            session.client.httpIdle.held.getLast?)) =
      some (true, 2, some (.idle 1 5 (bytes "secret_pass"))) := by
    decide +kernel
  obtain ⟨session, replayed, same⟩ := Option.map_eq_some_iff.mp shape
  simp only [Prod.mk.injEq] at same
  obtain ⟨isOpen, selfId, last⟩ := same
  refine ⟨session, replayed, isOpen, selfId, last, fun subscribed => ?_⟩
  obtain ⟨heartbit, password, request⟩ := subscribed isOpen _ last
  rw [selfId] at request
  cases request

end GeoChat
