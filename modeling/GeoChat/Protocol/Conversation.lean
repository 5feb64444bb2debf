import GeoChat.Protocol.Wire
import GeoChat.Server.Store.History

/-!
# A message from one client to another

One client sends a message, and some time later the other asks for their
history. In between any number of workers may process any tasks. Both requests
and both replies are bytes that arrive in any segments.
-/

namespace GeoChat

open Library Program InMemory DatabaseWorker

section Growth

/-- Users and chats are never removed, nor are messages. What may change is the
heartbit of a user and the flag of a message. -/
structure Storage.Extends (start storage : Storage) : Prop where
  users : start.users.map User.still <+: storage.users.map User.still
  messages : start.messages.map Message.unflagged <+: storage.messages.map Message.unflagged

theorem Storage.Extends.refl (storage : Storage) : storage.Extends storage :=
  ⟨List.prefix_rfl, List.prefix_rfl⟩

theorem Storage.Extends.trans {first second third : Storage} (one : first.Extends second)
    (two : second.Extends third) : first.Extends third :=
  ⟨one.users.trans two.users, one.messages.trans two.messages⟩

theorem handle_keeps_messages (now : Int) (effect : Effect) (storage : Storage) :
    storage.messages.map Message.unflagged <+:
      (handle now effect storage).2.messages.map Message.unflagged := by
  cases effect with
  | time => exact List.prefix_rfl
  | client call => exact List.prefix_rfl
  | db op =>
      cases op with
      | saveMessage msg => simp [handle, exec, saveMessage]
      | getMessages chatid opt =>
          rcases getMessages_storage chatid opt storage with ⟨messages, result, unflagged⟩
          simp only [handle, exec, result, unflagged]
          exact List.prefix_rfl
      | createUser name pass stpath ip city =>
          simp only [handle, exec, createUser]
          split <;> exact List.prefix_rfl
      | createChat name uid =>
          simp only [handle, exec, createChat]
          split <;> exact List.prefix_rfl
      | addUserToChat chat user =>
          simp only [handle, exec, addUserToChat]
          split <;> exact List.prefix_rfl
      | _ => exact List.prefix_rfl

/-- What one call leaves extends what it found, and so does every schedule. -/
theorem extends_of_reaches {sort : TimestampSort}
    {pool later : Pool Task Effect Effect.Reply Storage}
    (reached : (workers sort).Reaches pool later) : pool.shared.Extends later.shared := by
  refine System.Reaches.invariant (fun later => pool.shared.Extends later.shared) reached
    (.refl _) ?_
  intro middle event next held stepped
  rcases Pool.step_cases stepped with ⟨task, rfl, rfl⟩ |
      ⟨index, now, worker, op, rest, rfl, found, shape, shared, others⟩
  · exact held
  · rw [shared]
    exact held.trans ⟨(handle_grows now op _).1, handle_keeps_messages now op _⟩

variable {start storage : Storage}

/-- A user is found again, with at most another heartbit. -/
theorem Storage.Extends.user (grown : start.Extends storage) {user : User}
    (member : user ∈ start.users) : ∃ heartbit, { user with heartbit } ∈ storage.users := by
  obtain ⟨row, found, same⟩ :=
    List.mem_map.mp (grown.users.subset (List.mem_map_of_mem member))
  have row_eq : row = { user with heartbit := row.heartbit } := by
    cases row
    cases user
    simpa [User.still] using same
  exact ⟨row.heartbit, row_eq ▸ found⟩

/-- A message is found again, with at most another flag. -/
theorem Storage.Extends.message (grown : start.Extends storage) {msg : Message}
    (member : msg ∈ start.messages) : ∃ flags, { msg with flags } ∈ storage.messages := by
  obtain ⟨row, found, same⟩ :=
    List.mem_map.mp (grown.messages.subset (List.mem_map_of_mem member))
  have row_eq : row = { msg with flags := row.flags } := by
    cases row
    cases msg
    simpa [Message.unflagged] using same
  exact ⟨row.flags, row_eq ▸ found⟩

end Growth

section Shown

/-- What a client shows of a message between two users. -/
def Message.shown (first second : User) (msg : Message) : Shown :=
  if msg.sentTo first second then .message first.name second.name msg.message
  else .message second.name first.name msg.message

variable {storage : Storage} {sort : TimestampSort} {first second : User}

/-- The messages of a conversation fit the reader of the client when names and
texts are free of NUL. -/
theorem shownBetween_plain {msg : Message} (firstText : (0 : UInt8) ∉ first.name)
    (secondText : (0 : UInt8) ∉ second.name) (text : (0 : UInt8) ∉ msg.message) :
    (msg.shownBetween first second).Plain := by
  have small : toUint64 msg.ts < 2 ^ 64 := by
    unfold toUint64
    omega
  unfold Message.shownBetween
  split
  · exact ⟨small, firstText, secondText, text⟩
  · exact ⟨small, secondText, firstText, text⟩

/-- The reply to a user who asks for the history with another. -/
theorem serve_history_linked (linked : storage.Linked) {task : Task}
    (requester : second ∈ storage.users) (other : first ∈ storage.users)
    (command : task.cmd = .userHistory) (uid : task.request.uid = second.id)
    (password : encryptedPass task.request.password = second.password)
    (user : task.request.user = first.name) (now : Int) :
    serve now storage (processTask sort task) =
      ([.sendMessages ((history storage sort second first task.request.count).map
        (Message.shownBetween first second))], storage) := by
  have asks := asksHistory_of_linked linked requester other command uid password user
  rw [asks.serve sort now]
  congr 3
  refine List.map_congr_left fun msg member => ?_
  unfold Message.shownBetween
  split
  next forth => exact apiForm_sentTo linked other requester forth
  next notForth =>
    exact apiForm_sentTo linked requester other
      ((conversation_of_mem member).resolve_right notForth)

/-- A user who sends a message to another is acknowledged. -/
theorem serve_messageSend_linked (linked : storage.Linked) {task : Task}
    (sender : first ∈ storage.users) (recipient : second ∈ storage.users)
    (command : task.cmd = .messageSend) (uid : task.request.uid = first.id)
    (password : encryptedPass task.request.password = first.password)
    (toUser : task.request.toUser = second.name) (now : Int) :
    serve now storage (processTask sort task) =
      ([.sendOkResponse statusZero], saveMessage ⟨.unread, first.id, second.selfChatId, now,
        task.request.message⟩ storage) := by
  have present : first.id ≠ 0 := (linked.user_ne_zero (List.mem_map_of_mem sender)).ne'
  have accepted : checkPass task storage = first := by
    refine checkPass_of_found storage ?_ present password
    rw [uid]
    exact lookupUserById_of_nodup linked.userIds_nodup sender
  have found : lookupUserByName task.request.toUser storage = [second] := by
    rw [toUser]
    exact filter_of_nodup linked.names recipient
  unfold processTask
  rw [command]
  simp only
  rw [serve_processMessageSend]
  unfold guarded
  rw [accepted, if_neg present]
  simp only [found, stored]

end Shown

section Wire

/-- A request whose bytes arrive, in any segments, on a connection that waits
for one. -/
structure ApiRequest.Submitted (request : ApiRequest) (passLen : Int) (stream : Stream)
    (client : ApiClient) : Prop where
  valid : request.Valid passLen
  fits : request.body.length < 2 ^ 64
  content : stream.content = request.encode
  noIp : client.requestDetails.params.ipAddress = []
  idle : client.writes = []

/-- The client with more on its screen. -/
def Client.shows (client : Client) (more : List Shown) : Client :=
  { client with shown := client.shown ++ more }

/-- In whatever segments the bytes arrive, they are one reply to a request for a
history, and this is what a client shows of it. -/
def ReadAsHistory (doubles : Rapidjson.Doubles) (zlib : Zlib) (answer : Bytes)
    (shown : List Shown) : Prop :=
  ∀ stream : Stream, stream.content = answer →
    ∀ client : Client, client.lastCmd = .historyUser →
      ∃ reply, (Reader.asyncResponse zlib stream).handled = [(.none, reply)] ∧
        client.onHttpRead (Rapidjson.parse doubles) reply =
          .ok (client.shows (.text (bytes "200 OK") :: shown))

variable {doubles : Rapidjson.Doubles} {zlib : Zlib} {passLen : Int} {sort : TimestampSort}
  {request : ApiRequest} {stream : Stream} {client : ApiClient} {storage : Storage}
  {first second : User}

/-- The server's parts, with rapidjson as its parser. -/
abbrev rapidjsonSetup (doubles : Rapidjson.Doubles) (passLen : Int) (sort : TimestampSort) :
    Setup := ⟨Rapidjson.parse doubles, passLen, sort⟩

/-- One request on a connection is served like its task. -/
theorem serveStream_single (submitted : request.Submitted passLen stream client)
    (notIdle : request.cmd ≠ .idle) (moment : Moment) :
    let served := serve moment.now storage (processTask sort (request.task moment.city))
    serveStream (rapidjsonSetup doubles passLen sort) zlib [moment] stream client storage =
      some ((served.1.map (ClientCall.message moment.now)).flatMap WireMessage.encode,
        served.2) := by
  have content : stream.content =
      [(request, moment)].flatMap fun request => request.1.encode := by
    rw [submitted.content]
    simp
  have served := @serveStream_eq (rapidjsonSetup doubles passLen sort) zlib [(request, moment)]
    stream client storage (by simpa using submitted.valid)
    (by simpa using readsBack_request doubles request) (by simpa using submitted.fits)
    (by simpa using notIdle) content submitted.noIp submitted.idle
  rw [List.map_singleton] at served
  simpa [serveRequests] using served

/-- What a client shows of the messages that a worker has sent. -/
theorem readAsHistory_messages {msgs : List ApiMessage} {now : Int} {answer : Bytes}
    (written : answer = ((ClientCall.sendMessages msgs).message now).encode)
    (fits : answer.length < 2 ^ 64) (plain : ∀ msg ∈ msgs, msg.Plain) :
    ReadAsHistory doubles zlib answer
      (msgs.map fun msg => .message msg.sender msg.recipient msg.msg) := by
  intro stream content client asked
  have body : ((ClientCall.sendMessages msgs).message now).body.length < 2 ^ 64 := by
    refine lt_of_le_of_lt ?_ fits
    rw [written]
    exact (List.suffix_append _ _).length_le
  obtain ⟨⟨error, reply⟩, handled, ⟨noError, read, status⟩, -⟩ :=
    @Reader.asyncResponse_message zlib ((ClientCall.sendMessages msgs).message now)
      (ClientCall.message_valid trivial body) stream [] (by rw [content, written, List.append_nil])
  replace noError : error = .none := noError
  replace read : reply.body = ApiclientUtils.okBodyOfMessages msgs now := read
  replace status : reply.status = 200 := status
  refine ⟨reply, by rw [handled, noError], ?_⟩
  unfold Client.onHttpRead
  rw [if_neg (not_not.mpr status), asked, read]
  simp only [Client.interpret, Client.readMsgs]
  rw [CliUtils.parseMsgResponse_okBody plain (readsBack_messages doubles msgs now)]
  simp [pure, Except.pure, Client.showMsgs, Client.showMsg, Client.shows,
    CliUtils.MsgResponse.ofMessage]

/-- The request to send is acknowledged with one message saved. -/
theorem serveStream_messageSend {text password : Bytes} (linked : storage.Linked)
    (sender : first ∈ storage.users) (recipient : second ∈ storage.users)
    (passes : encryptedPass password = first.password) (moment : Moment)
    (submitted : (ApiRequest.messageSend first.id second.name text password).Submitted passLen
      stream client) :
    serveStream (rapidjsonSetup doubles passLen sort) zlib [moment] stream client storage =
      some ((WireMessage.okResponse statusZero).encode, saveMessage
        { userFrom := first.id, chatTo := second.selfChatId, message := text, ts := moment.now }
        storage) := by
  have stored := @serve_messageSend_linked storage sort first second linked
    ((ApiRequest.messageSend first.id second.name text password).task moment.city) sender
    recipient rfl rfl passes rfl moment.now
  rw [serveStream_single submitted (by simp [ApiRequest.cmd]), stored]
  simp [ClientCall.message, ApiRequest.task, ApiRequest.params]

/-- The request for a history is answered with the newest messages of the two. -/
theorem serveStream_userHistory {password : Bytes} {count : Nat} (linked : storage.Linked)
    (other : first ∈ storage.users) (requester : second ∈ storage.users)
    (distinct : first.id ≠ second.id)
    (ordered : storage.messages.Pairwise fun earlier later => earlier.ts ≤ later.ts)
    (texts : ∀ msg ∈ storage.conversation second first, (0 : UInt8) ∉ msg.message)
    (firstText : (0 : UInt8) ∉ first.name) (secondText : (0 : UInt8) ∉ second.name)
    (passes : encryptedPass password = second.password) (small : count < 2 ^ 31) (moment : Moment)
    (submitted : (ApiRequest.userHistory second.id first.name count password).Submitted passLen
      stream client) :
    ∃ answer included,
      serveStream (rapidjsonSetup doubles passLen sort) zlib [moment] stream client storage =
        some (answer, storage) ∧
      Largest Message.ts count included (storage.conversation second first) ∧
      (answer.length < 2 ^ 64 →
        ReadAsHistory doubles zlib answer (included.map (Message.shown first second))) := by
  have answered := @serve_history_linked storage sort first second linked
    ((ApiRequest.userHistory second.id first.name count password).task moment.city) requester
    other rfl rfl passes rfl moment.now
  have largest :=
    @history_largest storage sort second first count (.inl distinct.symm) ordered small
  obtain ⟨omitted, whole, -⟩ := largest.rest
  refine ⟨((ClientCall.sendMessages ((history storage sort second first count).map
    (Message.shownBetween first second))).message moment.now).encode, _, ?_, largest,
    fun fits => ?_⟩
  · rw [serveStream_single submitted (by simp [ApiRequest.cmd]), answered]
    simp [ApiRequest.task, ApiRequest.params]
  · have read := @readAsHistory_messages doubles zlib _ moment.now _ rfl fits ?_
    · rw [List.map_map] at read
      convert read using 2
      funext msg
      unfold Message.shown Message.shownBetween
      simp only [Function.comp_apply]
      split <;> rfl
    · intro form member
      obtain ⟨msg, chosen, rfl⟩ := List.mem_map.mp member
      refine shownBetween_plain firstText secondText (texts msg ?_)
      exact whole.subset (List.mem_append_left _ chosen)

/-- What reaches the recipient. After a request to send has been served, and then
any schedule of any tasks, the recipient asks for the history with the sender.
Where the messages are stored in the order of their times, the reply shows the
newest messages of the two, and the sent one among them unless as many as were
asked for are at least as new. -/
theorem message_over_wire (doubles : Rapidjson.Doubles) (zlib : Zlib) (passLen : Int)
    (sort : TimestampSort) {pool : Pool Task Effect Effect.Reply Storage} {alice bob : User}
    (reached : (workers sort).Reaches ⟨{}, []⟩ pool) (room : pool.shared.creations < 2 ^ 64)
    (sender : alice ∈ pool.shared.users) (recipient : bob ∈ pool.shared.users)
    (distinct : alice ≠ bob) {text alicePassword : Bytes}
    (alicePasses : encryptedPass alicePassword = alice.password) {sent : Stream}
    {aliceClient : ApiClient} (moment : Moment)
    (submitted : (ApiRequest.messageSend alice.id bob.name text alicePassword).Submitted passLen
      sent aliceClient) :
    ∃ later worker,
      serveStream (rapidjsonSetup doubles passLen sort) zlib [moment] sent aliceClient
        pool.shared = some ((WireMessage.okResponse statusZero).encode, later) ∧
      (workers sort).Reaches pool ⟨later, pool.workers ++ [worker]⟩ ∧
      ∀ pool' : Pool Task Effect Effect.Reply Storage,
        (workers sort).Reaches ⟨later, pool.workers ++ [worker]⟩ pool' →
        pool'.shared.creations < 2 ^ 64 →
        (pool'.shared.messages.Pairwise fun earlier later => earlier.ts ≤ later.ts) →
        (∀ msg ∈ pool'.shared.conversation bob alice, (0 : UInt8) ∉ msg.message) →
        ∀ (bobPassword : Bytes) (count : Nat) (asked : Stream) (bobClient : ApiClient)
          (asks : Moment), encryptedPass bobPassword = bob.password → count < 2 ^ 31 →
          (ApiRequest.userHistory bob.id alice.name count bobPassword).Submitted passLen asked
            bobClient →
          ∃ answer included,
            serveStream (rapidjsonSetup doubles passLen sort) zlib [asks] asked bobClient
              pool'.shared = some (answer, pool'.shared) ∧
            Largest Message.ts count included (pool'.shared.conversation bob alice) ∧
            ((pool'.shared.conversation bob alice).countP
                (fun msg => moment.now ≤ msg.ts) ≤ count →
              .message alice.name bob.name text ∈ included.map (Message.shown alice bob)) ∧
            (answer.length < 2 ^ 64 →
              ReadAsHistory doubles zlib answer (included.map (Message.shown alice bob))) := by
  have linked := linked_of_reaches reached room
  have sends := @serveStream_messageSend doubles zlib passLen sort sent aliceClient pool.shared
    alice bob text alicePassword linked sender recipient alicePasses moment submitted
  obtain ⟨rest, ran⟩ := Pool.reaches_run (processTask sort) handle moment.now
    ((ApiRequest.messageSend alice.id bob.name text alicePassword).task moment.city) pool.shared
    pool.workers
  have stored := congrArg Prod.snd (@serve_messageSend_linked pool.shared sort alice bob linked
    ((ApiRequest.messageSend alice.id bob.name text alicePassword).task moment.city) sender
    recipient rfl rfl alicePasses rfl moment.now)
  rw [show ((processTask sort _).run (handle moment.now) pool.shared).2 = _ from stored] at ran
  refine ⟨_, _, sends, ran, ?_⟩
  intro pool' further room' ordered texts bobPassword count asked bobClient asks bobPasses small
    submitted'
  have linked' := linked_of_reaches ((reached.trans ran).trans further) room'
  have grown := extends_of_reaches (System.ReachesWithin.trans ran further)
  obtain ⟨aliceBeat, sender'⟩ := grown.user sender
  obtain ⟨bobBeat, recipient'⟩ := grown.user recipient
  have differ : alice.id ≠ bob.id := fun same =>
    distinct (List.inj_on_of_nodup_map linked.userIds_nodup sender recipient same)
  obtain ⟨answer, included, asks', largest, read⟩ := @serveStream_userHistory doubles zlib passLen
    sort asked bobClient pool'.shared { alice with heartbit := aliceBeat }
    { bob with heartbit := bobBeat } bobPassword count linked' sender' recipient' differ ordered
    texts submitted'.valid.2.1.2 submitted.valid.2.1.2 bobPasses small asks submitted'
  refine ⟨answer, included, asks', largest, fun few => ?_, read⟩
  obtain ⟨flags, kept⟩ := (extends_of_reaches further).message
    (List.mem_append_right pool.shared.messages (List.mem_singleton.mpr rfl))
  have forth : Message.sentTo alice bob ⟨flags, alice.id, bob.selfChatId, moment.now, text⟩ =
      true := by simp [Message.sentTo]
  have talked : ⟨flags, alice.id, bob.selfChatId, moment.now, text⟩ ∈
      pool'.shared.conversation bob alice :=
    List.mem_filter.mpr ⟨kept, by rw [forth, Bool.or_true]⟩
  refine List.mem_map.mpr ⟨_, largest.mem_of_countP_le talked few, ?_⟩
  unfold Message.shown
  rw [if_pos forth]

/-- Bytes in two segments. -/
def halves (content : Bytes) : Stream :=
  ⟨[], [content.take (content.length / 2), content.drop (content.length / 2)]⟩

theorem submitted_halves {request : ApiRequest} {passLen : Int} (valid : request.Valid passLen)
    (fits : request.body.length < 2 ^ 64) :
    request.Submitted passLen (halves request.encode) ApiClient.connected := by
  refine ⟨valid, fits, ?_, rfl, rfl⟩
  simp [halves, Source.content]

/-- Two users are created, and one of them reads what the other wrote. -/
theorem message_over_wire_hello :
    ∃ (storage later : Storage) (answer : Bytes) (included : List Message),
      serveStream (rapidjsonSetup Rapidjson.wholeDoubles 8 .stable) refusingZlib [⟨[], 5⟩]
        (halves (ApiRequest.messageSend 1 (bytes "bob") (bytes "hello")
          (bytes "Passw0rd")).encode) ApiClient.connected storage =
        some ((WireMessage.okResponse statusZero).encode, later) ∧
      serveStream (rapidjsonSetup Rapidjson.wholeDoubles 8 .stable) refusingZlib [⟨[], 6⟩]
        (halves (ApiRequest.userHistory 2 (bytes "alice") 10 (bytes "Passw0rd")).encode)
        ApiClient.connected later = some (answer, later) ∧
      Shown.message (bytes "alice") (bytes "bob") (bytes "hello") ∈
        included.map (Message.shown (created 1 (bytes "alice")) (created 2 (bytes "bob"))) ∧
      (answer.length < 2 ^ 64 → ReadAsHistory Rapidjson.wholeDoubles refusingZlib answer
        (included.map (Message.shown (created 1 (bytes "alice")) (created 2 (bytes "bob"))))) := by
  have shape : ((sequence .stable).run
      [(createUserTask (bytes "alice"), 1), (createUserTask (bytes "bob"), 2)] {}).map
        (fun storage : Storage => (storage.users, storage.messages, storage.creations)) =
      some ([created 1 (bytes "alice"), created 2 (bytes "bob")], [], 2) := by
    decide +kernel
  obtain ⟨storage, replayed, facts⟩ := Option.map_eq_some_iff.mp shape
  simp only [Prod.mk.injEq] at facts
  obtain ⟨users, messages, creations⟩ := facts
  obtain ⟨finished, reached⟩ := workers_of_sequence (System.reaches_of_run replayed)
  have room : storage.creations < 2 ^ 64 := by
    rw [creations]
    decide
  have sender : created 1 (bytes "alice") ∈ storage.users := by simp [users]
  have recipient : created 2 (bytes "bob") ∈ storage.users := by simp [users]
  have passes : ∀ id name, encryptedPass (bytes "Passw0rd") = (created id name).password :=
    fun _ _ => by simp only [created]
  have submitted : (ApiRequest.messageSend 1 (bytes "bob") (bytes "hello")
      (bytes "Passw0rd")).Submitted 8 _ _ :=
    submitted_halves ⟨by decide, by decide +kernel, by decide +kernel, by decide +kernel⟩
      (by decide +kernel)
  have asked : (ApiRequest.userHistory 2 (bytes "alice") 10 (bytes "Passw0rd")).Submitted 8 _ _ :=
    submitted_halves ⟨by decide, by decide +kernel, by decide, by decide +kernel⟩
      (by decide +kernel)
  obtain ⟨later, worker, served, ran, delivered⟩ := @message_over_wire Rapidjson.wholeDoubles
    refusingZlib 8 .stable ⟨storage, finished⟩ (created 1 (bytes "alice"))
    (created 2 (bytes "bob")) reached room sender recipient (by decide) (bytes "hello")
    (bytes "Passw0rd") (passes _ _) _ _ ⟨[], 5⟩ submitted
  have stored := @serveStream_messageSend Rapidjson.wholeDoubles refusingZlib 8 .stable _ _ storage
    (created 1 (bytes "alice")) (created 2 (bytes "bob")) (bytes "hello") (bytes "Passw0rd")
    (linked_of_reaches reached room) sender recipient (passes _ _) ⟨[], 5⟩ submitted
  have same : later = _ := congrArg Prod.snd (Option.some.inj (served.symm.trans stored))
  have single : later.messages = [⟨.unread, 1, 2, 5, bytes "hello"⟩] := by
    rw [same]
    simp [saveMessage, messages, created]
  obtain ⟨answer, included, answered, -, shown, read⟩ := delivered ⟨later, _⟩ .start
    (by rw [same]; exact room) (by rw [single]; decide)
    (by simp only [Storage.conversation, single]; decide +kernel) (bytes "Passw0rd") 10 _ _
    ⟨[], 6⟩ (passes _ _) (by decide) asked
  refine ⟨storage, later, answer, included, served, answered, shown ?_, read⟩
  simp only [Storage.conversation, single]
  decide +kernel

end Wire

end GeoChat
