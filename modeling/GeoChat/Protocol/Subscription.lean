import GeoChat.Protocol.Conversation
import GeoChat.Server.Idle.Poll

/-!
# What a subscriber sees

A client subscribes with an idle request. From then on the server polls at every
tick of a timer and writes a batch of messages if there are any, or if it is time
for a sign of life, and the client reads one reply after the other. Between two
ticks the storage may change in any way.
-/

namespace GeoChat

open Library Program InMemory DatabaseWorker

/-- A tick of the timer whose task is processed, and its batch written, before
the next tick: the time of it, how many waits had expired when the timer was set
again, and the storage that the task finds. -/
structure Tick where
  now : Int
  expired : Nat := 0
  storage : Storage

section Server

variable (setup : Setup) (zlib : Zlib)

/-- The bytes that an idle connection writes at the ticks of its timer. -/
def serveTicks : List Tick → ApiClient → Bytes
  | [], _ => []
  | tick :: rest, client =>
      let waited := client.timerWaitTaskResultHandler tick.now tick.expired
      let served := serve tick.now tick.storage (processTask setup.sort waited.2)
      let settled := waited.1.settle tick.now served.1
      settled.1 ++ serveTicks rest settled.2

/-- The server for a connection on which a request starts the polling. -/
def serveSubscription (moment : Moment) (ticks : List Tick) (stream : Stream)
    (client : ApiClient) : Option Bytes :=
  match (Reader.asyncResponse zlib stream).handled with
  | [(.none, reply)] =>
      let arrival : Arrival := { reply, lookup := some (.ok moment.city), now := moment.now }
      match ApiClient.arrive setup arrival client with
      | .ok (later, []) =>
          let acknowledged := later.settle moment.now []
          some (acknowledged.1 ++ serveTicks setup ticks acknowledged.2)
      | _ => none
  | _ => none

end Server

/-- The loop of the client over the next replies on its idle connection. -/
def Client.readIdleReplies (parse : Bytes → Option Json) (zlib : Zlib) :
    Nat → Stream → Client → Option (Client × Stream)
  | 0, stream, client => some (client, stream)
  | count + 1, stream, client =>
      let reader := Reader.asyncResponse zlib stream
      match reader.handled with
      | [(.none, reply)] =>
          match client.onHttpIdleRead parse reply with
          | .ok later => later.readIdleReplies parse zlib count reader.stream
          | .error _ => none
      | _ => none

/-- What the subscription is about: at each tick the newest messages in each chat
of the user from a cursor on, which is the greatest timestamp so far. -/
def feed (uid : Nat) : Int → List Tick → List (List ApiMessage)
  | _, [] => []
  | cursor, tick :: rest =>
      let batch := tick.storage.pollBatch uid cursor
      (batch.map fun entry => tick.storage.apiForm entry.1) ::
        feed uid ((batch.map fun entry => entry.1.ts).foldl max cursor) rest

/-- The cursor that the next tick of a connection polls from. -/
def ApiClient.cursor (client : ApiClient) : Int :=
  let ts := client.requestDetails.params.ts
  if toUint64 ts < client.newestMsgTimestamp then toTime client.newestMsgTimestamp else ts

/-- The password is that of the user, times fit the field of a message, and names
and texts are free of NUL. -/
structure Tick.Serves (tick : Tick) (uid : Nat) (password : Bytes) : Prop where
  accepted : (checkPass { cmd := .idle, request := { uid, password } } tick.storage).id ≠ 0
  times : ∀ msg ∈ tick.storage.messages, msg.ts < 2 ^ 63
  plain : ∀ msg ∈ tick.storage.messages, (tick.storage.apiForm msg).Plain

/-- The connection polls for the user from the cursor, and has nothing to write. -/
structure ApiClient.Polls (client : ApiClient) (uid : Nat) (password : Bytes) (cursor : Int) :
    Prop where
  command : client.requestDetails.command = .idle
  uid : client.requestDetails.params.uid = uid
  password : client.requestDetails.params.password = password
  cursor : client.cursor = cursor
  newest : client.newestMsgTimestamp < 2 ^ 63
  writes : client.writes = []

section Times

theorem toTime_of_small {value : Nat} (small : value < 2 ^ 63) : toTime value = value :=
  if_pos small

theorem toUint64_ofNat {value : Nat} (small : value < 2 ^ 63) : toUint64 (value : Int) = value := by
  have range := @toUint64_of_range (value : Int) (by omega) (by omega)
  exact_mod_cast range

/-- The greatest timestamp of a batch and a cursor. -/
theorem foldl_max_eq (msgs : List ApiMessage) {cursor : Int} (lower : 0 ≤ cursor) :
    (msgs.map fun msg => (msg.ts : Int)).foldl max cursor = max cursor (maxTimestamp msgs) := by
  have general : ∀ (msgs : List ApiMessage) (ts : Nat),
      (msgs.map fun msg => (msg.ts : Int)).foldl max (max cursor ts) = max cursor
        (msgs.foldl (fun ts msg => if ts < msg.ts then msg.ts else ts) ts : Nat) := by
    intro msgs
    induction msgs with
    | nil => exact fun _ => rfl
    | cons msg rest inductionHypothesis =>
        intro ts
        have joined : max (max cursor (ts : Int)) (msg.ts : Int) =
            max cursor ((if ts < msg.ts then msg.ts else ts : Nat) : Int) := by
          split <;> omega
        rw [List.map_cons, List.foldl_cons, joined, inductionHypothesis, List.foldl_cons]
  have start := general msgs 0
  rwa [Nat.cast_zero, max_eq_left lower] at start

theorem foldl_max_lt {times : List Int} {cursor bound : Int} (start : cursor < bound)
    (each : ∀ ts ∈ times, ts < bound) : times.foldl max cursor < bound := by
  induction times generalizing cursor with
  | nil => exact start
  | cons ts rest inductionHypothesis =>
      obtain ⟨first, others⟩ := List.forall_mem_cons.mp each
      exact inductionHypothesis (max_lt start first) others

theorem le_foldl_max (times : List Int) (cursor : Int) : cursor ≤ times.foldl max cursor := by
  induction times generalizing cursor with
  | nil => exact le_rfl
  | cons ts rest inductionHypothesis => exact (le_max_left _ _).trans (inductionHypothesis _)

theorem mem_le_foldl_max {times : List Int} {ts : Int} (member : ts ∈ times) (cursor : Int) :
    ts ≤ times.foldl max cursor := by
  induction times generalizing cursor with
  | nil => cases member
  | cons first rest inductionHypothesis =>
      rcases List.mem_cons.mp member with rfl | later
      · exact (le_max_right _ _).trans (le_foldl_max rest _)
      · exact inductionHypothesis later _

end Times

section Polls

variable {storage : Storage} {uid : Nat} {cursor : Int} {entry : Entry}

/-- What a poll takes is stored and newer than the cursor. -/
theorem Storage.pollBatch_newer (member : entry ∈ storage.pollBatch uid cursor) :
    entry.1 ∈ storage.messages ∧ cursor < entry.1.ts := by
  obtain ⟨chatid, -, taken⟩ := List.mem_flatMap.mp member
  have scanned := cutAt_subset _ _ taken
  rw [List.mem_reverse, List.mem_filter] at scanned
  obtain ⟨stored, newer⟩ := scanned
  simp only [Message.newer, Bool.and_eq_true, decide_eq_true_eq] at newer
  exact ⟨(List.mem_zipIdx stored).2.2 ▸ List.getElem_mem _, newer.2⟩

/-- The timestamps of a batch are those of the messages. -/
theorem Storage.pollBatch_times (lower : 0 ≤ cursor)
    (times : ∀ msg ∈ storage.messages, msg.ts < 2 ^ 63) :
    ((storage.pollBatch uid cursor).map fun entry => storage.apiForm entry.1).map
        (fun msg => (msg.ts : Int)) =
      (storage.pollBatch uid cursor).map fun entry => entry.1.ts := by
  rw [List.map_map]
  refine List.map_congr_left fun entry member => ?_
  obtain ⟨stored, newer⟩ := pollBatch_newer member
  exact toUint64_of_range (by omega) (times _ stored)

namespace ApiClient

variable {client : ApiClient} {password : Bytes}

/-- Before a batch is sent the connection polls from the cursor of its request. -/
theorem cursor_start (newest : client.newestMsgTimestamp = 0) :
    client.cursor = client.requestDetails.params.ts := by
  unfold cursor
  simp only [newest, Nat.not_lt_zero, if_false]

/-- The next cursor is not behind what was sent. -/
theorem cursor_newest (small : client.newestMsgTimestamp < 2 ^ 63) :
    ¬ toUint64 client.cursor < client.newestMsgTimestamp := by
  unfold cursor
  simp only
  split
  · rw [toTime_of_small small, toUint64_ofNat small]
    exact lt_irrefl _
  · assumption

/-- The timer sets the cursor and asks for a poll. -/
theorem timer_polls (polls : client.Polls uid password cursor) (now : Int) (expired : Nat) :
    let waited := client.timerWaitTaskResultHandler now expired
    waited.1.Polls uid password cursor ∧ waited.1.requestDetails.params.ts = cursor ∧
      waited.2.cmd = .idle ∧ waited.2.request.uid = uid ∧ waited.2.request.password = password ∧
      waited.2.request.ts = cursor := by
  intro waited
  obtain ⟨command, uidSame, passwordSame, cursorSame, small, writes⟩ := polls
  have details : waited.1.requestDetails =
      { client.requestDetails with params :=
        { client.requestDetails.params with ts := cursor } } := by
    rw [← cursorSame]
    show (if _ then _ else _) = _
    unfold ApiClient.cursor
    by_cases behind : toUint64 client.requestDetails.params.ts < client.newestMsgTimestamp
    · simp only [behind, if_true]
    · simp only [behind, if_false]
  have newest : waited.1.newestMsgTimestamp = client.newestMsgTimestamp := rfl
  have request : waited.2.request = waited.1.requestDetails.params := rfl
  have cmd : waited.2.cmd = waited.1.requestDetails.command := rfl
  have settled : waited.1.cursor = cursor := by
    have behind := cursor_newest small
    rw [cursorSame] at behind
    unfold ApiClient.cursor
    rw [details, newest]
    exact if_neg behind
  refine ⟨⟨?_, ?_, ?_, settled, newest ▸ small, writes⟩, ?_, ?_, ?_, ?_, ?_⟩
  all_goals simp only [cmd, request, details, command, uidSame, passwordSame]

/-- A batch whose write has completed moves the cursor. -/
theorem batch_polls (polls : client.Polls uid password cursor)
    (set : client.requestDetails.params.ts = cursor) (lower : 0 ≤ cursor) {msgs : List ApiMessage}
    (small : (msgs.map fun msg => (msg.ts : Int)).foldl max cursor < 2 ^ 63) :
    Polls { client with newestMsgTimestamp := maxTimestamp msgs } uid password
      ((msgs.map fun msg => (msg.ts : Int)).foldl max cursor) := by
  rw [foldl_max_eq msgs lower] at small ⊢
  obtain ⟨command, uidSame, passwordSame, -, -, writes⟩ := polls
  have bound : maxTimestamp msgs < 2 ^ 63 := by omega
  have range : (toUint64 cursor : Int) = cursor := toUint64_of_range lower (by omega)
  refine ⟨command, uidSame, passwordSame, ?_, bound, writes⟩
  unfold ApiClient.cursor
  simp only [set]
  split
  · rw [toTime_of_small bound]
    omega
  · omega

/-- The reply of a poll is written at once, if there is one. -/
theorem settle_pollReply (polls : client.Polls uid password cursor)
    (set : client.requestDetails.params.ts = cursor) (lower : 0 ≤ cursor) {msgs : List ApiMessage}
    (small : (msgs.map fun msg => (msg.ts : Int)).foldl max cursor < 2 ^ 63) (now : Int)
    (ping : Bool) :
    ∃ batches : List (List ApiMessage),
      (client.settle now (pollReply ping msgs)).1 = batches.flatMap (fun batch =>
        ((ClientCall.sendMessagesToIdleConn batch).message now).encode) ∧
      batches.flatten = msgs ∧
      (client.settle now (pollReply ping msgs)).2.Polls uid password
        ((msgs.map fun msg => (msg.ts : Int)).foldl max cursor) := by
  have moved := batch_polls polls set lower small
  have quiet := polls.writes
  obtain ⟨httpCode, newest, lastPing, details, address, reads, writes, timers⟩ := client
  obtain rfl : writes = [] := quiet
  unfold pollReply
  split
  next silent =>
    -- nothing is written, and the cursor stays
    rw [Bool.and_eq_true] at silent
    obtain rfl : msgs = [] := List.isEmpty_iff.mp silent.1
    exact ⟨[], rfl, rfl, polls⟩
  next =>
    refine ⟨[msgs], ?_, List.append_nil _, moved⟩
    rw [(settle_eq now _ rfl).1]
    rfl

end ApiClient

/-- One tick writes what the poll gives, if anything, and leaves the cursor at
the newest timestamp. -/
theorem settle_tick (sort : TimestampSort) {client : ApiClient} {password : Bytes}
    (polls : client.Polls uid password cursor) (lower : 0 ≤ cursor) (upper : cursor < 2 ^ 63)
    {tick : Tick} (serves : tick.Serves uid password) :
    let waited := client.timerWaitTaskResultHandler tick.now tick.expired
    let settled := waited.1.settle tick.now
      (serve tick.now tick.storage (processTask sort waited.2)).1
    let batch := tick.storage.pollBatch uid cursor
    ∃ batches : List (List ApiMessage),
      settled.1 = batches.flatMap (fun msgs =>
        ((ClientCall.sendMessagesToIdleConn msgs).message tick.now).encode) ∧
      batches.flatten = (batch.map fun entry => tick.storage.apiForm entry.1) ∧
      settled.2.Polls uid password ((batch.map fun entry => entry.1.ts).foldl max cursor) := by
  intro waited settled batch
  obtain ⟨waits, set, command, uidSame, passwordSame, ts⟩ :=
    ApiClient.timer_polls polls tick.now tick.expired
  have accepted : (checkPass waited.2 tick.storage).id ≠ 0 := by
    have passes := serves.accepted
    unfold checkPass at passes ⊢
    rwa [uidSame, passwordSame]
  have served := serve_poll tick.now sort command accepted
  have same := @Storage.pollBatch_times tick.storage uid cursor lower serves.times
  have small : (batch.map fun entry => entry.1.ts).foldl max cursor < 2 ^ 63 := by
    refine foldl_max_lt upper fun ts member => ?_
    obtain ⟨entry, taken, rfl⟩ := List.mem_map.mp member
    exact serves.times _ (Storage.pollBatch_newer taken).1
  rw [uidSame, ts] at served
  have reply : settled = waited.1.settle tick.now (pollReply waited.2.ping
      (batch.map fun entry => tick.storage.apiForm entry.1)) :=
    congrArg (waited.1.settle tick.now) served
  rw [reply]
  rw [← same] at small ⊢
  exact ApiClient.settle_pollReply waits set lower small tick.now waited.2.ping

/-- The batches that an idle connection writes, each with its time. -/
def idleBytes (batches : List (List ApiMessage × Int)) : Bytes :=
  batches.flatMap fun batch =>
    ((ClientCall.sendMessagesToIdleConn batch.1).message batch.2).encode

/-- The ticks write the feed, in some batches. -/
theorem serveTicks_feed (setup : Setup) {client : ApiClient} {password : Bytes} {ticks : List Tick}
    (polls : client.Polls uid password cursor) (lower : 0 ≤ cursor) (upper : cursor < 2 ^ 63)
    (serves : ∀ tick ∈ ticks, tick.Serves uid password) :
    ∃ batches : List (List ApiMessage × Int),
      serveTicks setup ticks client = idleBytes batches ∧
      (batches.map Prod.fst).flatten = (feed uid cursor ticks).flatten := by
  induction ticks generalizing client cursor with
  | nil => exact ⟨[], rfl, rfl⟩
  | cons tick rest inductionHypothesis =>
      obtain ⟨first, others⟩ := List.forall_mem_cons.mp serves
      obtain ⟨sent, written, whole, moved⟩ := settle_tick setup.sort polls lower upper first
      have next : (((tick.storage.pollBatch uid cursor).map fun entry => entry.1.ts).foldl max
          cursor) < 2 ^ 63 := by
        refine foldl_max_lt upper fun ts member => ?_
        obtain ⟨entry, taken, rfl⟩ := List.mem_map.mp member
        exact first.times _ (Storage.pollBatch_newer taken).1
      obtain ⟨later, served, covers⟩ :=
        inductionHypothesis moved (lower.trans (le_foldl_max _ _)) next others
      refine ⟨sent.map (·, tick.now) ++ later, ?_, ?_⟩
      · rw [serveTicks, written, served, idleBytes, idleBytes, List.flatMap_append,
          List.flatMap_map]
      · simp only [List.map_append, List.flatten_append, List.map_map, covers, feed,
          List.flatten_cons, ← whole]
        simp [Function.comp_def]

/-- What the feed shows is stored, and newer than all it has shown before. -/
theorem feed_mem {password : Bytes} {ticks : List Tick} (lower : 0 ≤ cursor)
    (serves : ∀ tick ∈ ticks, tick.Serves uid password) :
    ∀ batch ∈ feed uid cursor ticks, ∀ msg ∈ batch, msg.Plain ∧ cursor < msg.ts := by
  induction ticks generalizing cursor with
  | nil => exact fun batch member => absurd member List.not_mem_nil
  | cons tick rest inductionHypothesis =>
      obtain ⟨first, others⟩ := List.forall_mem_cons.mp serves
      intro batch member msg shown
      rcases List.mem_cons.mp member with rfl | later
      · obtain ⟨entry, taken, rfl⟩ := List.mem_map.mp shown
        obtain ⟨stored, newer⟩ := Storage.pollBatch_newer taken
        refine ⟨first.plain _ stored, ?_⟩
        have kept : ((tick.storage.apiForm entry.1).ts : Int) = entry.1.ts :=
          toUint64_of_range (by omega) (first.times _ stored)
        rwa [kept]
      · obtain ⟨plain, newer⟩ := inductionHypothesis (lower.trans (le_foldl_max _ cursor)) others
          batch later msg shown
        exact ⟨plain, lt_of_le_of_lt (le_foldl_max _ cursor) newer⟩

/-- The feed shows no message twice: each batch is newer than those before it. -/
theorem feed_increasing {password : Bytes} {ticks : List Tick} (lower : 0 ≤ cursor)
    (serves : ∀ tick ∈ ticks, tick.Serves uid password) :
    (feed uid cursor ticks).Pairwise fun earlier later =>
      ∀ old ∈ earlier, ∀ new ∈ later, old.ts < new.ts := by
  induction ticks generalizing cursor with
  | nil => exact .nil
  | cons tick rest inductionHypothesis =>
      obtain ⟨first, others⟩ := List.forall_mem_cons.mp serves
      refine .cons ?_ (inductionHypothesis (lower.trans (le_foldl_max _ cursor)) others)
      intro batch member old shown new newer
      obtain ⟨entry, taken, rfl⟩ := List.mem_map.mp shown
      have stored := (Storage.pollBatch_newer taken)
      have kept : ((tick.storage.apiForm entry.1).ts : Int) = entry.1.ts :=
        toUint64_of_range (by omega) (first.times _ stored.1)
      have reached := mem_le_foldl_max
        (List.mem_map_of_mem (f := fun entry : Entry => entry.1.ts) taken) cursor
      have after := (feed_mem (lower.trans (le_foldl_max _ cursor)) others batch member new
        newer).2
      omega

end Polls

section Start

variable {setup : Setup} {uid heartbit : Nat} {password : Bytes} {arrival : Arrival}
  {client : ApiClient}

/-- The acknowledgement of an idle request. -/
def idleStarted (now : Int) : WireMessage :=
  .okResponse (ApiclientUtils.okBodyOfCommand .idle now)

/-- An idle request that arrives on a new connection is acknowledged, and the
connection polls from its heartbit. -/
theorem arrive_idle (valid : (ApiRequest.idle uid heartbit password).Valid setup.passLen)
    (returned : Json.ReadsBack setup.parse (ApiRequest.idle uid heartbit password).document)
    (arrives : (ApiRequest.idle uid heartbit password).ArrivesAs arrival.reply)
    (first : client.requestDetails.params = {}) (newest : client.newestMsgTimestamp = 0)
    (idle : client.writes = []) :
    ∃ later : ApiClient, ApiClient.arrive setup arrival client = .ok (later, []) ∧
      (later.settle arrival.now []).1 = (idleStarted arrival.now).encode ∧
      (later.settle arrival.now []).2.Polls uid password heartbit := by
  have resource : Utils.lowercased arrival.reply.resource = bytes "/v1/idle" := by
    rw [arrives.resource]
    exact (by decide : Utils.lowercased (cmd2string .idle) = bytes "/v1/idle")
  obtain ⟨httpCode, newestTs, lastPing, ⟨params, command, remote, path, method⟩, address, reads,
    writes, timers⟩ := client
  obtain rfl : params = {} := first
  obtain rfl : newestTs = 0 := newest
  obtain rfl : writes = [] := idle
  have parsed : parseMeta setup.parse setup.passLen
      ⟨{}, .idle, address, bytes "/v1/idle", arrival.reply.method⟩ arrival.reply.body .idle =
        .ok (⟨(ApiRequest.idle uid heartbit password).params, .idle, address, bytes "/v1/idle",
          arrival.reply.method⟩, []) := by
    rw [arrives.body]
    exact ApiRequest.parseMeta_start valid returned
      ⟨{}, .idle, address, bytes "/v1/idle", arrival.reply.method⟩ []
  refine ⟨ApiClient.sendOkResponseAndStartIdle arrival.now arrival.expired
    ⟨httpCode, 0, lastPing, ⟨(ApiRequest.idle uid heartbit password).params, .idle, address,
      bytes "/v1/idle", arrival.reply.method⟩, address, reads, [], timers⟩, ?_,
    List.append_nil _, ?_⟩
  · unfold ApiClient.arrive ApiClient.requestFromClientReadHandler
    simp only [resource, if_true]
    unfold ApiClient.idleHandler
    simp only [parsed]
    rfl
  · exact ⟨rfl, rfl, rfl, ApiClient.cursor_start rfl, Nat.two_pow_pos 63, rfl⟩

end Start

section Replies

variable {doubles : Rapidjson.Doubles} {zlib : Zlib}

/-- What a client shows of a message. -/
def ApiMessage.shown (msg : ApiMessage) : Shown := .message msg.sender msg.recipient msg.msg

/-- A reply that fits is read by the client, whatever follows it. -/
theorem readIdleReply {body : Bytes} {stream : Stream} {rest : Bytes}
    (fits : body.length < 2 ^ 64)
    (content : stream.content = (WireMessage.okResponse body).encode ++ rest) :
    ∃ reply : HttpReply, (Reader.asyncResponse zlib stream).handled = [(.none, reply)] ∧
      (Reader.asyncResponse zlib stream).stream.content = rest ∧
      reply.status = 200 ∧ reply.body = body := by
  obtain ⟨⟨error, reply⟩, handled, ⟨noError, read, status⟩, left⟩ :=
    @Reader.asyncResponse_message zlib (.okResponse body) ⟨fits, trivial⟩ stream rest content
  refine ⟨reply, ?_, left, status, read⟩
  rw [handled]
  exact congrArg (fun error => [(error, reply)]) noError

/-- The client shows the messages of every batch. -/
theorem readIdleReplies_batches {batches : List (List ApiMessage × Int)} {stream : Stream}
    {rest : Bytes} (content : stream.content = idleBytes batches ++ rest)
    (fits : (idleBytes batches).length < 2 ^ 64)
    (plain : ∀ batch ∈ batches, ∀ msg ∈ batch.1, msg.Plain) {client : Client}
    (subscribed : client.idleState = true) :
    ∃ later left,
      client.readIdleReplies (Rapidjson.parse doubles) zlib batches.length stream =
        some (later, left) ∧
      left.content = rest ∧
      later.shown = client.shown ++ (batches.map Prod.fst).flatten.map ApiMessage.shown := by
  induction batches generalizing stream client with
  | nil => exact ⟨client, stream, rfl, content, (List.append_nil _).symm⟩
  | cons batch others inductionHypothesis =>
      obtain ⟨plainFirst, plainOthers⟩ := List.forall_mem_cons.mp plain
      rw [idleBytes, List.flatMap_cons, ← idleBytes] at content fits
      rw [List.length_append] at fits
      have bodyFits : (ApiclientUtils.okBodyOfMessages batch.1 batch.2).length < 2 ^ 64 := by
        refine lt_of_le_of_lt ?_ (lt_of_le_of_lt (Nat.le_add_right _ _) fits)
        exact (List.suffix_append _ _).length_le
      rw [List.append_assoc] at content
      obtain ⟨reply, handled, left, status, body⟩ :=
        @readIdleReply zlib _ stream _ bodyFits content
      have shows : client.onHttpIdleRead (Rapidjson.parse doubles) reply =
          .ok { client with
            shown := client.shown ++ batch.1.map ApiMessage.shown
            httpIdle := client.httpIdle.read } := by
        unfold Client.onHttpIdleRead Client.readIdle
        rw [if_neg (not_not.mpr status), if_pos subscribed, body]
        unfold Client.readMsgs
        rw [CliUtils.parseMsgResponse_okBody plainFirst (readsBack_messages doubles _ _)]
        simp [pure, Except.pure, Bind.bind, Except.bind, Client.showMsgs, ApiMessage.shown,
          CliUtils.MsgResponse.ofMessage, Function.comp_def]
      obtain ⟨later, final, read, leaves, shown⟩ := @inductionHypothesis _ left
        (lt_of_le_of_lt (Nat.le_add_left _ _) fits) plainOthers
        { client with
          shown := client.shown ++ batch.1.map ApiMessage.shown
          httpIdle := client.httpIdle.read } subscribed
      refine ⟨later, final, ?_, leaves, ?_⟩
      · rw [List.length_cons, Client.readIdleReplies, handled]
        simp only [shows]
        exact read
      · rw [shown, List.map_cons, List.flatten_cons, List.map_append, List.append_assoc]

/-- What a subscriber sees. An idle request arrives on a new connection in any
segments, and the timer of the connection ticks while the storage changes, but
goes on to accept the password. In whatever segments the answer arrives, the
client shows the feed from the heartbit on and nothing else, and the messages of
each batch are newer than those of the batches before. -/
theorem subscription_over_wire (doubles : Rapidjson.Doubles) (zlib : Zlib) (passLen : Int)
    (sort : TimestampSort) {uid heartbit : Nat} {password : Bytes} {sent : Stream}
    {connection : ApiClient}
    (submitted : (ApiRequest.idle uid heartbit password).Submitted passLen sent connection)
    (first : connection.requestDetails.params = {}) (newest : connection.newestMsgTimestamp = 0)
    (moment : Moment) {ticks : List Tick} (serves : ∀ tick ∈ ticks, tick.Serves uid password) :
    ((feed uid heartbit ticks).Pairwise fun earlier later =>
      ∀ old ∈ earlier, ∀ new ∈ later, old.ts < new.ts) ∧
    ∃ answer replies,
      serveSubscription (rapidjsonSetup doubles passLen sort) zlib moment ticks sent connection =
        some answer ∧
      (answer.length < 2 ^ 64 → ∀ (received : Stream) (rest : Bytes),
        received.content = answer ++ rest → ∀ client : Client, client.idleState = false →
          ∃ later left,
            client.readIdleReplies (Rapidjson.parse doubles) zlib replies received =
              some (later, left) ∧
            left.content = rest ∧
            later.shown =
              client.shown ++ (feed uid heartbit ticks).flatten.map ApiMessage.shown) := by
  have lower : (0 : Int) ≤ heartbit := Int.natCast_nonneg heartbit
  have upper : (heartbit : Int) < 2 ^ 63 := by
    have fits := submitted.valid.2.1
    omega
  refine ⟨feed_increasing lower serves, ?_⟩
  obtain ⟨result, handled, delivered, -⟩ := @Reader.asyncResponse_message zlib _
    (ApiRequest.wire_valid submitted.fits) sent []
    (by rw [submitted.content, ApiRequest.wire_encode, List.append_nil])
  have noError : result = (.none, result.2) := Prod.ext delivered.1 rfl
  obtain ⟨later, arrived, acknowledged, polls⟩ := @arrive_idle
    (rapidjsonSetup doubles passLen sort) uid heartbit password
    { reply := result.2, lookup := some (.ok moment.city), now := moment.now } connection
    submitted.valid
    (readsBack_request doubles _) (ApiRequest.arrivesAs delivered) first newest submitted.idle
  obtain ⟨batches, served, covers⟩ :=
    serveTicks_feed (rapidjsonSetup doubles passLen sort) polls lower upper serves
  refine ⟨(idleStarted moment.now).encode ++ idleBytes batches, batches.length + 1, ?_, ?_⟩
  · unfold serveSubscription
    rw [handled, noError]
    simp only [arrived, acknowledged, served]
  · intro fits received rest content client fresh
    rw [List.append_assoc] at content
    rw [List.length_append] at fits
    have bodyFits : (ApiclientUtils.okBodyOfCommand .idle moment.now).length < 2 ^ 64 := by
      refine lt_of_le_of_lt ?_ (lt_of_le_of_lt (Nat.le_add_right _ _) fits)
      exact (List.suffix_append _ _).length_le
    obtain ⟨reply, read, left, status, -⟩ := @readIdleReply zlib _ received _ bodyFits content
    have starts : client.onHttpIdleRead (Rapidjson.parse doubles) reply =
        .ok { client with idleState := true, httpIdle := client.httpIdle.read } := by
      unfold Client.onHttpIdleRead Client.readIdle
      rw [if_neg (not_not.mpr status), fresh]
      rfl
    have plain : ∀ batch ∈ batches, ∀ msg ∈ batch.1, msg.Plain := by
      intro batch member msg shown
      have among : msg ∈ (batches.map Prod.fst).flatten :=
        List.mem_flatten.mpr ⟨batch.1, List.mem_map_of_mem member, shown⟩
      rw [covers] at among
      obtain ⟨shownBatch, inFeed, inBatch⟩ := List.mem_flatten.mp among
      exact (feed_mem lower serves shownBatch inFeed msg inBatch).1
    obtain ⟨last, final, replies, leaves, shown⟩ := @readIdleReplies_batches doubles zlib batches
      _ rest left (lt_of_le_of_lt (Nat.le_add_left _ _) fits) plain
      { client with idleState := true, httpIdle := client.httpIdle.read } rfl
    refine ⟨last, final, ?_, leaves, ?_⟩
    · rw [Client.readIdleReplies, read]
      simp only [starts]
      exact replies
    · rw [shown, covers]

instance (msg : ApiMessage) : Decidable msg.Plain :=
  decidable_of_iff (msg.ts < 2 ^ 64 ∧ (0 : UInt8) ∉ msg.sender ∧ (0 : UInt8) ∉ msg.recipient ∧
    (0 : UInt8) ∉ msg.msg)
    ⟨fun ⟨ts, sender, recipient, text⟩ => ⟨ts, sender, recipient, text⟩,
      fun ⟨ts, sender, recipient, text⟩ => ⟨ts, sender, recipient, text⟩⟩

/-- Two users of whom the first has sent the second a greeting at each time. -/
def greeted (times : List Int) : Storage :=
  { talk (times.map fun ts => { greeting with ts }) with
    users := [created 1 (bytes "alice"), created 2 (bytes "bob")] }

/-- Of two greetings the second one comes after the first tick. -/
theorem subscription_over_wire_greetings :
    ∃ answer replies,
      serveSubscription (rapidjsonSetup Rapidjson.wholeDoubles 8 .stable) refusingZlib ⟨[], 5⟩
        [{ now := 8, storage := greeted [7] }, { now := 9, storage := greeted [7, 8] }]
        (halves (ApiRequest.idle 2 6 (bytes "Passw0rd")).encode) ApiClient.connected =
          some answer ∧
      (answer.length < 2 ^ 64 → ∀ (received : Stream) (rest : Bytes),
        received.content = answer ++ rest → ∀ client : Client, client.idleState = false →
          ∃ later left,
            client.readIdleReplies (Rapidjson.parse Rapidjson.wholeDoubles) refusingZlib replies
              received = some (later, left) ∧
            left.content = rest ∧
            later.shown = client.shown ++
              List.replicate 2 (.message (bytes "alice") (bytes "bob") (bytes "hello"))) := by
  have serves : ∀ times : List Int, times = [7] ∨ times = [7, 8] → ∀ now,
      Tick.Serves { now, storage := greeted times } 2 (bytes "Passw0rd") := by
    intro times either now
    have found : lookupUserById 2 (greeted times) = created 2 (bytes "bob") := rfl
    have accepted := @checkPass_of_found (greeted times)
      { cmd := .idle, request := { uid := 2, password := bytes "Passw0rd" } } _ found (by decide)
      (by simp only [created])
    have small : ∀ msg ∈ (greeted times).messages, msg.ts < 2 ^ 63 := by
      rcases either with rfl | rfl <;> decide
    have plain : ∀ msg ∈ (greeted times).messages, ((greeted times).apiForm msg).Plain := by
      rcases either with rfl | rfl <;> decide +kernel
    exact ⟨by rw [accepted]; decide, small, plain⟩
  have asked : (ApiRequest.idle 2 6 (bytes "Passw0rd")).Submitted 8 _ _ :=
    submitted_halves ⟨by decide, by decide, by decide +kernel⟩ (by decide +kernel)
  have both : ∀ tick ∈ [({ now := 8, storage := greeted [7] } : Tick),
      { now := 9, storage := greeted [7, 8] }], tick.Serves 2 (bytes "Passw0rd") := by
    simpa using ⟨serves _ (.inl rfl) 8, serves _ (.inr rfl) 9⟩
  obtain ⟨-, answer, replies, served, read⟩ := subscription_over_wire Rapidjson.wholeDoubles
    refusingZlib 8 .stable asked rfl rfl ⟨[], 5⟩ both
  have same : (feed 2 6 [{ now := 8, storage := greeted [7] },
      { now := 9, storage := greeted [7, 8] }]).flatten.map ApiMessage.shown =
      List.replicate 2 (.message (bytes "alice") (bytes "bob") (bytes "hello")) := by
    decide +kernel
  refine ⟨answer, replies, served, fun fits received rest content client fresh => ?_⟩
  rw [← same]
  exact read fits received rest content client fresh

end Replies

end GeoChat
