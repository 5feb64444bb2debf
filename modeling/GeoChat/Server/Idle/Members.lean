import Mathlib.Data.List.Nodup
import GeoChat.Server.Idle.Poll

/-!
# A sent message reaches the members of its chat

A message that has just been stored is the newest of its chat, so a scan of the
chat takes it first. The rows of the memberships are distinct, so each chat of a
user is scanned once, and no other chat shows the message.
-/

namespace GeoChat

open Library Program InMemory DatabaseWorker

namespace Storage.Linked

variable {storage : Storage} (linked : storage.Linked)

include linked

/-- The chats that an idle task reads are those of the rows of the user. -/
theorem chatPlan_eq (uid : Nat) : storage.chatPlan uid = chatidsForUserId uid storage := by
  unfold Storage.chatPlan
  conv_rhs => rw [← List.map_id (chatidsForUserId uid storage)]
  refine List.map_congr_left fun chatid member => lookupChatById_id ?_
  obtain ⟨row, memberRow, rfl⟩ := List.mem_map.mp member
  exact linked.rowChats (List.mem_map_of_mem (List.mem_filter.mp memberRow).1)

theorem chatPlan_nodup (uid : Nat) : (storage.chatPlan uid).Nodup := by
  rw [linked.chatPlan_eq, chatidsForUserId]
  refine List.Nodup.map_on ?_ (linked.rows.filter _)
  intro first memberFirst second memberSecond same
  have firstUid := of_decide_eq_true (List.mem_filter.mp memberFirst).2
  have secondUid := of_decide_eq_true (List.mem_filter.mp memberSecond).2
  cases first
  cases second
  simp_all

theorem mem_chatPlan_iff {uid chatid : Nat} :
    chatid ∈ storage.chatPlan uid ↔ ⟨chatid, uid⟩ ∈ storage.chatuser := by
  rw [linked.chatPlan_eq, chatidsForUserId, List.mem_map]
  constructor
  · rintro ⟨⟨_, _⟩, member, rfl⟩
    obtain ⟨memberRow, same⟩ := List.mem_filter.mp member
    exact of_decide_eq_true same ▸ memberRow
  · intro row
    exact ⟨⟨chatid, uid⟩, List.mem_filter.mpr ⟨row, by simp⟩, rfl⟩

/-- No stored message comes twice in a batch. -/
theorem pollBatch_nodup (uid : Nat) (ts : Int) :
    ((storage.pollBatch uid ts).map Prod.snd).Nodup := by
  have stored : ∀ entry ∈ storage.pollBatch uid ts, storage.messages[entry.2]? = some entry.1 := by
    intro entry member
    exact List.mem_zipIdx_iff_getElem?.mp (mem_newest (mem_pollBatch member).1).1
  refine List.Nodup.map_on ?_ ?_
  · intro first memberFirst second memberSecond same
    have here := stored first memberFirst
    rw [same, stored second memberSecond, Option.some.injEq] at here
    exact Prod.ext here.symm same
  · refine List.nodup_flatMap.mpr ⟨fun chatid _ => ?_, ?_⟩
    · refine List.Nodup.sublist (cutAt_sublist _ _) ?_
      exact List.nodup_reverse.mpr ((zipIdx_nodup storage.messages).filter _)
    · refine (linked.chatPlan_nodup uid).imp fun different => ?_
      intro entry memberFirst memberSecond
      exact different ((mem_newest memberFirst).2.symm.trans (mem_newest memberSecond).2)

end Storage.Linked

/-- A message that has just been stored is among the newest of its chat. -/
theorem saved_newest {msg : Message} {ts : Int} (storage : Storage) (newer : ts < msg.ts) :
    (msg, storage.messages.length) ∈ (saveMessage msg storage).newest msg.chatTo { ts } := by
  have isNewer : msg.newer msg.chatTo ts = true := by simp [Message.newer, newer]
  have last : (saveMessage msg storage).messages.zipIdx =
      storage.messages.zipIdx ++ [(msg, storage.messages.length)] := by
    rw [saveMessage, List.zipIdx_append, List.zipIdx_singleton, Nat.zero_add]
  have taken : [(msg, storage.messages.length)].filter
      (fun entry : Entry => entry.1.newer msg.chatTo ts) = [(msg, storage.messages.length)] :=
    List.filter_cons_of_pos isNewer
  rw [Storage.newest, last, List.filter_append, taken, List.reverse_append]
  exact List.mem_cons_self

theorem saved_entry {storage : Storage} {msg : Message} {entry : Entry}
    (stored : entry ∈ (saveMessage msg storage).messages.zipIdx)
    (last : entry.2 = storage.messages.length) : entry.1 = msg := by
  have here := List.mem_zipIdx_iff_getElem?.mp stored
  rw [last, saveMessage, List.getElem?_concat_length, Option.some.injEq] at here
  exact here.symm

/-- It is in the batches of the members, and of nobody else. -/
theorem saved_mem_pollBatch_iff {storage : Storage} {msg : Message} {uid : Nat} {ts : Int}
    (linked : (saveMessage msg storage).Linked) (newer : ts < msg.ts) :
    storage.messages.length ∈ ((saveMessage msg storage).pollBatch uid ts).map Prod.snd ↔
      ⟨msg.chatTo, uid⟩ ∈ storage.chatuser := by
  constructor
  · intro member
    obtain ⟨entry, taken, same⟩ := List.mem_map.mp member
    obtain ⟨scanned, planned⟩ := Storage.mem_pollBatch taken
    rw [← saved_entry (Storage.mem_newest scanned).1 same]
    exact linked.mem_chatPlan_iff.mp planned
  · intro row
    refine List.mem_map.mpr ⟨(msg, storage.messages.length), ?_, rfl⟩
    exact List.mem_flatMap.mpr ⟨msg.chatTo, linked.mem_chatPlan_iff.mpr row,
      saved_newest storage newer⟩

/-- A guarded task that is answered with success has passed the guard. -/
theorem InMemory.guarded_answered {storage : Storage} {task : Task} {next : User → Served}
    {body : Bytes} (answered : (guarded storage task next).1 = [.sendOkResponse body]) :
    (checkPass task storage).id ≠ 0 ∧
      guarded storage task next = next (checkPass task storage) := by
  unfold guarded at answered ⊢
  split at answered
  next =>
    unfold refusal at answered
    split at answered <;> cases answered
  next accepted => exact ⟨accepted, if_neg accepted⟩

/-- The message of a send task. -/
def Task.sentMessage (task : Task) (sender : User) (target : Chat) (now : Int) : Message :=
  { userFrom := sender.id, chatTo := target.id, message := task.request.message, ts := now }

/-- The chat that a send task names: the own chat of the recipient, or the chat of
the name. -/
def Storage.Addressed (storage : Storage) (task : Task) (target : Chat) : Prop :=
  (task.cmd = .messageSend ∧ ∃ recipient,
      lookupUserByName task.request.toUser storage = [recipient] ∧
        target = recipient.selfChat) ∨
    (task.cmd = .messageSendChat ∧ lookupChatByName task.request.chat.name storage = [target])

/-- An answered send task has stored its message. -/
theorem answered_stores {sort : TimestampSort} {storage : Storage} {task : Task} {now : Int}
    (linked : storage.Linked) (sends : task.cmd = .messageSend ∨ task.cmd = .messageSendChat)
    (answered : (serve now storage (processTask sort task)).1 = [.sendOkResponse statusZero]) :
    ∃ sender ∈ storage.users, ∃ target ∈ storage.chats, sender.id = task.request.uid ∧
      storage.Addressed task target ∧
      (serve now storage (processTask sort task)).2 =
        saveMessage (task.sentMessage sender target now) storage := by
  unfold processTask at answered ⊢
  rcases sends with command | command <;> rw [command] at answered ⊢ <;> simp only at answered ⊢
  · rw [serve_processMessageSend] at answered ⊢
    obtain ⟨accepted, passed⟩ := guarded_answered answered
    rw [passed] at answered ⊢
    obtain ⟨memberSender, own⟩ := checkPass_mem storage accepted
    split at answered
    next => cases answered
    next recipient found =>
      have named : recipient ∈ lookupUserByName task.request.toUser storage := by simp [found]
      have memberRecipient := (List.mem_filter.mp named).1
      exact ⟨_, memberSender, recipient.selfChat, linked.selfChat_mem memberRecipient, own,
        .inl ⟨command, recipient, found, rfl⟩, rfl⟩
    next => cases answered
  · rw [serve_processMessageSendChat] at answered ⊢
    obtain ⟨accepted, passed⟩ := guarded_answered answered
    rw [passed] at answered ⊢
    obtain ⟨memberSender, own⟩ := checkPass_mem storage accepted
    split at answered
    next target found =>
      have named : target ∈ lookupChatByName task.request.chat.name storage := by simp [found]
      have memberTarget := (List.mem_filter.mp named).1
      exact ⟨_, memberSender, target, memberTarget, own, .inr ⟨command, found⟩, rfl⟩
    next => cases answered

/-- The message at the position is in the batch once and in the given form, or not
at all. -/
def Storage.Shows (storage : Storage) (batch : List Entry) (position : Nat) (form : ApiMessage)
    (expected : Prop) [Decidable expected] : Prop :=
  (batch.map Prod.snd).count position = (if expected then 1 else 0) ∧
    ∀ entry ∈ batch, entry.2 = position → storage.apiForm entry.1 = form

/-- The batches after a message has been stored. -/
theorem saved_shows {storage : Storage} (linked : storage.Linked) {sender : User} {target : Chat}
    (memberSender : sender ∈ storage.users) (memberTarget : target ∈ storage.chats)
    {task : Task} {now ts : Int} (uid : Nat) (newer : ts < now) :
    (saveMessage (task.sentMessage sender target now) storage).Shows
      ((saveMessage (task.sentMessage sender target now) storage).pollBatch uid ts)
      storage.messages.length
      ⟨toUint64 now, sender.name, target.name, task.request.message⟩
      (⟨target.id, uid⟩ ∈ storage.chatuser) := by
  have later := @saveMessage_linked storage linked (task.sentMessage sender target now)
    (List.mem_map_of_mem memberSender) (List.mem_map_of_mem memberTarget)
  constructor
  · rw [List.Nodup.count (later.pollBatch_nodup uid ts)]
    exact if_congr (saved_mem_pollBatch_iff later newer) rfl rfl
  · intro entry member last
    rw [saved_entry (Storage.mem_newest (Storage.mem_pollBatch member).1).1 last]
    have sentFrom : lookupUserById sender.id
        (saveMessage (task.sentMessage sender target now) storage) = sender :=
      lookupUserById_of_nodup later.userIds_nodup memberSender
    have sentTo : lookupChatById target.id
        (saveMessage (task.sentMessage sender target now) storage) = target :=
      lookupChatById_of_nodup later.chatIds_nodup memberTarget
    simp only [Storage.apiForm, Task.sentMessage] at sentFrom sentTo ⊢
    rw [sentFrom, sentTo]

/-- In every storage that any schedule of fewer than `2 ^ 64` creations reaches, a
message that is sent with success is in the next batch of each member of its chat,
once and under the names of the sender and of the chat, and in no batch of other
users. -/
theorem sent_reaches_members {sort : TimestampSort} {pool : Pool Task Effect Effect.Reply Storage}
    {task : Task} {now : Int} (reached : (workers sort).Reaches ⟨{}, []⟩ pool)
    (room : pool.shared.creations < 2 ^ 64)
    (sends : task.cmd = .messageSend ∨ task.cmd = .messageSendChat)
    (answered : (serve now pool.shared (processTask sort task)).1 =
      [.sendOkResponse statusZero]) :
    ∃ sender ∈ pool.shared.users, ∃ target ∈ pool.shared.chats,
      sender.id = task.request.uid ∧ pool.shared.Addressed task target ∧
      ∃ later, serve now pool.shared (processTask sort task) =
          ([.sendOkResponse statusZero], later) ∧
        later = saveMessage (task.sentMessage sender target now) pool.shared ∧
        ∀ user ∈ later.users, ∀ (poll : Task) (time : Int), poll.cmd = .idle →
          poll.request.uid = user.id → encryptedPass poll.request.password = user.password →
          poll.request.ts < now →
          (serve time later (processTask sort poll)).1 =
              pollReply poll.ping ((later.pollBatch user.id poll.request.ts).map fun entry =>
                later.apiForm entry.1) ∧
            later.Shows (later.pollBatch user.id poll.request.ts) pool.shared.messages.length
              ⟨toUint64 now, sender.name, target.name, task.request.message⟩
              (⟨target.id, user.id⟩ ∈ later.chatuser) := by
  have linked := linked_of_reaches reached room
  obtain ⟨sender, memberSender, target, memberTarget, own, addressed, stored⟩ :=
    answered_stores linked sends answered
  refine ⟨sender, memberSender, target, memberTarget, own, addressed, _, Prod.ext answered stored,
    rfl, ?_⟩
  intro user memberUser poll time command uid password newer
  have found : lookupUserById poll.request.uid
      (saveMessage (task.sentMessage sender target now) pool.shared) = user := by
    rw [uid]
    exact lookupUserById_of_nodup linked.userIds_nodup memberUser
  have present : user.id ≠ 0 := (linked.user_ne_zero (List.mem_map_of_mem memberUser)).ne'
  have accepted := checkPass_of_found _ found present password
  refine ⟨?_, saved_shows linked memberSender memberTarget user.id newer⟩
  rw [← uid]
  exact serve_poll time sort command (accepted ▸ present)

/-- The storage of two users of `createUserTask`. -/
def aliceAndBob : Storage :=
  { talk [] with users := [created 1 (bytes "alice"), created 2 (bytes "bob")] }

def aliceGreets : Task :=
  asUser 1 .messageSend { toUser := bytes "bob", message := bytes "hello" }

/-- A message that the first user sends to the second is in a batch of the second
and in none of the first. -/
theorem sent_reaches_bob :
    (sequence .stable).run [(createUserTask (bytes "alice"), 1), (createUserTask (bytes "bob"), 2)]
        {} = some aliceAndBob ∧
      ∃ later, serve 5 aliceAndBob (processTask .stable aliceGreets) =
          ([.sendOkResponse statusZero], later) ∧
        later.Shows (later.pollBatch 2 4) 0
          ⟨5, bytes "alice", bytes "bob", bytes "hello"⟩ True ∧
        later.Shows (later.pollBatch 1 4) 0
          ⟨5, bytes "alice", bytes "bob", bytes "hello"⟩ False := by
  have replayed : (sequence .stable).run
      [(createUserTask (bytes "alice"), 1), (createUserTask (bytes "bob"), 2)] {} =
        some aliceAndBob := by
    decide +kernel
  obtain ⟨finished, reached⟩ := workers_of_sequence (System.reaches_of_run replayed)
  have answered : (serve 5 aliceAndBob (processTask .stable aliceGreets)).1 =
      [.sendOkResponse statusZero] := by
    decide +kernel
  obtain ⟨sender, memberSender, target, -, own, addressed, later, served, rfl, each⟩ :=
    @sent_reaches_members .stable ⟨aliceAndBob, finished⟩ aliceGreets 5 reached
      (show aliceAndBob.creations < 2 ^ 64 by decide) (.inl rfl) answered
  have sentFrom : sender.name = bytes "alice" := by
    have users : sender = created 1 (bytes "alice") ∨ sender = created 2 (bytes "bob") := by
      simpa [aliceAndBob] using memberSender
    rcases users with rfl | rfl
    · rfl
    · exact absurd own (by decide)
  have sentTo : target = (created 2 (bytes "bob")).selfChat := by
    rcases addressed with ⟨-, recipient, found, rfl⟩ | ⟨command, -⟩
    · have bobs : lookupUserByName aliceGreets.request.toUser aliceAndBob =
          [created 2 (bytes "bob")] := by
        decide +kernel
      cases found.symm.trans bobs
      rfl
    · cases command
  subst sentTo
  rw [sentFrom] at each
  refine ⟨replayed, _, served, ?_, ?_⟩
  · exact (each (created 2 (bytes "bob")) (by simp [aliceAndBob, saveMessage])
      (asUser 2 .idle { ts := 4 }) 6 rfl rfl (by simp only [asUser, created]) (by decide)).2
  · exact (each (created 1 (bytes "alice")) (by simp [aliceAndBob, saveMessage])
      (asUser 1 .idle { ts := 4 }) 6 rfl rfl (by simp only [asUser, created]) (by decide)).2

/-- With `2 ^ 64` users the last one has the id `0`: what is sent to that user is
stored, and the user is a member of the chat, but no batch is made. -/
theorem sent_misses_last :
    ∃ (pool : Pool Task Effect Effect.Reply Storage) (task poll : Task) (last : User)
      (later : Storage),
      (workers .stable).Reaches ⟨{}, []⟩ pool ∧ task.cmd = .messageSend ∧
      serve 5 pool.shared (processTask .stable task) = ([.sendOkResponse statusZero], later) ∧
      pool.shared.Addressed task last.selfChat ∧ last ∈ later.users ∧
      ⟨last.selfChat.id, last.id⟩ ∈ later.chatuser ∧ poll.cmd = .idle ∧
      poll.request.uid = last.id ∧ encryptedPass poll.request.password = last.password ∧
      poll.request.ts < 5 ∧
      (serve 6 later (processTask .stable poll)).1 =
        [.sendErrorResponse 409 .errConstraint (bytes "user does not exist")] := by
  obtain ⟨pool, first, last, reached, -, foundFirst, firstId, foundLast, lastId⟩ :=
    reaches_last_user .stable
  have present : first.id ≠ 0 := by
    rw [firstId]
    decide
  have accepted : checkPass (asUser first.id .messageSend { toUser := last.name }) pool.shared =
      first :=
    checkPass_of_found _ foundFirst.byId present foundFirst.password
  have served : serve 5 pool.shared (processTask .stable
      (asUser first.id .messageSend { toUser := last.name })) =
        stored 5 pool.shared (asUser first.id .messageSend { toUser := last.name }) first.id
          last.selfChatId := by
    show serve 5 pool.shared (processMessageSend _) = _
    rw [serve_processMessageSend]
    unfold guarded
    rw [accepted, if_neg present]
    have named : lookupUserByName
        (asUser first.id .messageSend { toUser := last.name }).request.toUser pool.shared =
          [last] :=
      foundLast.byName
    simp only [named]
  refine ⟨pool, asUser first.id .messageSend { toUser := last.name }, asUser last.id .idle {}, last,
    _, reached, rfl, served, .inl ⟨rfl, last, foundLast.byName, rfl⟩, foundLast.member,
    foundLast.selfRow, rfl, rfl, foundLast.password, show (0 : Int) < 5 by decide, ?_⟩
  show (serve 6 _ (processIdle _)).1 = _
  unfold processIdle
  rw [serve_guard]
  have missing : ∀ chat text, (lookupUserById (asUser last.id .idle {}).request.uid
      (saveMessage { userFrom := first.id, chatTo := chat, message := text, ts := 5 }
        pool.shared)).id = 0 :=
    fun _ _ => (congrArg User.id foundLast.byId).trans lastId
  simp only [guarded, checkPass, refusal, missing, if_true]

end GeoChat
