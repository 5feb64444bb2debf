import GeoChat.Server.Store.History

/-!
# The history of a user with themselves

When the two users of a history are the same, both directions select the same
messages, and each of them is sent twice as far as the number asked for allows.
-/

namespace GeoChat

open Library Program InMemory

namespace TimestampSort

/-- Newer first, and one message before the others of its time. -/
def preferredLe (preferred first second : Message) : Bool :=
  second.ts < first.ts || (second.ts = first.ts && (first = preferred || second ≠ preferred))

theorem preferredLe_iff {preferred first second : Message} :
    preferredLe preferred first second = true ↔
      second.ts < first.ts ∨ second.ts = first.ts ∧ (first = preferred ∨ second ≠ preferred) := by
  simp [preferredLe]

theorem pairwise_preferredLe (preferred : Message) (msgs : List Message) :
    (msgs.mergeSort (preferredLe preferred)).Pairwise fun first second =>
      preferredLe preferred first second = true := by
  refine List.pairwise_mergeSort ?_ ?_ msgs
  · intro first second third before after
    rw [preferredLe_iff] at before after ⊢
    rcases before with newer | ⟨same, rank⟩
    · rcases after with newerStill | ⟨sameStill, -⟩
      · exact .inl (newerStill.trans newer)
      · exact .inl (sameStill.trans_lt newer)
    · rcases after with newer | ⟨sameStill, rankStill⟩
      · exact .inl (newer.trans_eq same)
      · refine .inr ⟨sameStill.trans same, ?_⟩
        rcases rankStill with isPreferred | other
        · exact .inl (rank.resolve_right (not_not.mpr isPreferred))
        · exact .inr other
  · intro first second
    rw [Bool.or_eq_true, preferredLe_iff, preferredLe_iff]
    rcases lt_trichotomy first.ts second.ts with older | same | newer
    · exact .inr (.inl older)
    · by_cases isPreferred : first = preferred
      · exact .inl (.inr ⟨same.symm, .inl isPreferred⟩)
      · exact .inr (.inr ⟨same, .inr isPreferred⟩)
    · exact .inl (.inl newer)

/-- A sort that puts one message before the others of its time. -/
def preferring (preferred : Message) : TimestampSort where
  sort msgs := msgs.mergeSort (preferredLe preferred)
  perm msgs := List.mergeSort_perm msgs _
  sorted msgs := by
    refine (pairwise_preferredLe preferred msgs).imp fun ordered => ?_
    rcases preferredLe_iff.mp ordered with newer | ⟨same, -⟩
    · exact newer.le
    · exact same.le

end TimestampSort

namespace DatabaseWorker

variable {storage : Storage} {sort : TimestampSort} {userFrom userTo : User} {count : Nat}

/-- The messages that are newer, and the copies of the message itself. -/
def ahead (msg other : Message) : Bool := msg.ts < other.ts || other == msg

theorem countP_ahead (msg : Message) (items : List Message) :
    items.countP (ahead msg) =
      items.countP (fun other => msg.ts < other.ts) + items.count msg := by
  refine countP_or ?_ items
  rintro other ⟨newer, same⟩
  rw [eq_of_beq same] at newer
  exact absurd (of_decide_eq_true newer) (lt_irrefl _)

/-- A message that is sent stands behind all the newer ones. -/
theorem count_take_le {items : List Message} (descending : Descending Message.ts items)
    (msg : Message) :
    (items.take count).count msg ≤
      count - items.countP fun other => msg.ts < other.ts := by
  by_cases member : msg ∈ items.take count
  · have newer := descending.countP_take member
    have parts := countP_ahead msg (items.take count)
    have bound : (items.take count).countP (ahead msg) ≤ count :=
      List.countP_le_length.trans (List.length_take_le _ _)
    omega
  · rw [List.count_eq_zero_of_not_mem member]
    exact Nat.zero_le _

/-- In an order that prefers the message, as many copies are sent as there is
room for behind the newer ones. -/
theorem le_count_take {msg : Message} {items sorted : List Message} (perm : sorted.Perm items)
    (ordered : sorted.Pairwise fun first second =>
      TimestampSort.preferredLe msg first second = true) :
    min (count - items.countP fun other => msg.ts < other.ts) (items.count msg) ≤
      (sorted.take count).count msg := by
  have total := countP_ahead msg items
  -- the front of the sorted list, up to the last copy of the message
  let front := min count (items.countP (ahead msg))
  have all : ∀ item ∈ sorted.take front, ahead msg item = true := by
    refine all_take_of_le_countP ?_ ordered ?_
    · intro first second before isAhead
      rw [TimestampSort.preferredLe_iff] at before
      simp only [ahead, Bool.or_eq_true, decide_eq_true_eq, beq_iff_eq] at isAhead ⊢
      rcases before with newer | ⟨same, rank⟩
      · rcases isAhead with older | rfl
        · exact .inl (older.trans newer)
        · exact .inl newer
      · rcases isAhead with older | rfl
        · exact .inl (older.trans_eq same)
        · exact .inr (rank.resolve_right (not_not.mpr rfl))
    · rw [perm.countP_eq]
      exact Nat.min_le_right _ _
  have frontLength : (sorted.take front).length = front := by
    have few : items.countP (ahead msg) ≤ items.length := List.countP_le_length
    rw [List.length_take, perm.length_eq]
    omega
  have parts := countP_ahead msg (sorted.take front)
  rw [List.countP_eq_length.mpr all, frontLength] at parts
  have newer : (sorted.take front).countP (fun other => msg.ts < other.ts) ≤
      items.countP fun other => msg.ts < other.ts := by
    rw [← perm.countP_eq]
    exact (List.take_sublist _ _).countP_le
  have longer : (sorted.take front).count msg ≤ (sorted.take count).count msg :=
    (List.take_sublist_take_left (Nat.min_le_left _ _)).count_le msg
  omega

/-- One direction of a history holds no message more often than the storage. -/
theorem count_direction_le (storage : Storage) (sender recipient : User) (count : Nat)
    (msg : Message) :
    (direction storage sender recipient count).count msg ≤
      (storage.messages.filter (Message.sentTo sender recipient)).count msg :=
  ((cutAt_sublist _ _).count_le msg).trans_eq List.count_reverse

/-- Between two users who differ nothing is repeated. -/
theorem history_count_le (differ : userFrom.Differ userTo) (msg : Message) :
    (history storage sort userFrom userTo count).count msg ≤ storage.messages.count msg := by
  calc
    (history storage sort userFrom userTo count).count msg
      ≤ (direction storage userTo userFrom count).count msg +
          (direction storage userFrom userTo count).count msg := by
        rw [history_eq, ← List.count_append]
        exact ((List.take_sublist _ _).count_le msg).trans_eq ((sort.perm _).count_eq msg)
    _ ≤ (storage.messages.filter (Message.sentTo userTo userFrom)).count msg +
          (storage.messages.filter (Message.sentTo userFrom userTo)).count msg :=
        Nat.add_le_add (count_direction_le ..) (count_direction_le ..)
    _ = (storage.conversation userFrom userTo).count msg := by
        rw [← (perm_conversation storage differ).count_eq, List.count_append, List.count_reverse,
          List.count_reverse]
    _ ≤ storage.messages.count msg := List.filter_sublist.count_le msg

/-- The two users are the same, and one of the messages to themselves that the
limit leaves is sent more often than it is stored: both copies of the selection
hold more of it, and the newer ones leave room for more. -/
def Doubled (storage : Storage) (userFrom userTo : User) (count : Nat) : Prop :=
  ¬ userFrom.Differ userTo ∧
    ∃ msg ∈ direction storage userFrom userTo count,
      storage.messages.count msg < 2 * (direction storage userFrom userTo count).count msg ∧
        2 * ((direction storage userFrom userTo count).countP fun other => msg.ts < other.ts) +
          storage.messages.count msg < count

/-- A history of a user with themselves sorts two copies of the same messages. -/
theorem history_self (same : ¬ userFrom.Differ userTo) :
    history storage sort userFrom userTo count =
      (sort.sort (direction storage userFrom userTo count ++
        direction storage userFrom userTo count)).take count := by
  unfold User.Differ at same
  push Not at same
  have pred : Message.sentTo userTo userFrom = Message.sentTo userFrom userTo := by
    funext msg
    rw [Message.sentTo, Message.sentTo, same.1, same.2]
  rw [history_eq, direction, pred]
  rfl

/-- Whatever the order of messages of one time, a history repeats nothing, unless
a message is doubled. -/
theorem history_repeats_nothing_iff (storage : Storage) (userFrom userTo : User) (count : Nat) :
    (∀ (sort : TimestampSort) (msg : Message),
        (history storage sort userFrom userTo count).count msg ≤ storage.messages.count msg) ↔
      ¬ Doubled storage userFrom userTo count := by
  by_cases differ : userFrom.Differ userTo
  · exact ⟨fun _ doubled => doubled.1 differ, fun _ sort msg => history_count_le differ msg⟩
  · constructor
    · rintro bounded ⟨-, msg, -, more, room⟩
      have sent := @le_count_take count msg _ _ ((TimestampSort.preferring msg).perm _)
        (TimestampSort.pairwise_preferredLe msg (direction storage userFrom userTo count ++
          direction storage userFrom userTo count))
      have few := bounded (.preferring msg) msg
      rw [history_self differ] at few
      rw [List.countP_append, List.count_append] at sent
      have atMost := sent.trans few
      omega
    · intro single sort msg
      rw [history_self differ]
      by_cases member : msg ∈ direction storage userFrom userTo count
      · have behind := @count_take_le count _
          (sort.sorted (direction storage userFrom userTo count ++
            direction storage userFrom userTo count)) msg
        have both := (List.take_sublist count (sort.sort (direction storage userFrom userTo count ++
          direction storage userFrom userTo count))).count_le msg
        rw [(sort.perm _).countP_eq, List.countP_append] at behind
        rw [(sort.perm _).count_eq, List.count_append] at both
        by_contra more
        refine single ⟨differ, msg, member, ?_, ?_⟩
        · omega
        · omega
      · have absent : msg ∉ (sort.sort (direction storage userFrom userTo count ++
            direction storage userFrom userTo count)).take count := by
          intro sent
          have selected := (sort.perm _).subset (List.mem_of_mem_take sent)
          exact member ((List.mem_append.mp selected).elim id id)
        rw [List.count_eq_zero_of_not_mem absent]
        exact Nat.zero_le _

end DatabaseWorker

open DatabaseWorker

/-- The reply to an accepted request for a history, whatever the order of
messages of one time, holds no stored message more often than the storage,
unless the two users are the same and a message is doubled. -/
theorem historyReply_repeats_nothing_iff {storage : Storage} {task : Task}
    {userFrom userTo : User} (asks : AsksHistory storage task userFrom userTo) (now : Int) :
    (∀ sort : TimestampSort, serve now storage (processTask sort task) =
        ([.sendMessages ((history storage sort userFrom userTo task.request.count).map
          storage.apiForm)], storage)) ∧
      ((∀ (sort : TimestampSort) (msg : Message),
          (history storage sort userFrom userTo task.request.count).count msg ≤
            storage.messages.count msg) ↔
        ¬ Doubled storage userFrom userTo task.request.count) :=
  ⟨fun sort => asks.serve sort now,
    history_repeats_nothing_iff storage userFrom userTo task.request.count⟩

/-- Between two users nothing is repeated. -/
theorem historyReply_repeats_nothing_bob :
    let storage := talk [greeting, greeting, { greeting with userFrom := 2, chatTo := 1 }]
    ∀ (sort : TimestampSort) (msg : Message),
      (history storage sort alice bob 5).count msg ≤ storage.messages.count msg := by
  intro storage
  refine ((historyReply_repeats_nothing_iff (asksHistory_bob storage.messages 5) 0).2.mpr ?_)
  exact fun doubled => doubled.1 (by decide)

/-- A note of the first user to themselves. -/
def note : Message := { userFrom := 1, chatTo := 1, message := bytes "milk", ts := 1 }

/-- The note is stored once, and sent twice. -/
theorem historyReply_doubles_note :
    let storage := talk [note]
    AsksHistory storage (aliceAsks (bytes "alice") 2) alice alice ∧
      storage.messages.count note = 1 ∧
      (history storage .stable alice alice 2).count note = 2 ∧
      serve 0 storage (processTask .stable (aliceAsks (bytes "alice") 2)) =
        ([.sendMessages ((history storage .stable alice alice 2).map storage.apiForm)],
          storage) := by
  intro storage
  have asks : AsksHistory storage (aliceAsks (bytes "alice") 2) alice alice :=
    ⟨rfl, aliceAsks_accepted [note] _ 2, by decide, rfl, by decide⟩
  have selected : direction storage alice alice 2 = [note] := by decide
  have perm := TimestampSort.stable.perm ([note] ++ [note])
  have whole : (TimestampSort.stable.sort ([note] ++ [note])).length ≤ 2 := perm.length_eq.le
  refine ⟨asks, by decide, ?_, asks.serve .stable 0⟩
  rw [history_self (by decide), selected, List.take_of_length_le whole, perm.count_eq]
  decide

end GeoChat
