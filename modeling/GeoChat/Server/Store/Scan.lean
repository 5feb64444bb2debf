import GeoChat.Server.InMemory

/-!
# The backward scans

`getMessages` and `selectMessages` walk the messages from the newest to the
oldest with an index that goes down to `0`. Both return a newest-first filter
cut at the limit, where the limit `0` means none. `getMessages` marks what it
returns and changes nothing else.
-/

namespace GeoChat

universe u

/-- Cut a list at a limit; the limit `0` is no limit. -/
def cutAt {Alpha : Type u} (limit : Nat) (items : List Alpha) : List Alpha :=
  if limit = 0 then items else items.take limit

theorem cutAt_isPrefix {Alpha : Type u} (limit : Nat) (items : List Alpha) :
    cutAt limit items <+: items := by
  unfold cutAt
  split
  · exact List.prefix_rfl
  · exact List.take_prefix _ _

theorem cutAt_sublist {Alpha : Type u} (limit : Nat) (items : List Alpha) :
    (cutAt limit items).Sublist items :=
  (cutAt_isPrefix limit items).sublist

theorem cutAt_subset {Alpha : Type u} (limit : Nat) (items : List Alpha) :
    cutAt limit items ⊆ items :=
  (cutAt_sublist limit items).subset

theorem cutAt_of_le {Alpha : Type u} {limit : Nat} {items : List Alpha}
    (bounded : items.length ≤ limit) : cutAt limit items = items := by
  unfold cutAt
  split
  · rfl
  · exact List.take_of_length_le bounded

theorem map_cutAt {Alpha : Type u} {Beta : Type u} (limit : Nat) (shown : Alpha → Beta)
    (items : List Alpha) : (cutAt limit items).map shown = cutAt limit (items.map shown) := by
  unfold cutAt
  split
  · rfl
  · exact List.map_take

/-- A message without its flags: what no call ever changes. -/
def Message.unflagged (msg : Message) : Message := { msg with flags := .unread }

@[simp]
theorem Message.unflagged_userFrom (msg : Message) : msg.unflagged.userFrom = msg.userFrom := rfl

@[simp]
theorem Message.unflagged_chatTo (msg : Message) : msg.unflagged.chatTo = msg.chatTo := rfl

@[simp]
theorem Message.unflagged_ts (msg : Message) : msg.unflagged.ts = msg.ts := rfl

namespace InMemory

/-- The part of the result that the scan still adds: `taken` were found before. -/
def remainingCut (limit taken : Nat) (items : List Message) : List Message :=
  if limit = 0 then items else items.take (limit - taken)

theorem remainingCut_append {limit taken : Nat} {first rest : List Message}
    (within : limit = 0 ∨ taken + first.length ≤ limit) :
    remainingCut limit taken (first ++ rest) =
      first ++ remainingCut limit (taken + first.length) rest := by
  unfold remainingCut
  split
  · rfl
  · have fits : first.length ≤ limit - taken := by omega
    rw [List.take_append, List.take_of_length_le fits]
    congr 2
    omega

theorem remainingCut_full {limit taken : Nat} (full : limit ≤ taken) (nonzero : limit ≠ 0)
    (items : List Message) : remainingCut limit taken items = [] := by
  simp [remainingCut, nonzero, Nat.sub_eq_zero_of_le full]

theorem take_succ_filter_reverse (pred : Message → Bool) (messages : List Message) (i : Nat) :
    ((messages.take (i + 1)).filter pred).reverse =
      hitAt pred messages i ++ ((messages.take i).filter pred).reverse := by
  rw [List.take_add_one, List.filter_append, List.reverse_append, hitAt]
  congr 1
  cases found : messages[i]? with
  | none => rfl
  | some msg => by_cases hit : pred msg = true <;> simp [hit, Option.filter_some]

theorem hitAt_length (pred : Message → Bool) (messages : List Message) (i : Nat) :
    (hitAt pred messages i).length ≤ 1 := by
  unfold hitAt
  cases messages[i]?.filter pred <;> simp

theorem limitReached_iff (opt : GetMsgOpt) (ret : List Message) :
    limitReached opt ret = true ↔ opt.maxCount ≠ 0 ∧ opt.maxCount ≤ ret.length := by
  simp [limitReached]

theorem limitReached_nil (opt : GetMsgOpt) : limitReached opt [] = false := by
  by_cases zero : opt.maxCount = 0 <;> simp [limitReached, zero]

/-- One turn of either scan, in terms of what remains to be returned. -/
theorem scan_turn (pred : Message → Bool) (opt : GetMsgOpt) (messages ret : List Message)
    (i : Nat) (room : limitReached opt ret = false) :
    ret ++ remainingCut opt.maxCount ret.length ((messages.take (i + 1)).filter pred).reverse =
      (ret ++ hitAt pred messages i) ++
        remainingCut opt.maxCount (ret ++ hitAt pred messages i).length
          ((messages.take i).filter pred).reverse := by
  have short := hitAt_length pred messages i
  have roomLeft : ¬ (opt.maxCount ≠ 0 ∧ opt.maxCount ≤ ret.length) := by
    rw [← limitReached_iff, room]
    simp
  rw [take_succ_filter_reverse, remainingCut_append (by omega), List.append_assoc,
    List.length_append]

/-- Once the limit is reached nothing remains. -/
theorem scan_full {opt : GetMsgOpt} {ret : List Message} (full : limitReached opt ret = true)
    (items : List Message) : ret ++ remainingCut opt.maxCount ret.length items = ret := by
  rcases (limitReached_iff opt ret).mp full with ⟨nonzero, reached⟩
  rw [remainingCut_full reached nonzero, List.append_nil]

/-- The scan from index `i` returns what it had, then the cut of the matching
messages up to `i`, newest first. -/
theorem getMessagesFrom_result (chatid : Nat) (opt : GetMsgOpt) (i : Nat)
    (messages ret : List Message) (room : limitReached opt ret = false) :
    (getMessagesFrom chatid opt i messages ret).1 =
      ret ++ remainingCut opt.maxCount ret.length
        ((messages.take (i + 1)).filter (Message.newer chatid opt.ts)).reverse := by
  induction i generalizing messages ret with
  | zero =>
      rw [scan_turn _ _ _ _ _ room]
      unfold getMessagesFrom
      simp only
      split <;> simp [remainingCut]
  | succ i inductionHypothesis =>
      rw [scan_turn _ _ _ _ _ room]
      unfold getMessagesFrom
      simp only
      split
      next full => rw [scan_full full]
      next notFull =>
        rw [inductionHypothesis _ _ (by simpa using notFull)]
        -- marking index `i + 1` does not touch the indices still to be scanned
        congr 4
        split
        · rfl
        · rw [List.take_modify, List.modify_eq_self (by simp)]

/-- A start of the scan at the last index covers the whole list. -/
theorem take_last {messages : List Message} (nonempty : messages.isEmpty = false) :
    messages.take (messages.length - 1 + 1) = messages := by
  have positive : 0 < messages.length := List.length_pos_of_ne_nil (by simpa using nonempty)
  rw [Nat.sub_add_cancel positive, List.take_length]

theorem getMessages_result (chatid : Nat) (opt : GetMsgOpt) (storage : Storage) :
    (getMessages chatid opt storage).1 =
      cutAt opt.maxCount
        (storage.messages.filter (Message.newer chatid opt.ts)).reverse := by
  unfold getMessages
  split
  next empty =>
    have none : storage.messages = [] := List.isEmpty_iff.mp empty
    simp [none, cutAt]
  next nonempty =>
    rw [getMessagesFrom_result _ _ _ _ _ (limitReached_nil opt),
      take_last (by simpa using nonempty)]
    simp [remainingCut, cutAt]

theorem selectMessagesFrom_result (pred : Message → Bool) (opt : GetMsgOpt)
    (messages : List Message) (i : Nat) (ret : List Message)
    (room : limitReached opt ret = false) :
    selectMessagesFrom pred opt messages i ret =
      ret ++ remainingCut opt.maxCount ret.length
        ((messages.take (i + 1)).filter pred).reverse := by
  induction i generalizing ret with
  | zero =>
      rw [scan_turn _ _ _ _ _ room]
      unfold selectMessagesFrom
      simp only
      split <;> simp [remainingCut]
  | succ i inductionHypothesis =>
      rw [scan_turn _ _ _ _ _ room]
      unfold selectMessagesFrom
      simp only
      split
      next full => rw [scan_full full]
      next notFull => rw [inductionHypothesis _ (by simpa using notFull)]

theorem selectMessages_result (pred : Message → Bool) (opt : GetMsgOpt) (storage : Storage) :
    selectMessages pred opt storage =
      cutAt opt.maxCount (storage.messages.filter pred).reverse := by
  unfold selectMessages
  split
  next empty =>
    have none : storage.messages = [] := List.isEmpty_iff.mp empty
    simp [none, cutAt]
  next nonempty =>
    rw [selectMessagesFrom_result _ _ _ _ _ (limitReached_nil opt),
      take_last (by simpa using nonempty)]
    simp [remainingCut, cutAt]

/-- The indices below a bound whose message matches, from the last to the
first. -/
def hitsBelow (pred : Message → Bool) (messages : List Message) (bound : Nat) : List Nat :=
  ((List.range bound).filter fun i => messages[i]?.any pred).reverse

/-- The hits up to the limit, newest first. -/
def hits (pred : Message → Bool) (limit : Nat) (messages : List Message) : List Nat :=
  cutAt limit (hitsBelow pred messages messages.length)

/-- Mark the messages at some indices. -/
def markAt (indices : List Nat) (messages : List Message) : List Message :=
  messages.mapIdx fun i msg => if i ∈ indices then msg.markRead else msg

theorem getElem?_markAt (indices : List Nat) (messages : List Message) (i : Nat) :
    (markAt indices messages)[i]? =
      messages[i]?.map fun msg => if i ∈ indices then msg.markRead else msg :=
  List.getElem?_mapIdx

theorem markAt_nil (messages : List Message) : markAt [] messages = messages := by
  apply List.ext_getElem?
  intro i
  simp [getElem?_markAt]

theorem markAt_markAt (first second : List Nat) (messages : List Message) :
    markAt second (markAt first messages) = markAt (first ++ second) messages := by
  apply List.ext_getElem?
  intro i
  rw [getElem?_markAt, getElem?_markAt, getElem?_markAt, Option.map_map]
  congr 1
  funext msg
  by_cases inFirst : i ∈ first <;> by_cases inSecond : i ∈ second <;>
    simp [inFirst, inSecond, Message.markRead]

theorem markAt_unflagged (indices : List Nat) (messages : List Message) :
    (markAt indices messages).map Message.unflagged = messages.map Message.unflagged := by
  apply List.ext_getElem?
  intro i
  rw [List.getElem?_map, List.getElem?_map, getElem?_markAt, Option.map_map]
  congr 1
  funext msg
  by_cases marked : i ∈ indices <;> simp [marked, Message.unflagged, Message.markRead]

theorem markAt_single (i : Nat) (messages : List Message) :
    markAt [i] messages = messages.modify i Message.markRead := by
  apply List.ext_getElem?
  intro j
  rw [getElem?_markAt, List.getElem?_modify]
  by_cases here : j = i
  · simp [here]
  · simp [here, Ne.symm here]

theorem markAt_append_singleton (indices : List Nat) (messages : List Message) (last : Message) :
    markAt indices (messages ++ [last]) =
      markAt indices messages ++
        [if messages.length ∈ indices then last.markRead else last] :=
  List.mapIdx_concat

theorem markAt_cons_length (indices : List Nat) (messages : List Message) :
    markAt (messages.length :: indices) messages = markAt indices messages := by
  apply List.ext_getElem?
  intro i
  rw [getElem?_markAt, getElem?_markAt]
  cases found : messages[i]? with
  | none => rfl
  | some msg =>
      obtain ⟨inside, -⟩ := List.getElem?_eq_some_iff.mp found
      rw [Option.map_some, Option.map_some]
      simp only [List.mem_cons, inside.ne, false_or]

theorem hitsBelow_succ (pred : Message → Bool) (messages : List Message) (i : Nat) :
    hitsBelow pred messages (i + 1) =
      (if messages[i]?.any pred then [i] else []) ++ hitsBelow pred messages i := by
  rw [hitsBelow, List.range_succ, List.filter_append, List.reverse_append, hitsBelow]
  congr 1
  split <;> simp [*]

theorem hitsBelow_append (pred : Message → Bool) (messages rest : List Message) :
    hitsBelow pred (messages ++ rest) messages.length =
      hitsBelow pred messages messages.length := by
  unfold hitsBelow
  congr 1
  refine List.filter_congr fun i below => ?_
  rw [List.getElem?_append_left (List.mem_range.mp below)]

theorem hitsBelow_length_le (pred : Message → Bool) (messages : List Message) (bound : Nat) :
    (hitsBelow pred messages bound).length ≤ bound := by
  rw [hitsBelow, List.length_reverse]
  exact (List.length_filter_le _ _).trans_eq List.length_range

theorem lt_of_mem_hitsBelow {pred : Message → Bool} {messages : List Message} {bound i : Nat}
    (hit : i ∈ hitsBelow pred messages bound) : i < bound := by
  rw [hitsBelow, List.mem_reverse] at hit
  exact List.mem_range.mp (List.mem_of_mem_filter hit)

/-- Marks do not change what matches, when the match does not look at flags. -/
theorem hitsBelow_markAt {pred : Message → Bool}
    (flagless : ∀ msg : Message, pred msg.markRead = pred msg) (indices : List Nat)
    (messages : List Message) (bound : Nat) :
    hitsBelow pred (markAt indices messages) bound = hitsBelow pred messages bound := by
  unfold hitsBelow
  congr 2
  funext i
  rw [getElem?_markAt]
  cases messages[i]? with
  | none => rfl
  | some msg =>
    simp only [Option.map_some, Option.any_some]
    split
    · exact flagless msg
    · rfl

/-- The messages at the hits are the ones that a newest-first filter keeps. -/
theorem map_hitsBelow (pred : Message → Bool) (messages : List Message) (bound : Nat) :
    (hitsBelow pred messages bound).map (messages[·]?) =
      ((messages.take bound).filter pred).reverse.map some := by
  induction bound with
  | zero => rfl
  | succ bound inductionHypothesis =>
      rw [hitsBelow_succ, take_succ_filter_reverse, List.map_append, List.map_append,
        inductionHypothesis]
      congr 1
      unfold hitAt
      cases found : messages[bound]? with
      | none => rfl
      | some msg => by_cases hit : pred msg = true <;> simp [hit, found, Option.filter_some]

/-- One turn pushes as many messages as it marks: none, or the one at its index. -/
theorem turn_marks (pred : Message → Bool) (messages : List Message) (i : Nat) :
    ∃ first, hitsBelow pred messages (i + 1) = first ++ hitsBelow pred messages i ∧
      (hitAt pred messages i).length = first.length ∧
      (if (hitAt pred messages i).isEmpty then messages
        else messages.modify i Message.markRead) = markAt first messages := by
  refine ⟨_, hitsBelow_succ pred messages i, ?_⟩
  unfold hitAt
  cases found : messages[i]? with
  | none => simp [markAt_nil]
  | some msg => by_cases hit : pred msg = true <;> simp [hit, markAt_nil, markAt_single]

/-- The scan marks as many of the hits from the index on as it returns messages. -/
theorem getMessagesFrom_marked (chatid : Nat) (opt : GetMsgOpt) (i : Nat)
    (messages ret : List Message) :
    ∃ taken, taken <+: hitsBelow (Message.newer chatid opt.ts) messages (i + 1) ∧
      (getMessagesFrom chatid opt i messages ret).1.length = ret.length + taken.length ∧
      (getMessagesFrom chatid opt i messages ret).2 = markAt taken messages := by
  induction i generalizing messages ret with
  | zero =>
      obtain ⟨first, hits, pushed, marked⟩ := turn_marks (Message.newer chatid opt.ts) messages 0
      refine ⟨first, ?_, ?_⟩
      · rw [hits]
        exact List.prefix_append _ _
      · unfold getMessagesFrom
        simp only [marked]
        split
        · exact ⟨by rw [List.length_append, pushed], rfl⟩
        · exact ⟨by rw [List.length_append, pushed], rfl⟩
  | succ i inductionHypothesis =>
      obtain ⟨first, hits, pushed, marked⟩ :=
        turn_marks (Message.newer chatid opt.ts) messages (i + 1)
      unfold getMessagesFrom
      simp only [marked]
      split
      next full =>
        refine ⟨first, ?_, by rw [List.length_append, pushed], rfl⟩
        rw [hits]
        exact List.prefix_append _ _
      next notFull =>
        obtain ⟨taken, isPrefix, length, rest⟩ := inductionHypothesis (markAt first messages)
          (ret ++ hitAt (Message.newer chatid opt.ts) messages (i + 1))
        rw [hitsBelow_markAt fun _ => rfl] at isPrefix
        refine ⟨first ++ taken, ?_, ?_, ?_⟩
        · rw [hits]
          exact (List.prefix_append_right_inj first).mpr isPrefix
        · rw [length, List.length_append, List.length_append, pushed, Nat.add_assoc]
        · rw [rest, markAt_markAt]

theorem map_hits (pred : Message → Bool) (limit : Nat) (messages : List Message) :
    (hits pred limit messages).map (messages[·]?) =
      (cutAt limit (messages.filter pred).reverse).map some := by
  rw [hits, map_cutAt, map_hitsBelow, List.take_length, ← map_cutAt]

/-- `getMessages` marks what it returns. -/
theorem getMessages_marked (chatid : Nat) (opt : GetMsgOpt) (storage : Storage) :
    (getMessages chatid opt storage).2 =
      { storage with
        messages := markAt (hits (Message.newer chatid opt.ts) opt.maxCount storage.messages)
          storage.messages } := by
  have result := getMessages_result chatid opt storage
  have lengths := congrArg List.length
    (map_hits (Message.newer chatid opt.ts) opt.maxCount storage.messages)
  rw [List.length_map, List.length_map, ← result] at lengths
  by_cases empty : storage.messages.isEmpty = true
  · have unmarked : ∀ indices, markAt indices storage.messages = storage.messages := by
      intro indices
      rw [List.isEmpty_iff.mp empty]
      rfl
    rw [getMessages, if_pos empty, unmarked]
  · have nonempty : storage.messages.isEmpty = false := by simpa using empty
    obtain ⟨taken, isPrefix, length, marked⟩ :=
      getMessagesFrom_marked chatid opt (storage.messages.length - 1) storage.messages []
    have whole : storage.messages.length - 1 + 1 = storage.messages.length :=
      Nat.sub_add_cancel (List.length_pos_of_ne_nil (by simpa using nonempty))
    rw [whole] at isPrefix
    rw [getMessages, if_neg empty] at lengths ⊢
    simp only [length, List.length_nil, Nat.zero_add] at lengths
    have same : taken = hits (Message.newer chatid opt.ts) opt.maxCount storage.messages :=
      (List.prefix_of_prefix_length_le isPrefix (cutAt_isPrefix _ _) lengths.ge).eq_of_length
        lengths.symm
    rw [← same, ← marked]

/-- `getMessages` leaves every table but the flags of the messages alone. -/
theorem getMessages_storage (chatid : Nat) (opt : GetMsgOpt) (storage : Storage) :
    ∃ messages, (getMessages chatid opt storage).2 = { storage with messages } ∧
      messages.map Message.unflagged = storage.messages.map Message.unflagged := by
  rw [getMessages_marked]
  exact ⟨_, rfl, markAt_unflagged _ _⟩

end InMemory

/-- Both scans return a newest-first filter cut at the limit. `getMessages`
marks the messages it returns and changes nothing else, `selectMessages`
changes nothing. -/
theorem scans_newest_first (storage : Storage) (chatid : Nat) (pred : Message → Bool)
    (opt : GetMsgOpt) :
    let returned := InMemory.hits (Message.newer chatid opt.ts) opt.maxCount storage.messages
    let gets := InMemory.exec (.getMessages chatid opt) storage
    gets.1 = cutAt opt.maxCount
        (storage.messages.filter fun msg => msg.chatTo = chatid && opt.ts < msg.ts).reverse ∧
      returned.map (storage.messages[·]?) = gets.1.map some ∧
      gets.2 = { storage with messages := InMemory.markAt returned storage.messages } ∧
      InMemory.exec (.selectMessages pred opt) storage =
        (cutAt opt.maxCount (storage.messages.filter pred).reverse, storage) := by
  intro returned gets
  have result : gets.1 = _ := InMemory.getMessages_result chatid opt storage
  refine ⟨result, ?_, InMemory.getMessages_marked chatid opt storage, ?_⟩
  · rw [result]
    exact InMemory.map_hits _ _ _
  · rw [InMemory.exec, InMemory.selectMessages_result]

end GeoChat
