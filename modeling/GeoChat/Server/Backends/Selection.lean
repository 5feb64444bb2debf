import GeoChat.Server.Backends.Passing
import GeoChat.Server.Store.History

/-!
# Selection of messages on the two backends

`MysqlConnection` gives the limit to the query and tests the messages that come
back, `InMemoryConnection` tests first and counts what matches. They select the
same messages when the limit cuts off none that would have been taken.
-/

namespace GeoChat

open Library Program

universe u

/-- There is no limit, or the newest messages within it all match, or none of
the older ones does. -/
def CutHarmless {Alpha : Type u} (pred : Alpha → Bool) (limit : Nat) (items : List Alpha) :
    Prop :=
  limit = 0 ∨ (∀ item ∈ items.reverse.take limit, pred item = true) ∨
    ∀ item ∈ items.reverse.drop limit, pred item = false

/-- To cut and then to filter is to filter and then to cut. -/
theorem filter_take_eq_iff {Alpha : Type u} (pred : Alpha → Bool) (limit : Nat)
    (items : List Alpha) :
    (items.take limit).filter pred = (items.filter pred).take limit ↔
      (∀ item ∈ items.take limit, pred item = true) ∨
        ∀ item ∈ items.drop limit, pred item = false := by
  have short : ((items.take limit).filter pred).length ≤ (items.take limit).length :=
    List.length_filter_le _ _
  have within : (items.take limit).length ≤ limit := List.length_take_le _ _
  have parts : (items.filter pred).take limit = (items.take limit).filter pred ++
      ((items.drop limit).filter pred).take
        (limit - ((items.take limit).filter pred).length) := by
    have split := congrArg (List.filter pred) (List.take_append_drop limit items).symm
    rw [split, List.filter_append, List.take_append,
      List.take_of_length_le (short.trans within)]
  rw [parts, List.self_eq_append_right, List.take_eq_nil_iff, List.filter_eq_nil_iff]
  simp only [Bool.not_eq_true]
  refine ⟨Or.imp_left ?_, fun harmless => ?_⟩
  · intro full
    refine List.length_filter_eq_length_iff.mp ?_
    omega
  · by_cases exhausted : items.length ≤ limit
    · rw [List.drop_of_length_le exhausted]
      exact .inr fun item member => absurd member List.not_mem_nil
    · refine harmless.imp_left fun all => ?_
      rw [List.length_filter_eq_length_iff.mpr all, List.length_take]
      omega

theorem filter_cutAt_eq_iff {Alpha : Type u} (pred : Alpha → Bool) (limit : Nat)
    (items : List Alpha) :
    (cutAt limit items.reverse).filter pred = cutAt limit (items.filter pred).reverse ↔
      CutHarmless pred limit items := by
  unfold CutHarmless cutAt
  rw [← List.filter_reverse]
  by_cases unlimited : limit = 0
  · rw [if_pos unlimited, if_pos unlimited]
    exact iff_of_true rfl (.inl unlimited)
  · rw [if_neg unlimited, if_neg unlimited, or_iff_right unlimited]
    exact filter_take_eq_iff pred limit items.reverse

/-- Both backends hold the same rows. -/
structure SameContent (storage : Storage) (mysql : Mysql) : Prop where
  users : storage.users = mysql.user
  chats : storage.chats = mysql.chat
  chatuser : storage.chatuser = mysql.chatuser
  messages : storage.messages = mysql.message.map MessageRow.toMessage
  increasing : mysql.message.Pairwise fun first second => first.id < second.id

/-- The backends select the same messages exactly when the limit is harmless. -/
theorem SameContent.selectMessages_iff {storage : Storage} {mysql : Mysql}
    (content : SameContent storage mysql) (pred : Message → Bool) (opt : GetMsgOpt) :
    (Mysql.selectMessages Mysql.never pred opt mysql).1 =
        InMemory.selectMessages pred opt storage ↔
      CutHarmless pred opt.maxCount storage.messages := by
  rw [Mysql.selectMessages_never pred opt content.increasing, InMemory.selectMessages_result,
    content.messages]
  exact filter_cutAt_eq_iff pred opt.maxCount _

/-- The effect has the same result on tables with the same rows, and changes
none of them. -/
def Effect.AgreesAt (now : Int) (storage : Storage) (effect : Effect) : Prop :=
  (InMemory.handle now effect storage).2 = storage ∧ ∀ mysql, SameContent storage mysql →
    (Mysql.handle Mysql.never now effect mysql).1 = (InMemory.handle now effect storage).1 ∧
      SameContent storage (Mysql.handle Mysql.never now effect mysql).2

theorem SameContent.counted {storage : Storage} {mysql : Mysql}
    (content : SameContent storage mysql) : SameContent storage mysql.counted :=
  ⟨content.users, content.chats, content.chatuser, content.messages, content.increasing⟩

theorem Effect.Lookup.agreesAt {effect : Effect} (lookup : effect.Lookup) (now : Int)
    (storage : Storage) : effect.AgreesAt now storage := by
  cases effect with
  | time => exact ⟨rfl, fun mysql content => ⟨rfl, content⟩⟩
  | client made => exact ⟨rfl, fun mysql content => ⟨rfl, content⟩⟩
  | db op =>
      cases op with
      | lookupUserById id =>
          refine ⟨rfl, fun mysql content => ⟨?_, content.counted⟩⟩
          show (mysql.user.filter fun user => user.id = id).headD {} =
            InMemory.lookupUserById id storage
          rw [InMemory.lookupUserById, content.users, ← List.head?_filter]
          cases (mysql.user.filter fun user => user.id = id) <;> rfl
      | lookupUserByName name =>
          refine ⟨rfl, fun mysql content => ⟨?_, content.counted⟩⟩
          show (mysql.user.filter fun user => user.name = name) =
            InMemory.lookupUserByName name storage
          rw [InMemory.lookupUserByName, content.users]
      | chatidsForUserId uid =>
          refine ⟨rfl, fun mysql content => ⟨?_, content.counted⟩⟩
          show (mysql.chatuser.filter fun row => row.uid = uid).map (·.chatid) =
            InMemory.chatidsForUserId uid storage
          rw [InMemory.chatidsForUserId, content.chatuser]
      | lookupChatById chatid =>
          refine ⟨rfl, fun mysql content => ⟨?_, content.counted⟩⟩
          show (mysql.chat.filter fun chat => chat.id = chatid).headD {} =
            InMemory.lookupChatById chatid storage
          rw [InMemory.lookupChatById, content.chats, ← List.head?_filter]
          cases (mysql.chat.filter fun chat => chat.id = chatid) <;> rfl
      | lookupChatByName name =>
          refine ⟨rfl, fun mysql content => ⟨?_, content.counted⟩⟩
          show (mysql.chat.filter fun chat => chat.name = name) =
            InMemory.lookupChatByName name storage
          rw [InMemory.lookupChatByName, content.chats]
      | _ => exact lookup.elim

theorem agreesAt_selectMessages {now : Int} {storage : Storage} {pred : Message → Bool}
    {opt : GetMsgOpt} (harmless : CutHarmless pred opt.maxCount storage.messages) :
    (Effect.db (.selectMessages pred opt)).AgreesAt now storage := by
  refine ⟨rfl, fun mysql content => ⟨(content.selectMessages_iff pred opt).mpr harmless, ?_⟩⟩
  show SameContent storage (Mysql.selectMessages Mysql.never pred opt mysql).2
  rw [Mysql.selectMessages_never pred opt content.increasing]
  exact content.counted

/-- Along its run over the storage, the program makes only calls on which the
backends agree. -/
def Prog.AgreesAlong {Result : Type} (now : Int) (storage : Storage) (program : Prog Result) :
    Prop :=
  ∀ exchange ∈ program.trace (InMemory.handle now) storage, exchange.1.AgreesAt now storage

section Along

variable {now : Int} {storage : Storage} {Result : Type}

theorem Prog.Lookup.agreesAlong {program : Prog Result} (lookup : program.Lookup) :
    program.AgreesAlong now storage :=
  fun _ member => Effect.Lookup.agreesAt (lookup.of_mem_trace member) now storage

theorem agreesAlong_bind {First : Type} {program : Prog First} {next : First → Prog Result}
    {result : First} (ran : program.run (InMemory.handle now) storage = (result, storage))
    (first : program.AgreesAlong now storage) (rest : (next result).AgreesAlong now storage) :
    (program >>= next : Prog Result).AgreesAlong now storage := by
  intro exchange member
  rw [trace_bind, ran] at member
  obtain early | late := List.mem_append.mp member
  · exact first exchange early
  · exact rest exchange late

theorem agreesAlong_select {pred : Message → Bool} {opt : GetMsgOpt}
    {next : List Message → Prog Result}
    (harmless : CutHarmless pred opt.maxCount storage.messages)
    (rest : (next (InMemory.selectMessages pred opt storage)).AgreesAlong now storage) :
    (Prog.db (.selectMessages pred opt) >>= next : Prog Result).AgreesAlong now storage := by
  refine agreesAlong_bind rfl ?_ rest
  intro exchange member
  rw [List.mem_singleton.mp member]
  exact agreesAt_selectMessages harmless

end Along

/-- The limit is harmless for both selections of a request for a history. -/
def HistoryHarmless (storage : Storage) (task : Task) : Prop :=
  let userFrom := InMemory.checkPass task storage
  let userTo := InMemory.checkPassByName task.request.user task false storage
  let limit := (DatabaseWorker.historyOpt task.request.count).maxCount
  CutHarmless (Message.sentTo userFrom userTo) limit storage.messages ∧
    CutHarmless (Message.sentTo userTo userFrom) limit storage.messages

theorem agreesAlong_history {now : Int} {storage : Storage} (sort : TimestampSort) {task : Task}
    (harmless : HistoryHarmless storage task) :
    (DatabaseWorker.processUserHistory sort task).AgreesAlong now storage := by
  refine agreesAlong_bind (InMemory.run_lookupCheckPass now storage task)
    (DatabaseWorker.lookup_lookupCheckPass task).agreesAlong ?_
  split
  next => exact Prog.Lookup.agreesAlong (uses_pure _ _)
  next =>
    refine agreesAlong_bind (InMemory.run_lookupCheckPassByName now storage _ task false)
      (DatabaseWorker.lookup_lookupCheckPassByName _ task false).agreesAlong ?_
    split
    next => exact Prog.Lookup.agreesAlong (uses_pure _ _)
    next =>
      refine agreesAlong_select harmless.1 (agreesAlong_select harmless.2 ?_)
      exact Prog.Lookup.agreesAlong (.bind (DatabaseWorker.lookup_toApiFormat _) fun _ =>
        lookup_client _)

/-- What a task tells its client on the tables of MySQL. -/
def Mysql.replies (now : Int) (mysql : Mysql) (program : Prog Unit) : List ClientCall :=
  (program.trace (handle never now) mysql).flatMap clientCalls

theorem SameContent.replies_eq {storage : Storage} {mysql : Mysql}
    (content : SameContent storage mysql) {now : Int} {program : Prog Unit}
    (agrees : program.AgreesAlong now storage) :
    mysql.replies now program = (InMemory.serve now storage program).1 := by
  unfold Mysql.replies
  refine congrArg (List.flatMap clientCalls) ?_
  refine trace_eq_of_agree (fun first second => first = storage ∧ SameContent storage second)
    ⟨rfl, content⟩ ?_
  rintro exchange member first second ⟨rfl, same⟩
  obtain ⟨unchanged, agree⟩ := agrees exchange member
  obtain ⟨reply, kept⟩ := agree second same
  exact ⟨reply, unchanged, kept⟩

/-- On tables with the same rows the two backends select the same messages for
a predicate and a limit if and only if the limit cuts off no message that
matches while it leaves one that does not. A request for a history for whose
two selections this is so gets the same reply. -/
theorem selectMessages_agree_iff (storage : Storage) (mysql : Mysql)
    (content : SameContent storage mysql) :
    (∀ pred opt, (Mysql.selectMessages Mysql.never pred opt mysql).1 =
        InMemory.selectMessages pred opt storage ↔
      CutHarmless pred opt.maxCount storage.messages) ∧
    ∀ sort now task, task.cmd = .userHistory → HistoryHarmless storage task →
      mysql.replies now (DatabaseWorker.processTask sort task) =
        (InMemory.serve now storage (DatabaseWorker.processTask sort task)).1 := by
  refine ⟨content.selectMessages_iff, fun sort now task command harmless => ?_⟩
  have named : DatabaseWorker.processTask sort task =
      DatabaseWorker.processUserHistory sort task := by
    unfold DatabaseWorker.processTask
    rw [command]
  rw [named]
  exact content.replies_eq (agreesAlong_history sort harmless)

section Cut

/-- A message of alice to bob, and a newer one of bob to himself. -/
def cutRows : List MessageRow :=
  [{ id := 1, userId := 1, chatId := 2, flags := .unread, time := 50, text := bytes "hello" },
    { id := 2, userId := 2, chatId := 2, flags := .unread, time := 51, text := bytes "note" },
    { id := 3, userId := 2, chatId := 2, flags := .unread, time := 52, text := bytes "note" }]

def cutStorage : Storage :=
  { twoUsers (bytes "secret_pass") (bytes "other_pass") with
    messages := cutRows.map MessageRow.toMessage }

def cutMysql : Mysql :=
  { user := cutStorage.users, chat := cutStorage.chats, chatuser := cutStorage.chatuser,
    message := cutRows }

theorem cutStorage_sameContent : SameContent cutStorage cutMysql :=
  ⟨rfl, rfl, rfl, rfl, by decide⟩

/-- A request for the history of alice with bob. -/
def cutTask (count : Nat) : Task :=
  { cmd := .userHistory
    request := { uid := 1, password := bytes "secret_pass", user := bytes "bob", count } }

/-- The query is cut before the message of alice, and the reply lacks it. -/
theorem selectMessages_differ :
    SameContent cutStorage cutMysql ∧
      (Mysql.selectMessages Mysql.never (Message.sentTo alice bob) { maxCount := 2 }
        cutMysql).1 ≠
        InMemory.selectMessages (Message.sentTo alice bob) { maxCount := 2 } cutStorage ∧
      cutMysql.replies 100 (DatabaseWorker.processTask .stable (cutTask 1)) ≠
        (InMemory.serve 100 cutStorage (DatabaseWorker.processTask .stable (cutTask 1))).1 := by
  exact ⟨cutStorage_sameContent, by decide +kernel, by decide +kernel⟩

/-- Two messages more in the request, and the backends agree. -/
theorem selectMessages_agree_three :
    (cutMysql.replies 100 (DatabaseWorker.processTask .stable (cutTask 3))).length = 1 ∧
      cutMysql.replies 100 (DatabaseWorker.processTask .stable (cutTask 3)) =
        (InMemory.serve 100 cutStorage (DatabaseWorker.processTask .stable (cutTask 3))).1 := by
  refine ⟨by decide +kernel, ?_⟩
  refine (selectMessages_agree_iff cutStorage cutMysql cutStorage_sameContent).2 .stable 100
    (cutTask 3) rfl ⟨.inr (.inr ?_), .inr (.inr ?_)⟩
  · decide +kernel
  · decide +kernel

end Cut

end GeoChat
