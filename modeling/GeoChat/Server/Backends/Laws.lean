import GeoChat.Server.Acknowledgement
import GeoChat.Server.Server
import GeoChat.Server.Store.Provenance

/-!
# What the server asks of a backend

The results about the whole server need little of the storage: a lookup by id
returns the user of that id, a message that is saved is stored or lost, and no
lookup by name finds a user of the id `0`. Both backends keep to this, and MySQL
whatever statements raise.
-/

namespace GeoChat

open Library

/-- What a call adds to the stored messages, where a saved message is lost or
not, -/
def DbOp.adds (form : Message → Message) (lost : Bool) : DbOp → List Message
  | .saveMessage msg => if lost then [] else [form msg]
  | _ => []

/-- and what it loses. -/
def DbOp.loses (form : Message → Message) (lost : Bool) : DbOp → List Message
  | .saveMessage msg => if lost then [form msg] else []
  | _ => []

/-- What a call of a worker loses. -/
def Effect.loses (form : Message → Message) (lost : Bool) : Effect → List Message
  | .db op => op.loses form lost
  | _ => []

theorem DbOp.adds_loses (form : Message → Message) (lost : Bool) (op : DbOp) (reply : op.Result) :
    op.adds form lost ++ op.loses form lost =
      (savedMessages ⟨.db op, reply⟩).map form := by
  cases op with
  | saveMessage msg => cases lost <;> rfl
  | _ => rfl

/-- The messages of a storage are `stored`, and a saved message becomes one of
the form `form` unless the storage `loses` it. -/
structure Backend.Stores {Store : Type} (backend : Backend Store) (stored : Store → List Message)
    (form : Message → Message) (loses : Store → Bool) : Prop where
  answered : ∀ now op store, Answered (.db op) (backend now op store).1
  adds : ∀ now op store,
    stored (backend now op store).2 = stored store ++ op.adds form (loses store)

theorem Backend.Stores.handle_answered {Store : Type} {backend : Backend Store}
    {stored : Store → List Message} {form : Message → Message} {loses : Store → Bool}
    (law : backend.Stores stored form loses) (now : Int) (effect : Effect) (store : Store) :
    Answered effect (backend.handle now effect store).1 := by
  cases effect with
  | db op => exact law.answered now op store
  | time => trivial
  | client call => trivial

/-- A lookup by name has found a user of the id `0`. -/
def SawStray (history : History) : Prop :=
  ∃ (name : Bytes) (users : List User),
    (⟨.db (.lookupUserByName name), users⟩ : Exchange Effect Effect.Reply) ∈ history ∧
      ∃ user ∈ users, user.id = 0

/-- In every schedule that the storage has room for, the lookups by name find
users of other ids only. -/
def Backend.NamesUsers {Store : Type} (backend : Backend Store) (initial : Store)
    (room : Store → Prop) : Prop :=
  ∀ sort pool, (backend.workers sort).Reaches ⟨initial, []⟩ pool → room pool.shared →
    ∀ worker ∈ pool.workers, ¬ SawStray worker.history

namespace InMemory

theorem workers_backend (sort : TimestampSort) :
    backend.workers sort = DatabaseWorker.workers sort :=
  congrArg (Pool.system (DatabaseWorker.processTask sort)) handle_backend

theorem stores : backend.Stores (fun storage => storage.messages.map Message.unflagged)
    Message.unflagged fun _ => false where
  answered := fun now op storage => handle_answered now (.db op) storage
  adds := by
    intro now op storage
    refine (handle_saves now (.db op) storage).trans (congrArg _ ?_)
    rw [← DbOp.adds_loses Message.unflagged false]
    cases op <;> rfl

/-- As long as the counters have not wrapped. -/
theorem namesUsers : backend.NamesUsers {} fun storage => storage.creations < 2 ^ 64 := by
  rintro sort pool reached room worker member ⟨name, users, saw, user, found, stray⟩
  rw [workers_backend] at reached
  have stored := (told_of_reaches reached worker member _ saw user found).2
  obtain ⟨other, present, same⟩ := List.mem_map.mp stored
  have positive := (linked_of_reaches reached room).user_ne_zero (List.mem_map_of_mem present)
  rw [← other.still_id, same, user.still_id, stray] at positive
  exact absurd positive (Nat.lt_irrefl 0)

end InMemory

namespace Sql

/-- The body keeps a property of the tables, whether it raises or not. -/
def Keeps {Result : Type} (body : Sql Result) (holds : Mysql → Prop) : Prop :=
  ∀ mysql, holds mysql → holds (body mysql).2

namespace Keeps

variable {First Second : Type} {body : Sql First} {next : First → Sql Second}
  {holds : Mysql → Prop} {raises : Nat → Bool}

theorem pure (result : First) : Keeps (Pure.pure result) holds := fun _ held => held

theorem bind (first : body.Keeps holds) (second : ∀ result, (next result).Keeps holds) :
    (body >>= next).Keeps holds := by
  intro mysql held
  have middle := first mysql held
  rcases ran : body mysql with ⟨_ | result, later⟩
  · rw [bind_none next ran]
    rwa [ran] at middle
  · rw [bind_some next ran]
    rw [ran] at middle
    exact second result later middle

theorem statement {effect : Mysql → First × Mysql}
    (counted : ∀ mysql, holds mysql → holds mysql.counted)
    (executed : ∀ mysql, holds mysql → holds (effect mysql).2) :
    (Mysql.statement raises effect).Keeps holds := by
  intro mysql held
  unfold Mysql.statement
  split
  · exact counted mysql held
  · exact executed mysql.counted (counted mysql held)

end Keeps

end Sql

namespace Mysql

open Sql (Keeps)

/-- Every statement but the insertion of a message keeps the property. -/
structure Statements (raises : Nat → Bool) (holds : Mysql → Prop) : Prop where
  counted : ∀ mysql, holds mysql → holds mysql.counted
  insertChat : ∀ name, (insertChat raises name).Keeps holds
  insertUser : ∀ now user, (insertUser raises now user).Keeps holds
  insertChatuser : ∀ uid chatid, (insertChatuser raises uid chatid).Keeps holds
  updateHeartbit : ∀ id ts, (updateHeartbit raises id ts).Keeps holds
  updateFlags : ∀ id, (updateFlags raises id).Keeps holds

variable {raises : Nat → Bool} {holds : Mysql → Prop} {mysql : Mysql}

/-- A query changes no table. -/
theorem Statements.query {Result : Type} (statements : Statements raises holds)
    (read : Mysql → Result) : (statement raises fun mysql => (read mysql, mysql)).Keeps holds :=
  .statement statements.counted fun _ held => held

theorem Statements.readRows (statements : Statements raises holds) (rows : List MessageRow)
    (ret : List Message) (held : holds mysql) : holds (readRows raises rows ret mysql).2 := by
  induction rows generalizing ret mysql with
  | nil => exact held
  | cons row rest inductionHypothesis =>
      have later := statements.updateFlags row.id mysql held
      unfold Mysql.readRows
      split
      next raised =>
        rw [raised] at later
        exact later
      next updated =>
        rw [updated] at later
        exact inductionHypothesis _ later

/-- So do all calls, but for `saveMessage`. -/
theorem Statements.exec (statements : Statements raises holds) (now : Int) {op : DbOp}
    (notSave : ∀ msg, op ≠ .saveMessage msg) (held : holds mysql) :
    holds (exec raises now op mysql).2 := by
  cases op with
  | updateUserHeartBit user ts => exact statements.updateHeartbit user.id ts mysql held
  | createUser name pass stpath ip city =>
      refine Keeps.bind (statements.query _) (fun existing => ?_) mysql held
      split
      · exact .pure _
      · exact .bind (statements.insertChat name) fun _ => .bind (statements.query _) fun _ =>
          .bind (statements.insertUser now _) fun _ => .bind (statements.query _) fun _ =>
            .bind (statements.insertChatuser _ _) fun _ => .pure _
  | createChat name uid =>
      refine Keeps.bind (statements.query _) (fun existing => ?_) mysql held
      split
      · exact .pure _
      · refine .bind (statements.insertChat name) fun _ => .bind (statements.query _) fun _ => ?_
        simp only
        split
        · exact .bind (statements.insertChatuser _ _) fun _ => .pure _
        · exact .pure _
  | lookupUserByName name => exact statements.query _ mysql held
  | lookupUserById id => exact Keeps.bind (statements.query _) (fun _ => .pure _) mysql held
  | lookupUserByCity city => exact statements.query _ mysql held
  | chatidsForUserId uid => exact Keeps.bind (statements.query _) (fun _ => .pure _) mysql held
  | lookupChatByName name => exact statements.query _ mysql held
  | lookupChatById chatid => exact Keeps.bind (statements.query _) (fun _ => .pure _) mysql held
  | uidsForChatId chatid => exact Keeps.bind (statements.query _) (fun _ => .pure _) mysql held
  | addUserToChat chat user =>
      refine Keeps.bind (statements.query _) (fun rows => ?_) mysql held
      split
      · exact .pure _
      · exact statements.insertChatuser _ _
  | saveMessage msg => exact absurd rfl (notSave msg)
  | getMessages chatid opt =>
      have selected := statements.query (fun mysql =>
        let rows := (mysql.message.filter fun row => row.chatId = chatid &&
          toUint32 opt.ts < row.time).insertionSort fun first second => second.id ≤ first.id
        if opt.maxCount = 0 then rows else rows.take opt.maxCount) mysql held
      simp only [Mysql.exec, getMessages]
      split
      next raised =>
        rw [selectMessageRows] at raised
        rw [raised] at selected
        exact selected
      next passed =>
        rw [selectMessageRows] at passed
        rw [passed] at selected
        exact statements.readRows _ _ selected
  | selectMessages pred opt =>
      exact Keeps.bind (statements.query _) (fun _ => .pure _) mysql held
  | getAllDistinctLocations =>
      exact Keeps.bind (statements.query _) (fun _ => .pure _) mysql held
  | getAllUsersFromLocation city =>
      exact Keeps.bind (statements.query _) (fun _ => .pure _) mysql held

/-- The messages of the table, without their flags. -/
def stored (mysql : Mysql) : List Message :=
  mysql.message.map fun row => row.toMessage.unflagged

/-- A message as its row shows it, without its flags. -/
def rowForm (msg : Message) : Message := { msg.unflagged with ts := toUint32 msg.ts }

theorem statements_stored (raises : Nat → Bool) (messages : List Message) :
    Statements raises fun mysql => mysql.stored = messages where
  counted := fun _ held => held
  insertChat := fun _ => .statement (fun _ held => held) fun _ held => held
  insertUser := fun _ _ => .statement (fun _ held => held) fun _ held => held
  insertChatuser := fun _ _ => .statement (fun _ held => held) fun _ held => held
  updateHeartbit := fun _ _ => .statement (fun _ held => held) fun _ held => held
  updateFlags := by
    refine fun id => .statement (fun _ held => held) fun mysql held => Eq.trans ?_ held
    unfold stored
    rw [List.map_map]
    refine List.map_congr_left fun row _ => ?_
    simp only [Function.comp]
    split <;> rfl

theorem saveMessage_stored (raises : Nat → Bool) (msg : Message) (mysql : Mysql) :
    (saveMessage raises msg mysql).2.stored =
      mysql.stored ++ if raises mysql.executed then [] else [rowForm msg] := by
  obtain ⟨lost, kept⟩ := saveMessage_message raises mysql msg
  unfold stored
  cases raised : raises mysql.executed with
  | true => rw [lost raised, if_pos rfl, List.append_nil]
  | false =>
      obtain ⟨id, inserted⟩ := kept raised
      rw [inserted, List.map_append]
      rfl

/-- A message is lost when its `INSERT` raises. -/
theorem stores (raises : Nat → Bool) :
    (backend raises).Stores stored rowForm fun mysql => raises mysql.executed where
  answered := by
    intro now op mysql
    cases op with
    | lookupUserById id =>
        show (lookupUserById raises id mysql).1.id = 0 ∨ (lookupUserById raises id mysql).1.id = id
        rw [lookupUserById_eq]
        simp only
        split
        · exact .inl rfl
        · cases found : mysql.user.filter fun user => user.id = id with
          | nil => exact .inl rfl
          | cons user rest =>
              have member : user ∈ mysql.user.filter fun user => user.id = id :=
                found ▸ List.mem_cons_self
              exact .inr (of_decide_eq_true (List.mem_filter.mp member).2)
    | _ => trivial
  adds := by
    intro now op mysql
    by_cases save : ∃ msg, op = .saveMessage msg
    · obtain ⟨msg, rfl⟩ := save
      exact saveMessage_stored raises msg mysql
    · have none : op.adds rowForm (raises mysql.executed) = [] := by
        cases op with
        | saveMessage msg => exact absurd ⟨msg, rfl⟩ save
        | _ => rfl
      rw [none, List.append_nil]
      exact (statements_stored raises _).exec now (fun msg same => save ⟨msg, same⟩) rfl

/-- The ids of the users come from the counter, which starts behind `0`. -/
structure Numbers (mysql : Mysql) : Prop where
  counter : mysql.userAutoincrement ≠ 0
  users : ∀ user ∈ mysql.user, user.id ≠ 0

theorem statements_numbers (raises : Nat → Bool) : Statements raises Numbers where
  counted := fun _ held => ⟨held.counter, held.users⟩
  insertChat := fun _ => .statement (fun _ held => ⟨held.counter, held.users⟩)
    fun _ held => ⟨held.counter, held.users⟩
  insertUser := by
    refine fun _ user => .statement (fun _ held => ⟨held.counter, held.users⟩) fun mysql held => ?_
    refine ⟨Nat.succ_ne_zero _, fun other member => ?_⟩
    rcases List.mem_append.mp member with old | new
    · exact held.users other old
    · rw [List.mem_singleton.mp new]
      exact held.counter
  insertChatuser := fun _ _ => .statement (fun _ held => ⟨held.counter, held.users⟩)
    fun _ held => ⟨held.counter, held.users⟩
  updateHeartbit := by
    refine fun id _ => .statement (fun _ held => ⟨held.counter, held.users⟩) fun mysql held => ?_
    refine ⟨held.counter, fun other member => ?_⟩
    obtain ⟨user, stored, rfl⟩ := List.mem_map.mp member
    have present := held.users user stored
    split <;> exact present
  updateFlags := fun _ => .statement (fun _ held => ⟨held.counter, held.users⟩)
    fun _ held => ⟨held.counter, held.users⟩

theorem exec_numbers (now : Int) (op : DbOp) (held : mysql.Numbers) :
    (exec raises now op mysql).2.Numbers := by
  by_cases save : ∃ msg, op = .saveMessage msg
  · obtain ⟨msg, rfl⟩ := save
    refine Keeps.statement (fun _ held => ⟨held.counter, held.users⟩) (fun _ held => ?_) mysql held
    exact ⟨held.counter, held.users⟩
  · exact (statements_numbers raises).exec now (fun msg same => save ⟨msg, same⟩) held

/-- Whatever statements raise, a lookup by name finds rows of the table. -/
theorem namesUsers (raises : Nat → Bool) {initial : Mysql} (numbers : initial.Numbers) :
    (backend raises).NamesUsers initial fun _ => True := by
  rintro sort pool reached - worker member ⟨name, users, saw, user, found, stray⟩
  have told := (@Pool.replied _ _ _ _ _ _ _ _ _ Numbers
    (fun exchange => ∀ name users, exchange = ⟨.db (.lookupUserByName name), users⟩ →
      ∀ user ∈ users, user.id ≠ 0) reached numbers ?_ ?_).2 worker member _ saw name users rfl
  · exact told user found stray
  · intro now effect mysql held
    cases effect with
    | db op => exact exec_numbers now op held
    | _ => exact held
  · rintro now effect mysql held name users same user member
    cases same
    have listed : user ∈ (lookupUserByName raises name mysql).1 := member
    rw [lookupUserByName_eq] at listed
    simp only at listed
    split at listed
    · cases listed
    · exact held.users user (List.mem_filter.mp listed).1

end Mysql

end GeoChat
