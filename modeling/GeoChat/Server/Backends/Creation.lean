import GeoChat.Server.Mysql

/-!
# Interrupted creations in MySQL

`createUser` and `createChat` of `MysqlConnection` are sequences of statements
without the transaction that the comment in front of them announces. Once the
row of the chat is inserted, an exception in a later statement makes the call
return the empty object and leaves the row behind.
-/

namespace GeoChat

namespace Mysql

/-- A call that returns the id `0` leaves the tables as they were. -/
def Traceless (id : Nat) (before after : Mysql) : Prop :=
  id = 0 → after.chat = before.chat ∧ after.user = before.user ∧ after.chatuser = before.chatuser

section

variable (raises : Nat → Bool) (now : Int)

/-- The statement with the given number after the ones executed so far raises. -/
def Raises (mysql : Mysql) (number : Nat) : Prop := raises (mysql.executed + number) = true

instance (mysql : Mysql) (number : Nat) : Decidable (Raises raises mysql number) :=
  inferInstanceAs (Decidable (_ = _))

/-- The `SELECT` does not raise and finds no row, and the chat is inserted. -/
def ChatInserted (found : Bool) (mysql : Mysql) : Prop :=
  ¬ Raises raises mysql 0 ∧ found = false ∧ ¬ Raises raises mysql 1

/-- Behind the `INSERT` of the chat, `createUser` reads the id of the chat,
inserts the user, reads its id and inserts the membership. -/
def UserInterrupted (mysql : Mysql) : Prop :=
  Raises raises mysql 2 ∨ Raises raises mysql 3 ∨ Raises raises mysql 4 ∨ Raises raises mysql 5

/-- Behind the `INSERT` of the chat, `createChat` reads its id and inserts the
membership of its creator, if there is one. -/
def ChatInterrupted (uid : Nat) (mysql : Mysql) : Prop :=
  Raises raises mysql 2 ∨ 0 < uid ∧ Raises raises mysql 3

/-- The tables with the row of the chat. -/
def withChat (name : Bytes) (mysql : Mysql) : Mysql :=
  { mysql with
    chat := mysql.chat ++ [{ id := mysql.chatAutoincrement, name }]
    chatAutoincrement := mysql.chatAutoincrement + 1
    lastInsertId := mysql.chatAutoincrement
    executed := mysql.executed + 2 }

/-- What `createUser` does behind the `INSERT` of the chat. -/
def userRest (name pass stpath ip city : Bytes) : Sql User := do
  let chatId ← getLastInsertId raises
  insertUser raises now { selfChatId := chatId, name, password := pass, stpath, ip, city }
  let userId ← getLastInsertId raises
  insertChatuser raises userId chatId
  pure { id := userId, selfChatId := chatId, name, password := pass, stpath, ip, city }

/-- What `createChat` does behind the `INSERT` of the chat. -/
def chatRest (name : Bytes) (uid : Nat) : Sql Chat := do
  let chatId ← getLastInsertId raises
  if 0 < uid then
    insertChatuser raises uid chatId
  pure { id := chatId, name }

variable {raises} {mysql : Mysql}

/-- With the row of the chat in the table, only a nonzero id keeps the promise. -/
theorem traceless_iff {id : Nat} {after : Mysql} {inserted interrupted : Prop}
    (early : ¬ inserted → after.chat = mysql.chat ∧ after.user = mysql.user ∧
      after.chatuser = mysql.chatuser)
    (late : inserted → (∃ row, after.chat = mysql.chat ++ [row]) ∧ (id = 0 ↔ interrupted)) :
    Traceless id mysql after ↔ ¬ (inserted ∧ interrupted) := by
  by_cases reached : inserted
  · obtain ⟨⟨row, grown⟩, empty⟩ := late reached
    constructor
    · rintro traceless ⟨-, stopped⟩
      have same := (traceless (empty.mpr stopped)).1
      rw [grown, List.append_right_eq_self] at same
      cases same
    · intro finished isEmpty
      exact absurd ⟨reached, empty.mp isEmpty⟩ finished
  · exact ⟨fun _ both => reached both.1, fun _ _ => early reached⟩

theorem statement_bind_raising {First Second : Type} {effect : Mysql → First × Mysql}
    (next : First → Sql Second) (raised : raises mysql.executed = true) :
    (statement raises effect >>= next) mysql = (none, mysql.counted) :=
  Sql.bind_none next (statement_raising raises effect raised)

theorem statement_bind_passing {First Second : Type} {effect : Mysql → First × Mysql}
    (next : First → Sql Second) (passed : raises mysql.executed = false) :
    (statement raises effect >>= next) mysql =
      next (effect mysql.counted).1 (effect mysql.counted).2 :=
  Sql.bind_some next (statement_passing raises effect passed)

/-- The common beginning of the two calls: they stop before the first `INSERT`
has an effect, or go on from the tables with the row of the chat. -/
theorem creation_begins {Row Result : Type} (rows : Mysql → List Row)
    (reads : rows mysql.counted = rows mysql) (name : Bytes) (empty : Result)
    (rest : Sql Result) :
    let found := !(rows mysql).isEmpty
    let call := caught empty do
      let existing ← statement raises fun mysql => (rows mysql, mysql)
      if !existing.isEmpty then
        pure empty
      else do
        insertChat raises name
        rest
    (¬ ChatInserted raises found mysql → (call mysql).1 = empty ∧
        (call mysql).2.chat = mysql.chat ∧ (call mysql).2.user = mysql.user ∧
        (call mysql).2.chatuser = mysql.chatuser) ∧
      (ChatInserted raises found mysql →
        call mysql = caught empty rest (withChat name mysql)) := by
  intro found call
  cases selected : raises mysql.executed with
  | true =>
      refine ⟨fun _ => ?_, fun inserted => absurd selected inserted.1⟩
      simp only [call, caught, statement_bind_raising _ selected]
      exact ⟨rfl, rfl, rfl, rfl⟩
  | false =>
      simp only [call, caught, statement_bind_passing _ selected, reads]
      cases existing : (rows mysql).isEmpty with
      | false =>
          refine ⟨fun _ => ⟨rfl, rfl, rfl, rfl⟩, fun inserted => ?_⟩
          have free := inserted.2.1
          simp [found, existing] at free
      | true =>
          simp only [Bool.not_true, Bool.false_eq_true, if_false, insertChat]
          cases stored : raises (mysql.executed + 1) with
          | true =>
              refine ⟨fun _ => ?_, fun inserted => absurd stored inserted.2.2⟩
              rw [statement_bind_raising _ stored]
              exact ⟨rfl, rfl, rfl, rfl⟩
          | false =>
              have inserted : ChatInserted raises found mysql :=
                ⟨by simp [Raises, selected], by simp [found, existing], by simp [Raises, stored]⟩
              refine ⟨fun absent => absurd inserted absent, fun _ => ?_⟩
              rw [statement_bind_passing _ stored]
              rfl

/-- The rest of `createUser` keeps the chats, and returns the empty object when
one of its statements raises. -/
theorem userRest_outcome (name pass stpath ip city : Bytes) :
    let outcome := caught {} (userRest raises now name pass stpath ip city) mysql
    outcome.2.chat = mysql.chat ∧
      (outcome.1.id = 0 ↔ Raises raises mysql 0 ∨ Raises raises mysql 1 ∨ Raises raises mysql 2 ∨
        Raises raises mysql 3 ∨ mysql.userAutoincrement = 0) := by
  intro outcome
  simp only [Raises, outcome, caught, userRest, getLastInsertId, insertUser, insertChatuser]
  cases first : raises mysql.executed with
  | true =>
      rw [statement_bind_raising _ first]
      exact ⟨rfl, by simp⟩
  | false =>
      rw [statement_bind_passing _ first]
      cases second : raises (mysql.executed + 1) with
      | true =>
          rw [statement_bind_raising _ second]
          exact ⟨rfl, by simp⟩
      | false =>
          rw [statement_bind_passing _ second]
          cases third : raises (mysql.executed + 2) with
          | true =>
              rw [statement_bind_raising _ third]
              exact ⟨rfl, by simp⟩
          | false =>
              rw [statement_bind_passing _ third]
              cases fourth : raises (mysql.executed + 3) with
              | true =>
                  rw [statement_bind_raising _ fourth]
                  exact ⟨rfl, by simp⟩
              | false =>
                  rw [statement_bind_passing _ fourth]
                  refine ⟨rfl, ?_⟩
                  simp only [Bool.false_eq_true, false_or]
                  rfl

theorem chatRest_outcome (name : Bytes) (uid : Nat) :
    let outcome := caught {} (chatRest raises name uid) mysql
    outcome.2.chat = mysql.chat ∧
      (outcome.1.id = 0 ↔ Raises raises mysql 0 ∨ (0 < uid ∧ Raises raises mysql 1) ∨
        mysql.lastInsertId = 0) := by
  intro outcome
  simp only [Raises, outcome, caught, chatRest, getLastInsertId, insertChatuser]
  cases first : raises mysql.executed with
  | true =>
      rw [statement_bind_raising _ first]
      exact ⟨rfl, by simp⟩
  | false =>
      rw [statement_bind_passing _ first]
      by_cases created : 0 < uid
      · simp only [created, if_true]
        cases second : raises (mysql.executed + 1) with
        | true =>
            rw [statement_bind_raising _ second]
            exact ⟨rfl, by simp⟩
        | false =>
            rw [statement_bind_passing _ second]
            refine ⟨rfl, ?_⟩
            simp only [Bool.false_eq_true, and_false, false_or]
            rfl
      · simp only [created, if_false, Bool.false_eq_true, false_and, false_or]
        exact ⟨rfl, Iff.rfl⟩

@[simp]
theorem raises_withChat (name : Bytes) (number : Nat) :
    Raises raises (withChat name mysql) number ↔ Raises raises mysql (number + 2) := by
  simp only [Raises, withChat, Nat.add_assoc, Nat.add_comm 2 number]

theorem any_eq_not_isEmpty {Row : Type} (pred : Row → Bool) (rows : List Row) :
    rows.any pred = !(rows.filter pred).isEmpty := by
  rw [Bool.eq_iff_iff]
  simp

theorem createUser_traceless_iff (name pass stpath ip city : Bytes) :
    let user := mysql.createUser raises now name pass stpath ip city
    Traceless user.1.id mysql user.2 ↔
      ¬ (ChatInserted raises (mysql.user.any fun row => row.name = name) mysql ∧
        (UserInterrupted raises mysql ∨ mysql.userAutoincrement = 0)) := by
  intro user
  obtain ⟨early, late⟩ := @creation_begins raises mysql _ _
    (fun mysql => mysql.user.filter fun row => row.name = name) rfl name {}
    (userRest raises now name pass stpath ip city)
  obtain ⟨kept, empty⟩ :=
    @userRest_outcome raises now (mysql.withChat name) name pass stpath ip city
  rw [any_eq_not_isEmpty]
  refine traceless_iff (fun stopped => (early stopped).2) fun inserted => ?_
  have goesOn : user = _ := late inserted
  rw [goesOn, empty]
  refine ⟨⟨_, kept⟩, ?_⟩
  simp only [raises_withChat, UserInterrupted, or_assoc]
  exact Iff.rfl

theorem createChat_traceless_iff (name : Bytes) (uid : Nat) :
    let chat := mysql.createChat raises name uid
    Traceless chat.1.id mysql chat.2 ↔
      ¬ (ChatInserted raises (mysql.chat.any fun row => row.name = name) mysql ∧
        (ChatInterrupted raises uid mysql ∨ mysql.chatAutoincrement = 0)) := by
  intro chat
  obtain ⟨early, late⟩ := @creation_begins raises mysql _ _
    (fun mysql => mysql.chat.filter fun row => row.name = name) rfl name {}
    (chatRest raises name uid)
  obtain ⟨kept, empty⟩ := @chatRest_outcome raises (mysql.withChat name) name uid
  rw [any_eq_not_isEmpty]
  refine traceless_iff (fun stopped => (early stopped).2) fun inserted => ?_
  have goesOn : chat = _ := late inserted
  rw [goesOn, empty]
  refine ⟨⟨_, kept⟩, ?_⟩
  simp only [raises_withChat, ChatInterrupted, or_assoc]
  exact Iff.rfl

end

end Mysql

/-- A creation in MySQL that returns the empty object leaves no trace, unless the
chat was inserted and a statement behind it raises. (Ids are given from `1`
on, so that the id of a finished creation is never `0`.) -/
theorem creation_traceless_iff (raises : Nat → Bool) (now : Int) (mysql : Mysql)
    (name pass stpath ip city : Bytes) (uid : Nat) :
    let user := mysql.createUser raises now name pass stpath ip city
    let chat := mysql.createChat raises name uid
    (Mysql.Traceless user.1.id mysql user.2 ↔
        ¬ (Mysql.ChatInserted raises (mysql.user.any fun row => row.name = name) mysql ∧
          (Mysql.UserInterrupted raises mysql ∨ mysql.userAutoincrement = 0))) ∧
      (Mysql.Traceless chat.1.id mysql chat.2 ↔
        ¬ (Mysql.ChatInserted raises (mysql.chat.any fun row => row.name = name) mysql ∧
          (Mysql.ChatInterrupted raises uid mysql ∨ mysql.chatAutoincrement = 0))) := by
  exact ⟨Mysql.createUser_traceless_iff now name pass stpath ip city,
    Mysql.createChat_traceless_iff name uid⟩

/-- The name of the user is too long for its column, say: the `INSERT` into
`user` raises, and the row of the chat stays. -/
theorem creation_leaves_chat :
    let raises : Nat → Bool := (· = 3)
    let user := Mysql.createUser raises 0 (bytes "alice") [] [] [] [] {}
    user.1.id = 0 ∧ user.2.chat = [{ id := 1, name := bytes "alice" }] ∧
      ¬ Mysql.Traceless user.1.id {} user.2 := by
  refine ⟨by decide +kernel, by decide +kernel, ?_⟩
  intro traceless
  exact absurd (traceless (by decide +kernel)).1 (by decide +kernel)

end GeoChat
