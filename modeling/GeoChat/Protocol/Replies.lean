import GeoChat.Client.Replies
import GeoChat.Protocol.Requests
import GeoChat.Server.Worker

/-!
# Replies of the server, read by the client

The bodies that the server builds for messages, users and sets of names are read
back by the functions of the client. That the parser gives back a written
document is the assumption about rapidjson.
-/

namespace GeoChat

namespace Json

theorem getUint64_uint64 (number : Nat) : (uint64 number).getUint64 = .ok (number % 2 ^ 64) := by
  have small : ((number % 2 ^ 64 : Nat) : Int) < 2 ^ 64 := by
    exact_mod_cast Nat.mod_lt number (by decide)
  unfold uint64
  simp only [getUint64]
  rw [if_pos ⟨Int.natCast_nonneg _, small⟩, Int.toNat_natCast]

theorem getString_ofCString {text : Bytes} (free : (0 : UInt8) ∉ text) :
    (ofCString text).getString = .ok text := by
  unfold ofCString
  rw [cstr_of_nul_not_mem free]
  simp only [getString, cstr_of_nul_not_mem free]

section Members

variable {Alpha : Type} {document value : Json} {name : Bytes}

theorem member_cons_same {members : List (Bytes × Json)} :
    (object ((name, value) :: members)).member name = some value := by
  simp [member]

theorem member_cons_other {members : List (Bytes × Json)} {other : Bytes}
    (different : other ≠ name) :
    (object ((other, value) :: members)).member name = (object members).member name := by
  simp [member, different]

theorem findMember_of_member (found : document.member name = some value) :
    document.findMember name = .ok (some value) := by
  cases document with
  | object members => exact (Json.findMember_object rfl).trans (congrArg Except.ok found)
  | _ => cases found

theorem memberOr_of_member {read : Json → Checked Alpha} {default : Alpha}
    (found : document.member name = some value) :
    document.memberOr name read default = read value := by
  unfold memberOr
  rw [findMember_of_member found]
  rfl

theorem memberOr_uint64 {number : Nat} (found : document.member name = some (uint64 number)) :
    document.memberOr name getUint64 0 = .ok (number % 2 ^ 64) :=
  (memberOr_of_member found).trans (getUint64_uint64 number)

theorem memberOr_ofCString {text : Bytes} (free : (0 : UInt8) ∉ text)
    (found : document.member name = some (ofCString text)) :
    document.memberOr name getString [] = .ok text :=
  (memberOr_of_member found).trans (getString_ofCString free)

end Members

end Json

namespace ApiclientUtils

/-- The object that stands for a message in a reply. -/
def messageDocument (msg : ApiMessage) : Json :=
  .object [(bytes "from", .ofCString msg.sender), (bytes "to", .ofCString msg.recipient),
    (bytes "message", .ofCString msg.msg), (bytes "ts", .uint64 msg.ts)]

/-- The documents whose texts the bodies are. -/
def messagesDocument (msgs : List ApiMessage) (now : Int) : Json :=
  .object [(bytes "server_ts", .uint64 (toUint64 now)),
    (bytes "msgs", .array (msgs.map messageDocument))]

def userDocument (user : User) (now : Int) : Json :=
  .object [(bytes "id", .uint64 user.id), (bytes "chatid", .uint64 user.selfChatId),
    (bytes "heartbit", .uint64 (toUint64 user.heartbit)), (bytes "name", .ofCString user.name),
    (bytes "server_ts", .uint64 (toUint64 now))]

def itemDocument (key item : Bytes) : Json := .object [(cstr key, .ofCString item)]

def itemsDocument (key : Bytes) (items : List Bytes) (now : Int) : Json :=
  .object [(bytes "server_ts", .uint64 (toUint64 now)),
    (cstr (key ++ bytes "s"), .array
      ((items.filter fun item => !item.isEmpty).map (itemDocument key)))]

theorem okBodyOfMessages_eq (msgs : List ApiMessage) (now : Int) :
    okBodyOfMessages msgs now = (messagesDocument msgs now).write := rfl

theorem okBodyOfUser_eq (user : User) (now : Int) :
    okBodyOfUser user now = (userDocument user now).write := rfl

theorem okBodyOfItems_eq (key : Bytes) (items : List Bytes) (now : Int) :
    okBodyOfItems key items now = (itemsDocument key items now).write := rfl

end ApiclientUtils

/-- A message whose strings are free of NUL, with a timestamp of 64 bits. -/
structure ApiMessage.Plain (msg : ApiMessage) : Prop where
  ts : msg.ts < 2 ^ 64
  sender : (0 : UInt8) ∉ msg.sender
  recipient : (0 : UInt8) ∉ msg.recipient
  msg : (0 : UInt8) ∉ msg.msg

namespace CliUtils

open ApiclientUtils

def MsgResponse.ofMessage (msg : ApiMessage) : MsgResponse :=
  { ts := msg.ts, sender := msg.sender, recipient := msg.recipient, msg := msg.msg }

theorem readMsg_messageDocument {msg : ApiMessage} (plain : msg.Plain) :
    readMsg (messageDocument msg) = .ok (.ofMessage msg) := by
  have ts : (messageDocument msg).memberOr (bytes "ts") Json.getUint64 0 = .ok msg.ts := by
    rw [Json.memberOr_uint64 rfl, Nat.mod_eq_of_lt plain.ts]
  have sender : (messageDocument msg).memberOr (bytes "from") Json.getString [] =
      .ok msg.sender := Json.memberOr_ofCString plain.sender rfl
  have recipient : (messageDocument msg).memberOr (bytes "to") Json.getString [] =
      .ok msg.recipient := Json.memberOr_ofCString plain.recipient rfl
  have text : (messageDocument msg).memberOr (bytes "message") Json.getString [] =
      .ok msg.msg := Json.memberOr_ofCString plain.msg rfl
  unfold readMsg
  rw [ts, sender, recipient, text]
  rfl

/-- The loop reads the messages back in their order. -/
theorem readMsgs_messageDocument {msgs : List ApiMessage} (plain : ∀ msg ∈ msgs, msg.Plain)
    (response : List MsgResponse) :
    readMsgs (msgs.map messageDocument) response =
      .ok ([], response ++ msgs.map .ofMessage) := by
  induction msgs generalizing response with
  | nil => simp [readMsgs, pure, Except.pure]
  | cons msg rest inductionHypothesis =>
      have first := readMsg_messageDocument (plain msg List.mem_cons_self)
      have others := inductionHypothesis
        (fun other member => plain other (List.mem_cons_of_mem _ member))
        (response ++ [.ofMessage msg])
      have object : (messageDocument msg).isObject = true := rfl
      rw [List.map_cons, readMsgs, if_pos object, first]
      rw [List.append_assoc, List.singleton_append, ← List.map_cons] at others
      exact others

variable {parse : Bytes → Option Json}

theorem parseMsgResponse_okBody {msgs : List ApiMessage} {now : Int}
    (plain : ∀ msg ∈ msgs, msg.Plain)
    (returned : Json.ReadsBack parse (messagesDocument msgs now)) :
    parseMsgResponse parse (okBodyOfMessages msgs now) = .ok ([], msgs.map .ofMessage) := by
  have array : (messagesDocument msgs now).member (bytes "msgs") =
      some (.array (msgs.map messageDocument)) := rfl
  unfold parseMsgResponse
  rw [okBodyOfMessages_eq, Json.cstr_write, returned]
  simp only
  rw [Json.findMember_of_member array]
  exact readMsgs_messageDocument plain []

theorem parseResponseAswer_okBody {user : User} {now : Int}
    (returned : Json.ReadsBack parse (userDocument user now)) :
    parseResponseAswer parse (okBodyOfUser user now) =
      .ok ([], ⟨user.id % 2 ^ 64, user.selfChatId % 2 ^ 64, toUint64 user.heartbit % 2 ^ 64,
        toUint64 now % 2 ^ 64⟩) := by
  unfold parseResponseAswer
  rw [okBodyOfUser_eq, Json.cstr_write, returned]
  simp only
  have uid : (userDocument user now).memberOr (bytes "id") Json.getUint64 0 =
      .ok (user.id % 2 ^ 64) := Json.memberOr_uint64 rfl
  have chatid : (userDocument user now).memberOr (bytes "chatid") Json.getUint64 0 =
      .ok (user.selfChatId % 2 ^ 64) := Json.memberOr_uint64 rfl
  have heartbit : (userDocument user now).memberOr (bytes "heartbit") Json.getUint64 0 =
      .ok (toUint64 user.heartbit % 2 ^ 64) := Json.memberOr_uint64 rfl
  have serverTs : (userDocument user now).memberOr (bytes "server_ts") Json.getUint64 0 =
      .ok (toUint64 now % 2 ^ 64) := Json.memberOr_uint64 rfl
  rw [uid, chatid, heartbit, serverTs]
  rfl

/-- The loop reads the names back in their order. -/
theorem readNames_itemDocument {key : Bytes} (keyFree : (0 : UInt8) ∉ key) (items : List Bytes)
    (free : ∀ item ∈ items, (0 : UInt8) ∉ item) (names : List Bytes) :
    readNames key (items.map (itemDocument key)) names = .ok (names ++ items) := by
  induction items generalizing names with
  | nil => simp [readNames, pure, Except.pure]
  | cons item rest inductionHypothesis =>
      have found : (itemDocument key item).findMember key = .ok (some (.ofCString item)) := by
        refine Json.findMember_of_member ?_
        unfold itemDocument
        rw [cstr_of_nul_not_mem keyFree]
        exact Json.member_cons_same
      have others := inductionHypothesis
        (fun other member => free other (List.mem_cons_of_mem _ member)) (names ++ [item])
      rw [List.append_assoc, List.singleton_append] at others
      have object : (itemDocument key item).isObject = true := rfl
      rw [List.map_cons, readNames, if_pos object, found]
      change ((Json.ofCString item).getString >>= fun name =>
        readNames key (rest.map (itemDocument key)) (names ++ [name])) = _
      rw [Json.getString_ofCString (free item List.mem_cons_self)]
      exact others

theorem parseNames_okBody {key list : Bytes} (keyFree : (0 : UInt8) ∉ key)
    (plural : cstr (key ++ bytes "s") = list) (different : bytes "server_ts" ≠ list)
    {items : List Bytes} {now : Int} (free : ∀ item ∈ items, (0 : UInt8) ∉ item)
    (returned : Json.ReadsBack parse (itemsDocument key items now)) :
    parseNames parse list key (okBodyOfItems key items now) =
      .ok ([], ⟨toUint64 now % 2 ^ 64, items.filter fun item => !item.isEmpty⟩) := by
  have array : (itemsDocument key items now).member list = some (.array
      ((items.filter fun item => !item.isEmpty).map (itemDocument key))) := by
    unfold itemsDocument
    rw [Json.member_cons_other different, plural]
    exact Json.member_cons_same
  have serverTs : (itemsDocument key items now).memberOr (bytes "server_ts") Json.getUint64 0 =
      .ok (toUint64 now % 2 ^ 64) := Json.memberOr_uint64 Json.member_cons_same
  have names := readNames_itemDocument keyFree (items.filter fun item => !item.isEmpty)
    (fun item member => free item (List.mem_of_mem_filter member)) []
  unfold parseNames
  rw [okBodyOfItems_eq, Json.cstr_write, returned]
  simp only
  rw [serverTs, Json.findMember_of_member array]
  change (readNames key _ [] >>= fun names => _) = _
  rw [names]
  rfl

/-- The names are the elements of the set that are not empty, in increasing
order. -/
def Lists (names items : List Bytes) : Prop :=
  names.Pairwise (· < ·) ∧ ∀ item, item ∈ names ↔ item ∈ items ∧ item ≠ []

theorem lists_filter {items : List Bytes} (increasing : items.Pairwise (· < ·)) :
    Lists (items.filter fun item => !item.isEmpty) items := by
  refine ⟨increasing.filter _, fun item => ?_⟩
  cases item <;> simp [List.mem_filter]

end CliUtils

open ApiclientUtils CliUtils in
/-- The client reads back the messages, the user and the names that the server
wrote, where the parser gives back the document. -/
theorem replies_understood (parse : Bytes → Option Json) (now : Int) :
    (∀ msgs : List ApiMessage, (∀ msg ∈ msgs, msg.Plain) →
      Json.ReadsBack parse (messagesDocument msgs now) →
      parseMsgResponse parse (okBodyOfMessages msgs now) = .ok ([], msgs.map .ofMessage)) ∧
    (∀ user : User, user.id < 2 ^ 64 → user.selfChatId < 2 ^ 64 → 0 ≤ user.heartbit →
      user.heartbit < 2 ^ 63 → Json.ReadsBack parse (userDocument user now) →
      ∃ resp, parseResponseAswer parse (okBodyOfUser user now) = .ok ([], resp) ∧
        resp.uid = user.id ∧ resp.chatid = user.selfChatId ∧
        (resp.heartbit : Int) = user.heartbit) ∧
    ∀ items : List Bytes, items.Pairwise (· < ·) → (∀ item ∈ items, (0 : UInt8) ∉ item) →
      (Json.ReadsBack parse (itemsDocument (bytes "location") items now) →
        ∃ resp, parseLocationResponse parse (okBodyOfItems (bytes "location") items now) =
          .ok ([], resp) ∧ Lists resp.names items) ∧
      (Json.ReadsBack parse (itemsDocument (bytes "user") items now) →
        ∃ resp, parseChatLocResponse parse (okBodyOfItems (bytes "user") items now) =
          .ok ([], resp) ∧ Lists resp.names items) := by
  refine ⟨fun msgs plain returned => parseMsgResponse_okBody plain returned, ?_, ?_⟩
  · intro user idFits chatFits positive bounded returned
    refine ⟨_, parseResponseAswer_okBody returned, Nat.mod_eq_of_lt idFits,
      Nat.mod_eq_of_lt chatFits, ?_⟩
    have heartbit := toUint64_of_range positive bounded
    have small : toUint64 user.heartbit < 2 ^ 64 := by omega
    rw [Nat.mod_eq_of_lt small]
    exact heartbit
  · intro items increasing free
    constructor
    · intro returned
      exact ⟨_, parseNames_okBody (by decide +kernel) (by decide +kernel) (by decide +kernel) free
        returned, lists_filter increasing⟩
    · intro returned
      exact ⟨_, parseNames_okBody (by decide +kernel) (by decide +kernel) (by decide +kernel) free
        returned, lists_filter increasing⟩

open ApiclientUtils CliUtils in
theorem replies_understood_bob :
    let msgs : List ApiMessage := [⟨9, bytes "alice", bytes "bob", bytes "say \"hi\""⟩]
    let user : User := { id := 2, selfChatId := 2, name := bytes "bob", heartbit := 7 }
    let items := [[], bytes "Kazan", bytes "Moscow"]
    parseMsgResponse (parseOnly (messagesDocument msgs 10)) (okBodyOfMessages msgs 10) =
        .ok ([], msgs.map .ofMessage) ∧
      (∃ resp, parseResponseAswer (parseOnly (userDocument user 10)) (okBodyOfUser user 10) =
        .ok ([], resp) ∧ resp.uid = 2 ∧ resp.chatid = 2 ∧ (resp.heartbit : Int) = 7) ∧
      ∃ resp, parseLocationResponse (parseOnly (itemsDocument (bytes "location") items 10))
        (okBodyOfItems (bytes "location") items 10) = .ok ([], resp) ∧ Lists resp.names items := by
  intro msgs user items
  refine ⟨(replies_understood _ 10).1 msgs ?_ (readsBack_parseOnly _),
    (replies_understood _ 10).2.1 user (by decide) (by decide) (by decide) (by decide)
      (readsBack_parseOnly _),
    ((replies_understood _ 10).2.2 items (by decide +kernel) (by decide +kernel)).1
      (readsBack_parseOnly _)⟩
  intro msg member
  rw [List.mem_singleton.mp member]
  exact ⟨by decide, by decide +kernel, by decide +kernel, by decide +kernel⟩

end GeoChat
