import GeoChat.Common.Command
import GeoChat.Common.Json

/-!
# Input lines and request bodies of the client

`input::parse` and the builders of request bodies in
`client/src/apiclient_utils.cpp`.
-/

namespace GeoChat

open Library

/-- `input::cmd_t`. -/
inductive InputCmd where
  | none
  | help
  | unchat
  | login
  | registerUser
  | registerGroup
  | chatWithUser
  | getLocations
  | chatWithLocation
  | addToGroup
  | historyUser
  | historyGroup
  | directMsgUser
  | directMsgGroup
  | statusUser
  | statusGroup
  | quit
  deriving DecidableEq, Repr

/-- `input::args_t::login` and `input::args_t::reg`. -/
structure NamePass where
  name : Bytes := []
  pass : Bytes := []
  deriving DecidableEq, Repr

structure GroupArgs where
  groupname : Bytes := []
  username : Bytes := []
  deriving DecidableEq, Repr

/-- `input::args_t::history`. The count is a `size_t`. -/
structure HistoryArgs where
  name : Bytes := []
  count : Nat := 10
  deriving DecidableEq, Repr

structure DirectArgs where
  name : Bytes := []
  message : Bytes := []
  deriving DecidableEq, Repr

/-- `input::args_t`. The structures of one name are that name. -/
structure Args where
  cmd : InputCmd := .none
  login : NamePass := {}
  reg : NamePass := {}
  chat : Bytes := []
  group : GroupArgs := {}
  history : HistoryArgs := {}
  direct : DirectArgs := {}
  status : Bytes := []
  location : Bytes := []
  deriving DecidableEq, Repr

namespace Input

/-- `\w` of the regular expression, in the C locale. -/
def isWord (byte : UInt8) : Bool :=
  (48 ≤ byte && byte ≤ 57) || (65 ≤ byte && byte ≤ 90) || (97 ≤ byte && byte ≤ 122) || byte = 95

/-- `.` of the regular expression. -/
def isDot (byte : UInt8) : Bool := byte ≠ 10 && byte ≠ 13

/-- `get_msg_after_command`: the match of `^\s*\w+\s*\w+\s*(.*)$`. Where no
second word follows the first, the first is split, and its last byte is the
second word. A shorter split leaves more to the last group, so it does not match
where the longest does not. `std::regex_match` is taken to have the stack for the
line. -/
def getMsgAfterCommand (line : Bytes) : Bytes :=
  let trimmed := line.dropWhile isspace
  let first := trimmed.takeWhile isWord
  let afterFirst := (trimmed.drop first.length).dropWhile isspace
  let second := afterFirst.takeWhile isWord
  let rest :=
    if second.isEmpty then afterFirst
    else (afterFirst.drop second.length).dropWhile isspace
  let words := first.length + second.length
  if first.isEmpty || words < 2 then []
  else if rest.all isDot then rest
  else []

/-- The number after the name, where `std::stoi` accepts it. An `int` is
assigned to a `size_t`. -/
def historyArgs (name : Bytes) (rest : List Bytes) : HistoryArgs :=
  match rest with
  | [] => { name }
  | count :: _ =>
      match stoi count with
      | none => { name }
      | some value => { name, count := toUint64 value }

/-- The commands that need two more parts. -/
def parseThree (line cmd first second : Bytes) : Args :=
  if cmd = bytes "login" then { cmd := .login, login := ⟨first, second⟩ }
  else if cmd = bytes "register" then { cmd := .registerUser, reg := ⟨first, second⟩ }
  else if cmd = bytes "direct_msg" then
    { cmd := .directMsgUser, direct := ⟨first, getMsgAfterCommand line⟩ }
  else if cmd = bytes "add_to_g" then
    { cmd := .addToGroup, group := { username := first, groupname := second } }
  else if cmd = bytes "direct_msg_g" then
    { cmd := .directMsgGroup, direct := ⟨first, getMsgAfterCommand line⟩ }
  else {}

/-- The commands that need one more part, and then the others. -/
def parseTwo (line cmd first : Bytes) (rest : List Bytes) : Args :=
  if cmd = bytes "chat_with" then { cmd := .chatWithUser, chat := first }
  else if cmd = bytes "chat_with_location" then { cmd := .chatWithLocation, location := first }
  else if cmd = bytes "register_g" then { cmd := .registerGroup, group := { groupname := first } }
  else if cmd = bytes "history" then { cmd := .historyUser, history := historyArgs first rest }
  else if cmd = bytes "history_g" then { cmd := .historyGroup, history := historyArgs first rest }
  else if cmd = bytes "status" then { cmd := .statusUser, status := first }
  else if cmd = bytes "status_g" then { cmd := .statusGroup, status := first }
  else
    match rest with
    | [] => {}
    | second :: _ => parseThree line cmd first second

/-- `input::parse`. -/
def parse (line : Bytes) : Args :=
  match Utils.split line (bytes " ") with
  | [] => {}
  | part :: parts =>
      let cmd := Utils.lowercased part
      if cmd = bytes "help" then { cmd := .help }
      else if cmd = bytes "quit" then { cmd := .quit }
      else if cmd = bytes "unchat" then { cmd := .unchat }
      else if cmd = bytes "get_locations" then { cmd := .getLocations }
      else
        match parts with
        | [] => {}
        | first :: rest => parseTwo line cmd first rest

example : parse (bytes "direct_msg bob  how are you") =
    { cmd := .directMsgUser, direct := ⟨bytes "bob", bytes "how are you"⟩ } := by
  decide +kernel

end Input

namespace CliUtils

/-- `build_user_pass_body`. -/
def buildUserPassBody (user pass : Bytes) : Bytes :=
  (Json.object [(bytes "user", .ofCString user), (bytes "password", .ofCString pass)]).write

/-- `build_user_send_msg_body`. -/
def buildUserSendMsgBody (sender ts : Nat) (recipient msg pass : Bytes) : Bytes :=
  (Json.object
    ([(bytes "uid", .uint64 sender)] ++
      (if ts ≠ 0 then [(bytes "heartbit", .uint64 ts)] else []) ++
      [(bytes "to", .ofCString recipient), (bytes "message", .ofCString msg),
        (bytes "password", .ofCString pass)])).write

/-- `build_user_history_msg_body`. -/
def buildUserHistoryMsgBody (sender : Nat) (name : Bytes) (count : Nat) (pass : Bytes) : Bytes :=
  (Json.object
    [(bytes "uid", .uint64 sender), (bytes "user", .ofCString name),
      (bytes "count", .uint64 count), (bytes "password", .ofCString pass)]).write

/-- `build_groups_msg_body`. -/
def buildGroupsMsgBody (sender : Nat) (groupname username message pass : Bytes) : Bytes :=
  (Json.object
    ([(bytes "uid", .uint64 sender), (bytes "chatname", .ofCString groupname)] ++
      (if username.isEmpty then [] else [(bytes "adduser", .ofCString username)]) ++
      (if message.isEmpty then [] else [(bytes "message", .ofCString message)]) ++
      [(bytes "password", .ofCString pass)])).write

/-- `build_location_body`. -/
def buildLocationBody (sender : Nat) (city pass : Bytes) : Bytes :=
  (Json.object
    [(bytes "uid", .uint64 sender), (bytes "city", .ofCString city),
      (bytes "password", .ofCString pass)]).write

end CliUtils

end GeoChat
