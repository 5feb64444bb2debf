import GeoChat.Common.Command
import GeoChat.Common.Json

/-!
# Reply bodies as the client reads them

The `parse_*` functions of `client/src/apiclient_utils.cpp`. Each returns an
error text, empty when the reply was read, and the response it filled. The
command they are given is unused. An accessor called outside its precondition
aborts the process.
-/

namespace GeoChat.CliUtils

/-- `response_t`. -/
structure Response where
  uid : Nat := 0
  chatid : Nat := 0
  heartbit : Nat := 0
  serverTs : Nat := 0
  deriving DecidableEq, Repr

/-- `msg_response_t`. -/
structure MsgResponse where
  ts : Nat := 0
  sender : Bytes := []
  recipient : Bytes := []
  msg : Bytes := []
  deriving DecidableEq, Repr

/-- `loc_response_t` and `chat_loc_response_t`. -/
structure NamesResponse where
  serverTs : Nat := 0
  names : List Bytes := []
  deriving DecidableEq, Repr

def invalidJson : Bytes := bytes "bad request, invalid json"

section Parse

variable (parse : Bytes → Option Json)

/-- One element of the array in `parse_msg_response`. -/
def readMsg (v : Json) : Checked MsgResponse := do
  let ts ← v.memberOr (bytes "ts") Json.getUint64 0
  let sender ← v.memberOr (bytes "from") Json.getString []
  let recipient ← v.memberOr (bytes "to") Json.getString []
  let msg ← v.memberOr (bytes "message") Json.getString []
  pure { ts, sender, recipient, msg }

/-- The loop of `parse_msg_response`. -/
def readMsgs : List Json → List MsgResponse → Checked (Bytes × List MsgResponse)
  | [], response => pure ([], response)
  | v :: rest, response =>
      if v.isObject then do
        let r ← readMsg v
        readMsgs rest (response ++ [r])
      else
        pure (bytes "bad format", response)

/-- `parse_msg_response`. -/
def parseMsgResponse (json : Bytes) : Checked (Bytes × List MsgResponse) :=
  match parse (cstr json) with
  | none => pure (invalidJson, [])
  | some document => do
      match ← document.findMember (bytes "msgs") with
      | none => pure (bytes "bad message", [])
      | some (.array elements) => readMsgs elements []
      | some _ => pure (bytes "bad format", [])

/-- `parse_response_aswer`. -/
def parseResponseAswer (json : Bytes) : Checked (Bytes × Response) :=
  match parse (cstr json) with
  | none => pure (invalidJson, {})
  | some document => do
      let uid ← document.memberOr (bytes "id") Json.getUint64 0
      let chatid ← document.memberOr (bytes "chatid") Json.getUint64 0
      let heartbit ← document.memberOr (bytes "heartbit") Json.getUint64 0
      let serverTs ← document.memberOr (bytes "server_ts") Json.getUint64 0
      pure ([], { uid, chatid, heartbit, serverTs })

/-- The loop over the array of names. Elements that are no objects or lack the
member are passed over. -/
def readNames (key : Bytes) : List Json → List Bytes → Checked (List Bytes)
  | [], names => pure names
  | v :: rest, names =>
      if v.isObject then do
        match ← v.findMember key with
        | none => readNames key rest names
        | some value => do
            let name ← value.getString
            readNames key rest (names ++ [name])
      else
        readNames key rest names

/-- What `parse_location_response` and `parse_chat_loc_response` do with the
names of the array and of the member of its elements. -/
def parseNames (list key json : Bytes) : Checked (Bytes × NamesResponse) :=
  match parse (cstr json) with
  | none => pure (invalidJson, {})
  | some document => do
      let serverTs ← document.memberOr (bytes "server_ts") Json.getUint64 0
      match ← document.findMember list with
      | some (.array elements) => do
          let names ← readNames key elements []
          pure ([], { serverTs, names })
      | _ => pure ([], { serverTs })

/-- `parse_location_response`. -/
def parseLocationResponse : Bytes → Checked (Bytes × NamesResponse) :=
  parseNames parse (bytes "locations") (bytes "location")

/-- `parse_chat_loc_response`. -/
def parseChatLocResponse : Bytes → Checked (Bytes × NamesResponse) :=
  parseNames parse (bytes "users") (bytes "user")

end Parse

end GeoChat.CliUtils
