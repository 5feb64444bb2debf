import GeoChat.Common.Utils

/-!
# Commands and status codes of `common/common.hpp`
-/

namespace GeoChat

/-- `common::cmd_t`. -/
inductive Cmd where
  | messageSend
  | messageSendChat
  | userCreate
  | userLogin
  | userHistory
  | userStatus
  | getLocations
  | chatWithLocation
  | chatCreate
  | chatHistory
  | chatStatus
  | chatAdduser
  | messageRecent
  | idle
  | cmdLast
  deriving DecidableEq, Repr

/-- The value of the enumerator, as `static_cast<int>` shows it. -/
def Cmd.code : Cmd → Nat
  | .messageSend => 1
  | .messageSendChat => 2
  | .userCreate => 3
  | .userLogin => 4
  | .userHistory => 5
  | .userStatus => 6
  | .getLocations => 7
  | .chatWithLocation => 8
  | .chatCreate => 9
  | .chatHistory => 10
  | .chatStatus => 11
  | .chatAdduser => 12
  | .messageRecent => 13
  | .idle => 14
  | .cmdLast => 15

/-- `common::cmd2string`. -/
def cmd2string : Cmd → Bytes
  | .messageSend => bytes "/v1/message/send"
  | .messageSendChat => bytes "/v1/message/sendchat"
  | .userCreate => bytes "/v1/user/create"
  | .userLogin => bytes "/v1/user/login"
  | .chatCreate => bytes "/v1/chat/create"
  | .userHistory => bytes "/v1/user/history"
  | .chatHistory => bytes "/v1/group/history"
  | .userStatus => bytes "/v1/user/status"
  | .chatStatus => bytes "/v1/chat/status"
  | .chatAdduser => bytes "/v1/chat/adduser"
  | .messageRecent => bytes "/v1/message/recent"
  | .idle => bytes "/v1/idle"
  | .cmdLast => bytes "undefined_cmd"
  | .getLocations => bytes "/v1/locations"
  | .chatWithLocation => bytes "/v1/locations/users"

/-- `common::ApiStatusCode`. -/
inductive ApiStatusCode where
  | errNone
  | errBadRequest
  | errInternal
  | errNotFound
  | errConstraint
  deriving DecidableEq, Repr

def ApiStatusCode.code : ApiStatusCode → Nat
  | .errNone => 0
  | .errBadRequest => 1
  | .errInternal => 2
  | .errNotFound => 3
  | .errConstraint => 4

end GeoChat
