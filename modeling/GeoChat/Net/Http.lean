import GeoChat.Common.Command
import GeoChat.Common.Json

/-!
# HTTP messages

`HttpReply` with its header map, the parsing of a header block as
`AsyncHttpClient::handleHeaders` does it, and the messages that the client and
the server build.
-/

namespace GeoChat

open Library

/-- The headers in the order of their first insertion. Keys are compared with
`strcasecmp`. -/
abbrev HeaderMap := List (Bytes × Bytes)

namespace HeaderMap

def find (headers : HeaderMap) (key : Bytes) : Option Bytes :=
  (headers.find? fun header => strcaseeq header.1 key).map (·.2)

/-- `headers[key] = value`. -/
def set (key value : Bytes) : HeaderMap → HeaderMap
  | [] => [(key, value)]
  | (other, old) :: rest =>
      if strcaseeq other key then (other, value) :: rest else (other, old) :: set key value rest

@[simp]
theorem find_nil (key : Bytes) : find [] key = none := rfl

theorem find_cons (key value other : Bytes) (rest : HeaderMap) :
    find ((key, value) :: rest) other =
      if strcaseeq key other then some value else find rest other := by
  unfold find
  by_cases same : strcaseeq key other = true <;> simp [same]

/-- The value that was set last is found under every spelling of its key. -/
theorem find_set (key value other : Bytes) (headers : HeaderMap) :
    find (set key value headers) other =
      if strcaseeq key other then some value else find headers other := by
  induction headers with
  | nil => simp [set, find_cons]
  | cons header rest inductionHypothesis =>
      rcases header with ⟨stored, old⟩
      simp only [set]
      split
      next replaces =>
        have sameKey : strcaseeq stored other = strcaseeq key other := by
          simp only [strcaseeq, decide_eq_true_eq] at replaces ⊢
          rw [replaces]
        rw [find_cons, find_cons, sameKey]
        split <;> rfl
      next keeps =>
        rw [find_cons, find_cons, inductionHypothesis]
        by_cases same : strcaseeq stored other = true
        · have different : strcaseeq key other = false := by
            simp only [strcaseeq, decide_eq_true_eq, decide_eq_false_iff_not] at same keeps ⊢
            intro equal
            exact keeps (same.trans equal.symm)
          simp [same, different]
        · simp [same]

end HeaderMap

/-- `HttpReply`, which holds a request as well. -/
structure HttpReply where
  status : Int := 0
  headers : Bytes := []
  body : Bytes := []
  method : Bytes := []
  resource : Bytes := []
  parsedHeaders : HeaderMap := []
  deriving DecidableEq, Repr

namespace HttpReply

def hasHeader (reply : HttpReply) (header : Bytes) : Bool :=
  (reply.parsedHeaders.find header).isSome

def getHeader (reply : HttpReply) (header : Bytes) : Bytes :=
  (reply.parsedHeaders.find header).getD []

end HttpReply

def crlf : Bytes := bytes "\r\n"

def crlf2 : Bytes := bytes "\r\n\r\n"

/-- `parseHeaderLine`. The byte behind the last one is a NUL, where the skip of
blanks ends. -/
def parseHeaderLine (line : Bytes) (headers : HeaderMap) : HeaderMap :=
  match line.findIdx? (· = 58) with
  | none => headers
  | some 0 => headers
  | some pos =>
      let key := line.take pos
      if pos = line.length - 1 then headers.set key []
      else headers.set key ((line.drop (pos + 1)).dropWhile isspace)

def parseHeaderLines (lines : List Bytes) (headers : HeaderMap) : HeaderMap :=
  lines.foldl (fun headers line => parseHeaderLine line headers) headers

/-- What comes after a parsed header block. -/
inductive BodyKind where
  | protocolError
  | contentLength (length : Nat)
  | chunked
  | absent
  deriving DecidableEq, Repr

/-- The first line of the block: a status line or a request line. -/
def parseFirstLine (line : Bytes) (reply : HttpReply) : Option HttpReply :=
  match Utils.split line (bytes " ") with
  | first :: second :: _ =>
      let lc := Utils.lowercased first
      if Utils.startsWith lc (bytes "http/") then
        (stoi second).map fun status => { reply with status }
      else
        some { reply with method := lc, resource := second }
  | _ => none

/-- The part of `handleHeaders` between the two reads. An error leaves the
reply as far as it was parsed. -/
def parseHead (head : Bytes) : HttpReply × BodyKind :=
  let reply : HttpReply := { headers := head }
  match Utils.split head crlf with
  | [] => (reply, .protocolError)
  | first :: lines =>
      if first.isEmpty then (reply, .protocolError)
      else
        match parseFirstLine first reply with
        | none => (reply, .protocolError)
        | some reply =>
            let reply := { reply with parsedHeaders := parseHeaderLines lines [] }
            if reply.hasHeader (bytes "Content-Length") then
              match stoul (reply.getHeader (bytes "Content-Length")) 10 with
              | none => (reply, .protocolError)
              | some (length, _) => (reply, .contentLength length)
            else if reply.getHeader (bytes "Transfer-Encoding") = bytes "chunked" then
              (reply, .chunked)
            else
              (reply, .absent)

/-- `http_code_to_string`. -/
def httpCodeToString (code : Nat) : Bytes :=
  match code with
  | 200 => bytes "200 OK"
  | 400 => bytes "400 Bad Request"
  | 403 => bytes "403 Forbidden"
  | 404 => bytes "404 Not Found"
  | 409 => bytes "409 Conflict"
  | 429 => bytes "429 Too Many Requests"
  | 500 => bytes "500 Internal Server Error"
  | 503 => bytes "503 Service Unavailable"
  | _ => bytes "200 OK"

/-- `cli_utils::build_request`. -/
def buildRequest (resource contentType body : Bytes) : Bytes :=
  bytes "POST " ++ resource ++ bytes " HTTP/1.1\r\n" ++
    bytes "Content-Length: " ++ decimal body.length ++ crlf ++
    bytes "Content-Type: " ++ contentType ++ crlf ++ crlf ++ body

/-- `ApiClient::buildApiOkResponse`. -/
def buildApiOkResponse (body : Bytes) : Bytes :=
  bytes "HTTP/1.1 200 OK\r\n" ++
    bytes "Content-Length: " ++ decimal body.length ++ crlf ++
    bytes "Content-Type: application/json\r\n" ++
    bytes "Access-Control-Allow-Origin: *\r\n" ++ crlf ++ body

/-- `apiclient_utils::make_api_error`. -/
def ApiclientUtils.makeApiError (apiCode : ApiStatusCode) (desc : Bytes) : Bytes :=
  (Json.object
    [(bytes "status", .uint64 apiCode.code), (bytes "error", .ofCString desc)]).write

/-- `build_api_error_rsponse`. -/
def buildApiErrorRsponse (httpCode : Nat) (apiCode : ApiStatusCode) (desc : Bytes) : Bytes :=
  let apiResponse := ApiclientUtils.makeApiError apiCode desc
  bytes "HTTP/1.1 " ++ httpCodeToString httpCode ++ crlf ++
    bytes "Content-Length: " ++ decimal apiResponse.length ++ crlf ++
    bytes "Access-Control-Allow-Origin: *\r\n" ++
    bytes "Content-Type: application/json\r\n" ++ crlf ++ apiResponse

end GeoChat
