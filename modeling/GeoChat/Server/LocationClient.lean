import GeoChat.Common.Json
import GeoChat.Library.Stream

/-!
# `LocationClient`

The city of an address is asked from a service while the handler of
`/v1/user/create` runs. One object serves all connections, and nothing closes
its socket: what a read gives where the name of the service is not resolved is
what the lookup before has left. The lookups of several threads are taken one
after another, although no lock makes them so. The parser and the writer of
rapidjson are parameters.
-/

namespace GeoChat

open Library

/-- What `read_some` gives: bytes, the end of file, or another error. -/
inductive ReadOutcome where
  | received (data : Bytes)
  | eof
  | error
  deriving DecidableEq, Repr

/-- What became of `connect`: a name that is not resolved is only logged, and the
socket stays what it was. A connection that is refused is thrown. -/
inductive ConnectOutcome where
  | connected (outcomes : Nat → ReadOutcome)
  | resolveFailed
  | connectFailed (outcomes : Nat → ReadOutcome)

/-- How the lookup of a city ends without a city: an exception of asio or of
`std::string`, or a violated assertion. -/
inductive LocationFault where
  | systemError
  | outOfRange
  | violated (violation : Violation)
  deriving DecidableEq, Repr

/-- `LocationClient`, as what the reads of its socket give from now on. -/
structure LocationClient where
  outcomes : Nat → ReadOutcome

/-- What the handler of a request gets from a lookup: nothing as long as it
runs, and else a city or the fault that it has ended with. -/
abbrev Lookup := Option (Except LocationFault Bytes)

namespace LocationClient

/-- The socket of a new object is not open. -/
def unopened : LocationClient := ⟨fun _ => .error⟩

/-- `connect_to_api`. -/
def connect (outcome : ConnectOutcome) (client : LocationClient) : LocationClient :=
  match outcome with
  | .connected outcomes => ⟨outcomes⟩
  | .resolveFailed => client
  | .connectFailed outcomes => ⟨outcomes⟩

/-- The bytes that an outcome leaves in the buffer. -/
def dataOf : ReadOutcome → Bytes
  | .received data => data
  | .eof => []
  | .error => []

/-- The loop of `read` from the outcome with the number `count`, for a number of
turns; no result means that it still runs. An error other than the end of file
is logged. -/
def readFrom (client : LocationClient) : Nat → Nat → Bytes → Option (Bytes × LocationClient)
  | 0, _, _ => none
  | turns + 1, count, result =>
      if client.outcomes count = .eof then
        some (result, ⟨fun later => client.outcomes (count + 1 + later)⟩)
      else client.readFrom turns (count + 1) (result ++ dataOf (client.outcomes count))

def read (turns : Nat) (client : LocationClient) : Option (Bytes × LocationClient) :=
  client.readFrom turns 0 []

def makeRequest (ip apiKey : Bytes) : Bytes :=
  bytes "GET " ++ bytes "/suggestions/api/4_1/rs/iplocate/address?ip=" ++ ip ++
    bytes " HTTP/1.0\r\n" ++
    bytes "Host: " ++ bytes "suggestions.dadata.ru" ++ bytes "\r\n" ++
    bytes "Authorization: Token " ++ apiKey ++ bytes "\r\n" ++
    bytes "Accept: application/json" ++ bytes "\r\n" ++
    bytes "Connection: keep-alive\r\n\r\n"

/-- A call of an accessor. -/
def asserted {Alpha : Type} : Checked Alpha → Except LocationFault Alpha
  | .ok value => .ok value
  | .error violation => .error (.violated violation)

section Response

variable (parse : Bytes → Option Json) (write : Json → Bytes)

/-- `Document::Parse` of a C string. A parse error leaves null. -/
def parseText (text : Bytes) : Json := (parse (cstr text)).getD .null

/-- `parse_response`. Where the marker is not found, `substr` throws. -/
def parseResponse (response : Bytes) : Except LocationFault Json :=
  match search (bytes "\x7b\"") response with
  | none => .error .outOfRange
  | some start => .ok (parseText parse (response.drop start))

/-- `get_document_value` with one document for both: the member is written and
parsed again in its place, or the document stays. -/
def getDocumentValue (document : Json) (key : Bytes) : Except LocationFault Json := do
  match ← asserted (document.findMember key) with
  | none => pure document
  | some value =>
      if !value.isObject then pure document
      else pure (parseText parse (write value))

/-- `get_string_value`. -/
def getStringValue (document : Json) (key : Bytes) : Except LocationFault Bytes := do
  match ← asserted (document.findMember key) with
  | none => pure []
  | some value => if !value.isString then pure [] else asserted value.getString

/-- What `get_city_by_ip` makes of the response. -/
def cityOf (response : Bytes) : Except LocationFault Bytes :=
  if response.isEmpty then pure []
  else do
    let document ← parseResponse parse response
    let document ← getDocumentValue parse write document (bytes "location")
    let document ← getDocumentValue parse write document (bytes "data")
    getStringValue document (bytes "city")

/-- `get_city_by_ip`, for a number of turns of the read loop: what it sends,
where an error is ignored, what it returns, and the object after it. -/
def getCityByIp (apiKey ip : Bytes) (outcome : ConnectOutcome) (turns : Nat)
    (client : LocationClient) : Option ((Bytes × Except LocationFault Bytes) × LocationClient) :=
  match outcome with
  | .connectFailed _ => some (([], .error .systemError), client.connect outcome)
  | .connected _ | .resolveFailed =>
      ((client.connect outcome).read turns).map fun (response, later) =>
        ((makeRequest ip apiKey, cityOf parse write response), later)

/-- The lookup as the caller sees it. -/
def lookup (apiKey ip : Bytes) (outcome : ConnectOutcome) (turns : Nat)
    (client : LocationClient) : Lookup :=
  (client.getCityByIp parse write apiKey ip outcome turns).map (·.1.2)

/-- The lookup returns a city, or the empty string for it. -/
def ReturnsCity (apiKey ip : Bytes) (outcome : ConnectOutcome) (client : LocationClient) : Prop :=
  ∃ turns city, client.lookup parse write apiKey ip outcome turns = some (.ok city)

/-- From this object on, every member of the path that is an object is written
to a text that the parser makes an object of. A member that is none is passed
over. -/
def Reparses : List Bytes → List (Bytes × Json) → Prop
  | [], _ => True
  | name :: path, members =>
      match (Json.object members).member name with
      | some (.object inner) =>
          ∃ again, parse (cstr (write (.object inner))) = some (.object again) ∧
            Reparses path again
      | _ => Reparses path members

/-- The response has the marker, and the parser makes objects of what it gets. -/
def Answerable (response : Bytes) : Prop :=
  ∃ start members, search (bytes "\x7b\"") response = some start ∧
    parse (cstr (response.drop start)) = some (.object members) ∧
    Reparses parse write [bytes "location", bytes "data"] members

theorem parseText_object_iff (text : Bytes) (members : List (Bytes × Json)) :
    parseText parse text = .object members ↔ parse (cstr text) = some (.object members) := by
  unfold parseText
  cases parse (cstr text) with
  | none => simp
  | some document => simp

/-- The rest of the chain from a document on. -/
def walk : List Bytes → Json → Except LocationFault Bytes
  | [], document => getStringValue document (bytes "city")
  | name :: path, document => do
      let document ← getDocumentValue parse write document name
      walk path document

theorem walk_notObject {document : Json} (notObject : document.isObject = false)
    (path : List Bytes) : walk parse write path document = .error (.violated .notObject) := by
  cases path with
  | nil =>
      unfold walk getStringValue
      rw [Json.findMember_notObject notObject]
      rfl
  | cons name path =>
      unfold walk getDocumentValue
      rw [Json.findMember_notObject notObject]
      rfl

theorem getStringValue_object (members : List (Bytes × Json)) (name : Bytes) :
    ∃ text, getStringValue (.object members) name = .ok text := by
  unfold getStringValue
  rw [Json.findMember_object rfl]
  cases (Json.object members).member name with
  | none => exact ⟨[], rfl⟩
  | some value =>
      cases value with
      | string text => exact ⟨cstr text, rfl⟩
      | _ => exact ⟨[], rfl⟩

theorem getDocumentValue_object (members : List (Bytes × Json)) (name : Bytes) :
    getDocumentValue parse write (.object members) name =
      .ok (match (Json.object members).member name with
        | some (.object inner) => parseText parse (write (.object inner))
        | _ => .object members) := by
  unfold getDocumentValue
  rw [Json.findMember_object rfl]
  cases (Json.object members).member name with
  | none => rfl
  | some value =>
      cases value with
      | object inner => rfl
      | _ => rfl

/-- The chain returns exactly when every document on its way is an object, by
induction on the names that are still to come. -/
theorem walk_returns_iff (path : List Bytes) (document : Json) :
    (∃ city, walk parse write path document = .ok city) ↔
      ∃ members, document = .object members ∧ Reparses parse write path members := by
  induction path generalizing document with
  | nil =>
      cases document with
      | object members =>
          exact iff_of_true (getStringValue_object members _) ⟨members, rfl, trivial⟩
      | _ =>
          rw [walk_notObject parse write rfl]
          exact iff_of_false nofun nofun
  | cons name path inductionHypothesis =>
      cases document with
      | object members =>
          rw [walk, getDocumentValue_object]
          change (∃ city, walk parse write path _ = .ok city) ↔ _
          rw [inductionHypothesis]
          simp only [Json.object.injEq, exists_eq_left', Reparses]
          cases (Json.object members).member name with
          | none => simp
          | some value =>
              cases value with
              | object inner => simp only [parseText_object_iff]
              | _ => simp
      | _ =>
          rw [walk_notObject parse write rfl]
          exact iff_of_false nofun nofun

theorem cityOf_eq {response : Bytes} (nonempty : response ≠ []) :
    cityOf parse write response =
      (parseResponse parse response >>= walk parse write [bytes "location", bytes "data"]) := by
  rw [cityOf, if_neg (by simpa using nonempty)]
  rfl

/-- The whole chain, from the search of the marker on. -/
theorem walkResponse_returns_iff (response : Bytes) :
    (∃ city, (parseResponse parse response >>=
      walk parse write [bytes "location", bytes "data"]) = .ok city) ↔
      Answerable parse write response := by
  rw [Answerable, parseResponse]
  cases found : search (bytes "\x7b\"") response with
  | none =>
      refine iff_of_false (fun ⟨city, returned⟩ => by cases returned) ?_
      rintro ⟨start, members, atStart, -⟩
      cases atStart
  | some start =>
      change (∃ city, walk parse write _ (parseText parse (response.drop start)) = .ok city) ↔ _
      rw [walk_returns_iff]
      simp only [parseText_object_iff, Option.some.injEq, exists_eq_left', exists_and_left]

/-- The empty response is taken for the empty city. -/
theorem cityOf_ok_iff (response : Bytes) :
    (∃ city, cityOf parse write response = .ok city) ↔
      response = [] ∨ Answerable parse write response := by
  by_cases empty : response = []
  · subst empty
    exact iff_of_true ⟨[], rfl⟩ (.inl rfl)
  · rw [cityOf_eq parse write empty, walkResponse_returns_iff, or_iff_right empty]

end Response

/-- The first outcome that is no bytes. -/
structure IsFirstEnd (outcomes : Nat → ReadOutcome) (count : Nat) : Prop where
  before : ∀ earlier < count, ∃ data, outcomes earlier = .received data
  ends : outcomes count = .eof ∨ outcomes count = .error

/-- The bytes before an outcome. -/
def receivedBefore (outcomes : Nat → ReadOutcome) (count : Nat) : Bytes :=
  (List.range count).flatMap fun earlier => dataOf (outcomes earlier)

/-- The loop ends at the first outcome that is no bytes, with the bytes before. -/
def EndsAtFirst (client : LocationClient) : Prop :=
  ∀ count, IsFirstEnd client.outcomes count → ∃ later,
    client.read (count + 1) = some (receivedBefore client.outcomes count, later)

theorem receivedBefore_succ (outcomes : Nat → ReadOutcome) (count : Nat) :
    receivedBefore outcomes (count + 1) =
      receivedBefore outcomes count ++ dataOf (outcomes count) := by
  simp [receivedBefore, List.range_succ, List.flatMap_append]

section Reads

variable {client : LocationClient} {count : Nat}

/-- The loop goes through every outcome that is not the end of file. -/
theorem readFrom_skip (goesOn : ∀ earlier < count, client.outcomes earlier ≠ .eof) (turns : Nat) :
    client.read (count + turns) =
      client.readFrom turns count (receivedBefore client.outcomes count) := by
  induction count generalizing turns with
  | zero =>
      rw [Nat.zero_add]
      rfl
  | succ count inductionHypothesis =>
      have here := inductionHypothesis
        (fun earlier before => goesOn earlier (Nat.lt_succ_of_lt before)) (turns + 1)
      rw [show count + 1 + turns = count + (turns + 1) by omega, here, readFrom,
        if_neg (goesOn count (Nat.lt_succ_self count)), receivedBefore_succ]

/-- A loop that has not met the end of file still runs. -/
theorem read_running (goesOn : ∀ earlier < count, client.outcomes earlier ≠ .eof) :
    client.read count = none :=
  readFrom_skip goesOn 0

/-- At the end of file the loop returns the bytes of all outcomes before. -/
theorem read_eof (goesOn : ∀ earlier < count, client.outcomes earlier ≠ .eof)
    (ends : client.outcomes count = .eof) (turns : Nat) :
    client.read (count + (turns + 1)) = some (receivedBefore client.outcomes count,
      ⟨fun later => client.outcomes (count + 1 + later)⟩) := by
  rw [readFrom_skip goesOn, readFrom, if_pos ends]

theorem IsFirstEnd.goesOn (isFirst : IsFirstEnd client.outcomes count) :
    ∀ earlier < count, client.outcomes earlier ≠ .eof := by
  intro earlier before atEnd
  obtain ⟨data, received⟩ := isFirst.before earlier before
  cases received.symm.trans atEnd

theorem endsAtFirst_iff : client.EndsAtFirst ↔
    ∀ count, IsFirstEnd client.outcomes count → client.outcomes count = .eof := by
  refine forall_congr' fun count => forall_congr' fun isFirst => ⟨?_, fun atEnd => ?_⟩
  · rintro ⟨later, returned⟩
    by_contra notEnd
    have goesOn : ∀ earlier < count + 1, client.outcomes earlier ≠ .eof := by
      intro earlier before
      rcases Nat.lt_succ_iff_lt_or_eq.mp before with old | rfl
      · exact isFirst.goesOn earlier old
      · exact notEnd
    rw [read_running goesOn] at returned
    cases returned
  · exact ⟨_, read_eof isFirst.goesOn atEnd 0⟩

/-- Outcomes among which there is no first one that is no bytes are all bytes. -/
theorem received_of_endless (endless : ∀ count, ¬ IsFirstEnd client.outcomes count) (count : Nat) :
    ∃ data, client.outcomes count = .received data := by
  induction count using Nat.strong_induction_on with
  | _ count inductionHypothesis =>
      cases outcome : client.outcomes count with
      | received data => exact ⟨data, rfl⟩
      | eof => exact absurd ⟨inductionHypothesis, .inl outcome⟩ (endless count)
      | error => exact absurd ⟨inductionHypothesis, .inr outcome⟩ (endless count)

/-- A loop that ends at the first outcome that is no bytes returns exactly where
there is one. -/
theorem read_returns_iff (ends : ∀ count, IsFirstEnd client.outcomes count →
    client.outcomes count = .eof) (accepts : Bytes → Prop) :
    (∃ turns response later, client.read turns = some (response, later) ∧ accepts response) ↔
      ∃ count, IsFirstEnd client.outcomes count ∧
        accepts (receivedBefore client.outcomes count) := by
  constructor
  · rintro ⟨turns, response, later, returned, accepted⟩
    by_cases endless : ∃ count, IsFirstEnd client.outcomes count
    · obtain ⟨count, isFirst⟩ := endless
      have atEnd := ends count isFirst
      by_cases early : turns ≤ count
      · rw [read_running fun earlier before => isFirst.goesOn earlier (by omega)] at returned
        cases returned
      · obtain ⟨more, rfl⟩ : ∃ more, turns = count + (more + 1) := ⟨turns - count - 1, by omega⟩
        rw [read_eof isFirst.goesOn atEnd] at returned
        cases returned
        exact ⟨count, isFirst, accepted⟩
    · have all := received_of_endless (not_exists.mp endless)
      rw [read_running fun earlier _ atEnd => by
        obtain ⟨data, received⟩ := all earlier
        cases received.symm.trans atEnd] at returned
      cases returned
  · rintro ⟨count, isFirst, accepted⟩
    exact ⟨_, _, _, read_eof isFirst.goesOn (ends count isFirst) 0, accepted⟩

end Reads

/-- Where the name is not resolved, the lookup has the outcomes that were left. -/
theorem returnsCity_iff (parse : Bytes → Option Json) (write : Json → Bytes) (apiKey ip : Bytes)
    {outcome : ConnectOutcome} {client : LocationClient}
    (resolved : ∀ outcomes, outcome ≠ .connectFailed outcomes) :
    client.ReturnsCity parse write apiKey ip outcome ↔
      ∃ turns response later, (client.connect outcome).read turns = some (response, later) ∧
        (response = [] ∨ Answerable parse write response) := by
  have same : ∀ turns, client.lookup parse write apiKey ip outcome turns =
      ((client.connect outcome).read turns).map fun (response, _) =>
        cityOf parse write response := by
    intro turns
    cases outcome with
    | connectFailed outcomes => exact absurd rfl (resolved outcomes)
    | _ => exact Option.map_map _ _ _
  unfold ReturnsCity
  simp only [same, Option.map_eq_some_iff, Prod.exists, ← cityOf_ok_iff]
  constructor
  · rintro ⟨turns, city, response, later, returned, isCity⟩
    exact ⟨turns, response, later, returned, city, isCity⟩
  · rintro ⟨turns, response, later, returned, city, isCity⟩
    exact ⟨turns, city, response, later, returned, isCity⟩

end LocationClient

/-- There is no connection. -/
def ConnectOutcome.Failed (outcome : ConnectOutcome) : Prop :=
  ∀ outcomes, outcome ≠ .connected outcomes

/-- The read loop ends at the first outcome that is no bytes, and the lookup
returns where there is no connection, exactly when every such outcome is the end
of file, the connection was not refused, and the reads that an earlier lookup
has left to a name that is not resolved come to an end behind nothing or behind
a response with a city. -/
theorem locationRead_ends_iff (parse : Bytes → Option Json) (write : Json → Bytes)
    (apiKey ip : Bytes) (outcome : ConnectOutcome) (client : LocationClient) :
    ((client.connect outcome).EndsAtFirst ∧
        (outcome.Failed → client.ReturnsCity parse write apiKey ip outcome)) ↔
      (∀ count, LocationClient.IsFirstEnd (client.connect outcome).outcomes count →
        (client.connect outcome).outcomes count = .eof) ∧
      (∀ outcomes, outcome ≠ .connectFailed outcomes) ∧
      (outcome = .resolveFailed → ∃ count, LocationClient.IsFirstEnd client.outcomes count ∧
        (LocationClient.receivedBefore client.outcomes count = [] ∨
          LocationClient.Answerable parse write
            (LocationClient.receivedBefore client.outcomes count))) := by
  rw [LocationClient.endsAtFirst_iff]
  refine and_congr_right fun ends => ?_
  cases outcome with
  | connected outcomes =>
      exact iff_of_true (fun failed => absurd rfl (failed outcomes)) ⟨nofun, nofun⟩
  | resolveFailed =>
      have resolved : ∀ outcomes, ConnectOutcome.resolveFailed ≠ .connectFailed outcomes :=
        fun _ => nofun
      have left := @LocationClient.read_returns_iff client ends fun response =>
        response = [] ∨ LocationClient.Answerable parse write response
      rw [LocationClient.returnsCity_iff parse write apiKey ip resolved]
      exact ⟨fun returns => ⟨resolved, fun _ => left.mp (returns fun _ => nofun)⟩,
        fun ended _ => left.mpr (ended.2 rfl)⟩
  | connectFailed outcomes =>
      refine iff_of_false (fun returns => ?_) fun refused => refused.1 outcomes rfl
      obtain ⟨turns, city, returned⟩ := returns nofun
      cases returned

/-- A socket that was never opened: a name that is not resolved is read for
ever. -/
theorem locationRead_for_ever :
    ¬ LocationClient.unopened.EndsAtFirst ∧ ∀ parse write apiKey ip turns,
      LocationClient.unopened.getCityByIp parse write apiKey ip .resolveFailed turns = none := by
  constructor
  · intro ends
    obtain ⟨later, returned⟩ := ends 0 ⟨nofun, .inr rfl⟩
    cases returned
  · intro parse write apiKey ip turns
    have running : LocationClient.unopened.read turns = none :=
      LocationClient.read_running fun _ _ => nofun
    simp only [LocationClient.getCityByIp, LocationClient.connect, running]
    rfl

/-- Behind a connection that the service has closed, the empty city is returned
at once. -/
example (parse : Bytes → Option Json) (write : Json → Bytes) (apiKey ip : Bytes) :
    (LocationClient.mk fun _ => .eof).getCityByIp parse write apiKey ip .resolveFailed 1 =
      some ((LocationClient.makeRequest ip apiKey, .ok []), ⟨fun _ => .eof⟩) :=
  rfl

/-- A response yields a city or the empty string exactly when it has the marker,
the parser makes an object of the text from there, and makes objects again of
the members `location` and `data` that are written on the way. -/
theorem cityOf_returns_iff (parse : Bytes → Option Json) (write : Json → Bytes)
    (response : Bytes) (nonempty : response ≠ []) :
    (∃ city, LocationClient.cityOf parse write response = .ok city) ↔
      LocationClient.Answerable parse write response := by
  rw [LocationClient.cityOf_eq parse write nonempty]
  exact LocationClient.walkResponse_returns_iff parse write response

/-- A parser at the texts of some documents. -/
def parseKnown (documents : List Json) (text : Bytes) : Option Json :=
  documents.find? fun document => document.write = text

theorem cityOf_returns_iff_nested :
    let data : List (Bytes × Json) := [(bytes "city", .string (bytes "c"))]
    let location : List (Bytes × Json) := [(bytes "data", .object data)]
    let answer : List (Bytes × Json) := [(bytes "location", .object location)]
    let parse := parseKnown [.object answer, .object location, .object data]
    ∃ city, LocationClient.cityOf parse Json.write
      (bytes "HTTP/1.0 200 OK\r\n\r\n" ++ (Json.object answer).write) = .ok city := by
  intro data location answer parse
  refine (cityOf_returns_iff parse Json.write _ (by decide)).mpr
    ⟨19, answer, by decide +kernel, rfl, location, rfl, data, rfl, trivial⟩

/-- An answer without the marker makes `substr` throw, and one that is cut
behind it makes `HasMember` abort. -/
theorem cityOf_faults :
    LocationClient.cityOf (fun _ => none) Json.write (bytes "HTTP/1.0 502 Bad Gateway\r\n\r\n") =
        .error .outOfRange ∧
      LocationClient.cityOf (fun _ => none) Json.write (bytes "HTTP/1.0 200 OK\r\n\r\n\x7b\"loc") =
        .error (.violated .notObject) :=
  ⟨rfl, rfl⟩

end GeoChat
