import GeoChat.Server.Routing
import GeoChat.Server.Store.Refusal

/-!
# One answer for each request

A connection reads its next request after it has written a reply. The commands
that the router accepts are answered once each, with the exception of the one
for which `processQueue` has no branch. The lookups by name also fall silent on
a stored user of the id `0`.
-/

namespace GeoChat

open Library Program InMemory

/-- A reply to a request, and not a batch for an idle connection. -/
def ClientCall.isReply : ClientCall → Bool
  | .sendMessagesToIdleConn _ => false
  | _ => true

/-- Exactly one reply was sent, and nothing else. -/
def AnsweredOnce (served : Served) : Prop := ∃ reply, served.1 = [reply] ∧ reply.isReply = true

/-- The name finds one user, of the id `0`. -/
def FindsStray (storage : Storage) (name : Bytes) (password : Bytes → Prop) : Prop :=
  ∃ user, lookupUserByName name storage = [user] ∧ password user.password ∧ user.id = 0

/-- The task passes its checks, and the user that it names has the id `0`. -/
def NamesStray (storage : Storage) (task : Task) : Prop :=
  match task.cmd with
  | .userStatus | .userHistory =>
      (checkPass task storage).id ≠ 0 ∧ FindsStray storage task.request.user fun _ => True
  | .chatAdduser =>
      (checkPass task storage).id ≠ 0 ∧ FindsStray storage task.request.chat.adduser fun _ => True
  | .userLogin =>
      FindsStray storage task.request.user (· = encryptedPass task.request.password)
  | _ => False

namespace InMemory

variable {storage : Storage} {task : Task}

theorem answeredOnce_reply {reply : ClientCall} {later : Storage} (isReply : reply.isReply = true) :
    AnsweredOnce ([reply], later) :=
  ⟨reply, rfl, isReply⟩

theorem not_answeredOnce_nil {later : Storage} : ¬ AnsweredOnce ([], later) := by
  rintro ⟨reply, same, _⟩
  cases same

theorem isReply_of_isError {reply : ClientCall} (isError : reply.isError = true) :
    reply.isReply = true := by
  cases reply with
  | sendErrorResponse => rfl
  | _ => cases isError

theorem answeredOnce_guarded {next : User → Served} {stray : Prop}
    (further : AnsweredOnce (next (checkPass task storage)) ↔ ¬ stray) :
    AnsweredOnce (guarded storage task next) ↔ ¬ ((checkPass task storage).id ≠ 0 ∧ stray) := by
  unfold guarded
  split
  next denied =>
    refine iff_of_true (answeredOnce_reply (isReply_of_isError (refusal_isError _ _))) ?_
    exact fun both => both.1 denied
  next accepted => rw [further, not_and, imp_iff_right accepted]

theorem answeredOnce_guarded_always {next : User → Served}
    (further : ∀ user, AnsweredOnce (next user)) : AnsweredOnce (guarded storage task next) := by
  unfold guarded
  split
  next => exact answeredOnce_reply (isReply_of_isError (refusal_isError _ _))
  next => exact further _

/-- The lookup by name is silent for one user of the id `0`, accepted if the
password is checked. -/
theorem answeredOnce_guardedByName {name : Bytes} {check : Bool} {next : User → Served}
    (further : ∀ user, AnsweredOnce (next user)) :
    AnsweredOnce (guardedByName storage name task check next) ↔
      ¬ FindsStray storage name
        fun password => check = true → password = encryptedPass task.request.password := by
  unfold guardedByName
  split
  next error refused =>
    refine iff_of_true (answeredOnce_reply
      (isReply_of_isError (refusalByName_isError refused))) ?_
    rintro ⟨user, found, right, _⟩
    unfold refusalByName at refused
    simp only [found] at refused
    split at refused
    next wrong =>
      simp only [Bool.and_eq_true, decide_eq_true_eq] at wrong
      exact wrong.2 (right wrong.1).symm
    next => cases refused
  next accepted =>
    unfold refusalByName at accepted
    unfold checkPassByName
    split at accepted
    next => cases accepted
    next user found =>
      split at accepted
      next => cases accepted
      next right =>
        have passes : check = true → user.password = encryptedPass task.request.password := by
          intro checked
          by_contra wrong
          refine right ?_
          simp only [checked, Bool.true_and, decide_eq_true_eq]
          exact fun same => wrong same.symm
        simp only [found, if_neg right]
        split
        next zero =>
          exact iff_of_false not_answeredOnce_nil
            (not_not.mpr ⟨user, found, passes, zero⟩)
        next nonzero =>
          refine iff_of_true (further user) ?_
          rintro ⟨other, foundOther, _, zero⟩
          cases found.symm.trans foundOther
          exact nonzero zero
    next => cases accepted

end InMemory

namespace DatabaseWorker

variable (sort : TimestampSort) (now : Int) (storage : Storage) {task : Task}

/-- The commands with a branch in `processQueue` that are not idle. -/
def served : List Cmd :=
  [.userStatus, .userHistory, .messageSend, .userCreate, .userLogin, .chatCreate, .chatAdduser,
    .messageSendChat, .getLocations, .chatWithLocation]

theorem answeredOnce_processTask (command : task.cmd ∈ served) :
    AnsweredOnce (serve now storage (processTask sort task)) ↔ ¬ NamesStray storage task := by
  unfold NamesStray processTask
  cases named : task.cmd with
  | userStatus =>
      simp only
      rw [serve_processUserStatus]
      refine answeredOnce_guarded ?_
      rw [answeredOnce_guardedByName fun _ => answeredOnce_reply rfl]
      simp [FindsStray]
  | userHistory =>
      simp only
      rw [serve_processUserHistory]
      refine answeredOnce_guarded ?_
      rw [answeredOnce_guardedByName fun _ => answeredOnce_reply rfl]
      simp [FindsStray]
  | messageSend =>
      simp only
      rw [serve_processMessageSend]
      refine iff_of_true (answeredOnce_guarded_always fun user => ?_) not_false
      split <;> exact answeredOnce_reply rfl
  | userCreate =>
      simp only
      rw [serve_processUserCreate]
      refine iff_of_true ?_ not_false
      simp only
      split <;> exact answeredOnce_reply rfl
  | userLogin =>
      simp only
      rw [serve_processUserLogin, answeredOnce_guardedByName fun _ => answeredOnce_reply rfl]
      simp [FindsStray]
  | chatCreate =>
      simp only
      rw [serve_processChatCreate]
      refine iff_of_true (answeredOnce_guarded_always fun user => ?_) not_false
      simp only
      split <;> exact answeredOnce_reply rfl
  | chatAdduser =>
      simp only
      rw [serve_processChatAdduser]
      refine answeredOnce_guarded ?_
      rw [answeredOnce_guardedByName fun toAdd => ?_]
      · simp [FindsStray]
      · split <;> exact answeredOnce_reply rfl
  | messageSendChat =>
      simp only
      rw [serve_processMessageSendChat]
      refine iff_of_true (answeredOnce_guarded_always fun user => ?_) not_false
      split <;> exact answeredOnce_reply rfl
  | getLocations =>
      simp only
      rw [serve_processGetLocations]
      refine iff_of_true (answeredOnce_guarded_always fun user => ?_) not_false
      unfold DatabaseWorker.named
      split <;> exact answeredOnce_reply rfl
  | chatWithLocation =>
      simp only
      rw [serve_processChatWithLocation]
      refine iff_of_true (answeredOnce_guarded_always fun user => ?_) not_false
      unfold DatabaseWorker.named
      split <;> exact answeredOnce_reply rfl
  | idle | chatHistory | chatStatus | messageRecent | cmdLast =>
      rw [named] at command
      exact absurd command (by decide)

end DatabaseWorker

/-- The router accepts one command that has no branch. -/
theorem ApiClient.route_served {resource : Bytes} {cmd : Cmd} (routed : route resource = some cmd) :
    cmd ∈ DatabaseWorker.served ∨ cmd = .chatHistory := by
  have table : ∀ branch ∈ routes,
      branch.2 ∈ DatabaseWorker.served ∨ branch.2 = .chatHistory := by
    decide
  obtain ⟨branch, found, rfl⟩ := Option.map_eq_some_iff.mp routed
  exact table branch (List.mem_of_find?_eq_some found)

open DatabaseWorker in
/-- A task that a request puts into the queue is answered exactly once if and
only if its command is not `CHAT_HISTORY` and it does not name a user that is
stored under the id `0`. -/
theorem requests_answered_once_iff (parse : Bytes → Option Json) (passLen : Int)
    (reply : HttpReply) (lookup : Lookup) (received : Int) (expired : Nat)
    (client later : ApiClient) (tasks : List Task) (task : Task)
    (enqueued : ApiClient.requestFromClientReadHandler parse passLen reply lookup received
      expired client = .ok (later, tasks)) (member : task ∈ tasks)
    (sort : TimestampSort) (now : Int) (storage : Storage) :
    AnsweredOnce (serve now storage (processTask sort task)) ↔
      task.cmd ≠ .chatHistory ∧ ¬ NamesStray storage task := by
  cases ApiClient.requestFromClientReadHandler_handled enqueued with
  | refused => cases member
  | idle => cases member
  | unanswered => cases member
  | queued _ routed _ =>
      rw [List.mem_singleton.mp member]
      obtain command | history := ApiClient.route_served routed
      · rw [answeredOnce_processTask sort now storage command]
        refine (and_iff_right ?_).symm
        intro history
        have named : Cmd.chatHistory ∈ served := history ▸ command
        exact absurd named (by decide)
      · refine iff_of_false ?_ fun both => both.1 history
        simp only [processTask, RequestDetails.task, history]
        exact not_answeredOnce_nil

namespace ApiClient

/-- The body of a request with a user id. -/
def uidDocument : Json :=
  .object [(bytes "uid", .uint64 1), (bytes "password", .ofCString (bytes "secret_pass"))]

def parseUid (text : Bytes) : Option Json :=
  if text = uidDocument.write then some uidDocument else none

def jsonRequest (resource body : Bytes) : HttpReply :=
  { method := bytes "post", resource, body,
    parsedHeaders := [(bytes "Content-Type", bytes "application/json")] }

/-- A connection with nothing received so far. -/
def connected : ApiClient := { requestDetails := { command := .cmdLast }, reads := 0 }

/-- The tasks of a request, where the handler does not abort. -/
def tasksOf (handled : Checked (ApiClient × List Task)) : List Task :=
  match handled with
  | .ok (_, tasks) => tasks
  | .error _ => []

theorem handled_of_tasksOf {handled : Checked (ApiClient × List Task)} {task : Task}
    (found : task ∈ tasksOf handled) :
    ∃ later tasks, handled = .ok (later, tasks) ∧ task ∈ tasks := by
  unfold tasksOf at found
  split at found
  next later tasks => exact ⟨later, tasks, rfl, found⟩
  next => cases found

def historyTask : Task :=
  { cmd := .chatHistory, request := { uid := 1, password := bytes "secret_pass" } }

def locationsTask : Task :=
  { cmd := .getLocations, request := { uid := 1, password := bytes "secret_pass" } }

end ApiClient

open DatabaseWorker ApiClient in
/-- A request for the history of a group is put into the queue and not answered. -/
theorem request_unanswered :
    historyTask ∈ tasksOf (requestFromClientReadHandler parseUid 8
        (jsonRequest (bytes "/v1/group/history") uidDocument.write) none 1 0 connected) ∧
      ¬ AnsweredOnce (serve 1 {} (processTask .stable historyTask)) := by
  exact ⟨by decide +kernel, not_answeredOnce_nil⟩

open DatabaseWorker ApiClient in
theorem requests_answered_once_locations :
    locationsTask ∈ tasksOf (requestFromClientReadHandler parseUid 8
        (jsonRequest (bytes "/v1/locations") uidDocument.write) none 1 0 connected) ∧
      AnsweredOnce (serve 1 {} (processTask .stable locationsTask)) := by
  have enqueued : locationsTask ∈ tasksOf (requestFromClientReadHandler parseUid 8
      (jsonRequest (bytes "/v1/locations") uidDocument.write) none 1 0 connected) := by
    decide +kernel
  obtain ⟨later, tasks, handled, member⟩ := handled_of_tasksOf enqueued
  refine ⟨enqueued, ?_⟩
  exact (requests_answered_once_iff parseUid 8 _ none 1 0 connected later tasks locationsTask
    handled member .stable 1 {}).mpr ⟨by decide, id⟩

end GeoChat
