import Mathlib.Data.List.Basic
import Mathlib.Data.Nat.Find
import Mathlib.Logic.Function.Iterate

/-!
# Connecting over a list of endpoints

`RangeConnectOp` is the completion handler of its own `async_connect`, so it
moves from one attempt to the next. What waits, and with it the handler of the
caller, is at one place at a time: in the operation, or in a posted call.
-/

namespace GeoChat

universe u

/-- `boost::system::error_code`, as far as its value is looked at. -/
inductive ErrorCode where
  | success
  | operationAborted
  | other (value : Nat)
  deriving DecidableEq, Repr

/-- What the socket says to one attempt: the error of `open`, and then that of
`async_connect`. -/
structure AttemptOutcome where
  opened : ErrorCode
  connected : ErrorCode
  deriving DecidableEq, Repr

/-- The endpoints, and the index of the one that is attempted. -/
structure RangeConnectOp (Endpoint : Type u) where
  endpoints : List Endpoint
  index : Nat
  inside : index < endpoints.length

/-- What the I/O service will run, with the handler inside: the operation when
its attempt is complete, or the call that `start_connect` has posted. -/
inductive Waiting (Endpoint : Type u) where
  | connect (attempt : Nat) (op : RangeConnectOp Endpoint)
  | posted (ec : ErrorCode)

/-- The endpoints that were attempted, what waits, and the calls of the
handler. -/
structure Connecting (Endpoint : Type u) where
  attempted : List Endpoint := []
  waiting : Option (Waiting Endpoint) := none
  handled : List (ErrorCode × Endpoint) := []

namespace RangeConnectOp

variable {Endpoint : Type u} [Inhabited Endpoint] (outcomes : Nat → AttemptOutcome)

/-- `m_Handler(ec, endpoint)`. -/
def handle (state : Connecting Endpoint) (ec : ErrorCode) (endpoint : Endpoint) :
    Connecting Endpoint :=
  { state with handled := state.handled ++ [(ec, endpoint)] }

/-- `start_connect`. The attempts are numbered as they are started. -/
def startConnect (op : RangeConnectOp Endpoint) (endpoint : Endpoint)
    (state : Connecting Endpoint) : Connecting Endpoint :=
  let attempt := state.attempted.length
  let ec := (outcomes attempt).opened
  { state with
    attempted := state.attempted ++ [endpoint]
    waiting := some (if ec ≠ .success then .posted ec else .connect attempt op) }

/-- `start`, from `begin`. -/
def start (op : RangeConnectOp Endpoint) (state : Connecting Endpoint) : Connecting Endpoint :=
  startConnect outcomes op (op.endpoints.get ⟨0, Nat.zero_lt_of_lt op.inside⟩) state

/-- `operator()`. The iterator is advanced from `begin` by the index, and then
both go on by one. -/
def call (op : RangeConnectOp Endpoint) (ec : ErrorCode) (state : Connecting Endpoint) :
    Connecting Endpoint :=
  let iter := op.index
  if ec = .success ∨ ec = .operationAborted then
    handle state ec (if ec ≠ .success then default else op.endpoints.get ⟨iter, op.inside⟩)
  else if more : iter + 1 < op.endpoints.length then
    startConnect outcomes { op with index := op.index + 1, inside := more }
      (op.endpoints.get ⟨iter + 1, more⟩) state
  else
    handle state ec default

/-- The I/O service runs what waits. -/
def step (state : Connecting Endpoint) : Connecting Endpoint :=
  match state.waiting with
  | none => state
  | some (.connect attempt op) =>
      call outcomes op (outcomes attempt).connected { state with waiting := none }
  | some (.posted ec) => handle { state with waiting := none } ec default

end RangeConnectOp

/-- `asyncConnect`, which asserts that there is an endpoint. -/
def asyncConnect {Endpoint : Type u} (outcomes : Nat → AttemptOutcome)
    (endpoints : List Endpoint) (nonempty : endpoints ≠ []) : Connecting Endpoint :=
  RangeConnectOp.start outcomes
    { endpoints, index := 0, inside := List.length_pos_of_ne_nil nonempty } {}

namespace AttemptOutcome

/-- No endpoint is tried after this attempt: it could not be opened, it
connected, or it was aborted. -/
def Stops (outcome : AttemptOutcome) : Prop :=
  outcome.opened ≠ .success ∨ outcome.connected = .success ∨
    outcome.connected = .operationAborted

instance (outcome : AttemptOutcome) : Decidable outcome.Stops :=
  inferInstanceAs (Decidable (_ ∨ _ ∨ _))

/-- The attempt gives a connection. -/
def Connects (outcome : AttemptOutcome) : Prop :=
  outcome.opened = .success ∧ outcome.connected = .success

instance (outcome : AttemptOutcome) : Decidable outcome.Connects :=
  inferInstanceAs (Decidable (_ ∧ _))

/-- The error of an attempt, of whichever part it comes from. -/
def error (outcome : AttemptOutcome) : ErrorCode :=
  if outcome.opened ≠ .success then outcome.opened else outcome.connected

theorem error_eq_success_iff (outcome : AttemptOutcome) :
    outcome.error = .success ↔ outcome.Connects := by
  unfold error Connects
  by_cases opened : outcome.opened = .success
  · simp only [opened, ne_eq, not_true_eq_false, if_false, true_and]
  · rw [if_pos opened, and_iff_left_of_imp fun refused => absurd refused opened]

/-- Of some attempts in a row one is the last. -/
theorem exists_last (outcomes : Nat → AttemptOutcome) {count : Nat} (positive : 0 < count) :
    ∃ last < count, (∀ earlier < last, ¬ (outcomes earlier).Stops) ∧
      ((outcomes last).Stops ∨ last + 1 = count) := by
  have final : (outcomes (count - 1)).Stops ∨ count - 1 + 1 = count :=
    .inr (Nat.sub_add_cancel positive)
  have ending : ∃ last, (outcomes last).Stops ∨ last + 1 = count := ⟨count - 1, final⟩
  have bound : Nat.find ending ≤ count - 1 := Nat.find_min' ending final
  refine ⟨Nat.find ending, by omega, ?_, Nat.find_spec ending⟩
  exact fun earlier smaller stops => Nat.find_min ending smaller (.inl stops)

end AttemptOutcome

namespace RangeConnectOp

variable {Endpoint : Type u} [Inhabited Endpoint] (outcomes : Nat → AttemptOutcome)
  (endpoints : List Endpoint)

/-- The state in which the attempt with this number is under way: the index,
the number of the attempt and the endpoint that was attempted last agree. -/
def attempting (attempt : Nat) (inside : attempt < endpoints.length) : Connecting Endpoint where
  attempted := endpoints.take (attempt + 1)
  waiting := some (if (outcomes attempt).opened ≠ .success then .posted (outcomes attempt).opened
    else .connect attempt ⟨endpoints, attempt, inside⟩)
  handled := []

/-- The state after the attempt with this number was the last. -/
def reported (attempt : Nat) (inside : attempt < endpoints.length) : Connecting Endpoint where
  attempted := endpoints.take (attempt + 1)
  waiting := none
  handled := [((outcomes attempt).error,
    if (outcomes attempt).Connects then endpoints.get ⟨attempt, inside⟩ else default)]

omit [Inhabited Endpoint] in
theorem asyncConnect_attempting (nonempty : endpoints ≠ []) :
    asyncConnect outcomes endpoints nonempty =
      attempting outcomes endpoints 0 (List.length_pos_of_ne_nil nonempty) := by
  cases endpoints with
  | nil => exact absurd rfl nonempty
  | cons first rest => rfl

section Attempt

variable {outcomes endpoints} {attempt : Nat}

omit [Inhabited Endpoint] in
theorem take_next (more : attempt + 1 < endpoints.length) :
    endpoints.take (attempt + 1) ++ [endpoints.get ⟨attempt + 1, more⟩] =
      endpoints.take (attempt + 2) := by
  have cut := @List.take_add_one _ endpoints (attempt + 1)
  rw [List.getElem?_eq_getElem more] at cut
  exact cut.symm

/-- A socket that cannot be opened has its error posted. -/
theorem step_refused (inside : attempt < endpoints.length)
    (refused : (outcomes attempt).opened ≠ .success) :
    step outcomes (attempting outcomes endpoints attempt inside) =
      reported outcomes endpoints attempt inside := by
  simp [step, attempting, reported, handle, AttemptOutcome.error, AttemptOutcome.Connects, refused]

/-- With an open socket the operation is called with the error of the attempt. -/
theorem step_opened (inside : attempt < endpoints.length)
    (opened : (outcomes attempt).opened = .success) :
    step outcomes (attempting outcomes endpoints attempt inside) =
      call outcomes ⟨endpoints, attempt, inside⟩ (outcomes attempt).error
        { attempted := endpoints.take (attempt + 1) } := by
  simp [step, attempting, opened, AttemptOutcome.error]

/-- An attempt that does not stop is followed by the next one. -/
theorem step_attempting (goesOn : ¬ (outcomes attempt).Stops)
    (more : attempt + 1 < endpoints.length) :
    step outcomes (attempting outcomes endpoints attempt (Nat.lt_of_succ_lt more)) =
      attempting outcomes endpoints (attempt + 1) more := by
  rw [AttemptOutcome.Stops, not_or, not_not] at goesOn
  obtain ⟨opened, notSettled⟩ := goesOn
  have width : (endpoints.take (attempt + 1)).length = attempt + 1 :=
    List.length_take_of_le (Nat.le_of_lt more)
  rw [step_opened _ opened, AttemptOutcome.error, if_neg (not_not.mpr opened), call,
    if_neg notSettled, dif_pos more, startConnect]
  simp only [width, take_next more]
  rfl

/-- An attempt that stops, or that was the last one, is reported. -/
theorem step_last (inside : attempt < endpoints.length)
    (ends : (outcomes attempt).Stops ∨ attempt + 1 = endpoints.length) :
    step outcomes (attempting outcomes endpoints attempt inside) =
      reported outcomes endpoints attempt inside := by
  by_cases opened : (outcomes attempt).opened = .success
  · have error : (outcomes attempt).error = (outcomes attempt).connected :=
      if_neg (not_not.mpr opened)
    have connects := (outcomes attempt).error_eq_success_iff
    rw [step_opened _ opened, call]
    by_cases settled : (outcomes attempt).connected = .success ∨
        (outcomes attempt).connected = .operationAborted
    · rw [error] at connects ⊢
      rw [if_pos settled]
      simp only [reported, error, handle, ite_not, connects]
      rfl
    · have noMore : ¬ attempt + 1 < endpoints.length := by
        rcases ends with (refused | stops) | last
        · exact absurd opened refused
        · exact absurd stops settled
        · omega
      have failed : ¬ (outcomes attempt).Connects := fun connected => settled (.inl connected.2)
      rw [error, if_neg settled, dif_neg noMore, reported, error, if_neg failed]
      rfl
  · exact step_refused inside opened

end Attempt

/-- Before the last attempt the steps go through the attempts one by one. -/
theorem iterate_attempting (nonempty : endpoints ≠ []) {count : Nat}
    (goesOn : ∀ earlier < count, ¬ (outcomes earlier).Stops)
    (inside : count < endpoints.length) :
    (step outcomes)^[count] (asyncConnect outcomes endpoints nonempty) =
      attempting outcomes endpoints count inside := by
  induction count with
  | zero => exact asyncConnect_attempting outcomes endpoints nonempty
  | succ count inductionHypothesis =>
      have before := inductionHypothesis
        (fun earlier smaller => goesOn earlier (Nat.lt_succ_of_lt smaller))
        (Nat.lt_of_succ_lt inside)
      rw [Function.iterate_succ_apply', before]
      exact step_attempting (goesOn count (Nat.lt_succ_self count)) inside

/-- Behind the last attempt nothing waits any more. -/
theorem iterate_reported (nonempty : endpoints ≠ []) {last : Nat}
    (goesOn : ∀ earlier < last, ¬ (outcomes earlier).Stops) (inside : last < endpoints.length)
    (ends : (outcomes last).Stops ∨ last + 1 = endpoints.length) {count : Nat}
    (behind : last < count) :
    (step outcomes)^[count] (asyncConnect outcomes endpoints nonempty) =
      reported outcomes endpoints last inside := by
  obtain ⟨further, rfl⟩ := Nat.exists_eq_add_of_lt behind
  rw [show last + further + 1 = further + (last + 1) by omega, Function.iterate_add_apply,
    Function.iterate_succ_apply', iterate_attempting outcomes endpoints nonempty goesOn inside,
    step_last inside ends]
  exact Function.iterate_fixed rfl further

end RangeConnectOp

/-- The endpoints are attempted in order, up to the first attempt that stops or
to the last endpoint. Until then the handler is not called, and from then on it
has been called once: without an error and with the endpoint that connected, or
with the error of the last attempt. -/
theorem asyncConnect_reports_once {Endpoint : Type u} [Inhabited Endpoint]
    (outcomes : Nat → AttemptOutcome) (endpoints : List Endpoint) (nonempty : endpoints ≠ []) :
    let run := fun count =>
      (RangeConnectOp.step outcomes)^[count] (asyncConnect outcomes endpoints nonempty)
    ∃ last, ∃ inside : last < endpoints.length,
      ((∀ earlier < last, ¬ (outcomes earlier).Stops) ∧
        ((outcomes last).Stops ∨ last + 1 = endpoints.length)) ∧
      (∀ count ≤ last, (run count).attempted = endpoints.take (count + 1) ∧
        (run count).waiting.isSome = true ∧ (run count).handled = []) ∧
      (∀ count > last, (run count).attempted = endpoints.take (last + 1) ∧
        (run count).waiting.isNone = true ∧
        (run count).handled = [((outcomes last).error,
          if (outcomes last).Connects then endpoints.get ⟨last, inside⟩ else default)]) ∧
      ((outcomes last).error = .success ↔ (outcomes last).Connects) := by
  intro run
  obtain ⟨last, inside, goesOn, ends⟩ :=
    AttemptOutcome.exists_last outcomes (List.length_pos_of_ne_nil nonempty)
  refine ⟨last, inside, ⟨goesOn, ends⟩, fun count before => ?_, fun count behind => ?_,
    (outcomes last).error_eq_success_iff⟩
  · have under : run count = _ := RangeConnectOp.iterate_attempting outcomes endpoints nonempty
      (fun earlier smaller => goesOn earlier (Nat.lt_of_lt_of_le smaller before))
      (Nat.lt_of_le_of_lt before inside)
    rw [under]
    exact ⟨rfl, rfl, rfl⟩
  · have done : run count = _ := RangeConnectOp.iterate_reported outcomes endpoints nonempty
      goesOn inside ends behind
    rw [done]
    exact ⟨rfl, rfl, rfl⟩

/-- A refused connection, and then one that is accepted. -/
def refusedFirst (attempt : Nat) : AttemptOutcome where
  opened := .success
  connected := if attempt = 0 then .other 111 else .success

theorem asyncConnect_reports_once_second :
    let final := (RangeConnectOp.step refusedFirst)^[2]
      (asyncConnect refusedFirst [10, 20, 30] (List.cons_ne_nil _ _))
    final.attempted = [10, 20] ∧ final.handled = [(.success, 20)] := by
  intro final
  obtain ⟨last, inside, ⟨goesOn, ends⟩, -, behind, -⟩ :=
    asyncConnect_reports_once refusedFirst [10, 20, 30] (List.cons_ne_nil _ _)
  match last, inside, goesOn, ends, behind with
  | 0, _, _, ends, _ => exact absurd ends (by decide)
  | 1, _, _, _, behind =>
      obtain ⟨attempted, -, handled⟩ := behind 2 (by decide)
      exact ⟨attempted, handled⟩
  | 2, _, goesOn, _, _ => exact absurd (goesOn 1 (by decide)) (by decide)

end GeoChat
