import Mathlib.Data.List.Perm.Subperm
import GeoChat.Common.Utils
import GeoChat.Net.AsyncConnect

/-!
# `AsyncHttpClient::asyncConnect`

The stages of a connect behind each other: the name of the host is resolved, one
of its endpoints is connected, the socket is asked for its addresses, and with
SSL there is a handshake. Each stage hands the handler of the caller to the next.
-/

namespace GeoChat

universe u

/-- `boost::asio::error::no_recovery`. -/
def noRecovery : ErrorCode := .other 3

/-- What the socket says of its addresses: the error of each endpoint, and what
`addressToString` makes of it. -/
structure Addresses where
  remoteEndpoint : ErrorCode
  remoteAddr : ErrorCode × Bytes
  localEndpoint : ErrorCode
  localAddr : ErrorCode × Bytes

/-- `BasicTcpClient`, as far as a connect changes it. -/
structure TcpClient where
  ssl : Bool
  isOpen : Bool := false
  remoteAddr : Bytes := []
  localAddr : Bytes := []
  deriving DecidableEq, Repr

/-- `makeConnected`, with the error that it leaves. -/
def TcpClient.makeConnected (addresses : Addresses) (socket : TcpClient) : ErrorCode × TcpClient :=
  let socket := { socket with isOpen := true }
  if addresses.remoteEndpoint ≠ .success then (addresses.remoteEndpoint, socket)
  else
    let socket := { socket with remoteAddr := addresses.remoteAddr.2 }
    if addresses.remoteAddr.1 ≠ .success then (addresses.remoteAddr.1, socket)
    else if addresses.localEndpoint ≠ .success then (addresses.localEndpoint, socket)
    else (addresses.localAddr.1, { socket with localAddr := addresses.localAddr.2 })

/-- No call for an address fails. -/
def Addresses.Known (addresses : Addresses) : Prop :=
  addresses.remoteEndpoint = .success ∧ addresses.remoteAddr.1 = .success ∧
    addresses.localEndpoint = .success ∧ addresses.localAddr.1 = .success

instance (addresses : Addresses) : Decidable addresses.Known :=
  inferInstanceAs (Decidable (_ ∧ _))

/-- The socket counts as open from then on, whether its addresses are known or
not. -/
theorem TcpClient.makeConnected_eq (addresses : Addresses) (socket : TcpClient) :
    ((socket.makeConnected addresses).1 = .success ↔ addresses.Known) ∧
      (socket.makeConnected addresses).2.isOpen = true ∧
      (socket.makeConnected addresses).2.ssl = socket.ssl := by
  unfold makeConnected Addresses.Known
  by_cases remote : addresses.remoteEndpoint = .success
  · by_cases named : addresses.remoteAddr.1 = .success
    · by_cases near : addresses.localEndpoint = .success
      · simp [remote, named, near]
      · simp [remote, named, near]
    · simp [remote, named]
  · simp [remote]

/-- What is outside of the process: what the resolver finds, if it does not
throw, the order of `random_shuffle`, the attempts, the addresses and the
handshake. -/
structure Surroundings (Endpoint : Type u) where
  resolved : Option (List Endpoint)
  shuffle : List Endpoint → List Endpoint
  attempts : Nat → AttemptOutcome
  addresses : Addresses
  handshake : ErrorCode

/-- The socket of an `AsyncHttpClient`, what the I/O service has under way for
it, and the calls of the handler. -/
structure HttpConnecting (Endpoint : Type u) where
  socket : TcpClient
  connecting : Connecting Endpoint := {}
  handshakes : Nat := 0
  handled : List ErrorCode := []

/-- `resolve`, or `none` where it throws. -/
def Surroundings.resolve {Endpoint : Type u} (outside : Surroundings Endpoint) :
    Option (List Endpoint) :=
  match outside.resolved with
  | none => none
  | some found =>
      let validDomains := outside.shuffle found
      if validDomains.isEmpty && !found.isEmpty then none
      else if found.isEmpty then none
      else some validDomains

theorem Surroundings.resolve_nonempty {Endpoint : Type u} {outside : Surroundings Endpoint}
    {endpoints : List Endpoint} (resolves : outside.resolve = some endpoints) : endpoints ≠ [] := by
  rintro rfl
  unfold resolve at resolves
  split at resolves
  next => cases resolves
  next found _ =>
    simp only [Option.ite_none_left_eq_some, Option.some.injEq] at resolves
    obtain ⟨notBoth, some, none⟩ := resolves
    exact notBoth (by simp [none, some])

/-- What `resolve` gives is what the resolver found, in another order. -/
theorem Surroundings.resolve_cases {Endpoint : Type u} {outside : Surroundings Endpoint}
    (shuffled : ∀ found, (outside.shuffle found).Perm found) :
    outside.resolve = none ∧ outside.resolved.getD [] = [] ∨
      ∃ endpoints, outside.resolve = some endpoints ∧
        endpoints.Perm (outside.resolved.getD []) := by
  unfold resolve
  split
  next none => exact .inl ⟨rfl, by rw [none]; rfl⟩
  next found some =>
    rw [some, Option.getD_some]
    have length := (shuffled found).length_eq
    cases found with
    | nil => exact .inl ⟨by simp, rfl⟩
    | cons first rest =>
        have filled : (outside.shuffle (first :: rest)).isEmpty = false := by
          rw [List.isEmpty_eq_false_iff, ← List.length_pos_iff, length]
          exact Nat.succ_pos _
        exact .inr ⟨_, by simp [filled], shuffled _⟩

namespace AsyncHttpClient

variable {Endpoint : Type u} [Inhabited Endpoint] (outside : Surroundings Endpoint)

def handle (ec : ErrorCode) (state : HttpConnecting Endpoint) : HttpConnecting Endpoint :=
  { state with handled := state.handled ++ [ec] }

def handleConnect (ec : ErrorCode) (state : HttpConnecting Endpoint) : HttpConnecting Endpoint :=
  if ec ≠ .success then handle ec state
  else if !state.socket.ssl then handle .success state
  else { state with handshakes := state.handshakes + 1 }

def handleHandshake (ec : ErrorCode) (state : HttpConnecting Endpoint) : HttpConnecting Endpoint :=
  if ec ≠ .success then handle ec state else handle .success state

/-- The handler that `asyncConnect` passes on. -/
def connected (ec : ErrorCode) (state : HttpConnecting Endpoint) : HttpConnecting Endpoint :=
  let made :=
    if ec = .success then state.socket.makeConnected outside.addresses else (ec, state.socket)
  handleConnect made.1 { state with socket := made.2 }

/-- The calls that the operation has made go to its handler. -/
def passOn (state : HttpConnecting Endpoint) : HttpConnecting Endpoint :=
  state.connecting.handled.foldl (fun state call => connected outside call.1 state)
    { state with connecting := { state.connecting with handled := [] } }

/-- `AsyncHttpClient::asyncConnect`. -/
def asyncConnect (socket : TcpClient) : HttpConnecting Endpoint :=
  match resolves : outside.resolve with
  | none => handle noRecovery { socket }
  | some endpoints =>
      { socket
        connecting := GeoChat.asyncConnect outside.attempts endpoints
          (Surroundings.resolve_nonempty resolves) }

/-- The I/O service runs what waits. -/
def step (state : HttpConnecting Endpoint) : HttpConnecting Endpoint :=
  match state.handshakes with
  | handshakes + 1 => handleHandshake outside.handshake { state with handshakes }
  | 0 =>
      passOn outside
        { state with connecting := RangeConnectOp.step outside.attempts state.connecting }

/-- The error of the stages behind an attempt. -/
def report (ssl : Bool) (attempt : Nat) : ErrorCode :=
  if (outside.attempts attempt).error ≠ .success then (outside.attempts attempt).error
  else if (TcpClient.makeConnected outside.addresses { ssl }).1 ≠ .success then
    (TcpClient.makeConnected outside.addresses { ssl }).1
  else if ssl then outside.handshake
  else .success

/-- While an attempt is under way. -/
def attempting (ssl : Bool) (endpoints : List Endpoint) (attempt : Nat)
    (inside : attempt < endpoints.length) : HttpConnecting Endpoint :=
  { socket := { ssl }
    connecting := RangeConnectOp.attempting outside.attempts endpoints attempt inside }

/-- Behind the last attempt. -/
def attempted (socket : TcpClient) (endpoints : List Endpoint) (last : Nat) (handshakes : Nat)
    (handled : List ErrorCode) : HttpConnecting Endpoint :=
  { socket, connecting := { attempted := endpoints.take (last + 1) }, handshakes, handled }

/-- The socket after the last attempt. -/
def socketAfter (ssl : Bool) (last : Nat) : TcpClient :=
  if (outside.attempts last).Connects then
    (TcpClient.makeConnected outside.addresses { ssl }).2
  else { ssl }

section Stages

variable {outside} {ssl : Bool} {endpoints : List Endpoint}

theorem step_attempting {attempt : Nat} (goesOn : ¬ (outside.attempts attempt).Stops)
    (more : attempt + 1 < endpoints.length) :
    step outside (attempting outside ssl endpoints attempt (Nat.lt_of_succ_lt more)) =
      attempting outside ssl endpoints (attempt + 1) more := by
  simp only [step, attempting, RangeConnectOp.step_attempting goesOn more]
  rfl

/-- The last attempt is reported at once, or after the handshake. -/
theorem step_last {last : Nat} (inside : last < endpoints.length)
    (ends : (outside.attempts last).Stops ∨ last + 1 = endpoints.length) :
    step outside (attempting outside ssl endpoints last inside) =
        attempted (socketAfter outside ssl last) endpoints last 0 [report outside ssl last] ∨
      step outside (attempting outside ssl endpoints last inside) =
          attempted (socketAfter outside ssl last) endpoints last 1 [] ∧
        report outside ssl last = outside.handshake := by
  have passed : step outside (attempting outside ssl endpoints last inside) =
      connected outside (outside.attempts last).error (attempted { ssl } endpoints last 0 []) := by
    simp only [step, attempting, RangeConnectOp.step_last inside ends]
    rfl
  rw [passed]
  unfold connected socketAfter report
  by_cases connects : (outside.attempts last).Connects
  · have noError := (outside.attempts last).error_eq_success_iff.mpr connects
    obtain ⟨-, -, sameSsl⟩ := TcpClient.makeConnected_eq outside.addresses { ssl }
    simp only [noError, connects, ne_eq, not_true_eq_false, if_true, if_false]
    unfold handleConnect
    by_cases known : (TcpClient.makeConnected outside.addresses { ssl }).1 = .success
    · cases ssl with
      | false =>
          left
          simp [attempted, known, sameSsl, handle]
      | true =>
          right
          simp [attempted, known, sameSsl]
    · left
      simp [attempted, known, handle]
  · have error : (outside.attempts last).error ≠ .success :=
      fun none => connects ((outside.attempts last).error_eq_success_iff.mp none)
    left
    simp [connects, error, handleConnect, handle, attempted]

/-- Nothing happens after the report. -/
theorem step_reported (socket : TcpClient) (last : Nat) (handled : List ErrorCode) :
    step outside (attempted socket endpoints last 0 handled) =
      attempted socket endpoints last 0 handled := rfl

theorem step_handshake (socket : TcpClient) (last : Nat) :
    step outside (attempted socket endpoints last 1 []) =
      attempted socket endpoints last 0 [outside.handshake] := by
  unfold step attempted
  simp only [handleHandshake, handle]
  by_cases failed : outside.handshake = .success
  · simp [failed]
  · simp [failed]

/-- Before the last attempt the steps go through the attempts one by one. -/
theorem iterate_attempting {start : HttpConnecting Endpoint} (nonempty : 0 < endpoints.length)
    (begins : start = attempting outside ssl endpoints 0 nonempty) {count : Nat}
    (goesOn : ∀ earlier < count, ¬ (outside.attempts earlier).Stops)
    (inside : count < endpoints.length) :
    (step outside)^[count] start = attempting outside ssl endpoints count inside := by
  induction count with
  | zero => exact begins
  | succ count inductionHypothesis =>
      have before := inductionHypothesis
        (fun earlier smaller => goesOn earlier (Nat.lt_succ_of_lt smaller))
        (Nat.lt_of_succ_lt inside)
      rw [Function.iterate_succ_apply', before]
      exact step_attempting (goesOn count (Nat.lt_succ_self count)) inside

/-- Behind the last attempt there is at most the handshake, and then the report. -/
theorem iterate_reported {start : HttpConnecting Endpoint} (nonempty : 0 < endpoints.length)
    (begins : start = attempting outside ssl endpoints 0 nonempty) {last : Nat}
    (goesOn : ∀ earlier < last, ¬ (outside.attempts earlier).Stops)
    (inside : last < endpoints.length)
    (ends : (outside.attempts last).Stops ∨ last + 1 = endpoints.length) :
    ∃ done, last < done ∧ done ≤ last + 2 ∧
      (∀ count < done, ((step outside)^[count] start).handled = []) ∧
      ∀ count, done ≤ count → (step outside)^[count] start =
        attempted (socketAfter outside ssl last) endpoints last 0 [report outside ssl last] := by
  have under : ∀ count (before : count ≤ last), (step outside)^[count] start =
      attempting outside ssl endpoints count (Nat.lt_of_le_of_lt before inside) :=
    fun count before => iterate_attempting nonempty begins
      (fun earlier smaller => goesOn earlier (Nat.lt_of_lt_of_le smaller before)) _
  have next : (step outside)^[last + 1] start =
      step outside (attempting outside ssl endpoints last inside) := by
    rw [Function.iterate_succ_apply', under last (Nat.le_refl last)]
  have stays : ∀ done, (step outside)^[done] start = attempted (socketAfter outside ssl last)
      endpoints last 0 [report outside ssl last] → ∀ count, done ≤ count →
      (step outside)^[count] start = attempted (socketAfter outside ssl last) endpoints last 0
        [report outside ssl last] := by
    intro done reported count behind
    obtain ⟨further, rfl⟩ := Nat.exists_eq_add_of_le behind
    rw [Nat.add_comm, Function.iterate_add_apply, reported]
    exact Function.iterate_fixed (step_reported _ _ _) further
  have quiet : ∀ count ≤ last, ((step outside)^[count] start).handled = [] := by
    intro count before
    rw [under count before]
    rfl
  rcases @step_last _ _ _ ssl _ _ inside ends with reported | ⟨shakes, same⟩
  · refine ⟨last + 1, Nat.lt_succ_self last, Nat.le_succ _, fun count before => ?_,
      stays _ (next.trans reported)⟩
    exact quiet count (Nat.le_of_lt_succ before)
  · have shaken : (step outside)^[last + 2] start = attempted (socketAfter outside ssl last)
        endpoints last 0 [report outside ssl last] := by
      rw [Function.iterate_succ_apply', next, shakes, step_handshake, same]
    refine ⟨last + 2, by omega, Nat.le_refl _, fun count before => ?_, stays _ shaken⟩
    by_cases earlier : count ≤ last
    · exact quiet count earlier
    · obtain rfl : count = last + 1 := by omega
      rw [next, shakes]
      rfl

end Stages

omit [Inhabited Endpoint] in
/-- The report says that there is a connection if every stage has succeeded. -/
theorem report_eq_success (ssl : Bool) (attempt : Nat) :
    report outside ssl attempt = .success ↔
      (outside.attempts attempt).Connects ∧ outside.addresses.Known ∧
        (ssl = true → outside.handshake = .success) := by
  have known := (TcpClient.makeConnected_eq outside.addresses { ssl }).1
  unfold report
  rw [← AttemptOutcome.error_eq_success_iff, ← known]
  by_cases failed : (outside.attempts attempt).error = .success
  · by_cases unknown : (TcpClient.makeConnected outside.addresses { ssl }).1 = .success
    · cases ssl <;> simp [failed, unknown]
    · simp [failed, unknown]
  · simp [failed]

omit [Inhabited Endpoint] in
theorem socketAfter_isOpen (ssl : Bool) (last : Nat) :
    (socketAfter outside ssl last).isOpen = true ↔ (outside.attempts last).Connects := by
  unfold socketAfter
  split
  next connects =>
    exact iff_of_true (TcpClient.makeConnected_eq outside.addresses { ssl }).2.1 connects
  next fails => exact iff_of_false Bool.false_ne_true fails

end AsyncHttpClient

open AsyncHttpClient in
/-- Whatever the resolver, the endpoints, the socket and the other side do, the
handler is called exactly once, in at most two steps more than there are
attempts. A host that is not found is reported at once. Else endpoints that the
resolver found are attempted, none more often than it was found, and the report
is a success if and only if one connects, the addresses are known and the
handshake, if there is one, succeeds. The socket counts as open when one
connects, also where an error is reported. -/
theorem asyncConnect_staged {Endpoint : Type u} [Inhabited Endpoint]
    (outside : Surroundings Endpoint) (ssl : Bool)
    (shuffled : ∀ found, (outside.shuffle found).Perm found) :
    let run := fun count => (step outside)^[count] (AsyncHttpClient.asyncConnect outside { ssl })
    (outside.resolved.getD [] = [] ∧
      ∀ count, run count = { socket := { ssl }, handled := [noRecovery] }) ∨
    ∃ last done result, last < done ∧ done ≤ last + 2 ∧
      last < (outside.resolved.getD []).length ∧
      (∀ earlier < last, ¬ (outside.attempts earlier).Stops) ∧
      (∀ count < done, (run count).handled = []) ∧
      (∀ count, done ≤ count → (run count).handled = [result] ∧
        (run count).connecting.attempted.Subperm (outside.resolved.getD []) ∧
        (run count).connecting.attempted.length = last + 1 ∧
        ((run count).socket.isOpen = true ↔ (outside.attempts last).Connects)) ∧
      (result = .success ↔ (outside.attempts last).Connects ∧ outside.addresses.Known ∧
        (ssl = true → outside.handshake = .success)) := by
  intro run
  have begins : AsyncHttpClient.asyncConnect outside { ssl } =
      match resolves : outside.resolve with
      | none => handle noRecovery { socket := { ssl } }
      | some endpoints =>
          { socket := { ssl }
            connecting := GeoChat.asyncConnect outside.attempts endpoints
              (Surroundings.resolve_nonempty resolves) } := rfl
  rcases outside.resolve_cases shuffled with ⟨throws, nothing⟩ | ⟨endpoints, resolves, perm⟩
  · refine .inl ⟨nothing, fun count => ?_⟩
    have start : AsyncHttpClient.asyncConnect outside { ssl } =
        { socket := { ssl }, handled := [noRecovery] } := by
      rw [begins]
      split
      next => rfl
      next resolves => cases throws.symm.trans resolves
    show (step outside)^[count] _ = _
    rw [start]
    exact Function.iterate_fixed rfl count
  · have nonempty := Surroundings.resolve_nonempty resolves
    have start : AsyncHttpClient.asyncConnect outside { ssl } =
        attempting outside ssl endpoints 0 (List.length_pos_of_ne_nil nonempty) := by
      rw [begins]
      split
      next throws => cases throws.symm.trans resolves
      next others same =>
        obtain rfl : endpoints = others := Option.some.inj (resolves.symm.trans same)
        unfold attempting
        rw [RangeConnectOp.asyncConnect_attempting]
    obtain ⟨last, inside, goesOn, ends⟩ :=
      AttemptOutcome.exists_last outside.attempts (List.length_pos_of_ne_nil nonempty)
    obtain ⟨done, after, soon, quiet, reported⟩ :=
      iterate_reported _ start goesOn inside ends
    refine .inr ⟨last, done, report outside ssl last, after, soon, perm.length_eq ▸ inside, goesOn,
      quiet, fun count behind => ?_, report_eq_success outside ssl last⟩
    have final : run count = attempted (socketAfter outside ssl last) endpoints last 0
        [report outside ssl last] := reported count behind
    rw [final]
    exact ⟨rfl, (List.take_sublist _ _).subperm.trans perm.subperm, List.length_take_of_le inside,
      socketAfter_isOpen outside ssl last⟩

/-- Two addresses of a host, of which the second one accepts the connection and
not the handshake. -/
def secondAccepts : Surroundings Nat where
  resolved := some [20, 10]
  shuffle := id
  attempts := refusedFirst
  addresses := ⟨.success, (.success, bytes "10.0.0.1"), .success, (.success, bytes "10.0.0.2")⟩
  handshake := .other 1

theorem asyncConnect_staged_handshake :
    let final := (AsyncHttpClient.step secondAccepts)^[3]
      (AsyncHttpClient.asyncConnect secondAccepts { ssl := true })
    final.handled = [.other 1] ∧ final.connecting.attempted = [20, 10] ∧
      final.socket.isOpen = true := by
  intro final
  have shape : final.handled = [.other 1] ∧ final.connecting.attempted = [20, 10] := by
    decide +kernel
  refine ⟨shape.1, shape.2, ?_⟩
  rcases asyncConnect_staged secondAccepts true fun _ => .refl _ with
    ⟨nothing, -⟩ | ⟨last, done, result, -, soon, inside, goesOn, -, reported, -⟩
  · cases nothing
  · replace inside : last < 2 := inside
    obtain ⟨-, -, length, isOpen⟩ := reported 3 (by omega)
    obtain rfl : 1 = last := Nat.succ.inj ((congrArg List.length shape.2).symm.trans length)
    exact isOpen.mpr (by decide)

end GeoChat
