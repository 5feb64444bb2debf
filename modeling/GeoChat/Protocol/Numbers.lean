import GeoChat.Protocol.Requests

/-!
# Numbers between the client and the server

The count of a history and the last heartbit are written as 64-bit numbers.
`parse_meta` wants them to fit in 32 bits, and since they are optional it drops
the error with the number. Other errors in the body end `parse_meta` before.
-/

namespace GeoChat

/-- `parse_meta` returns an error text, or the parameter has the number that was
sent. -/
def NumberKept (result : Checked Parsed) (field : Params → Int) (sent : Nat) : Prop :=
  ∃ details text, result = .ok (details, text) ∧ (text ≠ [] ∨ field details.params = sent)

theorem numberKept_of_error {details : RequestDetails} {text : Bytes} {field : Params → Int}
    {sent : Nat} (nonempty : text ≠ []) : NumberKept (.ok (details, text)) field sent :=
  ⟨details, text, rfl, .inl nonempty⟩

theorem numberKept_iff {details : RequestDetails} {field : Params → Int} {sent : Nat} :
    NumberKept (.ok (details, [])) field sent ↔ field details.params = sent := by
  constructor
  · rintro ⟨later, text, same, kept⟩
    cases same
    exact kept.resolve_left fun nonempty => nonempty rfl
  · exact fun kept => ⟨details, [], rfl, .inr kept⟩

section Fields

variable {document : Json} {pattern : Bytes} {details : RequestDetails}

theorem member_isObject {value : Json} (found : document.member pattern = some value) :
    document.isObject = true := by
  cases document with
  | object members => rfl
  | _ => cases found

/-- An empty string ends `parse_meta` with an error. -/
theorem requireString_of_empty {text : Bytes} (next : Bytes → Checked Parsed)
    (found : document.member pattern = some (.string text)) (empty : cstr text = []) :
    requireString document pattern details next =
      .ok (details, badRequest pattern (bytes " is empty")) := by
  unfold requireString findRequiredStringParam
  rw [Json.findMember_object (member_isObject found), found]
  simp [Json.isString, Json.getString, empty, bind, Except.bind, pure, Except.pure]

theorem findRequiredUintParam_of_wide {value : Json}
    (found : document.member pattern = some value) (wide : value.isUint = false) :
    findRequiredUintParam document pattern =
      .ok (.error (badRequest pattern (bytes " is not uint"))) := by
  unfold findRequiredUintParam
  rw [Json.findMember_object (member_isObject found), found]
  simp [wide, bind, Except.bind, pure, Except.pure]

theorem requireUint_of_wide {value : Json} (next : Nat → Checked Parsed)
    (found : document.member pattern = some value) (wide : value.isUint = false) :
    requireUint document pattern details next =
      .ok (details, badRequest pattern (bytes " is not uint")) := by
  unfold requireUint
  rw [findRequiredUintParam_of_wide found wide]
  rfl

/-- Where the number is optional, the error goes with it. -/
theorem optionalUint_of_wide {value : Json} (set : Params → Nat → Params)
    (found : document.member pattern = some value) (wide : value.isUint = false) :
    optionalUint document pattern details set = .ok (details, []) := by
  unfold optionalUint
  rw [findRequiredUintParam_of_wide found wide]
  rfl

end Fields

theorem Json.isUint_uint64_of_wide {number : Nat} (fits : number < 2 ^ 64)
    (wide : 2 ^ 32 ≤ number) : (Json.uint64 number).isUint = false := by
  rw [Json.uint64_eq fits, ← Bool.not_eq_true, Json.isUint_iff]
  rintro ⟨other, same, small⟩
  cases same
  omega

theorem cstr_cstr (text : Bytes) : cstr (cstr text) = cstr text := by
  unfold cstr
  rw [List.takeWhile_takeWhile]
  simp

/-- An optional number is kept exactly when it fits in 32 bits, where the
default is another number. -/
theorem optionalUint_kept_iff {document : Json} {pattern : Bytes} {details : RequestDetails}
    {set : Params → Nat → Params} {field : Params → Int} {sent : Nat}
    (found : document.member pattern = some (.uint64 sent)) (fits : sent < 2 ^ 64)
    (sets : ∀ params, field (set params sent) = sent) (fresh : field details.params = 0) :
    NumberKept (optionalUint document pattern details set) field sent ↔ sent < 2 ^ 32 := by
  by_cases small : sent < 2 ^ 32
  · rw [optionalUint_of_member set found (Json.isUint_uint64 small) (Json.getUint_uint64 small),
      numberKept_iff]
    exact iff_of_true (sets _) small
  · have wide := Json.isUint_uint64_of_wide fits (Nat.le_of_not_lt small)
    rw [optionalUint_of_wide set found wide, numberKept_iff]
    refine iff_of_false ?_ small
    omega

namespace ApiRequest

/-- The body of a request is refused for another reason than its number. -/
def Refused (uid : Nat) (password : Bytes) : Prop := cstr password = [] ∨ 2 ^ 32 ≤ uid

instance (uid : Nat) (password : Bytes) : Decidable (Refused uid password) :=
  inferInstanceAs (Decidable (_ ∨ _))

section ParseMeta

variable {parse : Bytes → Option Json} {passLen : Int} {json : Bytes} {document : Json}
  {details : RequestDetails} {password : Bytes} {uid : Nat} {command : Cmd}
  {field : Params → Int} {sent : Nat}

/-- `parse_meta` up to the user id: it refuses the body or goes on. -/
theorem parseMeta_kept_iff (parsed : parse (cstr json) = some document)
    (passwordMember : document.member (bytes "password") = some (.ofCString password))
    (uidMember : document.member (bytes "uid") = some (.uint64 uid)) (uidFits : uid < 2 ^ 64)
    (other : ¬ (command = .userCreate ∨ command = .userLogin)) :
    NumberKept (parseMeta parse passLen details json command) field sent ↔
      Refused uid password ∨
        NumberKept (parseParams document
          { details with params := { details.params with password := cstr password, uid } } command)
          field sent := by
  unfold parseMeta parseMetaOn
  rw [parsed]
  simp only
  by_cases empty : cstr password = []
  · rw [requireString_of_empty _ passwordMember (by rw [cstr_cstr, empty])]
    exact iff_of_true (numberKept_of_error (badRequest_ne_nil _ _)) (.inl (.inl empty))
  · rw [requireString_of_member _ passwordMember (by rwa [cstr_cstr]), cstr_cstr, if_neg other]
    by_cases small : uid < 2 ^ 32
    · have notRefused : ¬ Refused uid password := not_or.mpr ⟨empty, Nat.not_le.mpr small⟩
      rw [requireUint_of_member _ uidMember (Json.isUint_uint64 small) (Json.getUint_uint64 small),
        or_iff_right notRefused]
    · have wide := Nat.le_of_not_lt small
      rw [requireUint_of_wide _ uidMember (Json.isUint_uint64_of_wide uidFits wide)]
      exact iff_of_true (numberKept_of_error (badRequest_ne_nil _ _)) (.inl (.inr wide))

/-- A history request keeps its count when the count fits in 32 bits or the
body is refused. -/
theorem history_kept_iff {user : Bytes} {count : Nat}
    (returned : Json.ReadsBack parse (userHistory uid user count password).document)
    (uidFits : uid < 2 ^ 64) (countFits : count < 2 ^ 64) (fresh : details.params = {}) :
    NumberKept
        (parseMeta parse passLen details (userHistory uid user count password).body .userHistory)
        (fun params => params.count) count ↔
      (Refused uid password ∨ cstr user = []) ∨ count < 2 ^ 32 := by
  have parsed := parse_body rfl returned
  rw [parseMeta_kept_iff parsed rfl rfl uidFits (by decide), or_assoc]
  refine or_congr_right ?_
  change NumberKept (requireString _ (bytes "user") _ fun user => optionalUint _ (bytes "count") _
    fun params number => { params with count := number }) _ _ ↔ _
  by_cases empty : cstr user = []
  · rw [requireString_of_empty _ rfl (by rw [cstr_cstr, empty])]
    exact iff_of_true (numberKept_of_error (badRequest_ne_nil _ _)) (.inl empty)
  · rw [requireString_of_member _ rfl (by rwa [cstr_cstr]), or_iff_right empty]
    exact optionalUint_kept_iff rfl countFits (fun _ => rfl) (by simp [fresh])

/-- An idle request keeps its heartbit when it fits in 32 bits or the body is
refused. A heartbit of zero is not sent, and it is the default. -/
theorem idle_kept_iff {heartbit : Nat}
    (returned : Json.ReadsBack parse (idle uid heartbit password).document)
    (uidFits : uid < 2 ^ 64) (heartbitFits : heartbit < 2 ^ 64) (fresh : details.params = {}) :
    NumberKept (parseMeta parse passLen details (idle uid heartbit password).body .idle)
        (fun params => params.ts) heartbit ↔
      Refused uid password ∨ heartbit < 2 ^ 32 := by
  have parsed := parse_body rfl returned
  rw [parseMeta_kept_iff parsed (member_idle_password ..) rfl uidFits (by decide)]
  refine or_congr_right ?_
  change NumberKept (optionalUint _ (bytes "heartbit") _ fun params number =>
    { params with ts := number }) _ _ ↔ _
  by_cases zero : heartbit = 0
  · subst zero
    rw [optionalUint_of_none _ rfl (member_idle_heartbit_zero ..), numberKept_iff]
    exact iff_of_true (by simp [fresh]) (by decide)
  · exact optionalUint_kept_iff (member_idle_heartbit zero) heartbitFits (fun _ => rfl)
      (by simp [fresh])

end ParseMeta

end ApiRequest

/-- What `stoi` accepts is an `int`. -/
theorem stoi_range {text : Bytes} {value : Int} (accepted : stoi text = some value) :
    -(2 ^ 31) ≤ value ∧ value < 2 ^ 31 := by
  unfold stoi at accepted
  split at accepted
  · cases accepted
  · obtain ⟨range, same⟩ := Option.ite_none_right_eq_some.mp accepted
    rw [← Option.some.inj same]
    exact range

theorem toUint64_lt (value : Int) : toUint64 value < 2 ^ 64 := by
  unfold toUint64
  omega

/-- A negative `int` is sent as a number far beyond 32 bits. -/
theorem toUint64_lt_iff {value : Int} (range : -(2 ^ 31) ≤ value ∧ value < 2 ^ 31) :
    toUint64 value < 2 ^ 32 ↔ 0 ≤ value := by
  unfold toUint64
  omega

/-- The line of a history with a number that `stoi` accepts. -/
theorem parse_history {word name number : Bytes} {value : Int}
    (spelt : Utils.lowercased word = bytes "history")
    (oneWord : 32 ∉ name) (oneNumber : 32 ∉ number)
    (accepted : stoi number = some value) :
    Input.parse (word ++ bytes " " ++ name ++ bytes " " ++ number) =
      { cmd := .historyUser, history := { name, count := toUint64 value } } := by
  have space : bytes " " = [32] := by decide
  have blankWord : 32 ∉ word := by
    intro member
    have lower : tolower 32 ∈ Utils.lowercased word := List.mem_map_of_mem member
    rw [spelt] at lower
    exact absurd lower (by decide)
  have first := @Utils.split_part 32 [] word blankWord (name ++ [32] ++ number)
  have second := @Utils.split_part 32 [] name oneWord number
  have third := @Utils.split_last 32 [] number oneNumber
  have cut : Utils.split (word ++ bytes " " ++ name ++ bytes " " ++ number) (bytes " ") =
      [word, name, number] := by
    rw [space, List.append_assoc _ _ number, List.append_assoc _ name, ← List.append_assoc name,
      first, second, third]
  unfold Input.parse
  rw [cut]
  simp only [spelt]
  change { cmd := InputCmd.historyUser, history := Input.historyArgs name [number] : Args } = _
  rw [Input.historyArgs, accepted]

/-- The number of a history line reaches the server, or the request is refused,
exactly when the number is not negative or the rest of the body is refused, and
a heartbit exactly when it fits in 32 bits or the rest of the body is refused. -/
theorem numbers_kept_iff (parse : Bytes → Option Json) (passLen : Int) (details : RequestDetails)
    (fresh : details.params = {}) :
    (∀ (word name number : Bytes) (value : Int) (uid : Nat) (password : Bytes),
      Utils.lowercased word = bytes "history" → 32 ∉ name → 32 ∉ number →
      stoi number = some value → uid < 2 ^ 64 →
      let args := Input.parse (word ++ bytes " " ++ name ++ bytes " " ++ number)
      let request : ApiRequest :=
        .userHistory uid args.history.name args.history.count password
      Json.ReadsBack parse request.document →
      args.cmd = .historyUser ∧ args.history.count = toUint64 value ∧
        (NumberKept (parseMeta parse passLen details request.body .userHistory)
            (fun params => params.count) args.history.count ↔
          (ApiRequest.Refused uid password ∨ cstr name = []) ∨ 0 ≤ value)) ∧
    ∀ (uid heartbit : Nat) (password : Bytes), uid < 2 ^ 64 → heartbit < 2 ^ 64 →
      let request : ApiRequest := .idle uid heartbit password
      Json.ReadsBack parse request.document →
      (NumberKept (parseMeta parse passLen details request.body .idle)
          (fun params => params.ts) heartbit ↔
        ApiRequest.Refused uid password ∨ heartbit < 2 ^ 32) := by
  constructor
  · intro word name number value uid password spelt oneWord oneNumber accepted uidFits args request
      returned
    have line : args = { cmd := .historyUser, history := { name, count := toUint64 value } } :=
      parse_history spelt oneWord oneNumber accepted
    have kept := @ApiRequest.history_kept_iff parse passLen details password uid _ _
      returned uidFits
      (by rw [line]; exact toUint64_lt value) fresh
    rw [line] at kept ⊢
    refine ⟨rfl, rfl, ?_⟩
    rw [← toUint64_lt_iff (stoi_range accepted)]
    simp only [request, line]
    exact kept
  · intro uid heartbit password uidFits heartbitFits request returned
    exact ApiRequest.idle_kept_iff returned uidFits heartbitFits fresh

theorem numbers_kept_iff_twenty :
    let request : ApiRequest := .userHistory 7 (bytes "bob") 20 (bytes "secret")
    NumberKept (parseMeta (parseOnly request.document) 8 { command := .userHistory } request.body
      .userHistory) (fun params => params.count) 20 := by
  intro request
  have line : Input.parse (bytes "history" ++ bytes " " ++ bytes "bob" ++ bytes " " ++ bytes "20") =
      { cmd := .historyUser, history := { name := bytes "bob", count := 20 } } := by
    decide +kernel
  have kept := (numbers_kept_iff (parseOnly request.document) 8 { command := .userHistory } rfl).1
    (bytes "history") (bytes "bob") (bytes "20") 20 7 (bytes "secret") (by decide) (by decide)
    (by decide) (by decide) (by decide)
  simp only [line] at kept
  exact (kept (readsBack_parseOnly request.document)).2.2.mpr (.inr (by decide))

/-- A negative count and a heartbit of 33 bits are dropped without an error. -/
theorem numbers_dropped :
    let args := Input.parse (bytes "history bob -1")
    let history : ApiRequest :=
      .userHistory 7 args.history.name args.history.count (bytes "secret")
    let idle : ApiRequest := .idle 7 (2 ^ 32) (bytes "secret")
    args.history.count = 2 ^ 64 - 1 ∧
      ¬ NumberKept (parseMeta (parseOnly history.document) 8 { command := .userHistory }
        history.body .userHistory) (fun params => params.count) args.history.count ∧
      ¬ NumberKept (parseMeta (parseOnly idle.document) 8 { command := .idle } idle.body .idle)
        (fun params => params.ts) (2 ^ 32) := by
  intro args history idle
  have line : args =
      { cmd := .historyUser, history := { name := bytes "bob", count := 2 ^ 64 - 1 } } := by
    decide +kernel
  have historyIs : history = .userHistory 7 (bytes "bob") (2 ^ 64 - 1) (bytes "secret") := by
    simp only [history, line]
  refine ⟨by rw [line], ?_, ?_⟩
  · rw [historyIs, line, ApiRequest.history_kept_iff (readsBack_parseOnly _) (by decide) (by decide)
      rfl]
    decide
  · rw [ApiRequest.idle_kept_iff (readsBack_parseOnly _) (by decide) (by decide) rfl]
    decide

end GeoChat
