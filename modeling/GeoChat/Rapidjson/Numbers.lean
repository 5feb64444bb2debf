import GeoChat.Rapidjson.Strings

/-!
# What the parser reads of a number

The loops over digits stop where an integer type ends, but together they read
every digit. The exponent that `Pow10` gets is in its table unless the `int` of
the sum overflows.
-/

namespace GeoChat.Rapidjson

open Library

variable {room : Nat} {whole memory : Memory}

theorem isDigit_ne_zero {byte : UInt8} (digit : isDigit byte = true) : byte ≠ 0 := by
  rintro rfl
  cases digit

theorem Digits.nil : Digits [] := fun _ member => nomatch member

theorem Digits.cons {byte : UInt8} {rest : Bytes} (first : isDigit byte = true)
    (others : Digits rest) : Digits (byte :: rest) := List.forall_mem_cons.mpr ⟨first, others⟩

theorem Digits.append {first second : Bytes} (before : Digits first) (after : Digits second) :
    Digits (first ++ second) := List.forall_mem_append.mpr ⟨before, after⟩

/-- The read position is behind the last digit. -/
def Stopped (memory : Memory) : Prop := ∀ byte rest, memory = byte :: rest → isDigit byte = false

theorem Stopped.of_not {byte : UInt8} {rest : Memory} (other : ¬ isDigit byte = true) :
    Stopped (byte :: rest) := by
  rintro _ _ ⟨⟩
  exact Bool.not_eq_true _ ▸ other

/-- Where a digit is ahead, a loop that reads all digits reads one. -/
theorem Passed.ne_nil {digits : Bytes} {rest behind : Memory} {byte : UInt8}
    (passed : Passed whole memory digits rest) (ahead : memory = byte :: behind)
    (isDigit : isDigit byte = true) (stopped : Stopped rest) :
    ∃ others, digits = byte :: others := by
  cases digits with
  | nil =>
      have same : rest = byte :: behind := by rw [← ahead, passed.split, List.nil_append]
      exact absurd isDigit (by rw [stopped byte behind same]; decide)
  | cons first others =>
      have same := passed.split.symm.trans ahead
      rw [List.cons_append, List.cons.injEq] at same
      exact ⟨others, by rw [same.1]⟩

theorem Held.passed_digit {byte : UInt8} {rest : Memory} (held : Held whole (byte :: rest))
    (digit : isDigit byte = true) : Passed whole (byte :: rest) [byte] rest :=
  held.passed_one rfl (isDigit_ne_zero digit)

section Integers

/-- The test of the loops says that the next digit makes the number larger than
`limit * 10 + last`. -/
theorem exceeds_iff {limit value : Nat} {last byte : UInt8} (lastDigit : isDigit last = true)
    (byteDigit : isDigit byte = true) :
    (limit ≤ value ∧ (value ≠ limit ∨ last < byte)) ↔
      limit * 10 + digit last < value * 10 + digit byte := by
  have lastLe := digit_le last lastDigit
  have byteLe := digit_le byte byteDigit
  have order : last < byte ↔ digit last < digit byte := by
    simp only [Rapidjson.isDigit, Bool.and_eq_true, decide_eq_true_eq, UInt8.le_iff_toNat_le]
      at lastDigit byteDigit
    have lower : 48 ≤ last.toNat := lastDigit.1
    rw [UInt8.lt_iff_toNat_lt, digit, digit]
    omega
  rw [order]
  omega

/-- What a loop over the digits of an integer gives. -/
structure ScannedDigits (whole memory : Memory) (limit start : Nat) (digits : Bytes)
    (scanned : Scanned) : Prop where
  passed : Passed whole memory digits scanned.memory
  areDigits : Digits digits
  value : scanned.value = continued start digits
  fits : start ≤ limit → scanned.value ≤ limit
  broke : scanned.broke = true → ∃ byte rest, scanned.memory = byte :: rest ∧
    isDigit byte = true ∧ limit < scanned.value * 10 + digit byte

theorem ensures_scanInteger (limit : Nat) {last : UInt8} (lastDigit : isDigit last = true)
    (value significandDigit : Nat) (held : Held whole memory) :
    Ensures (Tolerated room whole)
      (fun scanned => ∃ digits,
        ScannedDigits whole memory (limit * 10 + digit last) value digits scanned)
      (scanInteger limit last memory value significandDigit) := by
  induction memory generalizing value significandDigit with
  | nil => cases held.terminated
  | cons byte rest inductionHypothesis =>
      rw [scanInteger]
      refine .ite (fun isDigit => .ite (fun stop => ?_) fun goesOn => ?_) fun _ => ?_
      · exact ⟨[], .refl held, .nil, rfl, id, fun _ =>
          ⟨byte, rest, rfl, isDigit, (exceeds_iff lastDigit isDigit).mp stop⟩⟩
      · have step := held.passed_digit isDigit
        rw [exceeds_iff lastDigit isDigit] at goesOn
        refine (inductionHypothesis _ _ step.held).mono ?_
        rintro scanned ⟨digits, passed, areDigits, sum, fits, broke⟩
        exact ⟨byte :: digits, step.trans passed, .cons isDigit areDigits,
          by rw [sum, continued_cons], fun _ => fits (Nat.le_of_not_lt goesOn), broke⟩
      · exact ⟨[], .refl held, .nil, rfl, id, fun broke => nomatch broke⟩

/-- The bound of the first loop. -/
def smallBound (minus : Bool) : Nat := if minus then 2 ^ 31 else 2 ^ 32 - 1

theorem smallBound_le (minus : Bool) : smallBound minus ≤ bound minus := by
  cases minus <;> decide

theorem ensures_wide (minus : Bool) (value significandDigit : Nat) (held : Held whole memory) :
    Ensures (Tolerated room whole)
      (fun scanned => ∃ digits, ScannedDigits whole memory (bound minus) value digits scanned)
      (if minus then scanInteger 0x0CCCCCCCCCCCCCCC 56 memory value significandDigit
        else scanInteger 0x1999999999999999 53 memory value significandDigit) := by
  cases minus with
  | true => exact ensures_scanInteger 0x0CCCCCCCCCCCCCCC (by decide) value significandDigit held
  | false => exact ensures_scanInteger 0x1999999999999999 (by decide) value significandDigit held

/-- What is read of an integer: it fits, or the next digit does not. -/
structure ScannedInt (whole memory : Memory) (minus : Bool) (text : Bytes) (scanned : Scanned) :
    Prop where
  passed : Passed whole memory text scanned.memory
  int : IntText text
  value : scanned.value = continued 0 text
  fits : scanned.value ≤ bound minus
  broke : scanned.broke = true → text ≠ [48] ∧ ∃ byte rest, scanned.memory = byte :: rest ∧
    isDigit byte = true ∧ bound minus < scanned.value * 10 + digit byte

/-- The 64 bits that follow the 32. -/
theorem ensures_second {minus : Bool} {first : UInt8} {digits : Bytes} {behind : Memory}
    {small : Scanned} (isDigit : isDigit first = true) (nonzero : first ≠ 48)
    (lead : Passed whole memory [first] behind)
    (scanned : ScannedDigits whole behind (smallBound minus) (digit first) digits small) :
    Ensures (Tolerated room whole)
      (fun scanned => ∃ text, ScannedInt whole memory minus text scanned)
      (if small.broke then
        if minus then
          scanInteger 0x0CCCCCCCCCCCCCCC 56 small.memory small.value small.significandDigit
        else scanInteger 0x1999999999999999 53 small.memory small.value small.significandDigit
      else pure small) := by
  rcases scanned with ⟨passed, areDigits, sum, fits, -⟩
  have startLe : digit first ≤ smallBound minus :=
    (digit_le first isDigit).trans (by cases minus <;> decide)
  have smallFits := (fits startLe).trans (smallBound_le minus)
  have notZero : ∀ digits : Bytes, first :: digits ≠ [48] := fun digits same =>
    nonzero (List.cons.inj same).1
  refine .ite (fun _ => ?_) fun unbroken => ?_
  · refine (ensures_wide minus small.value small.significandDigit passed.held).mono ?_
    rintro scanned ⟨more, further, areMore, total, wideFits, broke⟩
    refine ⟨first :: (digits ++ more), lead.trans (passed.trans further),
      .digits isDigit nonzero (areDigits.append areMore), ?_, wideFits smallFits,
      fun stopped => ⟨notZero _, broke stopped⟩⟩
    rw [total, sum, continued_cons, continued_append, Nat.zero_mul, Nat.zero_add]
  · refine ⟨first :: digits, lead.trans passed, .digits isDigit nonzero areDigits, ?_, smallFits,
      fun broke => absurd broke unbroken⟩
    rw [sum, continued_cons, Nat.zero_mul, Nat.zero_add]

theorem ensures_parseInteger (minus : Bool) (held : Held whole memory) :
    Ensures (Tolerated room whole)
      (fun scanned => ∃ text, ScannedInt whole memory minus text scanned)
      (parseInteger minus memory) := by
  refine .bind (ensures_take held) ?_
  rintro ⟨first, behind⟩ split
  refine .ite (fun zero => ?_) fun nonzero => .ite (fun isDigit => ?_) fun _ => trivial
  · subst zero
    exact ⟨[48], held.passed_one split (by decide), .zero, rfl, Nat.zero_le _,
      fun broke => nomatch broke⟩
  · have lead : Passed whole memory [first] behind :=
      held.passed_one split (isDigit_ne_zero isDigit)
    dsimp only
    cases minus with
    | true =>
        rw [if_pos rfl]
        exact .bind (ensures_scanInteger 214748364 (by decide) (digit first) 0 lead.held)
          fun small ⟨_, scanned⟩ => ensures_second isDigit nonzero lead scanned
    | false =>
        rw [if_neg Bool.false_ne_true]
        exact .bind (ensures_scanInteger 429496729 (by decide) (digit first) 0 lead.held)
          fun small ⟨_, scanned⟩ => ensures_second isDigit nonzero lead scanned

theorem IntText.append {text more : Bytes} (int : IntText text) (notZero : text ≠ [48])
    (digits : Digits more) : IntText (text ++ more) := by
  cases int with
  | zero => exact absurd rfl notZero
  | digits lead nonzero others => exact .digits lead nonzero (others.append digits)

end Integers

variable (doubles : Doubles)

section Significand

theorem ensures_scanBig (d : doubles.Double) (held : Held whole memory) :
    Ensures (Tolerated room whole)
      (fun result => ∃ digits, Passed whole memory digits result.2 ∧ Digits digits ∧
        Stopped result.2)
      (scanBig doubles memory d) := by
  induction memory generalizing d with
  | nil => cases held.terminated
  | cons byte rest inductionHypothesis =>
      rw [scanBig]
      refine .ite (fun isDigit => .ite (fun _ => trivial) fun _ => ?_) fun other => ?_
      · have step := held.passed_digit isDigit
        refine (inductionHypothesis _ step.held).mono ?_
        rintro result ⟨digits, passed, areDigits, stopped⟩
        exact ⟨byte :: digits, step.trans passed, .cons isDigit areDigits, stopped⟩
      · exact ⟨[], .refl held, .nil, .of_not other⟩

variable {doubles}

/-- What is known of a number behind its integer part. -/
structure Significand (whole memory : Memory) (minus : Bool) (text : Bytes)
    (number : Number doubles) : Prop where
  passed : Passed whole memory text number.memory
  int : IntText text
  expFrac : number.expFrac = 0
  value : number.double = none → number.value = continued 0 text
  double : number.double = none ↔ continued 0 text ≤ bound minus

theorem ensures_forceBig {minus : Bool} {text : Bytes} {scanned : Scanned}
    (isScanned : ScannedInt whole memory minus text scanned) :
    Ensures (Tolerated room whole)
      (fun number => ∃ text, Significand whole memory minus text number)
      (forceBig doubles scanned) := by
  rcases isScanned with ⟨passed, int, sum, fits, broke⟩
  refine .ite (fun stopped => ?_) fun _ => ?_
  · rcases broke stopped with ⟨notZero, byte, behind, ahead, isDigit, exceeds⟩
    refine .bind (ensures_scanBig doubles _ passed.held) ?_
    rintro ⟨d, rest⟩ ⟨digits, further, areDigits, atEnd⟩
    obtain ⟨others, rfl⟩ := further.ne_nil ahead isDigit atEnd
    have larger : bound minus < continued 0 (text ++ byte :: others) := by
      rw [continued_append, ← sum, continued_cons]
      exact exceeds.trans_le (le_continued _ _)
    exact ⟨text ++ byte :: others, passed.trans further, int.append notZero areDigits, rfl,
      fun none => (nomatch none), fun none => (nomatch none),
      fun small => absurd small (Nat.not_le.mpr larger)⟩
  · exact ⟨text, passed, int, rfl, fun _ => sum, fun _ => sum ▸ fits, fun _ => rfl⟩

end Significand

section Fraction

theorem ensures_scanSignificand (value significandDigit : Nat) (expFrac : Int)
    (held : Held whole memory) :
    Ensures (Tolerated room whole)
      (fun result => ∃ digits, Passed whole memory digits result.2.2.2 ∧ Digits digits ∧
        result.2.2.1 = expFrac - digits.length)
      (scanSignificand memory value significandDigit expFrac) := by
  induction memory generalizing value significandDigit expFrac with
  | nil => cases held.terminated
  | cons byte rest inductionHypothesis =>
      rw [scanSignificand]
      refine .ite (fun goesOn => ?_) fun _ => ?_
      · have step := held.passed_digit goesOn.1
        refine (inductionHypothesis _ _ _ step.held).mono ?_
        rintro result ⟨digits, passed, areDigits, count⟩
        refine ⟨byte :: digits, step.trans passed, .cons goesOn.1 areDigits, ?_⟩
        rw [count, List.length_cons]
        omega
      · exact ⟨[], .refl held, .nil, by simp⟩

theorem ensures_scanFraction (d : doubles.Double) (significandDigit : Nat) (expFrac : Int)
    (held : Held whole memory) :
    Ensures (Tolerated room whole)
      (fun result => ∃ digits, Passed whole memory digits result.2.2 ∧ Digits digits ∧
        Stopped result.2.2 ∧ expFrac - digits.length ≤ result.2.1 ∧ result.2.1 ≤ expFrac)
      (scanFraction doubles memory d significandDigit expFrac) := by
  induction memory generalizing d significandDigit expFrac with
  | nil => cases held.terminated
  | cons byte rest inductionHypothesis =>
      rw [scanFraction]
      refine .ite (fun isDigit => .ite (fun _ => ?_) fun _ => ?_) fun other => ?_
      · have step := held.passed_digit isDigit
        refine (inductionHypothesis _ _ _ step.held).mono ?_
        rintro result ⟨digits, passed, areDigits, stopped, lower, upper⟩
        refine ⟨byte :: digits, step.trans passed, .cons isDigit areDigits, stopped, ?_, ?_⟩
        · rw [List.length_cons]
          omega
        · omega
      · have step := held.passed_digit isDigit
        refine (inductionHypothesis _ _ _ step.held).mono ?_
        rintro result ⟨digits, passed, areDigits, stopped, lower, upper⟩
        refine ⟨byte :: digits, step.trans passed, .cons isDigit areDigits, stopped, ?_, upper⟩
        rw [List.length_cons]
        omega
      · exact ⟨[], .refl held, .nil, .of_not other, by simp, Int.le_refl _⟩

variable {doubles}

/-- The digits of a fraction are read and make the number a `double`. -/
structure FractionDigits (whole memory : Memory) (number : Number doubles) (digits : Bytes)
    (result : Number doubles) : Prop where
  passed : Passed whole memory digits result.memory
  areDigits : Digits digits
  stopped : Stopped result.memory
  double : result.double.isSome = true
  value : result.value = number.value
  lower : number.expFrac - digits.length ≤ result.expFrac
  upper : result.expFrac ≤ number.expFrac

theorem ensures_parseDigits (number : Number doubles) (held : Held whole memory) :
    Ensures (Tolerated room whole)
      (fun result => ∃ digits, FractionDigits whole memory number digits result)
      (parseDigits doubles number memory) := by
  unfold parseDigits
  cases number.double with
  | some d =>
      dsimp only
      rw [pure_bind]
      refine .bind (ensures_scanFraction doubles d _ _ held) ?_
      rintro ⟨later, expFrac, rest⟩ ⟨digits, passed, areDigits, stopped, lower, upper⟩
      exact ⟨digits, passed, areDigits, stopped, rfl, rfl, lower, upper⟩
  | none =>
      refine .bind (ensures_scanSignificand _ _ _ held) ?_
      rintro ⟨value, significandDigit, middle, behind⟩ ⟨first, passed, areFirst, count⟩
      dsimp only
      rw [pure_bind]
      refine .bind (ensures_scanFraction doubles _ _ _ passed.held) ?_
      rintro ⟨later, expFrac, rest⟩ ⟨second, further, areSecond, stopped, lower, upper⟩
      dsimp only at count lower upper
      refine ⟨first ++ second, passed.trans further, areFirst.append areSecond, stopped, rfl,
        rfl, ?_, ?_⟩
      · rw [List.length_append]
        dsimp only
        omega
      · dsimp only
        omega

/-- What `frac` makes of a number. -/
structure Fraction (whole : Memory) (number : Number doubles) (text : Bytes)
    (result : Number doubles) : Prop where
  passed : Passed whole number.memory text result.memory
  frac : FracText text
  value : result.value = number.value
  double : result.double = none ↔ text = [] ∧ number.double = none
  lower : number.expFrac - (text.length - 1 : Nat) ≤ result.expFrac
  upper : result.expFrac ≤ number.expFrac

theorem ensures_parseFraction {number : Number doubles} (held : Held whole number.memory) :
    Ensures (Tolerated room whole) (fun result => ∃ text, Fraction whole number text result)
      (parseFraction doubles number) := by
  refine .bind (ensures_peek held) ?_
  rintro point ⟨_, ahead⟩
  refine .ite (fun isPoint => ?_) fun _ => ?_
  · subst isPoint
    refine .bind (ensures_take held) ?_
    rintro ⟨_, inside⟩ split
    have lead : Passed whole number.memory [46] inside := by
      rw [ahead, List.cons.injEq] at split
      exact held.passed_one (by rw [ahead, split.2]) (by decide)
    refine .bind (ensures_peek lead.held) ?_
    rintro first ⟨behind, firstAhead⟩
    refine .ite (fun isDigit => ?_) fun _ => trivial
    refine (ensures_parseDigits number lead.held).mono ?_
    rintro result ⟨digits, passed, areDigits, stopped, double, value, lower, upper⟩
    obtain ⟨others, rfl⟩ := passed.ne_nil firstAhead isDigit stopped
    refine ⟨46 :: first :: others, lead.trans passed, .digits isDigit ?_, value, ?_, lower, upper⟩
    · exact (List.forall_mem_cons.mp areDigits).2
    · simp [Option.isSome_iff_ne_none.mp double]
  · exact ⟨[], .refl held, .none, rfl, by simp, by simp, Int.le_refl _⟩

end Fraction

section Exponent

theorem ensures_skipDigits (held : Held whole memory) :
    Ensures (Tolerated room whole)
      (fun rest => ∃ digits, Passed whole memory digits rest ∧ Digits digits)
      (skipDigits memory) := by
  induction memory with
  | nil => cases held.terminated
  | cons byte rest inductionHypothesis =>
      rw [skipDigits]
      refine .ite (fun isDigit => ?_) fun _ => ⟨[], .refl held, .nil⟩
      have step := held.passed_digit isDigit
      refine (inductionHypothesis step.held).mono ?_
      rintro last ⟨digits, passed, areDigits⟩
      exact ⟨byte :: digits, step.trans passed, .cons isDigit areDigits⟩

/-- The loop ends before the exponent overflows. -/
theorem ensures_scanNegative (exp : Nat) (small : exp < 214748364) (held : Held whole memory) :
    Ensures (Tolerated room whole)
      (fun result => ∃ digits, Passed whole memory digits result.2 ∧ Digits digits ∧
        result.1 ≤ continued exp digits ∧ result.1 ≤ 2147483639)
      (scanNegative memory exp) := by
  induction memory generalizing exp with
  | nil => cases held.terminated
  | cons byte rest inductionHypothesis =>
      rw [scanNegative]
      refine .ite (fun isDigit => ?_) fun _ => ⟨[], .refl held, .nil, Nat.le_refl _, by omega⟩
      have step := held.passed_digit isDigit
      have digitLe := digit_le byte isDigit
      refine .ite (fun _ => ?_) fun below => ?_
      · refine .bind (ensures_skipDigits step.held) ?_
        rintro last ⟨digits, passed, areDigits⟩
        exact ⟨byte :: digits, step.trans passed, .cons isDigit areDigits,
          le_continued _ digits, by dsimp only; omega⟩
      · refine (inductionHypothesis _ (by omega) step.held).mono ?_
        rintro result ⟨digits, passed, areDigits, atMost, bounded⟩
        exact ⟨byte :: digits, step.trans passed, .cons isDigit areDigits, atMost, bounded⟩

theorem int32_eq {value : Int} (lower : -2 ^ 31 ≤ value) (upper : value < 2 ^ 31) :
    int32 value = value := Int.bmod_eq_of_le (by simpa using lower) (by simpa using upper)

/-- The exponent does not wrap below a bound whose tenfold does not. -/
theorem ensures_scanPositive (few : Prop) (maxExp exp : Int)
    (bound : few → maxExp < 214748364) (small : few → 0 ≤ exp ∧ exp ≤ maxExp)
    (held : Held whole memory) :
    Ensures (Tolerated room whole)
      (fun result => ∃ digits, Passed whole memory digits result.2 ∧ Digits digits ∧
        (few → 0 ≤ result.1 ∧ result.1 ≤ maxExp))
      (scanPositive maxExp memory exp) := by
  induction memory generalizing exp with
  | nil => cases held.terminated
  | cons byte rest inductionHypothesis =>
      rw [scanPositive]
      refine .ite (fun isDigit => .ite (fun _ => trivial) fun below => ?_)
        fun _ => ⟨[], .refl held, .nil, small⟩
      have step := held.passed_digit isDigit
      have digitLe := digit_le byte isDigit
      have grown : few → 0 ≤ int32 (exp * 10 + digit byte) ∧
          int32 (exp * 10 + digit byte) ≤ maxExp := by
        intro isFew
        have limit := bound isFew
        obtain ⟨positive, atMost⟩ := small isFew
        refine ⟨?_, Int.not_lt.mp below⟩
        rw [int32_eq (by omega) (by omega)]
        omega
      refine (inductionHypothesis _ grown step.held).mono ?_
      rintro result ⟨digits, passed, areDigits, bounded⟩
      exact ⟨byte :: digits, step.trans passed, .cons isDigit areDigits, bounded⟩

/-- A sign that is not a minus. -/
def signText (minus : Bool) (sign : Bytes) : Prop :=
  if minus then sign = [45] else sign = [] ∨ sign = [43]

theorem ensures_takeSign (held : Held whole memory) :
    Ensures (Tolerated room whole)
      (fun result => ∃ sign, Passed whole memory sign result.2 ∧ signText result.1 sign)
      (takeSign memory) := by
  refine .bind (ensures_peek held) ?_
  rintro sign ⟨rest, rfl⟩
  refine .ite (fun isPlus => ?_) fun _ => .ite (fun isMinus => ?_) fun _ => ?_
  · subst isPlus
    exact ⟨[43], held.passed_one rfl (by decide), .inr rfl⟩
  · subst isMinus
    exact ⟨[45], held.passed_one rfl (by decide), rfl⟩
  · exact ⟨[], .refl held, .inl rfl⟩

variable {doubles}

/-- What `exp` makes of a number. Behind a very long fraction the exponent may
be any. -/
structure Exponent (whole : Memory) (number : Number doubles) (text : Bytes)
    (result : Number doubles × Int) : Prop where
  passed : Passed whole number.memory text result.1.memory
  exp : ExpText text
  value : result.1.value = number.value
  double : result.1.double = none ↔ text = [] ∧ number.double = none
  expFrac : result.1.expFrac = number.expFrac
  upper : -2 * 10 ^ 8 ≤ number.expFrac → result.2 ≤ 308 - number.expFrac
  lower : -2 * 10 ^ 8 ≤ number.expFrac → -2147483639 ≤ result.2
  negative : -2 * 10 ^ 8 ≤ number.expFrac → result.2 < 0 →
    ∃ mark digits, text = mark :: 45 :: digits ∧ Digits digits ∧ -result.2 ≤ continued 0 digits

theorem ensures_parseExponent {number : Number doubles} (upper : number.expFrac ≤ 0)
    (held : Held whole number.memory) :
    Ensures (Tolerated room whole) (fun result => ∃ text, Exponent whole number text result)
      (parseExponent doubles number) := by
  refine .bind (ensures_peek held) ?_
  rintro mark ⟨rest, ahead⟩
  refine .ite (fun marked => ?_) fun _ => ?_
  · refine .bind (ensures_take held) ?_
    rintro ⟨_, inside⟩ split
    have lead : Passed whole number.memory [mark] inside := by
      rw [ahead, List.cons.injEq] at split
      refine held.passed_one (by rw [ahead, split.2]) ?_
      rintro rfl
      rcases marked with wrong | wrong <;> cases wrong
    refine .bind (ensures_takeSign lead.held) ?_
    rintro ⟨expMinus, behind⟩ ⟨sign, passedSign, signed⟩
    refine .bind (ensures_take passedSign.held) ?_
    rintro ⟨first, others⟩ split
    refine .ite (fun isDigit => ?_) fun _ => trivial
    have passedFirst : Passed whole behind [first] others :=
      passedSign.held.passed_one split (isDigit_ne_zero isDigit)
    have firstLe := digit_le first isDigit
    have passed := (lead.trans passedSign).trans passedFirst
    dsimp only
    cases expMinus with
    | true =>
        rw [if_pos rfl]
        refine .bind (ensures_scanNegative _ (by omega) passedFirst.held) ?_
        rintro ⟨exp, last⟩ ⟨digits, further, areDigits, atMost, bounded⟩
        obtain rfl : sign = [45] := signed
        dsimp only at atMost bounded
        refine ⟨mark :: [45] ++ first :: digits, (passed.trans further).cast (by simp),
          .digits marked (.inr (.inr rfl)) isDigit areDigits, rfl, by simp, rfl, fun _ => ?_,
          fun _ => ?_, fun _ _ => ?_⟩
        · change -(exp : Int) ≤ 308 - number.expFrac
          omega
        · change -2147483639 ≤ -(exp : Int)
          omega
        · refine ⟨mark, first :: digits, rfl, .cons isDigit areDigits, ?_⟩
          rw [continued_cons, Nat.zero_mul, Nat.zero_add]
          change - -(exp : Int) ≤ _
          omega
    | false =>
        rw [if_neg Bool.false_ne_true]
        have limit : -2 * 10 ^ 8 ≤ number.expFrac →
            int32 (308 - number.expFrac) = 308 - number.expFrac :=
          fun _ => int32_eq (by omega) (by omega)
        refine .bind (ensures_scanPositive (-2 * 10 ^ 8 ≤ number.expFrac) _ (digit first)
          (fun few => ?_) (fun few => ?_) passedFirst.held) ?_
        · rw [limit few]
          omega
        · rw [limit few]
          omega
        rintro ⟨exp, last⟩ ⟨digits, further, areDigits, bounded⟩
        have fits : -2 * 10 ^ 8 ≤ number.expFrac → 0 ≤ exp ∧ exp ≤ 308 - number.expFrac := by
          intro few
          have within := bounded few
          rwa [limit few] at within
        refine ⟨mark :: sign ++ first :: digits, (passed.trans further).cast (by simp),
          .digits marked (signed.imp_right .inl) isDigit areDigits, rfl, by simp, rfl,
          fun few => (fits few).2, fun few => ?_, fun few negative => ?_⟩
        · exact Int.le_trans (by decide) (fits few).1
        · exact absurd (fits few).1 (Int.not_le.mpr negative)
  · refine ⟨[], .refl held, .none, rfl, by simp, rfl, fun _ => ?_, fun _ => ?_,
      fun _ negative => ?_⟩
    · dsimp only
      omega
    · dsimp only
      omega
    · exact absurd negative (Int.lt_irrefl 0)

end Exponent

section Number

/-- The table of `Pow10` ends at 308. Below its other end, the number is
zero. -/
theorem strtodNormalPrecision_eq (p : Int) :
    strtodNormalPrecision p = if p ≤ 308 then .ok () else .error .assertion := by
  have table (n : Int) (lower : 0 ≤ n) (upper : n ≤ 308) : pow10 n = .ok () :=
    if_pos ⟨lower, upper⟩
  have small (exp : Int) (upper : exp ≤ 308) : fastPath exp = .ok () := by
    unfold fastPath
    split_ifs
    · rfl
    · exact table exp (by omega) upper
    · exact table (-exp) (by omega) (by omega)
  unfold strtodNormalPrecision
  split
  next deep =>
    rw [small (-308) (by decide), small (p + 308) (by omega), if_pos (by omega)]
    rfl
  next =>
    split
    next upper => exact small p upper
    next large =>
      rw [fastPath, if_neg (by omega), if_pos (by omega), pow10, if_neg (by omega)]

theorem ensures_takeMinus (held : Held whole memory) :
    Ensures (Tolerated room whole)
      (fun result => Passed whole memory (minusText result.1) result.2) (takeMinus memory) := by
  refine .bind (ensures_peek held) ?_
  rintro sign ⟨rest, rfl⟩
  refine .ite (fun isMinus => ?_) fun _ => .refl held
  subst isMinus
  exact held.passed_one rfl (by decide)

variable {doubles}

/-- The sum of the exponents is no `int` only for a number that is too deep. -/
theorem Exponent.deep {minus : Bool} {int frac exp : Bytes} {number fraction : Number doubles}
    {result : Number doubles × Int} {start : Memory} (short : whole.length < 2 ^ 31)
    (before : Passed whole start (minusText minus ++ int) number.memory)
    (within : start <:+ whole) (expFrac : number.expFrac = 0)
    (isFraction : Fraction whole number frac fraction)
    (isExponent : Exponent whole fraction exp result)
    (overflows : -2 * 10 ^ 8 ≤ fraction.expFrac → result.2 + result.1.expFrac < -2 ^ 31) :
    Deep whole := by
  rcases within with ⟨head, rfl⟩
  have lower := isFraction.lower
  rw [expFrac] at lower
  have split : head ++ start =
      (head ++ minusText minus ++ int) ++ frac ++ exp ++ result.1.memory := by
    rw [before.split, isFraction.passed.split, isExponent.passed.split]
    simp only [List.append_assoc]
  have lengths : frac.length ≤ (head ++ start).length := by
    rw [split]
    simp only [List.length_append]
    omega
  cases isFraction.frac with
  | none =>
      -- the exponent alone is not too deep
      simp only [List.length_nil] at lower
      have few : -2 * 10 ^ 8 ≤ fraction.expFrac := by omega
      have expLower := isExponent.lower few
      have wraps := overflows few
      rw [isExponent.expFrac] at wraps
      omega
  | @digits first rest isDigit areRest =>
      simp only [List.length_cons, Nat.add_sub_cancel] at lower lengths
      by_cases few : -2 * 10 ^ 8 ≤ fraction.expFrac
      · have wraps := overflows few
        rw [isExponent.expFrac] at wraps
        obtain ⟨mark, digits, rfl, areDigits, atMost⟩ := isExponent.negative few (by omega)
        rw [split]
        refine .exponent (.cons isDigit areRest) areDigits ?_
        rw [List.length_cons]
        omega
      · rw [split, List.append_assoc _ exp]
        refine .fraction (.cons isDigit areRest) ?_
        rw [List.length_cons]
        omega

variable (doubles)

theorem ensures_parseNumber (short : whole.length < 2 ^ 31) (held : Held whole memory) :
    Ensures (Tolerated room whole) (Reads whole NumberText memory)
      (parseNumber doubles memory) := by
  refine .bind (ensures_takeMinus held) ?_
  rintro ⟨minus, behind⟩ passedMinus
  refine .bind (ensures_parseInteger minus passedMinus.held) ?_
  rintro scanned ⟨text, isScanned⟩
  refine .bind (ensures_forceBig isScanned) ?_
  rintro number ⟨int, passedInt, isInt, expFrac, value, double⟩
  refine .bind (ensures_parseFraction passedInt.held) ?_
  rintro fraction ⟨frac, isFraction⟩
  have upper : fraction.expFrac ≤ 0 := expFrac ▸ isFraction.upper
  refine .bind (ensures_parseExponent upper isFraction.passed.held) ?_
  rintro ⟨result, exponent⟩ ⟨exp, isExponent⟩
  have before := passedMinus.trans passedInt
  have passed := (before.trans isFraction.passed).trans isExponent.passed
  have isNumber := NumberText.parts minus isInt isFraction.frac isExponent.exp
  have kind : result.double = none ↔
      frac = [] ∧ exp = [] ∧ continued 0 int ≤ bound minus := by
    rw [isExponent.double, isFraction.double, double]
    tauto
  dsimp only
  cases doubled : result.double with
  | some d =>
      have isDouble : numberValue minus int frac exp = .double :=
        if_neg (kind.not.mp (by simp [doubled]))
      rw [isDouble] at isNumber
      dsimp only
      rw [strtodNormalPrecision_eq]
      by_cases inRange : -2 * 10 ^ 8 ≤ fraction.expFrac ∧ -2 ^ 31 ≤ exponent + result.expFrac
      · have small : exponent + result.expFrac ≤ 308 := by
          have upper := isExponent.upper inRange.1
          rw [isExponent.expFrac]
          dsimp only at upper
          omega
        rw [int32_eq inRange.2 (by omega), if_pos small]
        exact ⟨_, passed, isNumber⟩
      · have deep := isExponent.deep short before held.within expFrac isFraction
          fun few => Int.not_le.mp fun above => inRange ⟨few, above⟩
        split
        next => exact ⟨_, passed, isNumber⟩
        next => exact deep
  | none =>
      have isInteger : numberValue minus int frac exp = _ := if_pos (kind.mp doubled)
      have same : result.value = continued 0 int := by
        rw [isExponent.value, isFraction.value]
        exact value (isFraction.double.mp (isExponent.double.mp doubled).2).2
      rw [isInteger] at isNumber
      dsimp only
      rw [same]
      exact ⟨_, passed, isNumber⟩

end Number

end GeoChat.Rapidjson
