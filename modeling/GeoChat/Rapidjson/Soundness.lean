import GeoChat.Rapidjson.Numbers

/-!
# What the parser accepts

A document that `Parse` returns is derived for the text, and the parser reads no
byte behind the NUL, whatever the text is. The stack of the document holds the
values of every open array and object, above the value that opened it, and the
native stack holds a level for each of them.
-/

namespace GeoChat.Rapidjson

open Library

section Handler

/-- The stack above the opening value of an object with the members. -/
def pushed (members : List (Bytes × Json)) : Stack :=
  (members.flatMap fun member => [.string member.1, member.2]).reverse

theorem pushed_concat (members : List (Bytes × Json)) (name : Bytes) (value : Json) :
    pushed (members ++ [(name, value)]) = value :: .string name :: pushed members := by
  simp [pushed]

theorem length_pushed (members : List (Bytes × Json)) :
    (pushed members).length = 2 * members.length := by
  induction members with
  | nil => rfl
  | cons member rest inductionHypothesis =>
      simp only [pushed, List.length_reverse, List.flatMap_cons, List.length_append,
        List.length_cons, List.length_nil] at inductionHypothesis ⊢
      omega

theorem members_pushed (all : List (Bytes × Json)) : members (pushed all).reverse = all := by
  rw [pushed, List.reverse_reverse]
  induction all with
  | nil => rfl
  | cons member rest inductionHypothesis =>
      simp only [List.flatMap_cons, List.cons_append, List.nil_append, members,
        inductionHypothesis]

theorem endObject_pushed (all : List (Bytes × Json)) (opener : Json) (below : Stack) :
    endObject all.length (pushed all ++ opener :: below) = .ok (.object all :: below) := by
  have above : (pushed all ++ opener :: below).drop (2 * all.length) = opener :: below :=
    List.drop_left' (length_pushed all)
  have top : (pushed all ++ opener :: below).take (2 * all.length) = pushed all :=
    List.take_left' (length_pushed all)
  simp only [endObject, above, top, members_pushed]

theorem endArray_reverse (elements : List Json) (opener : Json) (below : Stack) :
    endArray elements.length (elements.reverse ++ opener :: below) =
      .ok (.array elements :: below) := by
  have above : (elements.reverse ++ opener :: below).drop elements.length = opener :: below :=
    List.drop_left' List.length_reverse
  have top : (elements.reverse ++ opener :: below).take elements.length = elements.reverse :=
    List.take_left' List.length_reverse
  simp only [endArray, above, top, List.reverse_reverse]

end Handler

variable (doubles : Doubles) (room : Nat) (whole : Memory)

/-- The levels in use were opened in front of the memory. -/
def Opened (levels : Nat) (memory : Memory) : Prop :=
  room + openings memory ≤ levels + openings whole

/-- A value is read and lies on the stack. -/
def ValueRead (memory : Memory) (stack : Stack) (result : Stack × Memory) : Prop :=
  ∃ text value, Passed whole memory text result.2 ∧ Derives text (.value value) ∧
    result.1 = value :: stack

/-- The rest of an array is read behind the elements that it has. -/
def ElementsRead (memory : Memory) (before : List Json) (below : Stack)
    (result : Stack × Memory) : Prop :=
  ∃ text elements, Passed whole memory (text ++ [93]) result.2 ∧
    Derives text (.elements elements) ∧ result.1 = .array (before ++ elements) :: below

/-- The rest of an object is read behind the members that it has. -/
def MembersRead (memory : Memory) (before : List (Bytes × Json)) (below : Stack)
    (result : Stack × Memory) : Prop :=
  ∃ text members, Passed whole memory (text ++ [125]) result.2 ∧
    Derives text (.members members) ∧ result.1 = .object (before ++ members) :: below

/-- What the three functions do with so many turns. -/
structure Sound (turns : Nat) : Prop where
  value (levels : Nat) (memory : Memory) (stack : Stack) (held : Held whole memory)
    (opened : Opened room whole levels memory) (enough : 2 * memory.length + 1 ≤ turns) :
    Ensures (Tolerated room whole) (ValueRead whole memory stack)
      (parseValue doubles levels turns memory stack)
  elements (levels : Nat) (memory : Memory) (before : List Json) (opener : Json) (below : Stack)
    (held : Held whole memory) (opened : Opened room whole levels memory)
    (enough : 2 * memory.length + 2 ≤ turns) :
    Ensures (Tolerated room whole) (ElementsRead whole memory before below)
      (parseElements doubles levels turns memory (before.reverse ++ opener :: below) before.length)
  members (levels : Nat) (memory : Memory) (before : List (Bytes × Json)) (opener : Json)
    (below : Stack) (held : Held whole memory) (opened : Opened room whole levels memory)
    (enough : 2 * memory.length + 2 ≤ turns) :
    Ensures (Tolerated room whole) (MembersRead whole memory before below)
      (parseMembers doubles levels turns memory (pushed before ++ opener :: below) before.length)

variable {doubles room whole} {levels turns : Nat}

theorem Opened.passed {memory rest : Memory} {text : Bytes}
    (opened : Opened room whole levels memory) (passed : Passed whole memory text rest) :
    Opened room whole levels rest :=
  Nat.le_trans (Nat.add_le_add_left passed.openings_le room) opened

/-- A bracket takes one level. -/
theorem Opened.inside {byte : UInt8} {inside rest : Memory} {text : Bytes}
    (opened : Opened room whole (levels + 1) (byte :: inside)) (opens : byte = 91 ∨ byte = 123)
    (passed : Passed whole inside text rest) : Opened room whole levels rest := by
  have one : openings (byte :: inside) = openings inside + 1 :=
    List.countP_cons_of_pos (by simpa using opens)
  have fewer := passed.openings_le
  unfold Opened at opened ⊢
  omega

theorem Sound.arrayStep (sound : Sound doubles room whole turns) {inside : Memory} (stack : Stack)
    (held : Held whole (91 :: inside))
    (opened : Opened room whole (levels + 1) (91 :: inside))
    (enough : 2 * (91 :: inside).length + 1 ≤ turns + 1) :
    Ensures (Tolerated room whole) (ValueRead whole (91 :: inside) stack)
      (do
        let memory ← skipWhitespace inside
        let next ← peek memory
        if next = 93 then do
          let (_, memory) ← take memory
          let stack ← endArray 0 (.array [] :: stack)
          pure (stack, memory)
        else parseElements doubles levels turns memory (.array [] :: stack) 0) := by
  have lead : Passed whole (91 :: inside) [91] inside := held.passed_one rfl (by decide)
  refine .bind (ensures_skipWhitespace lead.held) ?_
  rintro memory ⟨blank, passedBlank, isBlank⟩
  refine .bind (ensures_peek passedBlank.held) ?_
  rintro next ⟨rest, rfl⟩
  refine .ite (fun closes => ?_) fun _ => ?_
  · subst closes
    have passed := (lead.trans passedBlank).trans (passedBlank.held.passed_one rfl (by decide))
    exact ⟨_, _, passed, .emptyArray isBlank, rfl⟩
  · have shorter := passedBlank.length_le
    simp only [List.length_cons] at enough shorter
    refine (sound.elements levels _ [] (.array []) stack passedBlank.held
      (opened.inside (by decide) passedBlank) (by simp only [List.length_cons]; omega)).mono ?_
    rintro result ⟨text, elements, passed, derives, same⟩
    refine ⟨_, _, ((lead.trans passedBlank).trans passed).cast ?_, .array isBlank derives, same⟩
    simp

theorem Sound.objectStep (sound : Sound doubles room whole turns) {inside : Memory} (stack : Stack)
    (held : Held whole (123 :: inside))
    (opened : Opened room whole (levels + 1) (123 :: inside))
    (enough : 2 * (123 :: inside).length + 1 ≤ turns + 1) :
    Ensures (Tolerated room whole) (ValueRead whole (123 :: inside) stack)
      (do
        let memory ← skipWhitespace inside
        let next ← peek memory
        if next = 125 then do
          let (_, memory) ← take memory
          let stack ← endObject 0 (.object [] :: stack)
          pure (stack, memory)
        else parseMembers doubles levels turns memory (.object [] :: stack) 0) := by
  have lead : Passed whole (123 :: inside) [123] inside := held.passed_one rfl (by decide)
  refine .bind (ensures_skipWhitespace lead.held) ?_
  rintro memory ⟨blank, passedBlank, isBlank⟩
  refine .bind (ensures_peek passedBlank.held) ?_
  rintro next ⟨rest, rfl⟩
  refine .ite (fun closes => ?_) fun _ => ?_
  · subst closes
    have passed := (lead.trans passedBlank).trans (passedBlank.held.passed_one rfl (by decide))
    exact ⟨_, _, passed, .emptyObject isBlank, rfl⟩
  · have shorter := passedBlank.length_le
    simp only [List.length_cons] at enough shorter
    refine (sound.members levels _ [] (.object []) stack passedBlank.held
      (opened.inside (by decide) passedBlank) (by simp only [List.length_cons]; omega)).mono ?_
    rintro result ⟨text, members, passed, derives, same⟩
    refine ⟨_, _, ((lead.trans passedBlank).trans passed).cast ?_, .object isBlank derives, same⟩
    simp

/-- The rule for the literals. -/
theorem ensures_literal {memory : Memory} {stack : Stack} {literal : Bytes} {value : Json}
    (free : (0 : UInt8) ∉ literal) (derives : Derives literal (.value value))
    (held : Held whole memory) :
    Ensures (Tolerated room whole) (ValueRead whole memory stack)
      (takeLiteral literal memory >>= fun memory => pure (value :: stack, memory)) :=
  .bind (ensures_takeLiteral free held) fun _ passed => ⟨_, _, passed, derives, rfl⟩

theorem Sound.valueStep (short : whole.length < 2 ^ 31) (sound : Sound doubles room whole turns)
    (levels : Nat) (memory : Memory) (stack : Stack) (held : Held whole memory)
    (opened : Opened room whole levels memory) (enough : 2 * memory.length + 1 ≤ turns + 1) :
    Ensures (Tolerated room whole) (ValueRead whole memory stack)
      (parseValue doubles levels (turns + 1) memory stack) := by
  obtain _ | levels := levels
  · -- the native stack has no room for this level
    rw [parseValue]
    unfold Opened at opened
    show room ≤ openings whole
    omega
  rw [parseValue]
  refine .bind (ensures_peek held) ?_
  rintro first ⟨inside, rfl⟩
  refine .ite (fun _ => ensures_literal (by decide) .null held) fun _ =>
    .ite (fun _ => ensures_literal (by decide) .isTrue held) fun _ =>
    .ite (fun _ => ensures_literal (by decide) .isFalse held) fun _ =>
    .ite (fun isQuote => ?_) fun _ => .ite (fun isBrace => ?_) fun _ =>
    .ite (fun isBracket => ?_) fun _ => ?_
  · subst isQuote
    refine .bind (ensures_parseString rfl held) ?_
    rintro ⟨decoded, rest⟩ ⟨text, passed, chars, rfl, isChars⟩
    exact ⟨_, _, passed, .string isChars, rfl⟩
  · subst isBrace
    exact sound.objectStep stack held opened enough
  · subst isBracket
    exact sound.arrayStep stack held opened enough
  · refine .bind (ensures_parseNumber doubles short held) ?_
    rintro ⟨number, rest⟩ ⟨text, passed, isNumber⟩
    exact ⟨_, _, passed, .number isNumber, rfl⟩

theorem Sound.elementsStep (sound : Sound doubles room whole turns) (levels : Nat)
    (memory : Memory) (before : List Json) (opener : Json) (below : Stack)
    (held : Held whole memory) (opened : Opened room whole levels memory)
    (enough : 2 * memory.length + 2 ≤ turns + 1) :
    Ensures (Tolerated room whole) (ElementsRead whole memory before below)
      (parseElements doubles levels (turns + 1) memory (before.reverse ++ opener :: below)
        before.length) := by
  rw [parseElements]
  refine .bind (sound.value levels memory _ held opened (by omega)) ?_
  rintro ⟨stack, middle⟩ ⟨text, value, passed, derives, same⟩
  dsimp only at same passed ⊢
  subst same
  have grown : value :: (before.reverse ++ opener :: below) =
      (before ++ [value]).reverse ++ opener :: below := by simp
  have counted : before.length + 1 = (before ++ [value]).length := by simp
  rw [grown, counted]
  refine .bind (ensures_skipWhitespace passed.held) ?_
  rintro behind ⟨trail, passedTrail, blankTrail⟩
  refine .bind (ensures_take passedTrail.held) ?_
  rintro ⟨next, rest⟩ split
  have element := passed.trans passedTrail
  refine .ite (fun comma => ?_) fun _ => .ite (fun closes => ?_) fun _ => trivial
  · subst comma
    have passedComma : Passed whole behind [44] rest :=
      passedTrail.held.passed_one split (by decide)
    refine .bind (ensures_skipWhitespace passedComma.held) ?_
    rintro start ⟨lead, passedLead, blankLead⟩
    have passedMore := (element.trans passedComma).trans passedLead
    have shorter : start.length + 1 ≤ memory.length := by
      rw [passedMore.split]
      simp only [List.length_append, List.length_cons]
      omega
    refine (sound.elements levels start (before ++ [value]) opener below passedLead.held
      (opened.passed passedMore) (by omega)).mono ?_
    rintro result ⟨others, elements, further, derivesOthers, same⟩
    refine ⟨text ++ trail ++ 44 :: lead ++ others, value :: elements,
      (passedMore.trans further).cast (by simp),
      .moreElements derives blankTrail blankLead derivesOthers, by simp [same]⟩
  · subst closes
    have passedEnd : Passed whole behind [93] rest :=
      passedTrail.held.passed_one split (by decide)
    rw [endArray_reverse]
    exact ⟨text ++ trail, [value], element.trans passedEnd, .lastElement derives blankTrail, rfl⟩

theorem Sound.membersStep (sound : Sound doubles room whole turns) (levels : Nat)
    (memory : Memory) (before : List (Bytes × Json)) (opener : Json) (below : Stack)
    (held : Held whole memory) (opened : Opened room whole levels memory)
    (enough : 2 * memory.length + 2 ≤ turns + 1) :
    Ensures (Tolerated room whole) (MembersRead whole memory before below)
      (parseMembers doubles levels (turns + 1) memory (pushed before ++ opener :: below)
        before.length) := by
  rw [parseMembers]
  refine .bind (ensures_peek held) ?_
  rintro quote ⟨inside, quoted⟩
  refine .ite (fun _ => trivial) fun isQuote => ?_
  obtain rfl : quote = 34 := not_not.mp isQuote
  refine .bind (ensures_parseString quoted held) ?_
  rintro ⟨decoded, afterName⟩ ⟨_, passedName, name, rfl, chars⟩
  refine .bind (ensures_skipWhitespace passedName.held) ?_
  rintro colonMemory ⟨beforeColon, passedBefore, blankBefore⟩
  refine .bind (ensures_take passedBefore.held) ?_
  rintro ⟨colon, afterColon⟩ split
  refine .ite (fun _ => trivial) fun isColon => ?_
  obtain rfl : colon = 58 := not_not.mp isColon
  have passedColon : Passed whole colonMemory [58] afterColon :=
    passedBefore.held.passed_one split (by decide)
  refine .bind (ensures_skipWhitespace passedColon.held) ?_
  rintro valueMemory ⟨after, passedAfter, blankAfter⟩
  have passedLead := ((passedName.trans passedBefore).trans passedColon).trans passedAfter
  have shorter : valueMemory.length + 1 ≤ memory.length := by
    rw [passedLead.split]
    simp only [List.length_append, List.length_cons]
    omega
  refine .bind (sound.value levels valueMemory _ passedAfter.held (opened.passed passedLead)
    (by omega)) ?_
  rintro ⟨stack, middle⟩ ⟨text, value, passed, derives, same⟩
  dsimp only at same passed ⊢
  subst same
  rw [show value :: .string decoded :: (pushed before ++ opener :: below) =
      pushed (before ++ [(decoded, value)]) ++ opener :: below by rw [pushed_concat]; rfl,
    show before.length + 1 = (before ++ [(decoded, value)]).length by simp]
  refine .bind (ensures_skipWhitespace passed.held) ?_
  rintro behind ⟨trail, passedTrail, blankTrail⟩
  refine .bind (ensures_take passedTrail.held) ?_
  rintro ⟨next, rest⟩ split
  have passedMember := (passedLead.trans passed).trans passedTrail
  have derivesMember := Derives.member chars blankBefore blankAfter derives blankTrail
  refine .ite (fun comma => ?_) fun _ => .ite (fun closes => ?_) fun _ => trivial
  · subst comma
    have passedComma : Passed whole behind [44] rest :=
      passedTrail.held.passed_one split (by decide)
    refine .bind (ensures_skipWhitespace passedComma.held) ?_
    rintro start ⟨lead, passedLead, blankLead⟩
    have passedMore := (passedMember.trans passedComma).trans passedLead
    have shorter : start.length + 1 ≤ memory.length := by
      rw [passedMore.split]
      simp only [List.length_append, List.length_cons]
      omega
    refine (sound.members levels start (before ++ [(decoded, value)]) opener below passedLead.held
      (opened.passed passedMore) (by omega)).mono ?_
    rintro result ⟨others, members, further, derivesOthers, same⟩
    refine ⟨_, (decoded, value) :: members, (passedMore.trans further).cast ?_,
      .moreMembers derivesMember blankLead derivesOthers, by simp [same]⟩
    simp
  · subst closes
    have passedEnd : Passed whole behind [125] rest :=
      passedTrail.held.passed_one split (by decide)
    rw [endObject_pushed]
    refine ⟨_, [(decoded, value)], (passedMember.trans passedEnd).cast ?_,
      .lastMember derivesMember, rfl⟩
    simp

theorem sound (short : whole.length < 2 ^ 31) (turns : Nat) : Sound doubles room whole turns := by
  induction turns with
  | zero =>
      refine ⟨fun levels memory stack held opened enough => ?_,
        fun levels memory before opener below held opened enough => ?_,
        fun levels memory before opener below held opened enough => ?_⟩
      all_goals exact absurd enough (by omega)
  | succ turns inductionHypothesis =>
      exact ⟨inductionHypothesis.valueStep short, inductionHypothesis.elementsStep,
        inductionHypothesis.membersStep⟩

end GeoChat.Rapidjson
