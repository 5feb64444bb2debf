import GeoChat.Client.Input
import GeoChat.Library.Greedy

/-!
# Direct messages as they are typed

The name of a direct message is the second part of the line, its text is what
a regular expression finds behind two words. The two agree on where the name
ends when the name is a word; a longer name leaves a part of itself in the text.
-/

namespace GeoChat

open Library

namespace Input

/-- `(.*)$` at the end of the expression. -/
def lastGroup (rest : Bytes) : Option Bytes := if rest.all isDot then some rest else none

/-- `\s*(.*)$`. -/
def gapPattern : Bytes → Option Bytes := greedyStar isspace lastGroup

/-- `\w+\s*(.*)$`. -/
def wordPattern : Bytes → Option Bytes := greedyPlus isWord gapPattern

/-- `^\s*\w+\s*\w+\s*(.*)$`. -/
def messagePattern : Bytes → Option Bytes :=
  greedyStar isspace (greedyPlus isWord (greedyStar isspace wordPattern))

theorem isspace_not_isWord {byte : UInt8} (blank : isspace byte = true) : isWord byte = false := by
  have shapes := @forall_byte (fun byte => isspace byte = true → isWord byte = false)
    (by decide +kernel)
  exact shapes byte blank

theorem lastGroup_failsLonger : FailsLonger lastGroup := by
  intro head rest fails
  unfold lastGroup at fails ⊢
  split at fails
  · cases fails
  next some =>
    rw [if_neg]
    rw [List.all_cons, Bool.and_eq_true]
    exact fun all => some all.2

theorem gapPattern_eq (text : Bytes) : gapPattern text = lastGroup (text.dropWhile isspace) :=
  greedyStar_of_failsLonger lastGroup_failsLonger text

theorem gapPattern_failsLonger : FailsLonger gapPattern := by
  intro head rest fails
  rw [gapPattern_eq] at fails ⊢
  by_cases blank : isspace head = true
  · rwa [List.dropWhile_cons_of_pos blank]
  · rw [List.dropWhile_cons_of_neg blank]
    exact lastGroup_failsLonger.suffix
      ((List.dropWhile_suffix _).trans (List.suffix_cons _ _)) fails

theorem wordPattern_of_not_isWord {head : UInt8} (other : isWord head = false) (rest : Bytes) :
    wordPattern (head :: rest) = none := by
  simp [wordPattern, greedyPlus, other]

theorem wordPattern_of_noWord {text : Bytes} (noWord : text.takeWhile isWord = []) :
    wordPattern text = none := by
  cases text with
  | nil => rfl
  | cons head rest =>
      apply wordPattern_of_not_isWord
      by_contra isWordHead
      rw [List.takeWhile_cons_of_pos (by simpa using isWordHead)] at noWord
      cases noWord

theorem wordPattern_of_isWord {head : UInt8} (isWordHead : isWord head = true) (rest : Bytes) :
    wordPattern (head :: rest) = gapPattern (rest.dropWhile isWord) := by
  rw [wordPattern, greedyPlus, if_pos isWordHead]
  exact greedyStar_of_failsLonger gapPattern_failsLonger rest

theorem wordPattern_of_word {text : Bytes} (word : text.takeWhile isWord ≠ []) :
    wordPattern text = lastGroup ((text.dropWhile isWord).dropWhile isspace) := by
  cases text with
  | nil => exact absurd rfl word
  | cons head rest =>
      have isWordHead : isWord head = true := by
        by_contra other
        exact word (List.takeWhile_cons_of_neg other)
      rw [wordPattern_of_isWord isWordHead, gapPattern_eq, List.dropWhile_cons_of_pos isWordHead]

/-- Blanks are no part of a word, so none is given back to the word behind them. -/
theorem blanks_wordPattern (text : Bytes) :
    greedyStar isspace wordPattern text = wordPattern (text.dropWhile isspace) :=
  greedyStar_of_disjoint
    (fun _ rest blank => wordPattern_of_not_isWord (isspace_not_isWord blank) rest) text

theorem stops_after {p : UInt8 → Bool} (text : Bytes) (head : UInt8)
    (isHead : (text.dropWhile p).head? = some head) : p head = false := by
  have stops := List.head?_dropWhile_not p text
  rw [isHead] at stops
  exact stops

/-- The first word gives its last byte to the second one where nothing else can
be the second word. -/
theorem twoWords {head : UInt8} (isWordHead : isWord head = true) (rest : Bytes) :
    greedyPlus isWord (greedyStar isspace wordPattern) (head :: rest) =
      (wordPattern ((rest.dropWhile isWord).dropWhile isspace)).or
        (if rest.takeWhile isWord = [] then none else gapPattern (rest.dropWhile isWord)) := by
  have stops := @stops_after isWord rest
  have areWord : ∀ byte ∈ rest.takeWhile isWord, isWord byte = true := fun byte member =>
    List.mem_takeWhile_imp member
  have whole := @List.takeWhile_append_dropWhile _ isWord rest
  generalize rest.takeWhile isWord = run at whole areWord ⊢
  generalize rest.dropWhile isWord = behind at whole stops ⊢
  subst whole
  rw [greedyPlus, if_pos isWordHead, ← blanks_wordPattern]
  apply greedyStar_of_constant run areWord stops
  intro other others isSuffix
  have areOthers : ∀ byte ∈ other :: others, isWord byte = true := fun byte member =>
    areWord byte (isSuffix.subset member)
  have notBlank : ¬ isspace other = true := fun blank => by
    have word := areOthers other List.mem_cons_self
    rw [isspace_not_isWord blank] at word
    cases word
  have skipped : (others ++ behind).dropWhile isWord = behind := by
    rw [List.dropWhile_append_of_pos fun byte member =>
      areOthers byte (List.mem_cons_of_mem _ member)]
    cases behind with
    | nil => rfl
    | cons byte bytes => exact List.dropWhile_cons_of_neg (by rw [stops byte rfl]; exact nofun)
  rw [blanks_wordPattern, List.cons_append, List.dropWhile_cons_of_neg notBlank,
    wordPattern_of_isWord (areOthers other List.mem_cons_self), skipped]

theorem drop_takeWhile {p : UInt8 → Bool} (text : Bytes) :
    text.drop (text.takeWhile p).length = text.dropWhile p := by
  have whole := @List.takeWhile_append_dropWhile _ p text
  calc text.drop (text.takeWhile p).length
      = (text.takeWhile p ++ text.dropWhile p).drop (text.takeWhile p).length := by rw [whole]
    _ = text.dropWhile p := List.drop_left' rfl

theorem getD_lastGroup (rest : Bytes) :
    (lastGroup rest).getD [] = if rest.all isDot then rest else [] := by
  unfold lastGroup
  split <;> rfl

theorem blank_twoWords (head : UInt8) (rest : Bytes) (blank : isspace head = true) :
    greedyPlus isWord (greedyStar isspace wordPattern) (head :: rest) = none := by
  simp [greedyPlus, isspace_not_isWord blank]

/-- `get_msg_after_command` finds what the expression matches. -/
theorem getMsgAfterCommand_eq (line : Bytes) :
    getMsgAfterCommand line = (messagePattern line).getD [] := by
  rw [messagePattern, greedyStar_of_disjoint blank_twoWords]
  unfold getMsgAfterCommand
  cases line.dropWhile isspace with
  | nil => rfl
  | cons head rest =>
      by_cases isWordHead : isWord head = true
      · rw [twoWords isWordHead]
        simp only [drop_takeWhile, List.takeWhile_cons_of_pos isWordHead, List.length_cons,
          List.drop_succ_cons, List.isEmpty_cons,
          Bool.false_or, decide_eq_true_eq, ← getD_lastGroup]
        -- On where the second word begins: behind the blanks, or inside the first.
        generalize afterIs : (rest.dropWhile isWord).dropWhile isspace = after
        have gap : gapPattern (rest.dropWhile isWord) = lastGroup after := by
          rw [gapPattern_eq, afterIs]
        rw [gap]
        by_cases second : after.takeWhile isWord = []
        · rw [wordPattern_of_noWord second, second, Option.none_or]
          simp only [List.isEmpty_nil, if_true, List.length_nil]
          by_cases single : rest.takeWhile isWord = []
          · simp [single]
          · have more := List.length_pos_of_ne_nil single
            rw [if_neg single, if_neg (by omega)]
        · have more := List.length_pos_of_ne_nil second
          have notEmpty : (after.takeWhile isWord).isEmpty = false :=
            List.isEmpty_eq_false_iff.mpr second
          rw [wordPattern_of_word second, notEmpty, if_neg (by omega), if_neg Bool.false_ne_true]
          cases atLongest : lastGroup ((after.dropWhile isWord).dropWhile isspace) with
          | some message => rfl
          | none =>
              have isSuffix : (after.dropWhile isWord).dropWhile isspace <:+ after :=
                (List.dropWhile_suffix _).trans (List.dropWhile_suffix _)
              rw [lastGroup_failsLonger.suffix isSuffix atLongest, ite_self]
              rfl
      · simp only [greedyPlus, isWordHead, List.takeWhile_cons_of_neg isWordHead]
        rfl

/-- A name as the server may accept it, and a text that a line can end in. -/
structure Typed (name message : Bytes) : Prop where
  named : name ≠ []
  noBlank : ∀ byte ∈ name, isspace byte = false
  written : message ≠ []
  oneLine : ∀ byte ∈ message, isDot byte = true
  starts : ∀ byte, message.head? = some byte → isspace byte = false

theorem dropWhile_run {p : UInt8 → Bool} {run behind : Bytes} (areRun : ∀ byte ∈ run, p byte = true)
    (stops : ∀ byte, behind.head? = some byte → p byte = false) :
    (run ++ behind).dropWhile p = behind ∧ (run ++ behind).takeWhile p = run := by
  rw [List.dropWhile_append_of_pos areRun, List.takeWhile_append_of_pos areRun]
  cases behind with
  | nil => simp
  | cons byte bytes =>
      have other : ¬ p byte = true := by
        rw [stops byte rfl]
        exact Bool.false_ne_true
      rw [List.dropWhile_cons_of_neg other, List.takeWhile_cons_of_neg other, List.append_nil]
      exact ⟨rfl, rfl⟩

theorem isDot_of_not_isspace {byte : UInt8} (notBlank : isspace byte = false) :
    isDot byte = true := by
  have shapes := @forall_byte (fun byte => isspace byte = false → isDot byte = true)
    (by decide +kernel)
  exact shapes byte notBlank

theorem lastGroup_of_isDot {rest : Bytes} (areDots : ∀ byte ∈ rest, isDot byte = true) :
    lastGroup rest = some rest := by
  rw [lastGroup, if_pos (List.all_eq_true.mpr areDots)]

theorem Typed.isDot {name message : Bytes} (typed : Typed name message) :
    ∀ byte ∈ name ++ 32 :: message, Input.isDot byte = true := by
  intro byte member
  rcases List.mem_append.mp member with inName | inRest
  · exact isDot_of_not_isspace (typed.noBlank byte inName)
  · rcases List.mem_cons.mp inRest with rfl | inMessage
    · decide
    · exact typed.oneLine byte inMessage

/-- A part of the name that is left over stands before the message. -/
theorem dropWhile_left {p : UInt8 → Bool} {left : Bytes} (nonempty : left ≠ [])
    (stops : ∀ byte, left.head? = some byte → p byte = false) (behind : Bytes) :
    (left ++ behind).dropWhile p = left ++ behind := by
  obtain ⟨head, rest, rfl⟩ := List.exists_cons_of_ne_nil nonempty
  exact List.dropWhile_cons_of_neg (by rw [stops head rfl]; exact Bool.false_ne_true)

/-- What the expression finds from the name on: the message, behind what
follows the word at the front of the name. -/
theorem wordPattern_name {name message : Bytes} (typed : Typed name message) :
    (wordPattern (name ++ 32 :: message)).or (lastGroup (name ++ 32 :: message)) =
      some (if name.dropWhile isWord = [] then message
        else name.dropWhile isWord ++ 32 :: message) := by
  have whole := @List.takeWhile_append_dropWhile _ isWord name
  have areWord : ∀ byte ∈ name.takeWhile isWord, isWord byte = true := fun byte member =>
    List.mem_takeWhile_imp member
  have stops := @stops_after isWord name
  have dots := typed.isDot
  have noBlank := typed.noBlank
  have named := typed.named
  generalize name.takeWhile isWord = front at whole areWord
  generalize name.dropWhile isWord = left at whole stops ⊢
  subst whole
  by_cases all : left = []
  · subst all
    rw [List.append_nil] at dots named ⊢
    obtain ⟨behind, run⟩ := @dropWhile_run isWord front (32 :: message) areWord
      (by rintro byte ⟨⟩; decide)
    have blanks := @dropWhile_run isspace [32] message (by decide +kernel) typed.starts
    rw [wordPattern_of_word (by rwa [run]), behind, if_pos rfl, ← List.singleton_append, blanks.1,
      lastGroup_of_isDot typed.oneLine]
    rfl
  · have stopsLeft : ∀ byte, (left ++ 32 :: message).head? = some byte → isWord byte = false := by
      intro byte isHead
      rw [List.head?_append_of_ne_nil _ all] at isHead
      exact stops byte isHead
    rw [if_neg all, List.append_assoc]
    rw [List.append_assoc] at dots
    obtain ⟨behind, run⟩ := dropWhile_run areWord stopsLeft
    have dotsLeft : ∀ byte ∈ left ++ 32 :: message, Input.isDot byte = true := fun byte member =>
      dots byte (List.mem_append_right _ member)
    by_cases noWord : front = []
    · subst noWord
      rw [wordPattern_of_noWord run, Option.none_or, List.nil_append, lastGroup_of_isDot dotsLeft]
    · have kept := @dropWhile_left isspace left all (fun byte isHead =>
        noBlank byte (List.mem_append_right _ (List.mem_of_mem_head? isHead))) (32 :: message)
      rw [wordPattern_of_word (by rwa [run]), behind, kept, lastGroup_of_isDot dotsLeft]
      rfl

theorem getMsgAfterCommand_direct {word name message : Bytes} (long : 2 ≤ word.length)
    (areWord : ∀ byte ∈ word, isWord byte = true) (typed : Typed name message) :
    getMsgAfterCommand (word ++ 32 :: (name ++ 32 :: message)) =
      if name.dropWhile isWord = [] then message
      else name.dropWhile isWord ++ 32 :: message := by
  have nameBehind : (32 :: (name ++ 32 :: message)).dropWhile isspace = name ++ 32 :: message := by
    rw [List.dropWhile_cons_of_pos (by decide)]
    exact dropWhile_left typed.named
      (fun byte isHead => typed.noBlank byte (List.mem_of_mem_head? isHead)) _
  match word, long, areWord with
  | head :: second :: others, _, areWord =>
    have isWordHead := areWord head List.mem_cons_self
    have notBlank : ¬ isspace head = true := fun blank => by
      rw [isspace_not_isWord blank] at isWordHead
      cases isWordHead
    obtain ⟨behind, run⟩ := @dropWhile_run isWord (second :: others) (32 :: (name ++ 32 :: message))
      (fun byte member => areWord byte (List.mem_cons_of_mem _ member))
      (by rintro byte ⟨⟩; decide)
    rw [getMsgAfterCommand_eq, messagePattern, greedyStar_of_disjoint blank_twoWords,
      List.cons_append, List.dropWhile_cons_of_neg notBlank, twoWords isWordHead, behind, run,
      if_neg (List.cons_ne_nil _ _), gapPattern_eq, nameBehind, wordPattern_name typed]
    rfl

theorem isWord_of_tolower {byte : UInt8} (lower : isWord (tolower byte) = true) :
    isWord byte = true := by
  have shapes := @forall_byte (fun byte => isWord (tolower byte) = true → isWord byte = true)
    (by decide +kernel)
  exact shapes byte lower

/-- The words that start a direct message, with their commands. -/
inductive IsDirect : Bytes → InputCmd → Prop where
  | user {word : Bytes} (spelt : Utils.lowercased word = bytes "direct_msg") :
      IsDirect word .directMsgUser
  | group {word : Bytes} (spelt : Utils.lowercased word = bytes "direct_msg_g") :
      IsDirect word .directMsgGroup

theorem IsDirect.word {word : Bytes} {cmd : InputCmd} (isDirect : IsDirect word cmd) :
    2 ≤ word.length ∧ ∀ byte ∈ word, isWord byte = true := by
  have shape : ∀ lower : Bytes, (2 ≤ lower.length ∧ ∀ byte ∈ lower, isWord byte = true) →
      Utils.lowercased word = lower → 2 ≤ word.length ∧ ∀ byte ∈ word, isWord byte = true := by
    rintro lower ⟨long, areWord⟩ rfl
    rw [Utils.lowercased, List.length_map] at long
    exact ⟨long, fun byte member => isWord_of_tolower (areWord _ (List.mem_map_of_mem member))⟩
  cases isDirect with
  | user spelt => exact shape _ (by decide +kernel) spelt
  | group spelt => exact shape _ (by decide +kernel) spelt

theorem splitFrom_ne_nil (delimiter : Bytes) (turns : Nat) (line : Bytes) :
    Utils.splitFrom delimiter turns line ≠ [] := by
  cases turns with
  | zero => exact List.cons_ne_nil _ _
  | succ turns =>
      unfold Utils.splitFrom
      split
      · exact List.cons_ne_nil _ _
      · exact List.cons_ne_nil _ _

/-- The command and the name are taken from the parts of the line. -/
theorem parse_direct {word name message : Bytes} {cmd : InputCmd} (isDirect : IsDirect word cmd)
    (typed : Typed name message) :
    parse (word ++ 32 :: (name ++ 32 :: message)) =
      { cmd, direct := ⟨name, getMsgAfterCommand (word ++ 32 :: (name ++ 32 :: message))⟩ } := by
  have blankWord : 32 ∉ word := fun member => absurd (isDirect.word.2 32 member) (by decide)
  have blankName : 32 ∉ name := fun member => absurd (typed.noBlank 32 member) (by decide)
  have space : bytes " " = [32] := by decide
  have cut : Utils.split (word ++ 32 :: (name ++ 32 :: message)) (bytes " ") =
      word :: name :: Utils.split message (bytes " ") := by
    have first := @Utils.split_part 32 [] word blankWord (name ++ 32 :: message)
    have second := @Utils.split_part 32 [] name blankName message
    simp only [List.append_assoc, List.singleton_append] at first second
    rw [space, first, second]
  obtain ⟨part, parts, more⟩ := List.exists_cons_of_ne_nil (splitFrom_ne_nil (bytes " ") _ message)
  unfold parse
  rw [cut, Utils.split, more]
  cases isDirect with
  | user spelt => simp only [spelt]; rfl
  | group spelt => simp only [spelt]; rfl

end Input

/-- A direct message is parsed as it was typed exactly when its name is a word
of the regular expression. -/
theorem parse_direct_iff (word name message : Bytes) (cmd : InputCmd)
    (isDirect : Input.IsDirect word cmd) (typed : Input.Typed name message) :
    let args := Input.parse (word ++ bytes " " ++ name ++ bytes " " ++ message)
    (args.cmd = cmd ∧ args.direct.name = name ∧ args.direct.message = message) ↔
      ∀ byte ∈ name, Input.isWord byte = true := by
  intro args
  have line : word ++ bytes " " ++ name ++ bytes " " ++ message =
      word ++ 32 :: (name ++ 32 :: message) := by
    have space : bytes " " = [32] := by decide
    simp only [space, List.append_assoc, List.cons_append, List.nil_append]
  obtain ⟨long, areWord⟩ := isDirect.word
  simp only [args, line, Input.parse_direct isDirect typed,
    Input.getMsgAfterCommand_direct long areWord typed, true_and]
  rw [← List.dropWhile_eq_nil_iff]
  constructor
  · intro same
    by_contra left
    rw [if_neg left] at same
    have lengths := congrArg List.length same
    simp only [List.length_append, List.length_cons] at lengths
    omega
  · exact fun all => if_pos all

theorem parse_direct_iff_bob :
    let args := Input.parse (bytes "Direct_MSG_g" ++ bytes " " ++ bytes "bob_1" ++ bytes " " ++
      bytes "how  are you?")
    args.cmd = .directMsgGroup ∧ args.direct.name = bytes "bob_1" ∧
      args.direct.message = bytes "how  are you?" := by
  apply (parse_direct_iff (bytes "Direct_MSG_g") (bytes "bob_1") (bytes "how  are you?")
    .directMsgGroup (.group (by decide))
    ⟨by decide, by decide +kernel, by decide, by decide +kernel, by rintro byte ⟨⟩; decide⟩).mpr
  decide +kernel

/-- A name with a dash leaves its second half in the text. -/
theorem parse_direct_dash :
    Input.Typed (bytes "mary-ann") (bytes "hi") ∧
      (Input.parse (bytes "direct_msg mary-ann hi")).direct =
        ⟨bytes "mary-ann", bytes "-ann hi"⟩ ∧
      (Input.parse (bytes "direct_msg mary-ann hi")).direct.message ≠ bytes "hi" := by
  refine ⟨⟨by decide, by decide +kernel, by decide, by decide +kernel,
    by rintro byte ⟨⟩; decide⟩, ?_, ?_⟩
  · decide +kernel
  · decide +kernel

end GeoChat
