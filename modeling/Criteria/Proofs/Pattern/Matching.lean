import Criteria.Proofs.Clause.Sources
import Criteria.Text.Pieces
import Mathlib.Data.List.Forall2

/-!
# What patterns match

A store reads a pattern as a list of items and looks for a stretch of the subject that
they run over one after the other. The pattern of a text match can be read so, and it
matches the subjects that the text match asks for: the text itself, character by
character and in whatever case, between runs of other characters where the match has
them. The text can have any characters, those that patterns give a meaning included.
-/

namespace Criteria

namespace Pattern

/-! ## Patterns as a store reads them -/

inductive Item
  | start
  | finish
  | literal (c : Char)
  | anyRun
deriving DecidableEq, Repr

/-- The characters that mean more than themselves to a store. -/
def special : List Char := "\\^$.|?*+()[]\x7b\x7d".toList

/-- Whether a character behind a backslash is no class, reference or control of its own:
a letter or a digit can be one, any other character is itself. -/
def escapable (c : Char) : Bool := c.toNat < 128 && !c.isAlphanum

/-- The items of a pattern, as far as a store reads it as anchors, runs and characters.
It knows nothing of the characters that text matches escape. -/
def items? : List Char → Option (List Item)
  | [] => some []
  | '\\' :: c :: rest =>
    if escapable c then (items? rest).map (.literal c :: ·) else none
  | '.' :: '*' :: rest => (items? rest).map (.anyRun :: ·)
  | c :: rest =>
    if c = '^' then (items? rest).map (.start :: ·)
    else if c = '$' then (items? rest).map (.finish :: ·)
    else if c ∈ special then none
    else (items? rest).map (.literal c :: ·)

/-- Items run over the front of the second text, where the first one is what the
subject has before it. -/
inductive Runs (alike : Char → Char → Prop) : List Item → List Char → List Char → Prop
  | done (before after : List Char) : Runs alike [] before after
  | start {items : List Item} {after : List Char} (rest : Runs alike items [] after) :
    Runs alike (.start :: items) [] after
  | finish {items : List Item} {before : List Char} (rest : Runs alike items before []) :
    Runs alike (.finish :: items) before []
  | literal {items : List Item} {before after : List Char} {c found : Char}
      (same : alike c found) (rest : Runs alike items (before ++ [found]) after) :
    Runs alike (.literal c :: items) before (found :: after)
  | anyRun {items : List Item} {before after run : List Char} (oneLine : '\n' ∉ run)
      (rest : Runs alike items (before ++ run) after) :
    Runs alike (.anyRun :: items) before (run ++ after)

end Pattern

/-- Whether a regular expression matches some stretch of a subject. With the option `i`
characters match if a case folding takes them for the same. -/
def Regex.Matches (fold : Setoid Char) (regex : Regex) (subject : String) : Prop :=
  ∃ items before after, Pattern.items? regex.pattern.toList = some items ∧
    subject.toList = before ++ after ∧
    Pattern.Runs (if 'i' ∈ regex.options.toList then fold.r else Eq) items before after

namespace Pattern

/-! ## What a text match asks of a subject -/

/-- Pieces in order, with runs of characters other than line feeds between them. -/
inductive Interleaved (alike : Char → Char → Prop) : List (List Char) → List Char → Prop
  | last {piece found : List Char} (same : List.Forall₂ alike piece found) :
    Interleaved alike [piece] found
  | more {piece found run tail : List Char} {pieces : List (List Char)}
      (same : List.Forall₂ alike piece found) (oneLine : '\n' ∉ run)
      (rest : Interleaved alike pieces tail) :
    Interleaved alike (piece :: pieces) (found ++ run ++ tail)

/-- Whether a subject is what a text match asks for. -/
def Asked (alike : Char → Char → Prop) (text subject : List Char) : TextMatch → Prop
  | .contains => ∃ front found back, subject = front ++ found ++ back ∧
      List.Forall₂ alike text found ∧ '\n' ∉ front ∧ '\n' ∉ back
  | .startsWith => ∃ found back, subject = found ++ back ∧
      List.Forall₂ alike text found ∧ '\n' ∉ back
  | .endsWith => ∃ front found, subject = front ++ found ∧
      List.Forall₂ alike text found ∧ '\n' ∉ front
  | .like => Interleaved alike (Text.pieces '%' text) subject

inductive Shown : Value → String → Prop
  | string (text : String) : Shown (.string text) text
  | int32 (n : Int32) : Shown (.int32 n) (toString n.toInt)
  | int64 (n : Int64) : Shown (.int64 n) (toString n.toInt)
  | double (d : Double) : Shown (.double d) d.plainText
  | boolean (b : Bool) : Shown (.boolean b) (toString b)

theorem operandText?_of_shown {operand : Value} {text : String} (shown : Shown operand text) :
    operandText? operand = some text := by
  cases shown with
  | string => rfl
  | int32 n => rfl
  | int64 n => rfl
  | double d => rfl
  | boolean b => cases b <;> rfl

/-! ## The items of a text match -/

theorem escapable_of_mem_metacharacters {c : Char} (escaped : c ∈ metacharacters) :
    escapable c = true := by
  have all : metacharacters.all escapable = true := by decide
  exact List.all_eq_true.1 all c escaped

/-- Every character that means more to a store is escaped. -/
theorem mem_metacharacters_of_mem_special {c : Char} (meaning : c ∈ special) :
    c ∈ metacharacters := by
  have all : (special.all fun other => metacharacters.contains other) = true := by decide
  exact List.contains_iff_mem.1 (List.all_eq_true.1 all c meaning)

theorem items?_escaped {c : Char} (escaped : c ∈ metacharacters) (rest : List Char) :
    items? ('\\' :: c :: rest) = (items? rest).map (.literal c :: ·) := by
  simp [items?, escapable_of_mem_metacharacters escaped]

theorem items?_plain {c : Char} (plain : c ∉ metacharacters) (rest : List Char) :
    items? (c :: rest) = (items? rest).map (.literal c :: ·) := by
  have notSpecial : c ∉ special := fun member =>
    plain (mem_metacharacters_of_mem_special member)
  have known : ∀ other ∈ special, c ≠ other := by
    rintro other member rfl
    exact notSpecial member
  have notBackslash : c ≠ '\\' := known _ (by decide)
  have notPoint : c ≠ '.' := known _ (by decide)
  have notStart : c ≠ '^' := known _ (by decide)
  have notFinish : c ≠ '$' := known _ (by decide)
  cases rest <;> simp [items?, notBackslash, notPoint, notStart, notFinish, notSpecial]

theorem items?_escapeChar (c : Char) (rest : List Char) :
    items? (escapeChar c ++ rest) = (items? rest).map (.literal c :: ·) := by
  unfold escapeChar
  split
  · rename_i special
    exact items?_escaped special rest
  · rename_i plain
    exact items?_plain plain rest

theorem items?_escape (text rest : List Char) :
    items? (escape text ++ rest) = (items? rest).map (text.map .literal ++ ·) := by
  induction text with
  | nil => simp [escape]
  | cons c more ih =>
      have split : escape (c :: more) = escapeChar c ++ escape more := rfl
      rw [split, List.append_assoc, items?_escapeChar, ih, Option.map_map]
      rfl

theorem items?_anyRun (rest : List Char) :
    items? (anyRun ++ rest) = (items? rest).map (.anyRun :: ·) := by
  simp [anyRun, items?]

/-- The items of a text under `like`, in which every `%` is a run. -/
def likeItems (text : List Char) : List Item :=
  text.map fun c => if c = '%' then .anyRun else .literal c

theorem wildcards_escapeChar {c : Char} (other : c ≠ '%') :
    wildcards (escapeChar c) = escapeChar c := by
  unfold escapeChar
  split <;> simp [wildcards, other]

/-- Under `like`, `%` is read as a run and everything else as itself. -/
theorem items?_wildcards (text rest : List Char) :
    items? (wildcards (escape text) ++ rest) = (items? rest).map (likeItems text ++ ·) := by
  induction text with
  | nil => simp [escape, wildcards, likeItems]
  | cons c more ih =>
      have split : wildcards (escape (c :: more)) =
          wildcards (escapeChar c) ++ wildcards (escape more) := by
        simp [escape, wildcards]
      rw [split, List.append_assoc]
      by_cases percent : c = '%'
      · subst percent
        have run : wildcards (escapeChar '%') = anyRun := by decide
        rw [run, items?_anyRun, ih, Option.map_map]
        rfl
      · rw [wildcards_escapeChar percent, items?_escapeChar, ih, Option.map_map]
        simp [likeItems, percent, Function.comp_def]

/-- The items of a text match between its anchors. -/
def bodyItems (text : List Char) : TextMatch → List Item
  | .contains => .anyRun :: text.map .literal ++ [.anyRun]
  | .like => likeItems text
  | .startsWith => text.map .literal ++ [.anyRun]
  | .endsWith => .anyRun :: text.map .literal

theorem items?_body (kind : TextMatch) (text rest : List Char) :
    items? (body kind text ++ rest) = (items? rest).map (bodyItems text kind ++ ·) := by
  cases kind with
  | contains =>
      rw [body, List.append_assoc, List.append_assoc, items?_anyRun, items?_escape,
        items?_anyRun, Option.map_map, Option.map_map]
      simp [bodyItems, Function.comp_def]
  | like => exact items?_wildcards text rest
  | startsWith =>
      rw [body, List.append_assoc, items?_escape, items?_anyRun, Option.map_map]
      simp [bodyItems, Function.comp_def]
  | endsWith =>
      rw [body, List.append_assoc, items?_anyRun, items?_escape, Option.map_map]
      simp [bodyItems, Function.comp_def]

/-- The pattern of a text match is anchored at both ends. -/
theorem items?_regex (kind : TextMatch) (text : String) :
    items? (regex kind text).pattern.toList =
      some (.start :: (bodyItems text.toList kind ++ [.finish])) := by
  have finish : items? ['$'] = some [.finish] := by decide
  have start (rest : List Char) : items? ('^' :: rest) = (items? rest).map (.start :: ·) := by
    cases rest <;> simp [items?]
  rw [regex, String.toList_ofList, List.cons_append, start, items?_body, finish]
  rfl

/-! ## What the items run over -/

section

variable {alike : Char → Char → Prop}

theorem runs_start_iff {items : List Item} {before after : List Char} :
    Runs alike (.start :: items) before after ↔ before = [] ∧ Runs alike items [] after := by
  constructor
  · rintro (_ | rest)
    exact ⟨rfl, rest⟩
  · rintro ⟨rfl, rest⟩
    exact .start rest

theorem runs_finish_iff {before after : List Char} :
    Runs alike [.finish] before after ↔ after = [] := by
  constructor
  · rintro (_ | _ | _)
    rfl
  · rintro rfl
    exact .finish (.done before [])

theorem runs_anyRun_iff {items : List Item} {before after : List Char} :
    Runs alike (.anyRun :: items) before after ↔
      ∃ run tail, after = run ++ tail ∧ '\n' ∉ run ∧ Runs alike items (before ++ run) tail := by
  constructor
  · intro runs
    cases runs with
    | anyRun oneLine rest => exact ⟨_, _, rfl, oneLine, rest⟩
  · rintro ⟨run, tail, rfl, oneLine, rest⟩
    exact .anyRun oneLine rest

theorem runs_literal_iff {c : Char} {items : List Item} {before after : List Char} :
    Runs alike (.literal c :: items) before after ↔
      ∃ found tail, after = found :: tail ∧ alike c found ∧
        Runs alike items (before ++ [found]) tail := by
  constructor
  · intro runs
    cases runs with
    | literal same rest => exact ⟨_, _, rfl, same, rest⟩
  · rintro ⟨found, tail, rfl, same, rest⟩
    exact .literal same rest

/-- Characters run over as many characters that are alike. -/
theorem runs_literals_iff {text : List Char} {items : List Item} {before after : List Char} :
    Runs alike (text.map .literal ++ items) before after ↔
      ∃ found tail, after = found ++ tail ∧ List.Forall₂ alike text found ∧
        Runs alike items (before ++ found) tail := by
  induction text generalizing before after with
  | nil =>
      constructor
      · intro runs
        exact ⟨[], after, rfl, .nil, by simpa using runs⟩
      · rintro ⟨found, tail, rfl, same, runs⟩
        cases same
        simpa using runs
  | cons c more ih =>
      rw [List.map_cons, List.cons_append, runs_literal_iff]
      constructor
      · rintro ⟨head, tail, rfl, same, runs⟩
        obtain ⟨found, rest, rfl, sameMore, runsMore⟩ := ih.1 runs
        refine ⟨head :: found, rest, rfl, .cons same sameMore, ?_⟩
        simpa using runsMore
      · rintro ⟨found, tail, rfl, same, runs⟩
        cases same with
        | @cons _ head _ rest same sameMore =>
            refine ⟨head, rest ++ tail, rfl, same, ih.2 ⟨rest, tail, rfl, sameMore, ?_⟩⟩
            simpa using runs

/-! ## What the items of a text match run over -/

/-- A first piece in front of which more of it is found. -/
theorem interleaved_cons_iff {c : Char} {piece : List Char} {pieces : List (List Char)}
    {subject : List Char} :
    Interleaved alike ((c :: piece) :: pieces) subject ↔
      ∃ found tail, subject = found :: tail ∧ alike c found ∧
        Interleaved alike (piece :: pieces) tail := by
  constructor
  · intro interleaved
    cases interleaved with
    | last same =>
        cases same with
        | cons here later => exact ⟨_, _, rfl, here, .last later⟩
    | more same oneLine rest =>
        cases same with
        | cons here later => exact ⟨_, _, rfl, here, .more later oneLine rest⟩
  · rintro ⟨found, tail, rfl, here, interleaved⟩
    cases interleaved with
    | last later => exact .last (.cons here later)
    | more later oneLine rest => exact .more (.cons here later) oneLine rest

theorem interleaved_nil_iff {pieces : List (List Char)} (nonempty : pieces ≠ [])
    {subject : List Char} :
    Interleaved alike ([] :: pieces) subject ↔
      ∃ run tail, subject = run ++ tail ∧ '\n' ∉ run ∧ Interleaved alike pieces tail := by
  constructor
  · intro interleaved
    cases interleaved with
    | last => exact absurd rfl nonempty
    | more same oneLine rest =>
        cases same
        exact ⟨_, _, rfl, oneLine, rest⟩
  · rintro ⟨run, tail, rfl, oneLine, rest⟩
    exact .more .nil oneLine rest

theorem pieces_cons_of_ne {separator c : Char} (other : c ≠ separator) (rest : List Char) :
    ∃ piece more, Text.pieces separator rest = piece :: more ∧
      Text.pieces separator (c :: rest) = (c :: piece) :: more := by
  obtain ⟨piece, more, parts⟩ := List.exists_cons_of_ne_nil (Text.pieces_ne_nil separator rest)
  refine ⟨piece, more, parts, ?_⟩
  rw [Text.pieces, if_neg other, parts]

/-- Under `like`, the pieces between the `%` are found in order. -/
theorem runs_likeItems_iff {text before after : List Char} :
    Runs alike (likeItems text ++ [.finish]) before after ↔
      Interleaved alike (Text.pieces '%' text) after := by
  induction text generalizing before after with
  | nil =>
      have pieces : Text.pieces '%' [] = [[]] := rfl
      rw [likeItems, List.map_nil, List.nil_append, runs_finish_iff, pieces]
      constructor
      · rintro rfl
        exact .last .nil
      · intro interleaved
        cases interleaved with
        | last same =>
            cases same
            rfl
        | more _ _ rest => cases rest
  | cons c rest ih =>
      by_cases percent : c = '%'
      · subst percent
        have items : likeItems ('%' :: rest) = .anyRun :: likeItems rest := rfl
        have pieces : Text.pieces '%' ('%' :: rest) = [] :: Text.pieces '%' rest := rfl
        rw [items, pieces, List.cons_append, runs_anyRun_iff,
          interleaved_nil_iff (Text.pieces_ne_nil '%' rest)]
        simp only [ih]
      · obtain ⟨piece, more, parts, pieces⟩ := pieces_cons_of_ne percent rest
        have items : likeItems (c :: rest) = .literal c :: likeItems rest := by
          simp [likeItems, percent]
        rw [items, pieces, List.cons_append, runs_literal_iff, interleaved_cons_iff, ← parts]
        simp only [ih]

theorem runs_literals_finish_iff {text before after : List Char} :
    Runs alike (text.map .literal ++ [.finish]) before after ↔ List.Forall₂ alike text after := by
  rw [runs_literals_iff]
  constructor
  · rintro ⟨found, tail, rfl, same, finish⟩
    obtain rfl := runs_finish_iff.1 finish
    simpa using same
  · intro same
    exact ⟨after, [], by simp, same, runs_finish_iff.2 rfl⟩

theorem runs_literals_anyRun_iff {text before after : List Char} :
    Runs alike (text.map .literal ++ [.anyRun, .finish]) before after ↔
      ∃ found back, after = found ++ back ∧ List.Forall₂ alike text found ∧ '\n' ∉ back := by
  rw [runs_literals_iff]
  constructor
  · rintro ⟨found, tail, rfl, same, last⟩
    obtain ⟨back, final, rfl, oneLine, finish⟩ := runs_anyRun_iff.1 last
    obtain rfl := runs_finish_iff.1 finish
    exact ⟨found, back, by simp, same, oneLine⟩
  · rintro ⟨found, back, rfl, same, oneLine⟩
    refine ⟨found, back, rfl, same, ?_⟩
    exact runs_anyRun_iff.2 ⟨back, [], by simp, oneLine, runs_finish_iff.2 rfl⟩

/-- Between the ends of a subject, the items of a text match run over what it asks
for. -/
theorem runs_bodyItems_iff {kind : TextMatch} {text subject : List Char} :
    Runs alike (bodyItems text kind ++ [.finish]) [] subject ↔ Asked alike text subject kind := by
  cases kind with
  | contains =>
      have items : bodyItems text .contains ++ [.finish] =
          .anyRun :: (text.map .literal ++ [.anyRun, .finish]) := by
        simp [bodyItems]
      rw [items, runs_anyRun_iff]
      constructor
      · rintro ⟨front, tail, rfl, oneLine, runs⟩
        obtain ⟨found, back, rfl, same, lastLine⟩ := runs_literals_anyRun_iff.1 runs
        exact ⟨front, found, back, by simp, same, oneLine, lastLine⟩
      · rintro ⟨front, found, back, rfl, same, oneLine, lastLine⟩
        refine ⟨front, found ++ back, by simp, oneLine, ?_⟩
        exact runs_literals_anyRun_iff.2 ⟨found, back, rfl, same, lastLine⟩
  | like => exact runs_likeItems_iff
  | startsWith =>
      have items : bodyItems text .startsWith ++ [.finish] =
          text.map .literal ++ [.anyRun, .finish] := by
        simp [bodyItems]
      rw [items]
      exact runs_literals_anyRun_iff
  | endsWith =>
      rw [bodyItems, List.cons_append, runs_anyRun_iff]
      constructor
      · rintro ⟨front, tail, rfl, oneLine, runs⟩
        exact ⟨front, tail, rfl, runs_literals_finish_iff.1 runs, oneLine⟩
      · rintro ⟨front, found, rfl, same, oneLine⟩
        exact ⟨front, found, rfl, oneLine, runs_literals_finish_iff.2 same⟩

end

/-- The pattern matches exactly the subjects that the text match asks for. -/
theorem regex_matches_iff (kind : TextMatch) (text : String) (fold : Setoid Char)
    (subject : String) :
    (regex kind text).Matches fold subject ↔
      Asked fold.r text.toList subject.toList kind := by
  have folded : 'i' ∈ (regex kind text).options.toList := by
    have options : (regex kind text).options = "i" := rfl
    rw [options]
    decide
  rw [Regex.Matches, if_pos folded, items?_regex]
  constructor
  · rintro ⟨items, before, after, read, split, anchored⟩
    obtain rfl := Option.some.inj read
    obtain ⟨rfl, runs⟩ := runs_start_iff.1 anchored
    rw [split, List.nil_append]
    exact runs_bodyItems_iff.1 runs
  · intro asked
    exact ⟨_, [], subject.toList, rfl, rfl, runs_start_iff.2 ⟨rfl, runs_bodyItems_iff.2 asked⟩⟩

end Pattern

/-! ## Text matches of a query -/

namespace Expression

/-- A text match is written as its regular expression, without a report. -/
theorem lowerField_textMatch (context : Context) (field : String) {key text : String}
    {operand : Value} {kind : TextMatch} (asked : Modifier.resolve key operand = .text kind)
    (shown : Pattern.Shown operand text) :
    lowerField context field (key, operand) =
      pure (regexKey, .regex (Pattern.regex kind text)) := by
  have known := Pattern.operandText?_of_shown shown
  have kept : Operand.ofValue (.text kind) operand = .value operand :=
    Operand.ofValue_of_ne (by simp) operand
  simp only [lowerField, asked, kept, lowerOperand, lowerValue, known]

/-- A lone text match stands bare. -/
theorem lower_textMatch (context : Context) (field : String) {key text : String}
    {operand : Value} {kind : TextMatch} (asked : Modifier.resolve key operand = .text kind)
    (shown : Pattern.Shown operand text) :
    lower context field (ofValue (.document [(key, operand)])) =
      pure (.regex (Pattern.regex kind text)) := by
  have known := Pattern.operandText?_of_shown shown
  have kept : Operand.ofValue (.text kind) operand = .value operand :=
    Operand.ofValue_of_ne (by simp) operand
  rw [ofValue, Operand.ofFields, Operand.ofFields, asked, kept]
  simp only [lower, lowerModifiers, lowerOperand, lowerValue, known]
  rfl

/-- A text match over an operand that is shown as a text is written as a regular
expression without regard to case, under its own key or, where nothing else is asked
of the field, alone. It matches the subjects that are asked for and no other. -/
theorem textMatch_matches_iff (context : Context) (field : String) {key text : String}
    {operand : Value} {kind : TextMatch} (asked : Modifier.resolve key operand = .text kind)
    (shown : Pattern.Shown operand text) :
    ∃ regex : Regex,
      lowerField context field (key, operand) = pure (regexKey, .regex regex) ∧
        lower context field (ofValue (.document [(key, operand)])) = pure (.regex regex) ∧
        regex.options = "i" ∧
        ∀ (fold : Setoid Char) (subject : String),
          regex.Matches fold subject ↔
            Pattern.Asked fold.r text.toList subject.toList kind := by
  have written := lowerField_textMatch context field asked shown
  have alone := lower_textMatch context field asked shown
  exact ⟨Pattern.regex kind text, written, alone, rfl, Pattern.regex_matches_iff kind text⟩

/-- A text with an escaped metacharacter of its own in front of a wildcard, and a
number. -/
theorem textMatch_matches_iff_of_hostile_text :
    let context : Context := ⟨Schema.empty, {}⟩
    let like : Regex := ⟨"^a\\\\.*\\.\\*$", "i"⟩
    let front : Regex := ⟨"^\\-15.*$", "i"⟩
    (lower context "name" (ofValue (.document [("LIKE", .string "a\\%.*")])) =
          pure (.regex like) ∧
        ∀ (fold : Setoid Char) (subject : String), like.Matches fold subject ↔
          Pattern.Interleaved fold.r [['a', '\\'], ['.', '*']] subject.toList) ∧
      lower context "age" (ofValue (.document [("startsWith", .int32 (-15))])) =
          pure (.regex front) ∧
        ∀ (fold : Setoid Char) (subject : String), front.Matches fold subject ↔
          Pattern.Asked fold.r ['-', '1', '5'] subject.toList .startsWith := by
  intro context like front
  have asksLike : Modifier.resolve "LIKE" (.string "a\\%.*") = .text .like := rfl
  have asksFront : Modifier.resolve "startsWith" (.int32 (-15)) = .text .startsWith := rfl
  obtain ⟨first, -, firstAlone, -, firstMatches⟩ :=
    textMatch_matches_iff context "name" asksLike (.string "a\\%.*")
  obtain ⟨second, -, secondAlone, -, secondMatches⟩ :=
    textMatch_matches_iff context "age" asksFront (.int32 (-15))
  have firstWritten : lower context "name"
      (ofValue (.document [("LIKE", .string "a\\%.*")])) = pure (.regex like) := rfl
  have secondWritten : lower context "age"
      (ofValue (.document [("startsWith", .int32 (-15))])) = pure (.regex front) := rfl
  obtain rfl : first = like :=
    Value.regex.inj (congrArg Reported.value (firstAlone.symm.trans firstWritten))
  obtain rfl : second = front :=
    Value.regex.inj (congrArg Reported.value (secondAlone.symm.trans secondWritten))
  exact ⟨⟨firstWritten, firstMatches⟩, secondWritten, secondMatches⟩

end Expression

end Criteria
