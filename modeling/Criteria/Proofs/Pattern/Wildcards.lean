import Criteria.Proofs.Pattern.Matching

/-!
# Text matches as wildcards

A text match is the match under `like` of its text with a `%` at every open end, as long
as the text has no `%` of its own. Under `like` such a `%` becomes a run, and no other
text match writes an unescaped run in the middle of its pattern. The pattern of a text
match tells its text.
-/

namespace Criteria

namespace Pattern

/-! ## What is written for a `%` -/

theorem escape_append (first second : List Char) :
    escape (first ++ second) = escape first ++ escape second :=
  List.flatMap_append

theorem wildcards_append (first second : List Char) :
    wildcards (first ++ second) = wildcards first ++ wildcards second :=
  List.flatMap_append

theorem percent_mem_escape_iff {text : List Char} : '%' ∈ escape text ↔ '%' ∈ text := by
  have plain : escapeChar '%' = ['%'] := by decide
  constructor
  · intro member
    obtain ⟨c, inside, written⟩ := List.mem_flatMap.1 member
    by_cases percent : c = '%'
    · exact percent ▸ inside
    · -- no other character brings a percent sign with it
      have absent : '%' ∉ escapeChar c := by
        unfold escapeChar
        split <;> simp [Ne.symm percent]
      exact absurd written absent
  · intro member
    refine List.mem_flatMap.2 ⟨'%', member, ?_⟩
    rw [plain]
    exact List.mem_singleton_self _

theorem percent_not_mem_wildcards (pattern : List Char) : '%' ∉ wildcards pattern := by
  intro member
  obtain ⟨c, -, written⟩ := List.mem_flatMap.1 member
  by_cases percent : c = '%'
  · rw [if_pos percent] at written
    exact absurd written (by decide)
  · rw [if_neg percent, List.mem_singleton] at written
    exact percent written.symm

/-- Only a pattern without `%` is kept. -/
theorem wildcards_eq_self_iff {pattern : List Char} :
    wildcards pattern = pattern ↔ '%' ∉ pattern := by
  constructor
  · intro kept
    rw [← kept]
    exact percent_not_mem_wildcards pattern
  · intro absent
    have single : ∀ c ∈ pattern, (if c = '%' then anyRun else [c]) = [c] := by
      intro c member
      exact if_neg fun percent : c = '%' => absent (percent ▸ member)
    rw [wildcards, List.flatMap_congr single, List.flatMap_singleton']

/-! ## Open ends -/

/-- A text between what a text match has at its open ends. -/
def opened (kind : TextMatch) (mark text : List Char) : List Char :=
  match kind with
  | .contains => mark ++ text ++ mark
  | .like => text
  | .startsWith => text ++ mark
  | .endsWith => mark ++ text

theorem opened_injective (kind : TextMatch) (mark : List Char) :
    Function.Injective (opened kind mark) := by
  intro first second same
  cases kind with
  | contains => exact List.append_cancel_left (List.append_cancel_right same)
  | like => exact same
  | startsWith => exact List.append_cancel_right same
  | endsWith => exact List.append_cancel_left same

/-- Other text matches than `like` open their pattern with runs. -/
theorem body_eq_opened {kind : TextMatch} (other : kind ≠ .like) (text : List Char) :
    body kind text = opened kind anyRun (escape text) := by
  cases kind with
  | like => exact absurd rfl other
  | _ => rfl

/-- Under `like`, a `%` at an open end is a run there. -/
theorem body_like_opened (kind : TextMatch) (text : List Char) :
    body .like (opened kind ['%'] text) = opened kind anyRun (wildcards (escape text)) := by
  have run : wildcards (escape ['%']) = anyRun := by decide
  cases kind <;> simp only [body, opened, escape_append, wildcards_append, run]

theorem body_eq_body_like_iff {kind : TextMatch} (other : kind ≠ .like) {text : List Char} :
    body kind text = body .like (opened kind ['%'] text) ↔ '%' ∉ text := by
  rw [body_eq_opened other, body_like_opened, (opened_injective kind anyRun).eq_iff,
    eq_comm, wildcards_eq_self_iff, percent_mem_escape_iff]

/-! ## Patterns and their texts -/

theorem pattern_regex (kind : TextMatch) (text : String) :
    (regex kind text).pattern.toList = '^' :: body kind text.toList ++ ['$'] :=
  String.toList_ofList

/-- The anchors and the option are the same for all text matches. -/
theorem regex_eq_iff {kind other : TextMatch} {text more : String} :
    regex kind text = regex other more ↔ body kind text.toList = body other more.toList := by
  constructor
  · intro same
    have patterns := congrArg (fun r => r.pattern.toList) same
    simp only [pattern_regex] at patterns
    exact List.cons.inj (List.append_cancel_right patterns) |>.2
  · intro same
    rw [regex, regex, same]

/-- Runs and characters show the text that they come from. -/
theorem likeItems_injective : Function.Injective likeItems := by
  refine List.map_injective_iff.2 fun first second same => ?_
  by_cases firstPercent : first = '%' <;> by_cases secondPercent : second = '%' <;>
    simp_all

theorem bodyItems_injective (kind : TextMatch) :
    Function.Injective fun text => bodyItems text kind := by
  have literals : Function.Injective (List.map Item.literal) :=
    List.map_injective_iff.2 fun _ _ => Item.literal.inj
  intro first second same
  cases kind with
  | contains => exact literals (List.cons.inj (List.append_cancel_right same)).2
  | like => exact likeItems_injective same
  | startsWith => exact literals (List.append_cancel_right same)
  | endsWith => exact literals (List.cons.inj same).2

/-- The items that a store reads off a pattern tell the text that it is written for. -/
theorem regex_injective (kind : TextMatch) : Function.Injective (regex kind) := by
  intro first second same
  have read := congrArg (fun r => items? r.pattern.toList) same
  simp only [items?_regex, Option.some.injEq, List.cons.injEq, true_and] at read
  exact String.toList_inj.1 (bodyItems_injective kind (List.append_cancel_right read))

end Pattern

/-! ## Text matches of a query -/

namespace Expression

theorem resolve_textMatch {key : String} {kind : TextMatch}
    (spelled : Text.lowercase key = Text.lowercase kind.key) (text : String) :
    Modifier.resolve key (.string text) = .text kind := by
  have known : Modifier.ofLowercase? (Text.lowercase kind.key) = some (.text kind) := by
    cases kind <;> decide
  rw [Modifier.resolve, spelled, known]
  cases kind <;> rfl

/-- Whatever the case of the keys, a text without `%` is matched as `like` matches it with
a `%` at every open end, and a text with `%` is not. Other texts have other patterns. -/
theorem textMatch_eq_like_iff (context : Context) (field : String) {key : TextMatch → String}
    (spelled : ∀ kind, Text.lowercase (key kind) = Text.lowercase kind.key) :
    let translate (kind : TextMatch) (text : String) : Reported Value :=
      lower context field (ofValue (.document [(key kind, .string text)]))
    ∃ pattern : TextMatch → String → String,
      (∀ kind text, translate kind text = pure (.regex ⟨pattern kind text, "i"⟩)) ∧
        (∀ text : String,
          ((translate .contains text).value = (translate .like ("%" ++ text ++ "%")).value ↔
              '%' ∉ text.toList) ∧
            ((translate .startsWith text).value = (translate .like (text ++ "%")).value ↔
              '%' ∉ text.toList) ∧
            ((translate .endsWith text).value = (translate .like ("%" ++ text)).value ↔
              '%' ∉ text.toList)) ∧
        ∀ kind, Function.Injective (pattern kind) := by
  intro translate
  have written (kind : TextMatch) (text : String) :
      translate kind text = pure (.regex (Pattern.regex kind text)) :=
    lower_textMatch context field (resolve_textMatch (spelled kind) text) (.string text)
  have like_iff {kind : TextMatch} (other : kind ≠ .like) {text wrapped : String}
      (ends : wrapped.toList = Pattern.opened kind ['%'] text.toList) :
      (translate kind text).value = (translate .like wrapped).value ↔ '%' ∉ text.toList := by
    rw [written, written, Reported.value_pure, Reported.value_pure, Value.regex.injEq,
      Pattern.regex_eq_iff, ends, Pattern.body_eq_body_like_iff other]
  refine ⟨fun kind text => (Pattern.regex kind text).pattern, written, fun text => ?_, ?_⟩
  · refine ⟨like_iff (by decide) ?_, like_iff (by decide) ?_, like_iff (by decide) ?_⟩
    · rw [String.toList_append, String.toList_append]
      rfl
    · rw [String.toList_append]
      rfl
    · rw [String.toList_append]
      rfl
  · intro kind first second same
    refine Pattern.regex_injective kind ?_
    rw [Regex.mk.injEq]
    exact ⟨same, rfl⟩

/-- A text full of metacharacters, once without and once with a percent sign. -/
theorem textMatch_eq_like_iff_of_metacharacters :
    let context : Context := ⟨Schema.ofList [("name", .integer)], {}⟩
    let key : TextMatch → String
      | .contains => "CONTAINS"
      | .like => "Like"
      | .startsWith => "startswith"
      | .endsWith => "endsWith"
    let translate (kind : TextMatch) (text : String) : Reported Value :=
      lower context "name" (ofValue (.document [(key kind, .string text)]))
    (∀ kind, Text.lowercase (key kind) = Text.lowercase kind.key) ∧
      (translate .contains "\\.*").value = (translate .like "%\\.*%").value ∧
      (translate .contains "\\%.*").value ≠ (translate .like "%\\%.*%").value ∧
      (translate .startsWith "$").value = (translate .like "$%").value ∧
      (translate .endsWith "%").value ≠ (translate .like "%%").value ∧
      (translate .like "%").value ≠ (translate .like ".*").value := by
  intro context key translate
  have spelled (kind : TextMatch) : Text.lowercase (key kind) = Text.lowercase kind.key := by
    cases kind <;> decide
  obtain ⟨pattern, written, like, injective⟩ := textMatch_eq_like_iff context "name" spelled
  refine ⟨spelled, (like _).1.2 (by decide), ?_, (like _).2.1.2 (by decide), ?_, ?_⟩
  · exact fun same => (like _).1.1 same (by decide)
  · exact fun same => (like _).2.2.1 same (by decide)
  · intro same
    have percent := congrArg Reported.value (written .like "%")
    have run := congrArg Reported.value (written .like ".*")
    have values : Value.regex ⟨pattern .like "%", "i"⟩ = .regex ⟨pattern .like ".*", "i"⟩ :=
      percent.symm.trans (same.trans run)
    have patterns : pattern .like "%" = pattern .like ".*" :=
      (Regex.mk.inj (Value.regex.inj values)).1
    exact absurd (injective .like patterns) (by decide)

end Expression

end Criteria
